import Mathlib.Data.Int.Notation
import Mathlib.Data.List.TakeDrop
import Tkdchb.Lib.Text

/-!
# Requests and responses

The data a web handler returns, and the two standard functions handlers apply to
URLs: splitting off the scheme and the network location, and encoding a query.

## Main definitions

* `Web.Json`, `Web.Response` — what a handler answers
* `Web.urlparse` — the scheme and the network location of a URL
* `Web.urlencode` — a query string from parameters

## Main results

* `Web.urlparse_append_query` — a query does not change the host of a URL
-/

namespace Web

/-- A JSON value. -/
inductive Json where
  | null
  | bool (b : Bool)
  | num (n : ℤ)
  | str (s : String)
  | arr (xs : List Json)
  | obj (fields : List (String × Json))

/-- What a handler answers. -/
inductive Response where
  | json (status : ℕ) (body : List (String × Json))
  | redirect (url : String)
  | text (status : ℕ) (body : String)

instance : Inhabited Response := ⟨.text 200 ""⟩

/-- The JSON value of an optional text. -/
def Json.ofText? : Option String → Json
  | none => .null
  | some s => .str s

/-! ### URLs -/

/-- The scheme and the network location of a URL. -/
structure ParseResult where
  scheme : String
  netloc : String
  deriving DecidableEq, Repr

/-- The characters of a URL scheme. -/
def isSchemeChar (c : Char) : Bool :=
  c.isAlphanum || c == '+' || c == '-' || c == '.'

/-- Split off `scheme:`. Without a valid scheme the text is kept whole. -/
def splitScheme (url : List Char) : List Char × List Char :=
  match url.span (· != ':') with
  | (c :: cs, _ :: rest) =>
    if c.isAlpha && (c :: cs).all isSchemeChar then ((c :: cs).map Char.toLower, rest)
    else ([], url)
  | _ => ([], url)

/-- `urllib.parse.urlparse`, as far as the network location. Unbalanced brackets in
the location are a `ValueError`, which is `none`. -/
def urlparse (url : String) : Option ParseResult :=
  let cleaned := (url.toList.dropWhile fun c => c.toNat ≤ 0x20).filter fun c =>
    c != '\t' && c != '\r' && c != '\n'
  let (scheme, rest) := splitScheme cleaned
  let netloc := match rest with
    | '/' :: '/' :: rest => rest.takeWhile fun c => c != '/' && c != '?' && c != '#'
    | _ => []
  if netloc.contains '[' == netloc.contains ']' then
    some ⟨String.ofList scheme, String.ofList netloc⟩
  else none

/-! ### Queries -/

/-- The character of a hexadecimal digit. -/
def hexDigit (n : ℕ) : Char := "0123456789ABCDEF".toList.getD n '0'

/-- `urllib.parse.quote_plus` -/
def quotePlus (s : String) : String :=
  String.join (s.toUTF8.data.toList.map fun byte =>
    let c := Char.ofNat byte.toNat
    if byte.toNat < 0x80 && (c.isAlphanum || c == '_' || c == '.' || c == '-' || c == '~') then
      c.toString
    else if c == ' ' then "+"
    else String.ofList ['%', hexDigit (byte.toNat / 16), hexDigit (byte.toNat % 16)])

/-- `urllib.parse.urlencode` -/
def urlencode (params : List (String × String)) : String :=
  "&".intercalate (params.map fun p => quotePlus p.1 ++ "=" ++ quotePlus p.2)

/-- `sep = "&" if "?" in url else "?"` -/
def querySep (url : String) : String := if url.toList.contains '?' then "&" else "?"

/-! ### Where a URL leads -/

/-- The characters `urlparse` works on. -/
def cleaned (url : List Char) : List Char :=
  (url.dropWhile fun c => c.toNat ≤ 0x20).filter fun c => c != '\t' && c != '\r' && c != '\n'

/-- The network location after a scheme. -/
def netlocOf : List Char → List Char
  | '/' :: '/' :: rest => rest.takeWhile fun c => c != '/' && c != '?' && c != '#'
  | _ => []

theorem urlparse_eq_some_iff {url : String} {u : ParseResult} :
    urlparse url = some u ↔
      (netlocOf (splitScheme (cleaned url.toList)).2).contains '[' =
        (netlocOf (splitScheme (cleaned url.toList)).2).contains ']' ∧
      u = ⟨String.ofList (splitScheme (cleaned url.toList)).1,
        String.ofList (netlocOf (splitScheme (cleaned url.toList)).2)⟩ := by
  have heq : urlparse url =
      if (netlocOf (splitScheme (cleaned url.toList)).2).contains '[' ==
          (netlocOf (splitScheme (cleaned url.toList)).2).contains ']' then
        some ⟨String.ofList (splitScheme (cleaned url.toList)).1,
          String.ofList (netlocOf (splitScheme (cleaned url.toList)).2)⟩
      else none := rfl
  rw [heq]
  split_ifs with hbrackets
  · rw [Option.some.injEq, eq_comm, and_iff_right (beq_iff_eq.mp hbrackets)]
  · simp only [false_iff, not_and]
    exact fun h => absurd (beq_iff_eq.mpr h) hbrackets

/-- A scheme that is there is found again in front of anything. -/
theorem splitScheme_append {url scheme rest : List Char} (h : splitScheme url = (scheme, rest))
    (hne : scheme ≠ []) (tail : List Char) :
    splitScheme (url ++ tail) = (scheme, rest ++ tail) ∧
      ∀ c ∈ url, c = ':' ∨ isSchemeChar c = true ∨ c ∈ rest := by
  unfold splitScheme at h ⊢
  rw [List.span_eq_takeWhile_dropWhile] at h ⊢
  rw [List.takeWhile_append, List.dropWhile_append]
  have hsplit := List.takeWhile_append_dropWhile (p := (· != ':')) (l := url)
  cases hfront : url.takeWhile (· != ':') with
  | nil =>
    simp only [hfront] at h
    cases h
    exact absurd rfl hne
  | cons c cs =>
    cases hback : url.dropWhile (· != ':') with
    | nil =>
      simp only [hfront, hback] at h
      cases h
      exact absurd rfl hne
    | cons colon rest' =>
      simp only [hfront, hback] at h
      split_ifs at h with hvalid
      · cases h
        rw [hfront, hback] at hsplit
        -- the colon is inside `url`, so nothing of the tail is looked at
        have hlen : (c :: cs).length ≠ url.length := by
          simp only [← hsplit, List.length_append, List.length_cons]
          omega
        have hcolon : colon = ':' := by
          have := List.head_dropWhile_not (p := (· != ':')) (l := url) (by simp [hback])
          simpa [hback] using this
        refine ⟨?_, fun x hx => ?_⟩
        · rw [if_neg hlen]
          simp only [List.isEmpty_cons, Bool.false_eq_true, if_false, List.cons_append, hvalid,
            if_true]
        · rw [← hsplit] at hx
          rcases List.mem_append.mp hx with hx | hx
          · exact Or.inr (Or.inl (List.all_eq_true.mp (Bool.and_eq_true_iff.mp hvalid).2 x hx))
          · rcases List.mem_cons.mp hx with rfl | hx
            · exact Or.inl hcolon
            · exact Or.inr (Or.inr hx)
      · cases h
        exact absurd rfl hne

/-- A location that is there ends where a query starts. -/
theorem netlocOf_append {rest tail : List Char} (hne : netlocOf rest ≠ [])
    (hend : tail.head? = some '?' ∨ '?' ∈ rest) : netlocOf (rest ++ tail) = netlocOf rest := by
  unfold netlocOf at hne ⊢
  split at hne
  · next path =>
    simp only [List.cons_append]
    rw [List.takeWhile_append]
    split_ifs with hall
    · -- the whole of `path` is the location, so the query starts right after it
      have hpath := List.takeWhile_eq_self_iff.mp
        ((List.takeWhile_prefix _).eq_of_length hall)
      rcases hend with hhead | hmem
      · obtain ⟨tail, rfl⟩ := List.head?_eq_some_iff.mp hhead
        simp [List.takeWhile_eq_self_iff.mpr hpath]
      · simp only [List.mem_cons, Char.reduceEq, false_or] at hmem
        have := hpath '?' hmem
        simp at this
    · rfl
  · exact absurd rfl hne

/-- A tail is cleaned on its own behind a text that is not blank. -/
theorem cleaned_append {url tail : List Char} (hne : cleaned url ≠ []) :
    cleaned (url ++ tail) =
      cleaned url ++ tail.filter fun c => c != '\t' && c != '\r' && c != '\n' := by
  unfold cleaned at hne ⊢
  rw [List.dropWhile_append]
  split_ifs with hblank
  · rw [List.isEmpty_iff.mp hblank] at hne
    exact absurd rfl hne
  · rw [List.filter_append]

/-- Cleaning keeps question marks. -/
theorem mem_cleaned {url : List Char} (h : '?' ∈ url) : '?' ∈ cleaned url := by
  unfold cleaned
  refine List.mem_filter.mpr ⟨?_, by decide⟩
  rw [← List.takeWhile_append_dropWhile (p := fun c : Char => decide (c.toNat ≤ 0x20)) (l := url)]
    at h
  rcases List.mem_append.mp h with h | h
  · have hlow := List.mem_takeWhile_imp h
    simp at hlow
  · exact h

/-- **A query does not change where a URL leads.** -/
theorem urlparse_append_query {url sep : String} {u : ParseResult}
    (h : urlparse url = some u) (hscheme : u.scheme ≠ "") (hnetloc : u.netloc ≠ "")
    (hsep : sep = "?" ∨ sep = querySep url) (params : String) :
    urlparse (url ++ sep ++ params) = some u := by
  obtain ⟨hbrackets, hu⟩ := urlparse_eq_some_iff.mp h
  rcases hx : splitScheme (cleaned url.toList) with ⟨scheme, rest⟩
  rw [hx] at hbrackets hu
  subst hu
  have hscheme' : scheme ≠ [] := fun hnil => hscheme (by rw [hnil])
  have hnetloc' : netlocOf rest ≠ [] := fun hnil => hnetloc (by rw [hnil])
  have hblank : cleaned url.toList ≠ [] := by
    intro hnil
    rw [hnil] at hx
    cases hx
    exact hscheme' rfl
  rw [urlparse_eq_some_iff, String.append_assoc, String.toList_append, cleaned_append hblank]
  generalize htail : (sep ++ params).toList.filter _ = tail
  obtain ⟨hsplit, hchars⟩ := splitScheme_append hx hscheme' tail
  -- the location ends inside the URL, or at the question mark in front of the parameters
  have hend : tail.head? = some '?' ∨ '?' ∈ rest := by
    by_cases hmark : '?' ∈ url.toList
    · rcases hchars '?' (mem_cleaned hmark) with h | h | h
      · cases h
      · cases h
      · exact Or.inr h
    · have hquestion : sep = "?" := by
        rcases hsep with rfl | rfl
        · rfl
        · rw [querySep, if_neg (by simpa using hmark)]
      subst hquestion
      rw [← htail, String.toList_append]
      exact Or.inl rfl
  rw [hsplit, netlocOf_append hnetloc' hend]
  exact ⟨hbrackets, rfl⟩

end Web
