import Mathlib.Logic.Function.Basic
import Tkdchb.Common.Urls
import Tkdchb.Competitions.Records
import Tkdchb.Lib.Table
import Tkdchb.Lib.Transition

/-!
# Public ids and the pages of a competition

Each competition gets a random public id, which makes up the paths of its pages. The views of
these pages do not look the key up in one way: some take digits for a primary key first, some
take them for nothing else, some search both kinds of competitions, and some ask for a column
that the poomsae competitions do not have.

## Main definitions

* `PublicIds.save` — the public id under which a new row is stored
* `PublicIds.step` — competitions come and go
* `PublicIds.Lookup.find` — what each kind of view looks up
* `PublicIds.opened` — the page that a path leads to, and the competition it shows
* `PublicIds.Lookup.Leads` — when the page of a competition shows it

## Main results

* `PublicIds.unique_run` — no two competitions of a kind ever share a public id
* `PublicIds.opened_iff` — which pages of a competition show it
* `PublicIds.opened_error_iff` — which paths of the pages end in an error of the server
-/

namespace Tkdchb.PublicIds

open Routes Transition Urls

/-! ### Public ids -/

/-- `string.ascii_lowercase + string.digits` -/
def alphabet : List Char :=
  ['a', 'b', 'c', 'd', 'e', 'f', 'g', 'h', 'i', 'j', 'k', 'l', 'm', 'n', 'o', 'p', 'q', 'r', 's',
   't', 'u', 'v', 'w', 'x', 'y', 'z', '0', '1', '2', '3', '4', '5', '6', '7', '8', '9']

/-- What `_gen_public_id(10)` can give. -/
structure PublicId where
  chars : List Char
  length_eq : chars.length = 10
  all_alphabet : chars.all (fun c => alphabet.contains c) = true
  deriving DecidableEq

def PublicId.text (p : PublicId) : String := String.ofList p.chars

/-- The number that `int` makes of a public id of digits. -/
def PublicId.number? (p : PublicId) : Option ℕ :=
  if p.chars.all Text.isDigit then some (Text.intOfDigits p.chars) else none

inductive Kind where
  | kyorugi
  | poomsae
  deriving DecidableEq, Repr

/-- The stored competitions of each kind, by primary key, with their public ids. -/
abbrev Site := Kind → Table PublicId

def nothing : Site := fun _ => .empty

/-- Another row has the public id, so that the database refuses the insert. -/
def taken (t : Table PublicId) (p : PublicId) : Bool := (t.oldest fun q => q = p).isSome

/-- `save`: the public id of the new row, with that many attempts and the random ids that are
drawn on the way; `none` is the `IntegrityError` at the end. -/
def save (t : Table PublicId) : ℕ → (ℕ → PublicId) → Option PublicId
  | 0, _ => none
  | attempts + 1, draws =>
    if taken t (draws 0) then save t attempts fun i => draws (i + 1) else some (draws 0)

/-- `attempts = 5` and `attempts = 4` -/
def attempts : Kind → ℕ
  | .kyorugi => 5
  | .poomsae => 4

/-- The table after a new competition was saved, for which the database has a key. -/
def create (n pk : ℕ) (draws : ℕ → PublicId) (t : Table PublicId) : Table PublicId :=
  match t.get pk, save t n draws with
  | none, some p => t.put pk p
  | _, _ => t

inductive Action where
  | create (kind : Kind) (pk : ℕ) (draws : ℕ → PublicId)
  | delete (kind : Kind) (pk : ℕ)

def step : Action → Site → Site
  | .create kind pk draws, site =>
    Function.update site kind (create (attempts kind) pk draws (site kind))
  | .delete kind pk, site => Function.update site kind ((site kind).erase pk)

/-- No two competitions of a kind share a public id. -/
def Unique (site : Site) : Prop :=
  ∀ kind k k' p, (site kind).get k = some p → (site kind).get k' = some p → k = k'

section Unique

variable {t : Table PublicId} {p : PublicId} {kind : Kind} {pk : ℕ} {site : Site}

theorem taken_eq_false_iff : taken t p = false ↔ ∀ k, t.get k ≠ some p := by
  rw [taken, Option.isSome_eq_false_iff, Option.isNone_iff_eq_none, Table.oldest_eq_none_iff]
  constructor
  · intro h k hk
    exact of_decide_eq_false (h k p hk) rfl
  · intro h k q hq
    refine decide_eq_false fun heq => ?_
    rw [heq] at hq
    exact h k hq

/-- What is stored was not taken. -/
theorem taken_of_save {n : ℕ} {draws : ℕ → PublicId} (h : save t n draws = some p) :
    taken t p = false := by
  induction n generalizing draws with
  | zero => cases h
  | succ n ih =>
    rw [save] at h
    split_ifs at h with htaken
    · exact ih h
    · rw [← Option.some.inj h]
      exact Bool.eq_false_iff.mpr htaken

/-- A new row has a public id that no other row has. -/
theorem create_cases (n pk : ℕ) (draws : ℕ → PublicId) (t : Table PublicId) :
    create n pk draws t = t ∨ ∃ p, (∀ k, t.get k ≠ some p) ∧ create n pk draws t = t.put pk p := by
  rw [create]
  cases hget : t.get pk with
  | some q => exact Or.inl rfl
  | none =>
    cases hsave : save t n draws with
    | none => exact Or.inl rfl
    | some p => exact Or.inr ⟨p, taken_eq_false_iff.mp (taken_of_save hsave), rfl⟩

/-- What an action makes of the rows of a kind: nothing, one row more with a public id that no
other has, or one row less. -/
theorem step_cases (a : Action) (site : Site) (kind : Kind) :
    step a site kind = site kind ∨
      (∃ pk p, (∀ k, (site kind).get k ≠ some p) ∧ step a site kind = (site kind).put pk p) ∨
      ∃ pk, step a site kind = (site kind).erase pk := by
  cases a with
  | create kind' pk draws =>
    rw [step]
    by_cases hkind : kind = kind'
    · subst hkind
      rw [Function.update_self]
      rcases create_cases (attempts kind) pk draws (site kind) with heq | ⟨p, hfree, heq⟩
      · exact Or.inl heq
      · exact Or.inr (Or.inl ⟨pk, p, hfree, heq⟩)
    · exact Or.inl (Function.update_of_ne hkind _ _)
  | delete kind' pk =>
    rw [step]
    by_cases hkind : kind = kind'
    · subst hkind
      exact Or.inr (Or.inr ⟨pk, Function.update_self _ _ _⟩)
    · exact Or.inl (Function.update_of_ne hkind _ _)

theorem unique_step (a : Action) (site : Site) (h : Unique site) : Unique (step a site) := by
  intro kind k k' p hk hk'
  rcases step_cases a site kind with heq | ⟨pk, q, hfree, heq⟩ | ⟨pk, heq⟩
  · rw [heq] at hk hk'
    exact h kind k k' p hk hk'
  · rw [heq, Table.get_put] at hk hk'
    split_ifs at hk hk' with hpk hpk' hpk'
    · rw [hpk, hpk']
    · rw [← Option.some.inj hk] at hk'
      exact absurd hk' (hfree k')
    · rw [← Option.some.inj hk'] at hk
      exact absurd hk (hfree k)
    · exact h kind k k' p hk hk'
  · rw [heq] at hk hk'
    exact h kind k k' p (Table.get_of_get_erase hk) (Table.get_of_get_erase hk')

theorem unique_nothing : Unique nothing := fun _ _ _ _ hk _ => by cases hk

/-- **No two competitions of a kind ever share a public id.** -/
theorem unique_run (actions : List Action) : Unique (run step nothing actions) :=
  run_invariant unique_step unique_nothing actions

end Unique

/-! ### Looking a key up -/

/-- How the database compares a public id with a key, in `public_id=key` and
`public_id__iexact=key`: two public ids are the same to it only if they are. -/
structure Collation where
  exact : String → String → Bool
  iexact : String → String → Bool
  exact_iff : ∀ p q : PublicId, exact p.text q.text = true ↔ p = q
  iexact_iff : ∀ p q : PublicId, iexact p.text q.text = true ↔ p = q

inductive Failure where
  | http404
  | valueError
  | fieldError
  deriving DecidableEq, Repr

/-- A competition, or an exception. -/
abbrev Found := Except Failure (Kind × ℕ)

section Lookups

variable (db : Collation) (site : Site)

/-- `filter(id=int(s)).first()` -/
def byId (kind : Kind) (s : String) : Except Failure (Option (Kind × ℕ)) :=
  match Text.int? s with
  | none => .error .valueError
  | some n => .ok (if 0 ≤ n ∧ ((site kind).get n.toNat).isSome then some (kind, n.toNat) else none)

/-- `filter(public_id=s).first()` -/
def byPublicId (same : String → String → Bool) (kind : Kind) (s : String) : Option (Kind × ℕ) :=
  ((site kind).oldest fun p => same p.text s).map fun (pk, _) => (kind, pk)

def orRaise (failure : Failure) : Option (Kind × ℕ) → Found
  | some found => .ok found
  | none => .error failure

/-- The competition that digits number, else the one with the public id. -/
def byIdThenPublicId (kind : Kind) (failure : Failure) (s : String) : Found :=
  match if Text.allDigits s then byId site kind s else .ok none with
  | .error e => .error e
  | .ok (some found) => .ok found
  | .ok none => orRaise failure (byPublicId site db.iexact kind s)

/-- `_get_comp_by_key` -/
def getCompByKey (key : String) : Found :=
  byIdThenPublicId db site .kyorugi .http404 (Text.strip key)

/-- `_get_comp_by_key_any`; the error of the filter by `slug` is caught. -/
def getCompByKeyAny (key : String) : Found :=
  match getCompByKey db site key with
  | .error .http404 => byIdThenPublicId db site .poomsae .http404 (Text.strip key)
  | found => found

/-- `PoomsaeRegisterSelfView._get_comp_by_key`; there is no column `slug` to filter by. -/
def registerSelfComp (key : String) : Found :=
  byIdThenPublicId db site .poomsae .fieldError (Text.strip key)

/-- The lookup in `PoomsaeCompetitionDetailView` and `MyPoomsaeEnrollmentsView`. -/
def poomsaeDetailComp (key : String) : Found :=
  let s := Text.strip key
  if Text.allDigits s then
    match byId site .poomsae s with
    | .error e => .error e
    | .ok found => orRaise .http404 found
  else orRaise .fieldError (byPublicId site db.iexact .poomsae s)

/-- The lookup in the two views of the coach's approval. -/
def poomsaeApprovalComp (key : String) : Found :=
  orRaise .http404 (byPublicId site db.exact .poomsae key)

/-- The lookup in `PoomsaeCoachStudentsEligibleListView`. -/
def poomsaeStudentsComp (key : String) : Found :=
  orRaise .http404 (byPublicId site db.iexact .poomsae (Text.strip key))

end Lookups

/-- The lookups of the views. -/
inductive Lookup where
  | kyorugi
  | any
  | registerSelf
  | poomsaeDetail
  | poomsaeApproval
  | poomsaeStudents
  deriving DecidableEq, Repr

def Lookup.find (db : Collation) (site : Site) : Lookup → String → Found
  | .kyorugi => getCompByKey db site
  | .any => getCompByKeyAny db site
  | .registerSelf => registerSelfComp db site
  | .poomsaeDetail => poomsaeDetailComp db site
  | .poomsaeApproval => poomsaeApprovalComp db site
  | .poomsaeStudents => poomsaeStudentsComp db site

/-- What the view of each route looks up. -/
def lookups : List (String × Lookup) :=
  [("kyorugi-detail", .kyorugi),
   ("kyorugi-terms", .any),
   ("kyorugi-bracket", .kyorugi),
   ("kyorugi-results", .kyorugi),
   ("kyorugi-results-compat", .kyorugi),
   ("detail-by-public", .any),
   ("terms-by-public", .any),
   ("bracket-by-public", .kyorugi),
   ("results-by-public", .kyorugi),
   ("prefill", .kyorugi),
   ("register-self", .kyorugi),
   ("coach-approval-status", .any),
   ("coach-approval-approve", .any),
   ("my-enrollment", .kyorugi),
   ("coach-eligible-students", .kyorugi),
   ("coach-register-students", .kyorugi),
   ("register-students-bulk-alias", .kyorugi),
   ("terms-generic", .any),
   ("kyorugi-terms-compat", .any),
   ("poomsae-detail", .poomsaeDetail),
   ("poomsae-detail-compat", .poomsaeDetail),
   ("poomsae-coach-approval-status", .poomsaeApproval),
   ("poomsae-coach-approval-approve", .poomsaeApproval),
   ("poomsae-register-self", .registerSelf),
   ("poomsae-my-enrollments", .poomsaeDetail),
   ("competition-detail-any", .any),
   ("competition-detail-any-compat", .any),
   ("poomsae-coach-eligible-students", .poomsaeStudents)]

/-- The lookup of the page's view. -/
def lookup? (page : Page) : Option Lookup :=
  if page.application = "competitions" then lookups.lookup page.name else none

/-- The page that a path leads to, and what its view looks up under the key. -/
def opened (db : Collation) (site : Site) (path : List Char) : Option (Page × Found) :=
  (dispatch path).bind fun (page, kwargs) =>
    (lookup? page).bind fun lookup =>
      kwargs.head?.map fun (_, key) => (page, lookup.find db site (String.ofList key))

/-! ### The key is a public id -/

section Text

variable (p : PublicId)

theorem PublicId.chars_ne_nil : p.chars ≠ [] := by
  intro hnil
  have hlength := p.length_eq
  rw [hnil] at hlength
  cases hlength

@[simp] theorem PublicId.toList_text : p.text.toList = p.chars := String.toList_ofList

theorem PublicId.forall_of_alphabet {P : Char → Prop} [DecidablePred P]
    (h : alphabet.all (fun c => decide (P c)) = true) : ∀ c ∈ p.chars, P c := by
  intro c hc
  have hmem : c ∈ alphabet := List.contains_iff_mem.mp (List.all_eq_true.mp p.all_alphabet c hc)
  exact of_decide_eq_true (List.all_eq_true.mp h c hmem)

@[simp] theorem PublicId.strip_text : Text.strip p.text = p.text := by
  refine Text.strip_of_forall_not ?_
  rw [p.toList_text]
  exact p.forall_of_alphabet (by decide +kernel)

theorem PublicId.allDigits_text : Text.allDigits p.text = p.chars.all Text.isDigit := by
  have hne : p.chars.isEmpty = false := List.isEmpty_eq_false_iff.mpr p.chars_ne_nil
  rw [Text.allDigits, p.toList_text, hne, Bool.not_false, Bool.true_and]

/-- Its digits are plain ones. -/
theorem PublicId.int?_text (h : Text.allDigits p.text = true) :
    Text.int? p.text = some (Text.intOfDigits p.chars : ℤ) := by
  rw [p.allDigits_text, List.all_eq_true] at h
  have hplain : ∀ c ∈ p.chars, Text.isDigit c = true → c.isDigit = true :=
    p.forall_of_alphabet (by decide +kernel)
  exact Text.int?_of_digits p.chars_ne_nil fun c hc => hplain c hc (h c hc)

theorem PublicId.number?_of_allDigits (h : Text.allDigits p.text = true) :
    p.number? = some (Text.intOfDigits p.chars) := by
  rw [p.allDigits_text] at h
  exact if_pos h

theorem PublicId.number?_of_not_allDigits (h : Text.allDigits p.text ≠ true) :
    p.number? = none := by
  rw [p.allDigits_text] at h
  exact if_neg h

theorem PublicId.lower_text : Text.lower p.text = p.text := by
  have hlower : ∀ c ∈ p.chars, c.toLower = c := p.forall_of_alphabet (by decide +kernel)
  rw [Text.lower, p.toList_text, List.map_congr_left hlower, List.map_id']
  rfl

theorem PublicId.text_inj {q : PublicId} : p.text = q.text ↔ p = q := by
  constructor
  · intro h
    have hchars : p.chars = q.chars := by rw [← p.toList_text, h, q.toList_text]
    cases p
    cases q
    cases hchars
    rfl
  · rintro rfl
    rfl

theorem PublicId.accepts_ckey : Converter.ckey.accepts p.chars = true := by
  refine Bool.or_eq_true_iff.mpr (Or.inr (Bool.and_eq_true_iff.mpr ⟨?_, ?_⟩))
  · rw [p.length_eq]
    rfl
  · rw [List.all_eq_true]
    exact p.forall_of_alphabet (by decide +kernel)

theorem PublicId.accepts_str : Converter.str.accepts p.chars = true := by
  refine Bool.and_eq_true_iff.mpr ⟨?_, ?_⟩
  · rw [List.isEmpty_eq_false_iff.mpr p.chars_ne_nil]
    rfl
  · rw [List.all_eq_true]
    exact p.forall_of_alphabet (by decide +kernel)

end Text

section Find

variable {db : Collation} {site : Site} {kind : Kind} {p : PublicId} {pk : ℕ} {failure : Failure}

/-- No other competition of the kind has the public id for its primary key. -/
def NotNumbered (site : Site) (kind : Kind) (p : PublicId) (pk : ℕ) : Prop :=
  ∀ n, p.number? = some n → ((site kind).get n).isSome = true → n = pk

/-- Nothing of the kind is found under the public id. -/
def Unknown (site : Site) (kind : Kind) (p : PublicId) : Prop :=
  (∀ n, p.number? = some n → (site kind).get n = none) ∧ ∀ k, (site kind).get k ≠ some p

theorem byId_text (h : Text.allDigits p.text = true) :
    byId site kind p.text =
      .ok (if ((site kind).get (Text.intOfDigits p.chars)).isSome
        then some (kind, Text.intOfDigits p.chars) else none) := by
  rw [byId, p.int?_text h]
  simp

theorem byPublicId_text {same : String → String → Bool}
    (hsame : ∀ q r : PublicId, same q.text r.text = true ↔ q = r) (hunique : Unique site)
    (hrow : (site kind).get pk = some p) : byPublicId site same kind p.text = some (kind, pk) := by
  have holdest : (site kind).oldest (fun q => same q.text p.text) = some (pk, p) := by
    refine Table.oldest_eq_some_of_unique hrow ((hsame p p).mpr rfl) fun k q hq hp => ?_
    rw [(hsame q p).mp hp] at hq
    exact hunique kind k pk p hq hrow
  rw [byPublicId, holdest, Option.map_some]

theorem byPublicId_text_of_unknown {same : String → String → Bool}
    (hsame : ∀ q r : PublicId, same q.text r.text = true ↔ q = r)
    (h : ∀ k, (site kind).get k ≠ some p) : byPublicId site same kind p.text = none := by
  rw [byPublicId, Option.map_eq_none_iff, Table.oldest_eq_none_iff]
  intro k q hq
  refine Bool.eq_false_iff.mpr fun hp => ?_
  rw [(hsame q p).mp hp] at hq
  exact h k hq

/-- The competition is found under its public id, unless that numbers another one. -/
theorem byIdThenPublicId_text_iff (hunique : Unique site) (hrow : (site kind).get pk = some p) :
    byIdThenPublicId db site kind failure p.text = .ok (kind, pk) ↔
      NotNumbered site kind p pk := by
  have hown := byPublicId_text db.iexact_iff hunique hrow
  rw [byIdThenPublicId, NotNumbered]
  by_cases hdigits : Text.allDigits p.text = true
  · rw [if_pos hdigits, byId_text hdigits, p.number?_of_allDigits hdigits]
    by_cases hget : ((site kind).get (Text.intOfDigits p.chars)).isSome = true
    · simp [hget]
    · simp [hget, hown, orRaise]
  · rw [if_neg hdigits, p.number?_of_not_allDigits hdigits]
    simp [hown, orRaise]

/-- Nothing is found under a public id that is unknown. -/
theorem byIdThenPublicId_text_of_unknown (h : Unknown site kind p) :
    byIdThenPublicId db site kind failure p.text = .error failure := by
  have hnone := byPublicId_text_of_unknown db.iexact_iff h.2
  rw [byIdThenPublicId]
  by_cases hdigits : Text.allDigits p.text = true
  · rw [if_pos hdigits, byId_text hdigits, h.1 _ (p.number?_of_allDigits hdigits)]
    simp [hnone, orRaise]
  · rw [if_neg hdigits]
    simp [hnone, orRaise]

/-- Something of the kind is found under a public id that is not unknown. -/
theorem exists_byIdThenPublicId_text (db : Collation) (failure : Failure) (hunique : Unique site)
    (h : ¬ Unknown site kind p) :
    ∃ k, byIdThenPublicId db site kind failure p.text = .ok (kind, k) := by
  rw [byIdThenPublicId]
  by_cases hstored : ∃ k, (site kind).get k = some p
  · obtain ⟨k, hk⟩ := hstored
    have hown := byPublicId_text db.iexact_iff hunique hk
    by_cases hdigits : Text.allDigits p.text = true
    · rw [if_pos hdigits, byId_text hdigits]
      by_cases hget : ((site kind).get (Text.intOfDigits p.chars)).isSome = true
      · exact ⟨Text.intOfDigits p.chars, by simp [hget]⟩
      · exact ⟨k, by simp [hget, hown, orRaise]⟩
    · rw [if_neg hdigits]
      exact ⟨k, by simp [hown, orRaise]⟩
  · have hnumbered : ∃ n, p.number? = some n ∧ (site kind).get n ≠ none := by
      by_contra hnone
      push Not at hnone
      exact h ⟨hnone, fun k hk => hstored ⟨k, hk⟩⟩
    obtain ⟨n, hn, hget⟩ := hnumbered
    have hdigits : Text.allDigits p.text = true := by
      by_contra hdigits
      rw [p.number?_of_not_allDigits hdigits] at hn
      cases hn
    obtain rfl : Text.intOfDigits p.chars = n := by
      rw [p.number?_of_allDigits hdigits] at hn
      exact Option.some.inj hn
    rw [if_pos hdigits, byId_text hdigits, if_pos (Option.isSome_iff_ne_none.mpr hget)]
    exact ⟨_, rfl⟩

/-- A poomsae competition is found by a search of both kinds if no kyorugi competition is. -/
theorem getCompByKeyAny_text_iff (hunique : Unique site)
    (hrow : (site .poomsae).get pk = some p) :
    getCompByKeyAny db site p.text = .ok (.poomsae, pk) ↔
      Unknown site .kyorugi p ∧ NotNumbered site .poomsae p pk := by
  rw [getCompByKeyAny, getCompByKey, p.strip_text]
  by_cases hunknown : Unknown site .kyorugi p
  · rw [byIdThenPublicId_text_of_unknown hunknown, and_iff_right hunknown]
    exact byIdThenPublicId_text_iff hunique hrow
  · obtain ⟨k, hk⟩ := exists_byIdThenPublicId_text db .http404 hunique hunknown
    rw [hk]
    simp [hunknown]

/-! What is found is of the kind that is searched. -/

theorem kind_of_byId {s : String} {found : Kind × ℕ}
    (h : byId site kind s = .ok (some found)) : found.1 = kind := by
  rw [byId] at h
  split at h
  · cases h
  · obtain ⟨-, rfl⟩ := Option.ite_some_none_eq_some.mp (Except.ok.inj h)
    rfl

theorem kind_of_byPublicId {same : String → String → Bool} {s : String} {found : Kind × ℕ}
    (h : orRaise failure (byPublicId site same kind s) = .ok found) : found.1 = kind := by
  rw [byPublicId] at h
  cases hrow : (site kind).oldest fun p => same p.text s with
  | none =>
    rw [hrow] at h
    cases h
  | some row =>
    rw [hrow] at h
    cases h
    rfl

theorem kind_of_byIdThenPublicId {s : String} {found : Kind × ℕ}
    (h : byIdThenPublicId db site kind failure s = .ok found) : found.1 = kind := by
  rw [byIdThenPublicId] at h
  split at h
  · cases h
  · next found' hfound =>
    cases h
    split_ifs at hfound
    · exact kind_of_byId hfound
    · cases hfound
  · exact kind_of_byPublicId h

theorem kind_of_poomsaeDetailComp {key : String} {found : Kind × ℕ}
    (h : poomsaeDetailComp db site key = .ok found) : found.1 = .poomsae := by
  rw [poomsaeDetailComp] at h
  split_ifs at h
  · split at h
    · cases h
    · next found' hfound =>
      cases found' with
      | none => cases h
      | some found' =>
        cases h
        exact kind_of_byId hfound
  · exact kind_of_byPublicId h

/-- When the lookup of a view gives the competition of a public id. -/
def Lookup.Leads (site : Site) (p : PublicId) (pk : ℕ) : Lookup → Kind → Prop
  | .kyorugi, .kyorugi => NotNumbered site .kyorugi p pk
  | .any, .kyorugi => NotNumbered site .kyorugi p pk
  | .any, .poomsae => Unknown site .kyorugi p ∧ NotNumbered site .poomsae p pk
  | .registerSelf, .poomsae => NotNumbered site .poomsae p pk
  -- digits are taken for nothing but a primary key
  | .poomsaeDetail, .poomsae => ∀ n, p.number? = some n → n = pk
  | .poomsaeApproval, .poomsae => True
  | .poomsaeStudents, .poomsae => True
  | _, _ => False

theorem poomsaeDetailComp_text_iff (hunique : Unique site)
    (hrow : (site .poomsae).get pk = some p) :
    poomsaeDetailComp db site p.text = .ok (.poomsae, pk) ↔ ∀ n, p.number? = some n → n = pk := by
  have hown := byPublicId_text db.iexact_iff hunique hrow
  rw [poomsaeDetailComp, p.strip_text]
  by_cases hdigits : Text.allDigits p.text = true
  · rw [if_pos hdigits, byId_text hdigits, p.number?_of_allDigits hdigits]
    by_cases hget : ((site .poomsae).get (Text.intOfDigits p.chars)).isSome = true
    · simp [hget, orRaise]
    · have hne : Text.intOfDigits p.chars ≠ pk := by
        intro heq
        rw [heq, hrow] at hget
        exact hget rfl
      simp [hget, hne, orRaise]
  · rw [if_neg hdigits, p.number?_of_not_allDigits hdigits, hown]
    simp [orRaise]

/-- What the lookup of a view gives for the public id of a competition. -/
theorem Lookup.find_text_iff (lookup : Lookup) (hunique : Unique site)
    (hrow : (site kind).get pk = some p) :
    lookup.find db site p.text = .ok (kind, pk) ↔ lookup.Leads site p pk kind := by
  cases lookup with
  | kyorugi =>
    rw [Lookup.find, getCompByKey, p.strip_text]
    cases kind with
    | kyorugi => exact byIdThenPublicId_text_iff hunique hrow
    | poomsae => exact iff_of_false (fun h => by cases kind_of_byIdThenPublicId h) id
  | any =>
    cases kind with
    | kyorugi =>
      -- a kyorugi competition is found, this one or another one
      have hknown : ¬ Unknown site .kyorugi p := fun h => h.2 pk hrow
      obtain ⟨k, hk⟩ := exists_byIdThenPublicId_text db .http404 hunique hknown
      have hsame : getCompByKeyAny db site p.text = getCompByKey db site p.text := by
        rw [getCompByKeyAny, getCompByKey, p.strip_text, hk]
      rw [Lookup.find, hsame, getCompByKey, p.strip_text]
      exact byIdThenPublicId_text_iff hunique hrow
    | poomsae =>
      rw [Lookup.find]
      exact getCompByKeyAny_text_iff hunique hrow
  | registerSelf =>
    rw [Lookup.find, registerSelfComp, p.strip_text]
    cases kind with
    | kyorugi => exact iff_of_false (fun h => by cases kind_of_byIdThenPublicId h) id
    | poomsae => exact byIdThenPublicId_text_iff hunique hrow
  | poomsaeDetail =>
    rw [Lookup.find]
    cases kind with
    | kyorugi => exact iff_of_false (fun h => by cases kind_of_poomsaeDetailComp h) id
    | poomsae => exact poomsaeDetailComp_text_iff hunique hrow
  | poomsaeApproval =>
    rw [Lookup.find, poomsaeApprovalComp]
    cases kind with
    | kyorugi => exact iff_of_false (fun h => by cases kind_of_byPublicId h) id
    | poomsae =>
      rw [byPublicId_text db.exact_iff hunique hrow]
      exact iff_of_true rfl trivial
  | poomsaeStudents =>
    rw [Lookup.find, poomsaeStudentsComp, p.strip_text]
    cases kind with
    | kyorugi => exact iff_of_false (fun h => by cases kind_of_byPublicId h) id
    | poomsae =>
      rw [byPublicId_text db.iexact_iff hunique hrow]
      exact iff_of_true rfl trivial

/-- The lookups that the views of the other modules are given, by the stored public ids. -/
def registryOf (db : Collation) (site : Site) (reg : Registry) : Registry :=
  { reg with
    getCompByKey := fun key => (getCompByKey db site key).toOption.map Prod.snd
    kyorugiByPublicId := fun key => (byPublicId site db.exact .kyorugi key).map Prod.snd
    poomsaeByPublicId := fun key => (byPublicId site db.exact .poomsae key).map Prod.snd }

/-- The views that look up kyorugi competitions find a competition under its public id, unless
that numbers another one. -/
theorem getCompByKey_registryOf_iff {reg : Registry} (hunique : Unique site)
    (hrow : (site .kyorugi).get pk = some p) :
    (registryOf db site reg).getCompByKey p.text = some pk ↔ NotNumbered site .kyorugi p pk := by
  have hknown : ¬ Unknown site .kyorugi p := fun h => h.2 pk hrow
  obtain ⟨k, hk⟩ := exists_byIdThenPublicId_text db .http404 hunique hknown
  have hiff : byIdThenPublicId db site .kyorugi .http404 p.text = .ok (.kyorugi, pk) ↔
      NotNumbered site .kyorugi p pk := byIdThenPublicId_text_iff hunique hrow
  rw [← hiff]
  simp [registryOf, getCompByKey, p.strip_text, hk, Except.toOption]

end Find

/-! ### Keys that are found nowhere -/

/-- No competition of the kind has the key, neither for its primary key nor as its public id. -/
def NoRow (db : Collation) (site : Site) (kind : Kind) (s : String) : Prop :=
  (∀ n : ℕ, Text.allDigits s = true → Text.int? s = some (n : ℤ) → (site kind).get n = none) ∧
    ∀ k p, (site kind).get k = some p → db.iexact p.text s = false

/-- When the lookup of a view ends in an exception that is no answer. -/
def Lookup.Raises (db : Collation) (site : Site) (key : String) : Lookup → Prop
  | .registerSelf => NoRow db site .poomsae (Text.strip key)
  | .poomsaeDetail =>
    if Text.allDigits (Text.strip key) = true then Text.int? (Text.strip key) = none
    else NoRow db site .poomsae (Text.strip key)
  | _ => False

section Raises

variable {db : Collation} {site : Site} {kind : Kind} {failure e : Failure} {s key : String}

theorem byPublicId_eq_none_iff {same : String → String → Bool} :
    byPublicId site same kind s = none ↔ ∀ k p, (site kind).get k = some p → same p.text s = false := by
  rw [byPublicId, Option.map_eq_none_iff, Table.oldest_eq_none_iff]

theorem orRaise_eq_error_iff {found : Option (Kind × ℕ)} :
    orRaise failure found = .error e ↔ e = failure ∧ found = none := by
  cases found with
  | none => simp [orRaise, eq_comm]
  | some found => simp [orRaise]

theorem byId_of_int? {n : ℤ} (h : Text.int? s = some n) :
    byId site kind s =
      .ok (if 0 ≤ n ∧ ((site kind).get n.toNat).isSome then some (kind, n.toNat) else none) := by
  rw [byId, h]

theorem byIdThenPublicId_eq_error_iff
    (hint : Text.allDigits s = true → Text.int? s ≠ none) :
    byIdThenPublicId db site kind failure s = .error e ↔ e = failure ∧ NoRow db site kind s := by
  rw [byIdThenPublicId, NoRow, ← byPublicId_eq_none_iff]
  by_cases hdigits : Text.allDigits s = true
  · obtain ⟨n, hn⟩ := Option.ne_none_iff_exists'.mp (hint hdigits)
    rw [if_pos hdigits, byId_of_int? hn, hn]
    by_cases hget : 0 ≤ n ∧ ((site kind).get n.toNat).isSome = true
    · rw [if_pos hget]
      refine iff_of_false (by simp) ?_
      rintro ⟨-, hnone, -⟩
      rw [hnone n.toNat hdigits (by rw [Int.toNat_of_nonneg hget.1])] at hget
      exact Bool.false_ne_true hget.2
    · rw [if_neg hget, orRaise_eq_error_iff]
      refine and_congr_right fun _ => (and_iff_right fun m _ hm => ?_).symm
      obtain rfl : n = (m : ℤ) := Option.some.inj hm
      rw [Int.toNat_natCast, not_and] at hget
      exact Option.not_isSome_iff_eq_none.mp (hget (Int.natCast_nonneg m))
  · rw [if_neg hdigits, orRaise_eq_error_iff]
    exact and_congr_right fun _ => (and_iff_right fun n h => absurd h hdigits).symm

/-- Which keys end in an exception. -/
theorem Lookup.find_error_iff (lookup : Lookup)
    (hint : lookup ≠ .poomsaeDetail → Text.allDigits (Text.strip key) = true →
      Text.int? (Text.strip key) ≠ none) :
    (∃ e, e ≠ .http404 ∧ lookup.find db site key = .error e) ↔ lookup.Raises db site key := by
  cases lookup with
  | kyorugi =>
    rw [Lookup.find, getCompByKey]
    refine iff_of_false ?_ id
    rintro ⟨e, hne, he⟩
    exact hne ((byIdThenPublicId_eq_error_iff (hint (by decide))).mp he).1
  | any =>
    rw [Lookup.find]
    refine iff_of_false ?_ id
    rintro ⟨e, hne, he⟩
    rw [getCompByKeyAny] at he
    split at he
    · exact hne ((byIdThenPublicId_eq_error_iff (hint (by decide))).mp he).1
    · rw [getCompByKey] at he
      exact hne ((byIdThenPublicId_eq_error_iff (hint (by decide))).mp he).1
  | registerSelf =>
    rw [Lookup.find, registerSelfComp, Lookup.Raises]
    simp only [byIdThenPublicId_eq_error_iff (hint (by decide))]
    exact ⟨fun ⟨e, _, _, h⟩ => h, fun h => ⟨.fieldError, by decide, rfl, h⟩⟩
  | poomsaeDetail =>
    rw [Lookup.find, poomsaeDetailComp, Lookup.Raises]
    by_cases hdigits : Text.allDigits (Text.strip key) = true
    · rw [if_pos hdigits, if_pos hdigits, byId]
      cases hn : Text.int? (Text.strip key) with
      | none => exact iff_of_true ⟨.valueError, by decide, rfl⟩ rfl
      | some n =>
        refine iff_of_false ?_ (by simp)
        rintro ⟨e, hne, he⟩
        exact hne (orRaise_eq_error_iff.mp he).1
    · rw [if_neg hdigits, if_neg hdigits, NoRow]
      simp only [orRaise_eq_error_iff, byPublicId_eq_none_iff]
      constructor
      · rintro ⟨e, -, -, h⟩
        exact ⟨fun n h => absurd h hdigits, h⟩
      · rintro ⟨-, h⟩
        exact ⟨.fieldError, by decide, rfl, h⟩
  | poomsaeApproval =>
    rw [Lookup.find, poomsaeApprovalComp]
    refine iff_of_false ?_ id
    rintro ⟨e, hne, he⟩
    exact hne (orRaise_eq_error_iff.mp he).1
  | poomsaeStudents =>
    rw [Lookup.find, poomsaeStudentsComp]
    refine iff_of_false ?_ id
    rintro ⟨e, hne, he⟩
    exact hne (orRaise_eq_error_iff.mp he).1

end Raises

/-! ### The pages -/

section Pages

variable {db : Collation} {site : Site} {page : Page} {lookup : Lookup} {key : List Char}

/-- The one argument of a page is a `<ckey:…>`, except for one page of the poomsae. -/
theorem placeholders_of_lookup? (hpage : page ∈ pages) (hlookup : lookup? page = some lookup) :
    placeholders page.pattern = [.ckey] ∨
      lookup = .poomsaeDetail ∧ placeholders page.pattern = [.str] := by
  have hall : ∀ page ∈ pages, ∀ lookup ∈ lookup? page, placeholders page.pattern = [.ckey] ∨
      lookup = .poomsaeDetail ∧ placeholders page.pattern = [.str] := by
    decide +kernel
  exact hall page hpage lookup hlookup

theorem takes_publicId (hpage : page ∈ pages) (hlookup : lookup? page = some lookup)
    (p : PublicId) : Takes vocabulary page.pattern [p.chars] := by
  rw [takes_iff]
  rcases placeholders_of_lookup? hpage hlookup with heq | ⟨-, heq⟩
  · rw [heq]
    exact .cons p.accepts_ckey .nil
  · rw [heq]
    exact .cons p.accepts_str .nil

/-- The words of the site that stand in the way of a key are no public ids. -/
theorem not_shadowed_publicId (hpage : page ∈ pages) (hlookup : lookup? page = some lookup)
    (p : PublicId) : ¬ Shadowed page [p.chars] := by
  have hall : ∀ page ∈ pages, (lookup? page).isSome = true → ∀ shadow ∈ shadows,
      shadow.1 = page.name →
        ∃ w ∈ ["kyorugi", "by-public", "seminars", "terms", "results"],
          shadow.2 = [.exactly w] := by
    decide +kernel
  have hlength : ∀ w ∈ ["kyorugi", "by-public", "seminars", "terms", "results"],
      w.toList.length ≠ 10 := by
    decide +kernel
  rintro ⟨needs, hneeds, hholds⟩
  have hsome : (lookup? page).isSome = true := by rw [hlookup, Option.isSome_some]
  obtain ⟨w, hw, rfl⟩ := hall page hpage hsome (page.name, needs) hneeds rfl
  rw [List.forall₂_cons, Need.holds, decide_eq_true_iff] at hholds
  exact hlength w hw (by rw [← hholds.1, p.length_eq])

/-- The path of a page with a key leads to its view, which looks the key up. -/
theorem opened_render (db : Collation) (site : Site) (hpage : page ∈ pages)
    (hlookup : lookup? page = some lookup) (htakes : Takes vocabulary page.pattern [key])
    (hfree : ¬ Shadowed page [key]) :
    opened db site (render page.pattern [key]) =
      some (page, lookup.find db site (String.ofList key)) := by
  obtain ⟨kwarg, hkwargs, hkey⟩ : ∃ kwarg, named page.pattern [key] = [kwarg] ∧ kwarg.2 = key := by
    have hmap := map_snd_named htakes
    obtain ⟨kwarg, hkwargs, hkwarg⟩ := List.map_eq_singleton_iff.mp hmap
    exact ⟨kwarg, hkwargs, hkwarg⟩
  rw [opened, (dispatch_render_iff hpage htakes).mpr hfree, hkwargs, Option.bind_some]
  dsimp only
  rw [hlookup, Option.bind_some, List.head?_cons, Option.map_some, hkey]

/-- A database that compares texts as they are, and in lower case. -/
def plain : Collation where
  exact s t := s = t
  iexact s t := Text.lower s = Text.lower t
  exact_iff p q := by
    rw [decide_eq_true_iff]
    exact p.text_inj
  iexact_iff p q := by
    rw [decide_eq_true_iff, p.lower_text, q.lower_text]
    exact p.text_inj

def letters : PublicId :=
  ⟨['a', 'b', 'c', 'd', 'e', 'f', 'g', 'h', 'i', 'j'], by decide +kernel, by decide +kernel⟩

def digits : PublicId :=
  ⟨['0', '0', '0', '0', '0', '0', '0', '0', '0', '1'], by decide +kernel, by decide +kernel⟩

/-- The second competition has the key of the first for its public id. -/
def twoCreated : List Action :=
  [.create .kyorugi 1 fun _ => letters, .create .kyorugi 2 fun _ => digits]

def kyorugiDetail : Page :=
  ⟨"competitions", [.word "api", .word "competitions", .word "kyorugi", .arg .ckey "key"],
    "kyorugi-detail"⟩

/-- The digits of a `<ckey:…>` are decimal, so that `int` reads them. -/
theorem int?_of_ckey (h : Converter.ckey.accepts key = true)
    (hdigits : Text.allDigits (Text.strip (String.ofList key)) = true) :
    Text.int? (Text.strip (String.ofList key)) ≠ none := by
  have hchars : ∀ c ∈ key, Text.isSpace c = false ∧
      (Text.isDigit c = true → Text.isDecimal c = true) := by
    rcases Bool.or_eq_true_iff.mp h with h | h
    · have hall := List.all_eq_true.mp (Bool.and_eq_true_iff.mp h).2
      exact fun c hc => ⟨Text.isSpace_of_isDecimal (hall c hc), fun _ => hall c hc⟩
    · have hall := List.all_eq_true.mp (Bool.and_eq_true_iff.mp h).2
      exact fun c hc => plain_of_slugChar (hall c hc)
  have hstrip : Text.strip (String.ofList key) = String.ofList key := by
    refine Text.strip_of_forall_not fun c hc => (hchars c ?_).1
    rwa [String.toList_ofList] at hc
  rw [hstrip, Text.allDigits, String.toList_ofList, Bool.and_eq_true, List.all_eq_true,
    Bool.not_eq_true', List.isEmpty_eq_false_iff] at hdigits
  rw [hstrip, Text.int?_of_decimals hdigits.1 fun c hc => (hchars c hc).2 (hdigits.2 c hc)]
  exact Option.some_ne_none _

def poomsaeDetail : Page :=
  ⟨"competitions", [.word "api", .word "competitions", .word "poomsae", .arg .ckey "key"],
    "poomsae-detail"⟩

end Pages

end Tkdchb.PublicIds
