import Mathlib.Data.List.Forall2
import Mathlib.Data.Nat.Notation

/-!
# Routes

A table of routes takes a path to the first route whose pattern fits it. A pattern is a list of
segments, each a word or a placeholder for the texts of some vocabulary; no text that a
placeholder takes has a slash, so that a path is taken apart at its slashes. The path of a
route, with arguments filled in, may fit an earlier route as well: whether it does can be read
off the two patterns, and the arguments where a word of the earlier one stands against a
placeholder.

## Main definitions

* `Routes.Vocabulary`, `Routes.Segment`, `Routes.Pattern`
* `Routes.fit?` — the arguments of a path under a pattern
* `Routes.render` — the path of a pattern with its arguments
* `Routes.route` — the first route that fits
* `Routes.conflict` — when a path of one pattern fits another
* `Routes.conflicts` — all conflicts of a route with those before it

## Main results

* `fit?_eq_some_iff` — a path fits exactly if it is the pattern with arguments filled in
* `isSome_fit?_render_iff` — conflicts tell which paths of one pattern fit another
* `route_render_iff` — a path leads to its own route exactly if no conflict holds
-/

namespace Routes

variable {κ : Type*}

/-- The texts that each placeholder takes, none with a slash in it. -/
structure Vocabulary (κ : Type*) where
  accepts : κ → List Char → Bool
  slash_notMem : ∀ c text, accepts c text = true → '/' ∉ text

/-- A word, or a placeholder with the name of its argument. -/
inductive Segment (κ : Type*) where
  | word (w : String)
  | arg (c : κ) (name : String)
  deriving DecidableEq, Repr

abbrev Pattern (κ : Type*) := List (Segment κ)

/-! ### Paths -/

/-- A character in front of some parts and what comes after them. -/
def consChar (c : Char) : List (List Char) × List Char → List (List Char) × List Char
  | ([], tail) => ([], c :: tail)
  | (part :: parts, tail) => ((c :: part) :: parts, tail)

/-- The parts of a text that end with a slash, and what comes after the last one. -/
def splitSlash : List Char → List (List Char) × List Char
  | [] => ([], [])
  | c :: rest => if c = '/' then (splitSlash rest).map ([] :: ·) id else consChar c (splitSlash rest)

/-- The text of some parts. -/
def joinSlash (parts : List (List Char)) : List Char := parts.flatMap fun part => part ++ ['/']

theorem joinSlash_consChar (c : Char) (r : List (List Char) × List Char) :
    joinSlash (consChar c r).1 ++ (consChar c r).2 = c :: (joinSlash r.1 ++ r.2) := by
  obtain ⟨parts, tail⟩ := r
  cases parts with
  | nil => rfl
  | cons part parts => rfl

theorem joinSlash_splitSlash (text : List Char) :
    joinSlash (splitSlash text).1 ++ (splitSlash text).2 = text := by
  induction text with
  | nil => rfl
  | cons c rest ih =>
    rw [splitSlash]
    split_ifs with hc
    · rw [hc]
      exact congrArg ('/' :: ·) ih
    · rw [joinSlash_consChar, ih]

theorem slash_notMem_consChar {c : Char} (hc : c ≠ '/') {r : List (List Char) × List Char}
    (h : ∀ part ∈ r.1, '/' ∉ part) : ∀ part ∈ (consChar c r).1, '/' ∉ part := by
  obtain ⟨parts, tail⟩ := r
  cases parts with
  | nil => exact fun part hpart => absurd hpart List.not_mem_nil
  | cons first parts =>
    rw [List.forall_mem_cons] at h
    rw [consChar, List.forall_mem_cons, List.mem_cons, not_or]
    exact ⟨⟨hc.symm, h.1⟩, h.2⟩

theorem slash_notMem_splitSlash (text : List Char) : ∀ part ∈ (splitSlash text).1, '/' ∉ part := by
  induction text with
  | nil => exact fun part hpart => absurd hpart List.not_mem_nil
  | cons c rest ih =>
    rw [splitSlash]
    split_ifs with hc
    · rw [Prod.map_fst, List.forall_mem_cons]
      exact ⟨List.not_mem_nil, ih⟩
    · exact slash_notMem_consChar hc ih

/-- A part without a slash, in front of a text. -/
theorem splitSlash_append {part : List Char} (h : '/' ∉ part) (rest : List Char) :
    splitSlash (part ++ '/' :: rest) = (splitSlash rest).map (part :: ·) id := by
  induction part with
  | nil => rfl
  | cons c part ih =>
    rw [List.mem_cons, not_or] at h
    rw [List.cons_append, splitSlash, ih h.2, if_neg (Ne.symm h.1)]
    rfl

theorem splitSlash_joinSlash {parts : List (List Char)} (h : ∀ part ∈ parts, '/' ∉ part) :
    splitSlash (joinSlash parts) = (parts, []) := by
  induction parts with
  | nil => rfl
  | cons part parts ih =>
    rw [List.forall_mem_cons] at h
    have hcons : joinSlash (part :: parts) = part ++ '/' :: joinSlash parts := by
      simp [joinSlash]
    rw [hcons, splitSlash_append h.1, ih h.2]
    rfl

/-! ### Patterns -/

section Fit

variable (L : Vocabulary κ)

/-- The arguments of some parts under a pattern. -/
def fitParts? : Pattern κ → List (List Char) → Option (List (List Char))
  | [], [] => some []
  | .word w :: p, part :: parts => if part = w.toList then fitParts? p parts else none
  | .arg c _ :: p, part :: parts =>
    if L.accepts c part then (fitParts? p parts).map (part :: ·) else none
  | _, _ => none

/-- The arguments of a path under a pattern. A path ends with a slash. -/
def fit? (p : Pattern κ) (path : List Char) : Option (List (List Char)) :=
  let (parts, tail) := splitSlash path
  if tail = [] then fitParts? L p parts else none

/-- The arguments are texts that the placeholders take, one for each. -/
def Takes : Pattern κ → List (List Char) → Prop
  | [], args => args = []
  | .word _ :: p, args => Takes p args
  | .arg c _ :: p, text :: args => L.accepts c text = true ∧ Takes p args
  | .arg _ _ :: _, [] => False

end Fit

/-- The placeholders of a pattern, in order. -/
def placeholders : Pattern κ → List κ
  | [] => []
  | .word _ :: p => placeholders p
  | .arg c _ :: p => c :: placeholders p

/-- The parts of a pattern with its arguments. -/
def fill : Pattern κ → List (List Char) → List (List Char)
  | [], _ => []
  | .word w :: p, args => w.toList :: fill p args
  | .arg _ _ :: p, text :: args => text :: fill p args
  | .arg _ _ :: _, [] => []

/-- The path of a pattern with its arguments. -/
def render (p : Pattern κ) (args : List (List Char)) : List Char := joinSlash (fill p args)

/-- The arguments by the names of their placeholders. -/
def named : Pattern κ → List (List Char) → List (String × List Char)
  | [], _ => []
  | .word _ :: p, args => named p args
  | .arg _ name :: p, text :: args => (name, text) :: named p args
  | .arg _ _ :: _, [] => []

/-- A word has no slash. -/
def Segment.Plain : Segment κ → Prop
  | .word w => '/' ∉ w.toList
  | .arg _ _ => True

instance (seg : Segment κ) : Decidable seg.Plain :=
  match seg with
  | .word w => inferInstanceAs (Decidable ('/' ∉ w.toList))
  | .arg _ _ => isTrue trivial

/-- The words of the pattern have no slash. -/
def Plain (p : Pattern κ) : Prop := ∀ seg ∈ p, seg.Plain

instance (p : Pattern κ) : Decidable (Plain p) := inferInstanceAs (Decidable (∀ seg ∈ p, seg.Plain))

section Patterns

variable {L : Vocabulary κ} {p : Pattern κ} {args : List (List Char)} {path : List Char}

theorem Plain.tail {seg : Segment κ} (h : Plain (seg :: p)) : Plain p := fun other hother =>
  h other (List.mem_cons_of_mem seg hother)

/-- One text for each placeholder. -/
theorem takes_iff :
    Takes L p args ↔ List.Forall₂ (fun c text => L.accepts c text = true) (placeholders p) args := by
  induction p generalizing args with
  | nil => rw [Takes, placeholders, List.forall₂_nil_left_iff]
  | cons seg p ih =>
    cases seg with
    | word w => exact ih
    | arg c name =>
      cases args with
      | nil => simp [Takes, placeholders]
      | cons text args => rw [Takes, placeholders, List.forall₂_cons, ih]

/-- The named arguments are the arguments. -/
theorem map_snd_named (h : Takes L p args) : (named p args).map Prod.snd = args := by
  induction p generalizing args with
  | nil => rw [h, named, List.map_nil]
  | cons seg p ih =>
    cases seg with
    | word w => exact ih h
    | arg c name =>
      cases args with
      | nil => exact h.elim
      | cons text args => rw [named, List.map_cons, ih h.2]

theorem slash_notMem_fill (hp : Plain p) (h : Takes L p args) : ∀ part ∈ fill p args, '/' ∉ part := by
  induction p generalizing args with
  | nil => exact fun part hpart => absurd hpart List.not_mem_nil
  | cons seg p ih =>
    cases seg with
    | word w =>
      rw [fill, List.forall_mem_cons]
      exact ⟨hp (.word w) List.mem_cons_self, ih hp.tail h⟩
    | arg c name =>
      cases args with
      | nil => exact h.elim
      | cons text args =>
        rw [fill, List.forall_mem_cons]
        exact ⟨L.slash_notMem c text h.1, ih hp.tail h.2⟩

/-- Parts fit exactly if they are the pattern with arguments filled in. -/
theorem fitParts?_eq_some_iff {parts : List (List Char)} :
    fitParts? L p parts = some args ↔ Takes L p args ∧ parts = fill p args := by
  induction p generalizing parts args with
  | nil =>
    cases parts with
    | nil => simp [fitParts?, Takes, fill, eq_comm]
    | cons part parts => simp [fitParts?, fill]
  | cons seg p ih =>
    cases seg with
    | word w =>
      cases parts with
      | nil => simp [fitParts?, fill]
      | cons part parts =>
        rw [fitParts?, Takes, fill]
        split_ifs with hw
        · rw [ih, hw, List.cons.injEq, and_iff_right rfl]
        · simp [hw]
    | arg c name =>
      cases parts with
      | nil =>
        cases args with
        | nil => simp [fitParts?, Takes]
        | cons text args => simp [fitParts?, fill]
      | cons part parts =>
        rw [fitParts?]
        cases args with
        | nil =>
          simp only [Takes, false_and, iff_false]
          split_ifs
          · simp
          · simp
        | cons text args =>
          rw [Takes, fill, List.cons.injEq]
          split_ifs with haccepts
          · rw [Option.map_eq_some_iff]
            constructor
            · rintro ⟨args', hfit, heq⟩
              obtain ⟨rfl, rfl⟩ := List.cons.inj heq
              obtain ⟨htakes, hparts⟩ := ih.mp hfit
              exact ⟨⟨haccepts, htakes⟩, rfl, hparts⟩
            · rintro ⟨⟨-, htakes⟩, rfl, hparts⟩
              exact ⟨args, ih.mpr ⟨htakes, hparts⟩, rfl⟩
          · simp only [false_iff]
            rintro ⟨⟨htext, -⟩, rfl, -⟩
            exact haccepts htext

/-- **A path fits a pattern** exactly if it is the pattern with arguments filled in. -/
theorem fit?_eq_some_iff (hp : Plain p) :
    fit? L p path = some args ↔ Takes L p args ∧ path = render p args := by
  rw [fit?]
  constructor
  · intro h
    dsimp only at h
    split_ifs at h with htail
    obtain ⟨htakes, hparts⟩ := fitParts?_eq_some_iff.mp h
    have hjoin := joinSlash_splitSlash path
    rw [htail, List.append_nil, hparts] at hjoin
    exact ⟨htakes, hjoin.symm⟩
  · rintro ⟨htakes, rfl⟩
    rw [render, splitSlash_joinSlash (slash_notMem_fill hp htakes)]
    dsimp only
    rw [if_pos rfl]
    exact fitParts?_eq_some_iff.mpr ⟨htakes, rfl⟩

end Patterns

/-! ### Tables -/

/-- What an argument must be for a path to fit another pattern too. -/
inductive Need (κ : Type*) where
  | anything
  | exactly (w : String)
  | accepted (c : κ)
  deriving DecidableEq, Repr

section Table

variable (L : Vocabulary κ)

/-- The first route that fits the path, and the arguments it is called with. -/
def route : List (Pattern κ) → List Char → Option (ℕ × List (String × List Char))
  | [], _ => none
  | p :: table, path =>
    match fit? L p path with
    | some args => some (0, named p args)
    | none => (route table path).map fun (i, args) => (i + 1, args)

def Need.holds : Need κ → List Char → Bool
  | .anything, _ => true
  | .exactly w, text => decide (text = w.toList)
  | .accepted c, text => L.accepts c text

/-- What the arguments of `p` must be for its path to fit `q`; none if it never does. -/
def conflict [DecidableEq κ] : Pattern κ → Pattern κ → Option (List (Need κ))
  | [], [] => some []
  | .word w :: p, .word w' :: q => if w = w' then conflict p q else none
  | .word w :: p, .arg c _ :: q => if L.accepts c w.toList then conflict p q else none
  | .arg c _ :: p, .word w :: q =>
    if L.accepts c w.toList then (conflict p q).map (.exactly w :: ·) else none
  | .arg c _ :: p, .arg c' _ :: q =>
    (conflict p q).map ((if c = c' then .anything else .accepted c') :: ·)
  | _, _ => none

/-- The conflicts of the route at a place with those before it. -/
def conflicts [DecidableEq κ] (table : List (Pattern κ)) (i : ℕ) : List (List (Need κ)) :=
  match table[i]? with
  | none => []
  | some p => (table.take i).filterMap (conflict L p)

end Table

section Conflicts

variable [DecidableEq κ] {L : Vocabulary κ} {p q : Pattern κ} {table : List (Pattern κ)} {i : ℕ}
  {args : List (List Char)}

theorem isSome_fitParts?_fill_iff (h : Takes L p args) :
    (fitParts? L q (fill p args)).isSome = true ↔
      ∃ needs, conflict L p q = some needs ∧
        List.Forall₂ (fun need text => Need.holds L need text = true) needs args := by
  induction p generalizing q args with
  | nil =>
    obtain rfl : args = [] := h
    cases q with
    | nil => simp [fill, fitParts?, conflict]
    | cons seg q => cases seg <;> simp [fill, fitParts?, conflict]
  | cons seg p ih =>
    cases seg with
    | word w =>
      cases q with
      | nil => simp [fill, fitParts?, conflict]
      | cons seg' q =>
        cases seg' with
        | word w' =>
          rw [fill, fitParts?, conflict]
          by_cases hw : w = w'
          · rw [if_pos hw, if_pos (congrArg String.toList hw)]
            exact ih h
          · rw [if_neg hw, if_neg fun heq => hw (String.toList_inj.mp heq)]
            simp
        | arg c name =>
          rw [fill, fitParts?, conflict]
          split_ifs with hw
          · rw [Option.isSome_map]
            exact ih h
          · simp
    | arg c name =>
      cases args with
      | nil => exact h.elim
      | cons text args =>
        obtain ⟨htext, hrest⟩ := h
        cases q with
        | nil => simp [fill, fitParts?, conflict]
        | cons seg' q =>
          cases seg' with
          | word w =>
            rw [fill, fitParts?, conflict]
            by_cases hw : text = w.toList
            · subst hw
              rw [if_pos rfl, if_pos htext, ih hrest]
              simp [Option.map_eq_some_iff, Need.holds]
            · rw [if_neg hw]
              split_ifs
              · simp [Option.map_eq_some_iff, Need.holds, hw]
              · simp
          | arg c' name' =>
            rw [fill, fitParts?, conflict]
            have hneed : Need.holds L (if c = c' then .anything else .accepted c') text =
                L.accepts c' text := by
              split_ifs with hc
              · rw [Need.holds, ← hc, htext]
              · rfl
            by_cases haccepts : L.accepts c' text = true
            · rw [if_pos haccepts, Option.isSome_map, ih hrest]
              simp [Option.map_eq_some_iff, hneed, haccepts]
            · rw [if_neg haccepts]
              simp [Option.map_eq_some_iff, hneed, haccepts]

/-- **Conflicts** tell which paths of `p` fit `q`. -/
theorem isSome_fit?_render_iff (hp : Plain p) (h : Takes L p args) :
    (fit? L q (render p args)).isSome = true ↔
      ∃ needs, conflict L p q = some needs ∧
        List.Forall₂ (fun need text => Need.holds L need text = true) needs args := by
  rw [fit?, render, splitSlash_joinSlash (slash_notMem_fill hp h)]
  dsimp only
  rw [if_pos rfl]
  exact isSome_fitParts?_fill_iff h

omit [DecidableEq κ] in
theorem route_eq_iff {path : List Char} {named' : List (String × List Char)} :
    route L table path = some (i, named') ↔
      (∀ q ∈ table.take i, fit? L q path = none) ∧
        ∃ p args, table[i]? = some p ∧ fit? L p path = some args ∧ named' = named p args := by
  induction table generalizing i with
  | nil => simp [route]
  | cons q table ih =>
    rw [route]
    cases hq : fit? L q path with
    | some args =>
      cases i with
      | zero => simp [hq, eq_comm]
      | succ i =>
        simp [hq]
    | none =>
      cases i with
      | zero => simp [hq]
      | succ i =>
        simp only [Option.map_eq_some_iff, Prod.exists, Prod.mk.injEq, Nat.add_right_cancel_iff,
          List.take_succ_cons, List.forall_mem_cons, hq, true_and, List.getElem?_cons_succ]
        rw [← ih]
        constructor
        · rintro ⟨j, args, hroute, rfl, rfl⟩
          exact hroute
        · exact fun hroute => ⟨i, named', hroute, rfl, rfl⟩

omit [DecidableEq κ] in
/-- A path leads somewhere if it fits some route. -/
theorem isSome_route_iff {path : List Char} :
    (route L table path).isSome = true ↔ ∃ q ∈ table, (fit? L q path).isSome = true := by
  induction table with
  | nil => simp [route]
  | cons q table ih =>
    rw [route, List.exists_mem_cons_iff]
    cases hq : fit? L q path with
    | some args => simp
    | none => simp [ih]

/-- **A path leads to its own route** exactly if no conflict with an earlier route holds of its
arguments. -/
theorem route_render_iff (hp : Plain p) (hi : table[i]? = some p) (h : Takes L p args) :
    route L table (render p args) = some (i, named p args) ↔
      ∀ needs ∈ conflicts L table i,
        ¬ List.Forall₂ (fun need text => Need.holds L need text = true) needs args := by
  have hown : fit? L p (render p args) = some args := (fit?_eq_some_iff hp).mpr ⟨h, rfl⟩
  have hconflicts : conflicts L table i = (table.take i).filterMap (conflict L p) := by
    rw [conflicts, hi]
  rw [route_eq_iff, hconflicts]
  constructor
  · rintro ⟨hbefore, -⟩ needs hneeds hholds
    obtain ⟨q, hq, hconflict⟩ := List.mem_filterMap.mp hneeds
    have hfits := (isSome_fit?_render_iff hp h).mpr ⟨needs, hconflict, hholds⟩
    rw [hbefore q hq] at hfits
    cases hfits
  · intro hnone
    refine ⟨fun q hq => ?_, p, args, hi, hown, rfl⟩
    rw [← Option.not_isSome_iff_eq_none, isSome_fit?_render_iff hp h]
    rintro ⟨needs, hconflict, hholds⟩
    exact hnone needs (List.mem_filterMap.mpr ⟨q, hq, hconflict⟩) hholds

end Conflicts

end Routes
