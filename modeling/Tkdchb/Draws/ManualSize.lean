import Tkdchb.Draws.Seating

/-!
# A table size from the form

The form to start a draw passes a table size to `create_draw_for_group`, its own or the one
that was entered. Nothing compares an entered size with the number of players. If it is too
small there are no BYEs, the slots go to the first players of the order, and the others are
left out without an error.

## Main definitions

* `DrawForm`, `DrawForm.finalSize` — the size that the form passes
* `LosesNobody` — a call raises and changes nothing, or seats all eligible enrollments

## Main results

* `seated_perm_iff` — a created draw seats everybody exactly if its size is large enough
* `losesNobody_of_not_manual` — the size that the form computes is large enough
* `manual_size_loses_nobody_iff` — when a call with a size leaves nobody out
-/

namespace Tkdchb

/-! ### The form -/

/-- The fields of `DrawStartForm` that settle the size. -/
structure DrawForm where
  manual : Bool
  sizeOverride : Option ℤ
  deriving DecidableEq, Repr

/-- `auto["size"]`: the loop starts at one and doubles. -/
def autoSize (count : ℕ) : ℕ := nextPow2Loop (max count 1) (max count 1) 1

/-- `final_size` in `changelist_view`. An entered zero counts as nothing entered. -/
def DrawForm.finalSize (form : DrawForm) (count : ℕ) : ℤ :=
  match form.sizeOverride with
  | some size => if form.manual = true ∧ size ≠ 0 then size else autoSize count
  | none => autoSize count

theorem le_autoSize (count : ℕ) : count ≤ autoSize count := by
  have h : max count 1 ≤ autoSize count := le_nextPow2Loop one_pos (by omega)
  omega

theorem finalSize_of_not_manual {form : DrawForm} (h : form.manual = false) (count : ℕ) :
    form.finalSize count = autoSize count := by
  unfold DrawForm.finalSize
  split
  · rw [if_neg (by simp [h])]
  · rfl

/-! ### Who is left out -/

/-- The call raises and leaves everything as it is, or each eligible enrollment has one
slot of the first round for its player. -/
def LosesNobody (c : DrawCall) (s : DrawState) : Prop :=
  ((∃ e, createDrawForGroup c s = .error e) ∧ drawStep c s = s) ∨
    ∃ pk s' draw, createDrawForGroup c s = .ok (pk, s') ∧ s'.draws.get pk = some draw ∧
      draw.seated.Perm (c.entries.map Entry.playerId)

section ManualSize

variable {c : DrawCall} {s s' : DrawState} {pk size : ℕ} {scope : DrawScope}
  {l : List (Option Entry)} {k : ℤ}

/-- **Everybody is seated exactly if the table is large enough.** -/
theorem seated_perm_iff (hshuffle : ∀ i l, (c.shuffle i l).Perm l)
    (h : c.Created s pk s' scope size l) :
    (c.newDraw scope size l).seated.Perm (c.entries.map Entry.playerId) ↔
      c.entries.length ≤ size := by
  have hseated := h.isBracketOf.seated_perm
  constructor
  · intro hperm
    by_contra! htight
    have hlength := (hseated.symm.trans hperm).length_eq
    rw [List.length_map, List.length_map,
      length_seeding_of_lt hshuffle h.seeding_eq htight] at hlength
    omega
  · intro hroom
    exact hseated.trans ((seeding_perm hshuffle h.seeding_eq hroom).map Entry.playerId)

theorem losesNobody_of_error {e : DrawError} (h : createDrawForGroup c s = .error e) :
    LosesNobody c s := by
  refine Or.inl ⟨⟨e, h⟩, ?_⟩
  rw [drawStep, h]

theorem losesNobody_iff_of_created (hshuffle : ∀ i l, (c.shuffle i l).Perm l)
    (hcall : createDrawForGroup c s = .ok (pk, s')) (h : c.Created s pk s' scope size l) :
    LosesNobody c s ↔ c.entries.length ≤ size := by
  rw [← seated_perm_iff hshuffle h]
  constructor
  · rintro (⟨⟨e, he⟩, -⟩ | ⟨pk', s'', draw, hcall', hget, hperm⟩)
    · rw [hcall] at he
      cases he
    · rw [hcall] at hcall'
      obtain ⟨rfl, rfl⟩ := Prod.mk.inj (Except.ok.inj hcall')
      obtain rfl := Option.some.inj (h.get_pk.symm.trans hget)
      exact hperm
  · intro hperm
    exact Or.inr ⟨pk, s', _, hcall, h.get_pk, hperm⟩

/-- An override is raised to four for up to four players, and only to two for more. -/
theorem le_tableSize_iff {n : ℕ} (hpos : 1 ≤ n) (h : tableSize (some k) n = .ok size) :
    n ≤ size ↔ n ≤ 4 ∨ (n : ℤ) ≤ k := by
  simp only [tableSize] at h
  split_ifs at h with hpow hfew
  · obtain rfl := Except.ok.inj h
    omega
  · obtain rfl := Except.ok.inj h
    omega

theorem DrawCall.Created.le_size_iff (h : c.Created s pk s' scope size l)
    (hmanual : c.sizeOverride = some k) :
    c.entries.length ≤ size ↔ c.entries.length ≤ 4 ∨ (c.entries.length : ℤ) ≤ k := by
  have hentries := entries_ne_nil_of_size h.size_eq
  have hsize := h.size_eq
  rw [size_eq_tableSize hentries, hmanual] at hsize
  exact le_tableSize_iff (List.length_pos_iff.mpr hentries) hsize

/-- A full table has a match without a BYE. -/
theorem hasOpenMatch_of_le {n : ℕ} (htwo : 2 ≤ size) (h : size ≤ n) :
    hasOpenMatch size n = true := by
  rw [hasOpenMatch, byeSlots_of_le h, List.any_eq_true]
  exact ⟨(2 * 0 + 1, 2 * 0 + 2), mem_pairUp_slots.mpr ⟨0, by omega, rfl⟩, by simp⟩

/-- Without an age category the history refuses the pairs of a table that is too small. -/
theorem DrawCall.Created.le_size_of_ageCategory (h : c.Created s pk s' scope size l)
    (hnull : c.ageCategoryId = none) : c.entries.length ≤ size := by
  by_contra! htight
  -- without BYEs two players meet, and there is no scope to record them in
  have hpairs : realPairs l ≠ [] := by
    rw [Ne, realPairs_eq_nil_iff h.seeding_eq,
      hasOpenMatch_of_le (size_spec h.size_eq).2.1 htight.le]
    simp
  obtain ⟨pair, pairs, hcons⟩ := List.exists_cons_of_ne_nil hpairs
  obtain ⟨history, hrecord, -⟩ := h.recorded
  rw [hcons, DrawScope.pairScope, ageCategory_scope h.scope_eq, hnull] at hrecord
  cases hrecord

/-- With an age category a locked draw of the group refuses the call. -/
theorem DrawCall.Created.previousUnlocked (h : c.Created s pk s' scope size l)
    (hage : c.ageCategoryId ≠ none) : c.PreviousUnlocked s := by
  intro scope' pk' prev hscope hprev
  obtain rfl : scope = scope' := Option.some.inj (h.scope_eq.symm.trans hscope)
  by_contra hlocked
  rw [Bool.not_eq_false] at hlocked
  obtain ⟨hget, hgroup⟩ := previous_spec hprev
  have hkept : s.discardPrevious scope = s.draws := by
    simp only [DrawState.discardPrevious, hprev, hlocked, if_true]
  have hunique := h.unique
  rw [hkept, violatesUnique_eq_false_iff] at hunique
  exact hunique (by rw [ageCategory_scope h.scope_eq]; exact hage) pk' prev hget hgroup

/-- The size that the form computes leaves nobody out. -/
theorem losesNobody_of_not_manual {form : DrawForm} (hshuffle : ∀ i l, (c.shuffle i l).Perm l)
    (hform : form.manual = false)
    (hsize : c.sizeOverride = some (form.finalSize c.entries.length)) : LosesNobody c s := by
  cases hcall : createDrawForGroup c s with
  | error e => exact losesNobody_of_error hcall
  | ok x =>
    obtain ⟨scope, size, l, hcreated⟩ := createDrawForGroup_ok hcall
    rw [losesNobody_iff_of_created hshuffle hcall hcreated, hcreated.le_size_iff hsize,
      finalSize_of_not_manual hform]
    exact Or.inr (Int.ofNat_le.mpr (le_autoSize c.entries.length))

/-- **When a call with a table size leaves nobody out.** It does if the size is no power of
two, if the group has no age category, or if its draw is locked, because then the call
raises or the table was large enough; and it does if there are at most four players, or at
most as many as slots. In all other cases someone is left out. -/
theorem manual_size_loses_nobody_iff (hshuffle : ∀ i l, (c.shuffle i l).Perm l)
    (hrefs : c.References) (hunique : UniqueTogether s.draws) (hmanual : c.sizeOverride = some k) :
    LosesNobody c s ↔ isPow2 k = false ∨ c.ageCategoryId = none ∨ ¬ c.PreviousUnlocked s ∨
      c.entries.length ≤ 4 ∨ (c.entries.length : ℤ) ≤ k := by
  cases hcall : createDrawForGroup c s with
  | error e =>
    -- if none of the reasons applies, the call returns
    refine iff_of_true (losesNobody_of_error hcall) ?_
    by_contra! hcond
    obtain ⟨hpow, hage, hunlocked, hmany, -⟩ := hcond
    have hentries : c.entries ≠ [] := List.ne_nil_of_length_pos (by omega)
    obtain ⟨scope, hscope⟩ := exists_scope hrefs hentries
    obtain ⟨size, hsize⟩ := exists_tableSize c.sizeOverride c.entries.length (by
      intro k' hk'
      obtain rfl := Option.some.inj (hmanual.symm.trans hk')
      simpa using hpow)
    rw [← size_eq_tableSize hentries] at hsize
    obtain ⟨pk, s', hok⟩ :=
      createDrawForGroup_of_unlocked hshuffle hrefs hunique hscope hsize hage hunlocked
    rw [hcall] at hok
    cases hok
  | ok x =>
    obtain ⟨scope, size, l, hcreated⟩ := createDrawForGroup_ok hcall
    have hroom := hcreated.le_size_iff hmanual
    rw [losesNobody_iff_of_created hshuffle hcall hcreated]
    constructor
    · intro h
      exact Or.inr (Or.inr (Or.inr (hroom.mp h)))
    · rintro (hpow | hnull | hlocked | h)
      · have hsize := hcreated.size_eq
        rw [size_eq_tableSize (entries_ne_nil_of_size hcreated.size_eq), hmanual] at hsize
        simp [tableSize, hpow] at hsize
      · exact hcreated.le_size_of_ageCategory hnull
      · by_cases hnull : c.ageCategoryId = none
        · exact hcreated.le_size_of_ageCategory hnull
        · exact absurd (hcreated.previousUnlocked hnull) hlocked
      · exact hroom.mpr h

end ManualSize

/-- A call for players of a group with an age category, with a size from the form. -/
def formCall (form : DrawForm) (players : List ℤ) : DrawCall :=
  { groupCall (some 3) players (1, 2) with
    sizeOverride := some (form.finalSize players.length) }

theorem references_formCall (form : DrawForm) (players : List ℤ) :
    (formCall form players).References where
  competition _ _ _ := rfl
  ageCategory _ _ := rfl

/-- Five players and eight slots. -/
theorem manual_size_loses_nobody_iff_eight :
    LosesNobody (formCall ⟨true, some 8⟩ [5, 6, 7, 8, 9]) .empty :=
  (manual_size_loses_nobody_iff (fun _ l => List.Perm.refl l) (references_formCall _ _)
    uniqueTogether_empty rfl).mpr (Or.inr (Or.inr (Or.inr (Or.inr (by decide +kernel)))))

/-- Five players and four slots: the call returns, and player 9 is not drawn. -/
theorem fifth_player_left_out :
    isPow2 4 = true ∧ (formCall ⟨true, some 4⟩ [5, 6, 7, 8, 9]).sizeOverride = some 4 ∧
      (createDrawForGroup (formCall ⟨true, some 4⟩ [5, 6, 7, 8, 9]) .empty).toOption.bind
        (fun x => (x.2.draws.get x.1).map Draw.seated) = some [5, 6, 7, 8] ∧
      ¬ LosesNobody (formCall ⟨true, some 4⟩ [5, 6, 7, 8, 9]) .empty := by
  have hseated : (createDrawForGroup (formCall ⟨true, some 4⟩ [5, 6, 7, 8, 9]) .empty).toOption.bind
      (fun x => (x.2.draws.get x.1).map Draw.seated) = some [5, 6, 7, 8] := by
    decide +kernel
  have hlength : (formCall ⟨true, some 4⟩ [5, 6, 7, 8, 9]).entries.length = 5 := by
    decide +kernel
  refine ⟨by decide, by decide, hseated, ?_⟩
  rintro (⟨⟨e, he⟩, -⟩ | ⟨pk, s', draw, hcall, hget, hperm⟩)
  · rw [he] at hseated
    cases hseated
  · simp only [hcall, Except.toOption, Option.bind_some, hget, Option.map_some,
      Option.some.injEq] at hseated
    have hfive := hperm.length_eq
    rw [hseated, List.length_map, hlength] at hfive
    cases hfive

end Tkdchb
