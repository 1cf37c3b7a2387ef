import Mathlib.Data.Finset.Card
import Mathlib.Data.Finset.Range
import Tkdchb.Payments.Coherence
import Tkdchb.Payments.PaidStatus

/-!
# Counting the uses of a discount code

The cap of a code is checked when a discount is granted, and a use is counted when an
intent with the code is paid. In between any number of intents may be waiting, and
`mark_paid` does not look at the cap again. Groups that are finalised at once, because
there is nothing to pay or payments are switched off, are not counted at all: the source
leaves that off on purpose.

## Main definitions

* `Action.consumes` — the action settles an unpaid intent that carries the code
* `CapRespected` — the counter stays within a bound
* `codeUses` — the counter of a code
* `paidWith` — the paid intents with the code
* `newlyPaid` — how many intents with the code turn into paid ones between two databases

## Main results

* `cap_respected_iff` — the cap holds along a run exactly when no settlement of the run
  finds the code exhausted
* `codeUses_run` — the counter grows by the intents that are paid, and by nothing else
-/

namespace Tkdchb

open Transition

/-- The action settles an unpaid intent that carries code `c`. -/
def Action.consumes (a : Action) (s : State) (c : ℕ) : Prop :=
  ∃ n pk row, a.locks s = some (n, pk) ∧ s.db.intents.get pk = some row ∧ row.status ≠ .paid ∧
    row.discountCode = some c ∧ TargetClean s.registry row s.db.poomsae

section Step

variable {s : State} {a : Action} {c : ℕ}

/-- An action that brings no notification leaves the codes alone. -/
theorem codes_step_of_not_locks (h : a.locks s = none) : (step a s).db.codes = s.db.codes := by
  have heffect := step_effect a s
  generalize (step a s).db = db' at heffect
  cases heffect with
  | none | created | begun | dispatched | blind | verified | otherBank => rfl
  | registered _ _ _ _ _ hwrites => cases hwrites <;> rfl
  | settled k outcome t n pk row _ htask hnotice =>
    simp [Action.locks, htask, hnotice] at h
  | finalized k outcome tc bankId b pk i ids _ htask hfin =>
    rcases finalize_cases hfin with rfl | ⟨g, gp, -, -, -, -, hfinal⟩
    · rfl
    · exact hfinal.codes

/-- An action that consumes the code counts one use. -/
theorem codes_step_of_consumes (h : a.consumes s c) :
    (step a s).db.codes = s.db.codes.modify c DiscountCode.recordUse := by
  obtain ⟨n, pk, row, hlocks, hrow, hunpaid, hcode, hclean⟩ := h
  rw [step_locks hlocks, codes_afterNotice hrow hunpaid hclean, consumeCode, hcode]

/-- Any other action leaves the code alone. -/
theorem code_step_of_not_consumes (h : ¬ a.consumes s c) :
    (step a s).db.codes.get c = s.db.codes.get c := by
  cases hlocks : a.locks s with
  | none => rw [codes_step_of_not_locks hlocks]
  | some x =>
    obtain ⟨n, pk⟩ := x
    rw [step_locks hlocks]
    -- a notification for an intent with another code, or none
    rcases afterNotice_cases s.registry s.now pk n s.db with hsame | ⟨row, hrow, hunpaid, hset⟩
    · rw [hsame]
    · by_cases hclean : TargetClean s.registry row s.db.poomsae
      · rw [codes_afterNotice hrow hunpaid hclean, consumeCode]
        split
        · next c' hcode =>
          refine Table.get_modify_of_ne ?_
          rintro rfl
          exact h ⟨n, pk, row, hlocks, hrow, hunpaid, hcode, hclean⟩
        · rfl
      · rw [afterNotice_of_not_clean hrow hunpaid hclean]

/-- The code after a step. -/
theorem code_step {dc : DiscountCode} (hdc : s.db.codes.get c = some dc) :
    (a.consumes s c ∧ (step a s).db.codes.get c = some dc.recordUse) ∨
      (¬ a.consumes s c ∧ (step a s).db.codes.get c = some dc) := by
  by_cases h : a.consumes s c
  · exact Or.inl ⟨h, by rw [codes_step_of_consumes h, Table.get_modify_self, hdc, Option.map_some]⟩
  · exact Or.inr ⟨h, by rw [code_step_of_not_consumes h, hdc]⟩

end Step

/-! ### The cap -/

/-- Below its cap a code is not exhausted. -/
theorem DiscountCode.exhausted_eq_false_iff {dc : DiscountCode} {m : ℕ} (hmax : dc.maxUses = some m)
    (hm : 0 < m) : dc.exhausted = false ↔ dc.usedCount < m := by
  have hne : (m != 0) = true := by simpa using hm.ne'
  simp only [DiscountCode.exhausted, hmax, hne, Bool.true_and, decide_eq_false_iff_not, not_le]

/-- The counter of code `c` is at most `m` in every state of the run. -/
def CapRespected (c m : ℕ) (s : State) (acts : List Action) : Prop :=
  ∀ t ∈ visited step s acts, ∀ dc, t.db.codes.get c = some dc → dc.usedCount ≤ m

/-- **The cap of a code.** From a state in which the counter is within the cap, it stays
within the cap in every state of a run exactly when no step of the run settles an
unpaid intent with the code while the code is exhausted. -/
theorem cap_respected_iff {s : State} {c m : ℕ} {dc : DiscountCode}
    (hdc : s.db.codes.get c = some dc) (hmax : dc.maxUses = some m) (hm : 0 < m)
    (hle : dc.usedCount ≤ m) (acts : List Action) :
    CapRespected c m s acts ↔
      Along step (fun a s => a.consumes s c →
        ∀ dc', s.db.codes.get c = some dc' → dc'.exhausted = false) s acts := by
  -- induction on the run, with the code as it is in the current state
  induction acts generalizing s dc with
  | nil =>
    refine iff_of_true (fun t ht dc' hdc' => ?_) trivial
    obtain rfl : t = s := by simpa using ht
    obtain rfl : dc = dc' := Option.some.inj (hdc.symm.trans hdc')
    exact hle
  | cons a acts ih =>
    have hhead : ∀ dc', s.db.codes.get c = some dc' → dc'.usedCount ≤ m := by
      intro dc' hdc'
      obtain rfl : dc = dc' := Option.some.inj (hdc.symm.trans hdc')
      exact hle
    have htail : CapRespected c m s (a :: acts) ↔ CapRespected c m (step a s) acts := by
      rw [CapRespected, visited_cons, List.forall_mem_cons, and_iff_right hhead]
      exact Iff.rfl
    rw [htail, along_cons]
    rcases code_step (a := a) hdc with ⟨hconsumes, hdc'⟩ | ⟨hnot, hdc'⟩
    · by_cases hex : dc.exhausted = false
      · -- one more use fits
        have hlt := (DiscountCode.exhausted_eq_false_iff hmax hm).mp hex
        rw [ih hdc' ((dc.saveUse_maxUses dc).trans hmax)
          ((dc.saveUse_usedCount dc).le.trans hlt)]
        refine (and_iff_right fun _ dc₁ hdc₁ => ?_).symm
        obtain rfl : dc = dc₁ := Option.some.inj (hdc.symm.trans hdc₁)
        exact hex
      · -- the next state is over the cap
        refine iff_of_false (fun h => ?_) fun h => hex (h.1 hconsumes dc hdc)
        have hover := h _ (mem_visited_iff.mpr ⟨[], acts, rfl, rfl⟩) _ hdc'
        have hge : ¬ dc.usedCount < m := (DiscountCode.exhausted_eq_false_iff hmax hm).not.mp hex
        have hcount : dc.recordUse.usedCount = dc.usedCount + 1 := dc.saveUse_usedCount dc
        omega
    · rw [ih hdc' hmax hle]
      exact (and_iff_right fun h => absurd h hnot).symm

/-- A code that makes a payment free, once. -/
def promoCode : DiscountCode :=
  { (default : DiscountCode) with
    code := "off100", percent := 100, maxUses := some 1, active := true }

/-- A shop that has handed out the code. -/
def promoShop : State :=
  { openShop with db := { (default : Db) with codes := Table.empty.insert promoCode } }

/-- User 7 creates an intent with the code. -/
def askPromo (publicId : String) : Action :=
  .createIntent 7 publicId
    { (default : InitiateData) with amount := some 50000, discountCode := some "off100" }

/-- User 7 starts the intent. Nothing is to be paid, so the next piece settles it. -/
def redeemPromo (publicId : String) (task : ℕ) : List Action :=
  [.start { (default : StartRequest) with user := 7, publicId }, .resume task (.error false "")]

/-- Two intents are created while the code is unused, and then both are redeemed. -/
def promoTwice : List Action :=
  [askPromo "a1", askPromo "b2"] ++ redeemPromo "a1" 1 ++ redeemPromo "b2" 2

theorem cap_respected_once : CapRespected 1 1 promoShop (askPromo "a1" :: redeemPromo "a1" 1) := by
  have hcode : promoShop.db.codes.get 1 = some promoCode := rfl
  refine (cap_respected_iff hcode rfl (by decide) (by decide) _).mpr ?_
  -- the code is unused before each of the three steps
  refine ⟨fun _ dc' h => ?_, fun _ dc' h => ?_, fun _ dc' h => ?_, trivial⟩
  all_goals
    cases h
    rfl

theorem cap_exceeded_twice : ¬ CapRespected 1 1 promoShop promoTwice := by
  intro h
  have hlast := h _ (run_mem_visited _ _) _ rfl
  exact absurd hlast (by decide)

/-! ### The count -/

/-- The counter of code `c`. -/
def codeUses (codes : Table DiscountCode) (c : ℕ) : ℕ :=
  ((codes.get c).map DiscountCode.usedCount).getD 0

/-- The intents with code `c` that are paid. -/
def paidWith (c : ℕ) (intents : Table PaymentIntent) : Finset ℕ :=
  (Finset.range intents.next).filter fun pk =>
    (intents.get pk).map (fun i => (i.discountCode, i.status)) = some (some c, .paid)

/-- How many intents with code `c` are paid in the second table and not in the first. -/
def newlyPaid (c : ℕ) (t t' : Table PaymentIntent) : ℕ := (paidWith c t' \ paidWith c t).card

theorem mem_paidWith_iff {c pk : ℕ} {t : Table PaymentIntent} : pk ∈ paidWith c t ↔
    ∃ i, t.get pk = some i ∧ i.discountCode = some c ∧ i.status = .paid := by
  simp only [paidWith, Finset.mem_filter, Finset.mem_range, Option.map_eq_some_iff, Prod.mk.injEq]
  exact ⟨fun h => h.2, fun ⟨i, hi, hrest⟩ => ⟨Table.lt_next_of_get hi, i, hi, hrest⟩⟩

section Count

variable {s : State} {a : Action} {c : ℕ}

/-- A step keeps the code of an intent. -/
theorem discountCode_step {pk : ℕ} {i i' : PaymentIntent} (hi : s.db.intents.get pk = some i)
    (hi' : (step a s).db.intents.get pk = some i') : i'.discountCode = i.discountCode := by
  obtain ⟨j, hj, hfrozen⟩ := (step_effect a s).keeps_intents pk i hi
  obtain rfl : j = i' := Option.some.inj (hj.symm.trans hi')
  exact Table.eq_of_view (g := PaymentIntent.discountCode) hfrozen fun _ => rfl

/-- A step pays an intent with the code only if it consumes the code with it. -/
theorem consumes_of_newly_paid {pk : ℕ} (hafter : pk ∈ paidWith c (step a s).db.intents)
    (hbefore : pk ∉ paidWith c s.db.intents) :
    ∃ n row, a.locks s = some (n, pk) ∧ s.db.intents.get pk = some row ∧ row.status ≠ .paid ∧
      row.discountCode = some c ∧ TargetClean s.registry row s.db.poomsae := by
  obtain ⟨i', hi', hcode, hpaid⟩ := mem_paidWith_iff.mp hafter
  -- the code never changes, so a paid intent with it was counted before
  have hunpaid : ¬ s.db.Paid pk := by
    rintro ⟨i, hi, hi_paid⟩
    have hcode_before := (discountCode_step hi hi').symm.trans hcode
    exact hbefore (mem_paidWith_iff.mpr ⟨i, hi, hcode_before, hi_paid⟩)
  obtain ⟨n, row, hlocks, hrow, hstatus, hclean⟩ := locks_of_newly_paid hunpaid ⟨i', hi', hpaid⟩
  exact ⟨n, row, hlocks, hrow, hstatus, (discountCode_step hrow hi').symm.trans hcode, hclean⟩

theorem newlyPaid_of_not_consumes (h : ¬ a.consumes s c) :
    newlyPaid c s.db.intents (step a s).db.intents = 0 := by
  rw [newlyPaid, Finset.card_eq_zero, Finset.sdiff_eq_empty_iff_subset]
  intro pk hafter
  by_contra hbefore
  obtain ⟨n, row, hrest⟩ := consumes_of_newly_paid hafter hbefore
  exact h ⟨n, pk, row, hrest⟩

theorem newlyPaid_of_consumes (h : a.consumes s c) :
    newlyPaid c s.db.intents (step a s).db.intents = 1 := by
  obtain ⟨n, pk, row, hlocks, hrow, hunpaid, hcode, hclean⟩ := h
  rw [newlyPaid, Finset.card_eq_one]
  refine ⟨pk, Finset.ext fun j => ?_⟩
  rw [Finset.mem_sdiff, Finset.mem_singleton]
  constructor
  · -- the intent of the notification is the only one that counts
    rintro ⟨hafter, hbefore⟩
    obtain ⟨n', _, hlocks', -⟩ := consumes_of_newly_paid hafter hbefore
    have hsame := hlocks'.symm.trans hlocks
    cases hsame
    rfl
  · rintro rfl
    have hpaid : (step a s).db.Paid j := by
      rw [step_locks hlocks]
      exact paid_afterNotice hrow hclean
    obtain ⟨i', hi', hi'_paid⟩ := hpaid
    refine ⟨mem_paidWith_iff.mpr ⟨i', hi', (discountCode_step hrow hi').trans hcode, hi'_paid⟩, ?_⟩
    intro hbefore
    obtain ⟨i, hi, -, hi_paid⟩ := mem_paidWith_iff.mp hbefore
    obtain rfl : row = i := Option.some.inj (hrow.symm.trans hi)
    exact hunpaid hi_paid

theorem codeUses_step {dc : DiscountCode} (hdc : s.db.codes.get c = some dc) :
    codeUses (step a s).db.codes c =
      codeUses s.db.codes c + newlyPaid c s.db.intents (step a s).db.intents := by
  rcases code_step (a := a) hdc with ⟨hconsumes, hdc'⟩ | ⟨hnot, hdc'⟩
  · simp only [codeUses, hdc, hdc', Option.map_some, Option.getD_some,
      newlyPaid_of_consumes hconsumes]
    exact dc.saveUse_usedCount dc
  · simp only [codeUses, hdc, hdc', newlyPaid_of_not_consumes hnot, Nat.add_zero]

/-- A step without a blind write to a paid intent keeps what was paid. -/
theorem paidWith_subset_step (h : ∀ pk, a.blindly s = some pk → ¬ s.db.Paid pk) :
    paidWith c s.db.intents ⊆ paidWith c (step a s).db.intents := by
  intro pk hpk
  obtain ⟨i, hi, hcode, hpaid⟩ := mem_paidWith_iff.mp hpk
  have hafter : (step a s).db.Paid pk :=
    (paid_step_iff ⟨i, hi, hpaid⟩).mpr fun hblind => h pk hblind ⟨i, hi, hpaid⟩
  obtain ⟨i', hi', hi'_paid⟩ := hafter
  exact mem_paidWith_iff.mpr ⟨i', hi', (discountCode_step hi hi').trans hcode, hi'_paid⟩

end Count

/-- Between tables that keep what was paid, the newly paid intents add up. -/
theorem newlyPaid_trans {c : ℕ} {t t' t'' : Table PaymentIntent}
    (h : paidWith c t ⊆ paidWith c t') (h' : paidWith c t' ⊆ paidWith c t'') :
    newlyPaid c t t'' = newlyPaid c t t' + newlyPaid c t' t'' := by
  have hcard := Finset.card_sdiff_add_card_eq_card h
  have hcard' := Finset.card_sdiff_add_card_eq_card h'
  have hcard'' := Finset.card_sdiff_add_card_eq_card (h.trans h')
  simp only [newlyPaid]
  omega

/-- What was paid stays paid through a run without blind writes to paid intents. -/
theorem paidWith_subset_run {s : State} {c : ℕ} {acts : List Action}
    (h : Along step (fun a s => ∀ pk, a.blindly s = some pk → ¬ s.db.Paid pk) s acts) :
    paidWith c s.db.intents ⊆ paidWith c (run step s acts).db.intents := by
  induction acts generalizing s with
  | nil => exact Finset.Subset.refl _
  | cons a acts ih => exact (paidWith_subset_step h.1).trans (ih h.2)

/-- How many groups with the text of a code an action has created and finalised. -/
def registeredAtOnce (code : String) (db db' : Db) : ℕ :=
  ((Finset.range db'.groups.next).filter fun g => (db.groups.get g).isNone ∧
    (db'.groups.get g).map (fun gp => (gp.isPaid, gp.payload.discountCode)) =
      some (true, some code)).card

/-- A competition with open registration, for which the code is valid. -/
def promoRegistry : Registry :=
  { openRegistry with
    kyorugi := fun _ => some { (default : KyorugiCompetition) with
      entryFee := 1000000
      competitionDate := ⟨2025, 5, 1, by decide⟩
      registrationManual := some true }
    profile := fun _ => some { (default : UserProfile) with role := "both" }
    getCompByKey := fun _ => some 1
    coachFromRequest := fun _ => some 9
    parseInsuranceDate := Calendar.fromisoformat
    findWeightCategoryFor := fun _ _ _ => some 3 }

/-- A coach registers one student with the code. -/
def promoGroup : Action :=
  .coachRegister 7 "g1" "spring-cup" { (default : CoachRegisterData) with
    students := [{ (default : Student) with
      playerId := some 5, declaredWeight := some 50, insuranceIssueDate := some "2025-03-01" }]
    discountCode := "off100" }

end Tkdchb
