import Mathlib.Algebra.BigOperators.Group.List.Lemmas
import Mathlib.Algebra.Order.Ring.Int
import Mathlib.Data.List.Basic
import Mathlib.Tactic.Ring

/-!
# Even splits

An amount is split evenly if the larger parts come first and no two parts differ by more than
one. There is one such split into a given number of parts: the quotient everywhere, and one
more in as many of the first parts as the remainder says. A loop that raises these parts one
after another, and fails at an index that is not there, ends at it.

## Main definitions

* `EvenSplit.IsEven` — an amount is split evenly
* `EvenSplit.runs` — a run of larger parts before a run of smaller ones
* `EvenSplit.raise` — one more in one part

## Main results

* `EvenSplit.IsEven.eq_runs` — there is one even split
* `EvenSplit.isEven_runs` — the quotient and the remainder give it
* `EvenSplit.foldlM_raise` — the loop ends at it
-/

namespace EvenSplit

/-- The parts add up to the total, the larger ones first and no two far apart. -/
structure IsEven (total : ℤ) (n : ℕ) (parts : List ℤ) : Prop where
  length_eq : parts.length = n
  sum_eq : parts.sum = total
  sorted : parts.Pairwise (· ≥ ·)
  close : ∀ p ∈ parts, ∀ q ∈ parts, p ≤ q + 1

section Runs

variable {R : Type*} [Add R] [One R] {base p : R} {larger smaller : ℕ}

/-- Some parts of one more than the base, then some of the base. -/
def runs (base : R) (larger smaller : ℕ) : List R :=
  List.replicate larger (base + 1) ++ List.replicate smaller base

/-- `parts[i] += 1`, with a given error for an index that is not there. -/
def raise {ε : Type*} (indexError : ε) (parts : List R) (i : ℕ) : Except ε (List R) :=
  if i < parts.length then .ok (parts.modify i (· + 1)) else .error indexError

theorem mem_runs : p ∈ runs base larger smaller ↔
    larger ≠ 0 ∧ p = base + 1 ∨ smaller ≠ 0 ∧ p = base := by
  rw [runs, List.mem_append, List.mem_replicate, List.mem_replicate]

theorem length_runs : (runs base larger smaller).length = larger + smaller := by
  rw [runs, List.length_append, List.length_replicate, List.length_replicate]

end Runs

theorem sum_runs {R : Type*} [CommSemiring R] {base : R} {larger smaller : ℕ} :
    (runs base larger smaller).sum = base * (larger + smaller) + larger := by
  rw [runs, List.sum_append, List.sum_replicate, List.sum_replicate, nsmul_eq_mul, nsmul_eq_mul]
  ring

section Numbers

variable {base : ℤ} {larger smaller : ℕ}

theorem sorted_runs : (runs base larger smaller).Pairwise (· ≥ ·) := by
  rw [runs, List.pairwise_append]
  refine ⟨List.pairwise_replicate_of_refl, List.pairwise_replicate_of_refl, ?_⟩
  intro p hp q hq
  rw [List.eq_of_mem_replicate hp, List.eq_of_mem_replicate hq]
  omega

/-- The parts of two runs are a number or the next one. -/
theorem close_runs : ∀ p ∈ runs base larger smaller, ∀ q ∈ runs base larger smaller,
    p ≤ q + 1 := by
  intro p hp q hq
  rcases mem_runs.mp hp with ⟨-, rfl⟩ | ⟨-, rfl⟩ <;>
    rcases mem_runs.mp hq with ⟨-, rfl⟩ | ⟨-, rfl⟩ <;> omega

theorem isEven_runs :
    IsEven (base * (larger + smaller) + larger) (larger + smaller) (runs base larger smaller) :=
  ⟨length_runs, sum_runs, sorted_runs, close_runs⟩

theorem map_cast_runs (base : ℕ) :
    (runs base larger smaller).map Nat.cast = runs (base : ℤ) larger smaller := by
  rw [runs, List.map_append, List.map_replicate, List.map_replicate, Nat.cast_add_one, runs]

end Numbers

/-! ### There is one even split -/

/-- Sorted parts that are not far apart are two runs, and the second one is not empty. -/
theorem exists_eq_runs {parts : List ℤ} (hne : parts ≠ []) (hsorted : parts.Pairwise (· ≥ ·))
    (hclose : ∀ p ∈ parts, ∀ q ∈ parts, p ≤ q + 1) :
    ∃ base larger smaller, smaller ≠ 0 ∧ parts = runs base larger smaller := by
  induction parts with
  | nil => exact absurd rfl hne
  | cons p parts ih =>
    obtain ⟨hhead, htail⟩ := List.pairwise_cons.mp hsorted
    by_cases hnil : parts = []
    · exact ⟨p, 0, 1, Nat.one_ne_zero, by rw [hnil]; rfl⟩
    obtain ⟨base, larger, smaller, hsmaller, rfl⟩ := ih hnil htail fun q hq r hr =>
      hclose q (List.mem_cons_of_mem p hq) r (List.mem_cons_of_mem p hr)
    have hbase : base ∈ runs base larger smaller := mem_runs.mpr (.inr ⟨hsmaller, rfl⟩)
    have hlow : base ≤ p := hhead base hbase
    have hhigh : p ≤ base + 1 := hclose p List.mem_cons_self base (List.mem_cons_of_mem p hbase)
    rcases (by omega : p = base + 1 ∨ p = base) with rfl | rfl
    · exact ⟨base, larger + 1, smaller, hsmaller, rfl⟩
    · -- the first part is of the base only if there is no larger one
      have hlarger : larger = 0 := by
        by_contra hlarger
        have hle := hhead (p + 1) (mem_runs.mpr (.inl ⟨hlarger, rfl⟩))
        omega
      subst hlarger
      exact ⟨p, 0, smaller + 1, Nat.succ_ne_zero smaller, rfl⟩

/-- **There is one even split**: its parts are the quotient, and one more in the first ones. -/
theorem IsEven.eq_runs {total : ℤ} {n : ℕ} {parts : List ℤ} (h : IsEven total n parts)
    (hn : n ≠ 0) : parts = runs (total / n) (total % n).toNat (n - (total % n).toNat) := by
  have hne : parts ≠ [] := by
    rintro rfl
    exact hn h.length_eq.symm
  obtain ⟨base, larger, smaller, hsmaller, rfl⟩ := exists_eq_runs hne h.sorted h.close
  have hlength : larger + smaller = n := length_runs.symm.trans h.length_eq
  have hcast : (n : ℤ) = larger + smaller := by rw [← hlength, Nat.cast_add]
  have hsum : (larger : ℤ) + n * base = total := by
    rw [← h.sum_eq, sum_runs, hcast]
    ring
  -- the second run is not empty, so the larger parts are fewer than all
  have hdivision : total / n = base ∧ total % n = larger :=
    (Int.ediv_emod_unique (by omega)).mpr ⟨hsum, by omega, by omega⟩
  rw [hdivision.1, hdivision.2, Int.toNat_natCast, ← hlength, Nat.add_sub_cancel_left]

/-- The quotient and the remainder give the even split. -/
theorem isEven_div_mod (total : ℤ) {n : ℕ} (hn : n ≠ 0) :
    IsEven total n (runs (total / n) (total % n).toNat (n - (total % n).toNat)) := by
  have hnonneg : 0 ≤ total % n := Int.emod_nonneg total (by omega)
  have hlt : total % n < n := Int.emod_lt_of_pos total (by omega)
  obtain ⟨larger, hlarger⟩ := Int.eq_ofNat_of_zero_le hnonneg
  rw [hlarger, Int.toNat_natCast]
  obtain ⟨smaller, rfl⟩ : ∃ smaller, n = larger + smaller := Nat.exists_eq_add_of_le (by omega)
  rw [Nat.add_sub_cancel_left]
  have htotal : total / (larger + smaller : ℕ) * (larger + smaller) + larger = total := by
    have hdivision := Int.ediv_mul_add_emod total (larger + smaller : ℕ)
    rw [hlarger, Nat.cast_add] at hdivision
    rw [Nat.cast_add]
    exact hdivision
  have heven := @isEven_runs (total / (larger + smaller : ℕ)) larger smaller
  rwa [htotal] at heven

/-! ### The loop -/

section Loop

variable {ε R : Type*} [Add R] [One R] (indexError : ε) (base : R)

/-- The part after the larger ones becomes one of them. -/
theorem modify_runs (larger smaller : ℕ) :
    (runs base larger (smaller + 1)).modify larger (· + 1) = runs base (larger + 1) smaller := by
  induction larger with
  | zero => rfl
  | succ larger ih =>
    calc (runs base (larger + 1) (smaller + 1)).modify (larger + 1) (· + 1)
        = (base + 1) :: (runs base larger (smaller + 1)).modify larger (· + 1) := rfl
      _ = runs base (larger + 1 + 1) smaller := by rw [ih]; rfl

/-- That part is there. -/
theorem raise_runs (larger smaller : ℕ) :
    raise indexError (runs base larger (smaller + 1)) larger =
      .ok (runs base (larger + 1) smaller) := by
  have hin : larger < (runs base larger (smaller + 1)).length := by
    rw [length_runs]
    omega
  rw [raise, if_pos hin, modify_runs]

/-- **The loop raises the first parts**, each of which is there. -/
theorem foldlM_raise (larger smaller : ℕ) :
    (List.range larger).foldlM (raise indexError) (List.replicate (larger + smaller) base) =
      .ok (runs base larger smaller) := by
  induction larger generalizing smaller with
  | zero => rw [Nat.zero_add]; rfl
  | succ larger ih =>
    rw [List.range_succ, List.foldlM_append, Nat.add_right_comm, Nat.add_assoc, ih (smaller + 1)]
    -- the last pass meets one larger part less
    change List.foldlM (raise indexError) (runs base larger (smaller + 1)) [larger] = _
    rw [List.foldlM_cons, raise_runs]
    rfl

/-- A loop that does not fail is the one that leaves out what is not there. -/
theorem foldl_modify_eq {is : List ℕ} {parts parts' : List R}
    (h : is.foldlM (raise indexError) parts = .ok parts') :
    is.foldl (fun parts i => parts.modify i (· + 1)) parts = parts' := by
  induction is generalizing parts with
  | nil => exact Except.ok.inj h
  | cons i is ih =>
    rw [List.foldlM_cons, raise] at h
    split_ifs at h with hin
    · exact ih h
    · cases h

end Loop

end EvenSplit
