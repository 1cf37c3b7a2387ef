import Mathlib.Data.Nat.Notation
import Mathlib.Order.BoundedOrder.Lattice
import Mathlib.Tactic.SplitIfs

/-!
# The cheapest of some candidates

Candidates are tried one after another, and the first one of least cost is kept. Nothing is
cheaper than the least cost there is, so the search may stop at a candidate of that cost.

## Main definitions

* `LeastCost.search` — the search, with its early end
* `LeastCost.BestOf` — what it knows of the candidates it has seen

## Main results

* `LeastCost.bestOf_search` — the search keeps the best of those it was to see
* `LeastCost.search_spec` — what it finds
-/

namespace LeastCost

variable {α κ : Type*} [LinearOrder κ]

/-! ### The best so far -/

/-- The cost is less than that of the best candidate so far, if there is one. -/
def beats (k : κ) : Option (α × κ) → Bool
  | none => true
  | some (_, bestCost) => decide (k < bestCost)

/-- The best of the first `i` candidates, with its cost. -/
structure BestOf (cost : α → κ) (candidate : ℕ → α) (i : ℕ) (best : Option (α × κ)) : Prop where
  exists_best : 0 < i → ∃ x k, best = some (x, k)
  seen : ∀ x k, best = some (x, k) → ∃ j < i, x = candidate j
  cost_eq : ∀ x k, best = some (x, k) → k = cost x
  le_cost : ∀ x k, best = some (x, k) → ∀ j < i, k ≤ cost (candidate j)

variable {cost : α → κ} {candidate : ℕ → α} {i : ℕ} {best : Option (α × κ)}

theorem bestOf_none : BestOf cost candidate 0 none where
  exists_best h := absurd h (Nat.lt_irrefl 0)
  seen x k h := by cases h
  cost_eq x k h := by cases h
  le_cost x k h := by cases h

/-- A cheaper candidate takes the place of the best one. -/
theorem BestOf.replace (h : BestOf cost candidate i best)
    (hbeats : beats (cost (candidate i)) best = true) :
    BestOf cost candidate (i + 1) (some (candidate i, cost (candidate i))) where
  exists_best _ := ⟨_, _, rfl⟩
  seen x k hsome := by
    obtain ⟨rfl, rfl⟩ := Prod.mk.inj (Option.some.inj hsome)
    exact ⟨i, Nat.lt_succ_self i, rfl⟩
  cost_eq x k hsome := by
    obtain ⟨rfl, rfl⟩ := Prod.mk.inj (Option.some.inj hsome)
    rfl
  le_cost x k hsome j hj := by
    obtain ⟨rfl, rfl⟩ := Prod.mk.inj (Option.some.inj hsome)
    rcases Nat.lt_succ_iff_lt_or_eq.mp hj with hlt | rfl
    · obtain ⟨x, k, rfl⟩ := h.exists_best (by omega)
      have hless : cost (candidate i) < k := of_decide_eq_true hbeats
      exact hless.le.trans (h.le_cost x k rfl j hlt)
    · exact le_refl _

/-- A candidate that is not cheaper changes nothing. -/
theorem BestOf.keep {x : α} {k : κ} (h : BestOf cost candidate i (some (x, k)))
    (hworse : k ≤ cost (candidate i)) : BestOf cost candidate (i + 1) (some (x, k)) where
  exists_best _ := ⟨x, k, rfl⟩
  seen x' k' hsome := by
    obtain ⟨j, hj, hseen⟩ := h.seen x' k' hsome
    exact ⟨j, Nat.lt_succ_of_lt hj, hseen⟩
  cost_eq := h.cost_eq
  le_cost x' k' hsome j hj := by
    obtain ⟨rfl, rfl⟩ := Prod.mk.inj (Option.some.inj hsome)
    rcases Nat.lt_succ_iff_lt_or_eq.mp hj with hlt | rfl
    · exact h.le_cost x k rfl j hlt
    · exact hworse

/-! ### The search -/

variable [OrderBot κ]

/-- Candidates from the `i`-th on, as many as are given first. -/
def search (cost : α → κ) (candidate : ℕ → α) : ℕ → ℕ → Option (α × κ) → Option (α × κ)
  | 0, _, best => best
  | attempts + 1, i, best =>
    if beats (cost (candidate i)) best then
      if cost (candidate i) = ⊥ then some (candidate i, ⊥)
      else search cost candidate attempts (i + 1) (some (candidate i, cost (candidate i)))
    else search cost candidate attempts (i + 1) best

/-- Nothing is cheaper than the least cost, so the others need not be seen. -/
theorem BestOf.stop {x : α} (h : BestOf cost candidate i (some (x, ⊥))) (attempts : ℕ) :
    BestOf cost candidate (i + attempts) (some (x, ⊥)) := by
  induction attempts with
  | zero => exact h
  | succ attempts ih => exact ih.keep bot_le

/-- **The search keeps the best of the candidates it was to see**, also if it ends early. -/
theorem bestOf_search (h : BestOf cost candidate i best) (attempts : ℕ) :
    BestOf cost candidate (i + attempts) (search cost candidate attempts i best) := by
  induction attempts generalizing i best with
  | zero => exact h
  | succ attempts ih =>
    have hnext : i + (attempts + 1) = i + 1 + attempts := by omega
    rw [hnext, search]
    split_ifs with hbeats hbot
    · -- the early end
      have hreplaced := h.replace hbeats
      rw [hbot] at hreplaced
      exact hreplaced.stop attempts
    · exact ih (h.replace hbeats)
    · -- the test only fails if there is a best candidate, and it is not dearer
      apply ih
      cases best with
      | none => exact absurd rfl hbeats
      | some b => exact h.keep (not_lt.mp fun hlt => hbeats (decide_eq_true hlt))

/-- A search of at least one candidate finds one of them, and none is cheaper. -/
theorem search_spec {attempts : ℕ} (hpos : 0 < attempts) (cost : α → κ) (candidate : ℕ → α) :
    ∃ i < attempts, search cost candidate attempts 0 none = some (candidate i, cost (candidate i)) ∧
      ∀ j < attempts, cost (candidate i) ≤ cost (candidate j) := by
  have hbest : BestOf cost candidate (0 + attempts) (search cost candidate attempts 0 none) :=
    bestOf_search bestOf_none attempts
  rw [Nat.zero_add] at hbest
  obtain ⟨x, k, hfound⟩ := hbest.exists_best hpos
  obtain ⟨i, hi, rfl⟩ := hbest.seen x k hfound
  obtain rfl := hbest.cost_eq (candidate i) k hfound
  exact ⟨i, hi, hfound, hbest.le_cost _ _ hfound⟩

end LeastCost
