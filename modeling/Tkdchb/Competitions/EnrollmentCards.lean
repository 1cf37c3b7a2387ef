import Mathlib.Data.List.ReduceOption
import Tkdchb.Competitions.SelfRegister
import Tkdchb.Payments.Records

/-!
# Cards of enrollments

The card of an enrollment is shown to its player, coach, club and board. One view shows the
card of an id, another one those of a list of ids. The two tables of enrollments are numbered
independently: the single view tries both and takes the first that the user may see, the bulk
view merges them into one dictionary, where poomsae wins.

## Main definitions

* `AnyEnrollment`, `Viewer` — what the views read
* `enrollmentCard` — `EnrollmentCardView.get`
* `enrollmentCardsBulk` — `EnrollmentCardsBulkView.post`
* `Unambiguous` — both views look at the same enrollment, or refuse for the same reason

## Main results

* `allowed_eq` — both views let the same users through
* `cards_agree_iff` — when the two views agree
-/

namespace Tkdchb

open Web

/-- An enrollment of either table. -/
inductive AnyEnrollment where
  | kyorugi (e : Enrollment)
  | poomsae (e : PoomsaeEnrollment)

namespace AnyEnrollment

def player : AnyEnrollment → Option ℤ
  | kyorugi e => some e.player
  | poomsae e => e.registration.player

def coach : AnyEnrollment → Option ℤ
  | kyorugi e => e.coach
  | poomsae e => e.registration.coach

def club : AnyEnrollment → Option ℕ
  | kyorugi e => e.club
  | poomsae e => e.registration.club

def board : AnyEnrollment → Option ℕ
  | kyorugi e => e.board
  | poomsae e => e.registration.board

def status : AnyEnrollment → EnrollmentStatus
  | kyorugi e => e.status
  | poomsae e => e.status

def isPaid : AnyEnrollment → Bool
  | kyorugi e => e.isPaid
  | poomsae e => e.isPaid

end AnyEnrollment

/-- The profile of the user, as far as the views read it. -/
structure ViewerProfile where
  id : ℤ
  role : String
  isCoach : Bool
  deriving DecidableEq, Repr

/-- The user of a request, with the rows that belong to the user. -/
structure Viewer where
  user : ℕ
  prof : Option ViewerProfile
  club : Option ℕ
  board : Option ℕ
  deriving DecidableEq, Repr

/-- `CARD_READY_STATUSES` -/
def cardReadyStatuses : List String := ["paid", "confirmed", "approved", "accepted", "completed"]

/-- `_can_show_card` -/
def canShowCard (status : String) (isPaid : Bool) : Bool :=
  isPaid || cardReadyStatuses.contains (Text.lower status)

/-- The card is ready to be shown. -/
def AnyEnrollment.ready (e : AnyEnrollment) : Bool := canShowCard e.status.text e.isPaid

/-! ### One card -/

/-- What a view answers for an id. -/
inductive CardAnswer where
  /-- the card of this enrollment -/
  | card (e : AnyEnrollment)
  | notFound
  | forbidden
  | notReady

def CardAnswer.status : CardAnswer → ℕ
  | card _ => 200
  | notFound => 404
  | forbidden => 403
  | notReady => 403

/-- The text of a refusal. -/
def CardAnswer.detail : CardAnswer → Option String
  | card _ => none
  | notFound => some "No Enrollment matches the given query."
  | forbidden => some "اجازه دسترسی ندارید."
  | notReady => some "هنوز پرداخت/تأیید نهایی نشده است."

section Views

variable (userOf : ℤ → Option ℕ) (v : Viewer) (db : Db)

/-- `_allowed_for_enrollment` -/
def allowedForEnrollment (e : AnyEnrollment) : Bool :=
  if e.player.bind userOf = some v.user then true
  else if v.prof.any fun prof =>
      (["coach", "both"].contains (Text.lower prof.role) || prof.isCoach) &&
        e.coach == some prof.id then true
  else if v.club.any fun club => e.club == some club then true
  else if v.board.any fun board => e.board == some board then true
  else false

/-- `EnrollmentCardView.get` -/
def enrollmentCard (eid : ℕ) : CardAnswer :=
  let candidates := ((db.enrollments.get eid).map AnyEnrollment.kyorugi).toList ++
    ((db.poomsae.get eid).map AnyEnrollment.poomsae).toList
  if candidates.isEmpty then .notFound
  else
    match candidates.find? (allowedForEnrollment userOf v) with
    | none => .forbidden
    | some e => if e.ready then .card e else .notReady

/-! ### Many cards -/

/-- An item of the answer to a list of ids. -/
inductive CardItem where
  | card (e : AnyEnrollment)
  | forbidden
  | notReady

/-- The text under `error`. -/
def CardItem.error : CardItem → Option String
  | card _ => none
  | forbidden => some "forbidden"
  | notReady => some "not_ready"

/-- What a list shows for an answer of the single view. -/
def CardAnswer.item : CardAnswer → Option CardItem
  | card e => some (.card e)
  | notFound => none
  | forbidden => some .forbidden
  | notReady => some .notReady

/-- `allowed` of the bulk view. -/
def allowedInBulk (e : AnyEnrollment) : Bool :=
  e.player.bind userOf == some v.user ||
    (v.prof.any fun prof =>
      (["coach", "both"].contains (Text.lower prof.role) || prof.isCoach) &&
        e.coach == some prof.id) ||
    (v.club.any fun club => e.club == some club) || v.board.any fun board => e.board == some board

/-- `int(i)` of an item for which `str(i).isdigit()` holds; the outer `none` is the
`ValueError`. -/
def idOfItem : Json → Option (Option ℕ)
  | .num n => some (if 0 ≤ n then some n.toNat else none)
  | .str s => if Text.allDigits s then (Text.int? s).map fun n => some n.toNat else some none
  | _ => some none

/-- The ids of a request. -/
def readIds (items : List Json) : Option (List ℕ) := (items.mapM idOfItem).map List.reduceOption

/-- `all_map = {**kyo, **poo}` -/
def allMap (eid : ℕ) : Option AnyEnrollment :=
  ((db.poomsae.get eid).map .poomsae).or ((db.enrollments.get eid).map .kyorugi)

/-- `out_by_id` -/
def outById (eid : ℕ) : Option CardItem :=
  (allMap db eid).map fun e =>
    if !allowedInBulk userOf v e then .forbidden
    else if !e.ready then .notReady
    else .card e

/-- `EnrollmentCardsBulkView.post` on a list of ids; `none` is an exception. -/
def enrollmentCardsBulk (items : List Json) : Option (List (ℕ × CardItem)) :=
  (readIds items).map fun ids =>
    ids.filterMap fun eid => (outById userOf v db eid).map (Prod.mk eid)

/-! ### When the views agree -/

/-- No kyorugi enrollment that the user may see stands beside a poomsae enrollment of the same
id, unless the user may see both and neither is ready. -/
def Unambiguous (eid : ℕ) : Prop :=
  ∀ k p, db.enrollments.get eid = some k → db.poomsae.get eid = some p →
    allowedForEnrollment userOf v (.kyorugi k) = true →
    allowedForEnrollment userOf v (.poomsae p) = true ∧
      (AnyEnrollment.kyorugi k).ready = false ∧ (AnyEnrollment.poomsae p).ready = false

end Views

section Agreement

variable {userOf : ℤ → Option ℕ} {v : Viewer} {db : Db} {eid : ℕ} {ids : List ℕ}

/-- **Both views let the same users through.** -/
theorem allowed_eq (e : AnyEnrollment) :
    allowedInBulk userOf v e = allowedForEnrollment userOf v e := by
  unfold allowedInBulk allowedForEnrollment
  split_ifs with hplayer hcoach hclub hboard
  · rw [hplayer, beq_self_eq_true, Bool.true_or, Bool.true_or, Bool.true_or]
  · rw [hcoach, Bool.or_true, Bool.true_or, Bool.true_or]
  · rw [hclub, Bool.or_true, Bool.true_or]
  · rw [hboard, Bool.or_true]
  · rw [beq_eq_false_iff_ne.mpr hplayer, Bool.eq_false_iff.mpr hcoach,
      Bool.eq_false_iff.mpr hclub, Bool.eq_false_iff.mpr hboard]
    rfl

/-- Numbers are read as they are. -/
theorem readIds_num (ids : List ℕ) : readIds (ids.map fun (eid : ℕ) => .num eid) = some ids := by
  have hitems : (ids.map fun (eid : ℕ) => Json.num eid).mapM idOfItem = some (ids.map some) := by
    induction ids with
    | nil => rfl
    | cons eid ids ih =>
      have hid : idOfItem (.num eid) = some (some eid) := by simp [idOfItem]
      rw [List.map_cons, List.mapM_cons, hid, ih]
      rfl
  rw [readIds, hitems, Option.map_some, List.reduceOption, List.filterMap_map]
  simp

/-- What is shown for one enrollment. -/
def itemOf (userOf : ℤ → Option ℕ) (v : Viewer) (e : AnyEnrollment) : CardItem :=
  if allowedForEnrollment userOf v e then if e.ready then .card e else .notReady else .forbidden

theorem outById_eq :
    outById userOf v db eid = (allMap db eid).map (itemOf userOf v) := by
  unfold outById itemOf
  congr 1
  funext e
  rw [allowed_eq]
  cases allowedForEnrollment userOf v e <;> cases e.ready <;> rfl

/-- The single view shows the only candidate, or the first one if the user may see it. -/
theorem item_enrollmentCard :
    (enrollmentCard userOf v db eid).item =
      match db.enrollments.get eid, db.poomsae.get eid with
      | none, none => none
      | some k, none => some (itemOf userOf v (.kyorugi k))
      | none, some p => some (itemOf userOf v (.poomsae p))
      | some k, some p =>
        some (itemOf userOf v
          (if allowedForEnrollment userOf v (.kyorugi k) then .kyorugi k else .poomsae p)) := by
  have hone : ∀ e, (match [e].find? (allowedForEnrollment userOf v) with
      | none => CardAnswer.forbidden
      | some e => if e.ready then .card e else .notReady).item = some (itemOf userOf v e) := by
    intro e
    unfold itemOf
    cases hallowed : allowedForEnrollment userOf v e with
    | false => simp [hallowed, CardAnswer.item]
    | true => cases hready : e.ready <;> simp [hallowed, hready, CardAnswer.item]
  unfold enrollmentCard
  cases hk : db.enrollments.get eid with
  | none =>
    cases hp : db.poomsae.get eid with
    | none => rfl
    | some p => exact hone _
  | some k =>
    cases hp : db.poomsae.get eid with
    | none => exact hone _
    | some p =>
      have hfirst : [AnyEnrollment.kyorugi k, .poomsae p].find? (allowedForEnrollment userOf v) =
          [if allowedForEnrollment userOf v (.kyorugi k) then AnyEnrollment.kyorugi k
            else .poomsae p].find? (allowedForEnrollment userOf v) := by
        cases hallowed : allowedForEnrollment userOf v (.kyorugi k) <;> simp [hallowed]
      change (match [AnyEnrollment.kyorugi k, .poomsae p].find? (allowedForEnrollment userOf v) with
        | none => CardAnswer.forbidden
        | some e => if e.ready then .card e else .notReady).item = _
      rw [hfirst]
      exact hone _

theorem unambiguous_iff_of_both {k : Enrollment} {p : PoomsaeEnrollment}
    (hk : db.enrollments.get eid = some k) (hp : db.poomsae.get eid = some p) :
    Unambiguous userOf v db eid ↔
      (allowedForEnrollment userOf v (.kyorugi k) = true →
        allowedForEnrollment userOf v (.poomsae p) = true ∧
          (AnyEnrollment.kyorugi k).ready = false ∧ (AnyEnrollment.poomsae p).ready = false) := by
  constructor
  · intro h
    exact h k p hk hp
  · intro h k' p' hk' hp'
    cases hk.symm.trans hk'
    cases hp.symm.trans hp'
    exact h

theorem unambiguous_of_one (h : db.enrollments.get eid = none ∨ db.poomsae.get eid = none) :
    Unambiguous userOf v db eid := by
  intro k p hk hp
  rcases h with hnone | hnone
  · cases hnone.symm.trans hk
  · cases hnone.symm.trans hp

/-- **One id.** -/
theorem outById_eq_iff :
    outById userOf v db eid = (enrollmentCard userOf v db eid).item ↔
      Unambiguous userOf v db eid := by
  rw [outById_eq, item_enrollmentCard]
  cases hk : db.enrollments.get eid with
  | none =>
    have hone : Unambiguous userOf v db eid := unambiguous_of_one (Or.inl hk)
    cases hp : db.poomsae.get eid with
    | none => exact iff_of_true (by simp [allMap, hk, hp]) hone
    | some p => exact iff_of_true (by simp [allMap, hk, hp]) hone
  | some k =>
    cases hp : db.poomsae.get eid with
    | none => exact iff_of_true (by simp [allMap, hk, hp]) (unambiguous_of_one (Or.inr hp))
    | some p =>
      rw [unambiguous_iff_of_both hk hp]
      simp only [allMap, hp, Option.map_some, Option.some_or, Option.some.injEq]
      cases hallowed : allowedForEnrollment userOf v (.kyorugi k) with
      | false => simp
      | true =>
        -- the list shows the poomsae enrollment, the single view that of kyorugi
        simp only [if_true, itemOf, hallowed]
        cases allowedForEnrollment userOf v (.poomsae p) <;>
          cases (AnyEnrollment.kyorugi k).ready <;> cases (AnyEnrollment.poomsae p).ready <;> simp

/-- An id is left out of the list exactly if the single view does not find it. -/
theorem isSome_outById :
    (outById userOf v db eid).isSome = (enrollmentCard userOf v db eid).item.isSome := by
  rw [outById_eq, item_enrollmentCard]
  unfold allMap
  cases db.enrollments.get eid <;> cases db.poomsae.get eid <;> rfl

/-- Lists made of answers that are there or not together are equal if all answers are. -/
theorem filterMap_eq_filterMap_iff {α β : Type*} {f g : α → Option β} {l : List α}
    (h : ∀ x ∈ l, (f x).isSome = (g x).isSome) :
    l.filterMap f = l.filterMap g ↔ ∀ x ∈ l, f x = g x := by
  induction l with
  | nil => simp
  | cons x l ih =>
    obtain ⟨hx, hl⟩ := List.forall_mem_cons.mp h
    rw [List.forall_mem_cons, ← ih hl, List.filterMap_cons, List.filterMap_cons]
    cases hf : f x with
    | none =>
      cases hg : g x with
      | none => simp
      | some b => simp [hf, hg] at hx
    | some a =>
      cases hg : g x with
      | none => simp [hf, hg] at hx
      | some b => simp

end Agreement

/-- **When the two views agree** on a list of ids: the list has an item for each id that the
single view finds, in the order of the request, and each is what the single view answers. -/
theorem cards_agree_iff (userOf : ℤ → Option ℕ) (v : Viewer) (db : Db) (ids : List ℕ) :
    enrollmentCardsBulk userOf v db (ids.map fun (eid : ℕ) => .num eid) =
        some (ids.filterMap fun eid =>
          (enrollmentCard userOf v db eid).item.map (Prod.mk eid)) ↔
      ∀ eid ∈ ids, Unambiguous userOf v db eid := by
  rw [enrollmentCardsBulk, readIds_num, Option.map_some, Option.some.injEq,
    filterMap_eq_filterMap_iff]
  · apply forall₂_congr
    intro eid _
    rw [← outById_eq_iff]
    exact (Option.map_injective fun _ _ h => (Prod.mk.inj h).2).eq_iff
  · intro eid _
    rw [Option.isSome_map, Option.isSome_map, isSome_outById]

/-! ### Enrollments with the same id -/

/-- Kyorugi enrollment 1 is of player 2 and paid, poomsae enrollment 1 of player 3. -/
def sameIds : Db :=
  { (default : Db) with
    enrollments := Table.empty.insert { (default : Enrollment) with player := 2, isPaid := true }
    poomsae := Table.empty.insert
      { (default : PoomsaeEnrollment) with
        registration := { (default : PoomsaeRegistration) with player := some 3 } } }

/-- The user of player 2. -/
def secondPlayer : Viewer := ⟨20, some ⟨2, "player", false⟩, none, none⟩

/-- The single view shows the player the card, the list says that it is forbidden. -/
theorem own_card_forbidden :
    (∃ k, sameIds.enrollments.get 1 = some k ∧
      enrollmentCard (fun pid => some (10 * pid.toNat)) secondPlayer sameIds 1 =
        .card (.kyorugi k)) ∧
    enrollmentCardsBulk (fun pid => some (10 * pid.toNat)) secondPlayer sameIds [.num 1] =
      some [(1, .forbidden)] :=
  ⟨⟨_, rfl, rfl⟩, rfl⟩

end Tkdchb
