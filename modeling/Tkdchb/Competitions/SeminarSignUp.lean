import Tkdchb.Competitions.Seminars
import Tkdchb.Lib.GetOrCreate
import Tkdchb.Payments.Settlement

/-!
# Signing up for a seminar

`SeminarRegisterView` reads the seminar, checks the roles, and then gets or creates the
registration of the user, with no lock. Meanwhile other requests run, seminars are edited and
deleted, users are deleted, and registrations are paid. A deleted seminar or user takes its
registrations along, and an insert that refers to it is refused.

## Main definitions

* `SignUpState`, `SignUpAction`, `signUpStep` — the requests and the edits, interleaved
* `admitRequest` — the part of the request before the registration
* `lookUp`, `lookUps` — what an action and a run do to the registrations
* `Backed` — every registration was let in by its seminar

## Main results

* `signUp_simulates` — the registrations are a table that is got from or created under a key
* `registered_once` — along any run, the created registrations of a user for a seminar less
  those deleted are there, and there is at most one
* `same_registration` — while nothing is deleted, all requests get the same registration, with
  the roles of the first
* `backed_run` — every registration passed the roles of its seminar when it was asked for
-/

namespace Tkdchb.Seminars

open GetOrCreate Transition Web Calendar

variable {ι : Type}

/-- A registration with the roles it was asked for with. -/
structure Registration extends SeminarRegistration where
  roles : Json

/-- `unique_together = ("seminar", "user")` -/
def Registration.key (r : Registration) : ℕ × ℕ := (r.seminar, r.user)

/-- What the request gives, for good. -/
def Registration.request (r : Registration) : ℕ × ℕ × Json := (r.seminar, r.user, r.roles)

/-- `SeminarRegistration.mark_paid` -/
def Registration.markPaid (amount : ℕ) (refCode : String) (now : Time) (r : Registration) :
    Registration :=
  { r with
    toSeminarRegistration := r.toSeminarRegistration.markPaid amount refCode now }

/-- The stored seminars and users, and the registrations with the requests under way. -/
structure SignUpState (ι : Type) where
  seminars : Table Seminar
  users : ℕ → Bool
  desk : GetOrCreate.State ι Registration

inductive SignUpAction (ι : Type) where
  /-- reads the seminar and checks the roles -/
  | post (i : ι) (user : ℕ) (key : String) (roles : Option Json)
  /-- `get` of `get_or_create` -/
  | get (i : ι)
  /-- `create` of `get_or_create` -/
  | create (i : ι)
  /-- `get` after an `IntegrityError` -/
  | getAgain (i : ι)
  /-- `filter(...).first()` after a second one -/
  | filterFirst (i : ι)
  | markPaid (id amount : ℕ) (refCode : String) (now : Time)
  | addSeminar (form : SeminarForm) (publicId : String) (now : ℕ)
  | changeSeminar (sid : ℕ) (form : SeminarForm)
  | deleteSeminar (sid : ℕ)
  | deleteUser (user : ℕ)

/-- The defaults of `get_or_create`. -/
def newRegistration (seminar user : ℕ) (roles : Json) : Registration where
  seminar := seminar
  user := user
  roles := roles
  isPaid := false
  paidAmount := 0
  bankRefCode := ""
  paidAt := none

def notFound : Response := .json 404 [("detail", .str "Not found.")]

def roleNotAllowed : Response := .json 400 [("detail", .str "نقش شما مجاز به ثبت‌نام نیست.")]

/-- The part of `SeminarRegisterView.post` before `get_or_create`. -/
def admitRequest (seminars : Table Seminar) (user : ℕ) (key : String) (roles : Option Json) :
    Except Response Registration :=
  match seminars.oldest fun s => s.publicId = key with
  | none => .error notFound
  | some (sid, seminar) =>
    match roleGate seminar.allowedRoles (postedRoles roles) with
    | none => .error (.text 500 "")
    | some false => .error roleNotAllowed
    | some true => .ok (newRegistration sid user (postedRoles roles))

/-- What the request is answered once it has its registration. -/
def registered (a : Answer Registration) : Response :=
  .json 200 [("status", .str "ok"), ("created", .bool a.created),
    ("registration_id", match a.id with
      | none => .null
      | some id => .num id),
    ("payment_required", .bool false)]

/-- The rows that a registration refers to are there. -/
def SignUpState.refers (s : SignUpState ι) (r : Registration) : Bool :=
  (s.seminars.get r.seminar).isSome && s.users r.user

/-- What the registration asked for by a client is, if it has found none. -/
def toCreate (s : SignUpState ι) (i : ι) : Option Registration :=
  match s.desk.phase i with
  | .missed r => some r
  | _ => none

section Step

variable [DecidableEq ι]

/-- What an action does to the registrations. The key is checked before the references. -/
def lookUp : SignUpAction ι → SignUpState ι →
    Option (GetOrCreate.Act ι (ℕ × ℕ) Registration)
  | .post i user key roles, s =>
    if s.users user then
      match admitRequest s.seminars user key roles with
      | .ok r => some (.ask i r)
      | .error _ => none
    else none
  | .get i, _ => some (.look i)
  | .create i, s =>
    match toCreate s i with
    | none => none
    | some r =>
      if s.refers r || (find Registration.key s.desk.rows r.key).isSome then some (.insert i)
      else some (.refuse i)
  | .getAgain i, _ => some (.again i)
  | .filterFirst i, _ => some (.last i)
  | .markPaid id amount refCode now, _ => some (.write id (·.markPaid amount refCode now))
  | .addSeminar _ _ _, _ => none
  | .changeSeminar _ _, _ => none
  | .deleteSeminar sid, _ => some (.delete fun k => k.1 = sid)
  | .deleteUser user, _ => some (.delete fun k => k.2 = user)

/-- What an action does to the seminars. A form is saved with the identifier and the time of
its seminar, and a new one needs an identifier of its own. -/
def editSeminars : SignUpAction ι → Table Seminar → Table Seminar
  | .addSeminar form publicId now, seminars =>
    match form.save? publicId now with
    | none => seminars
    | some seminar =>
      if (seminars.oldest fun s => s.publicId = publicId).isSome then seminars
      else seminars.insert seminar
  | .changeSeminar sid form, seminars =>
    seminars.modify sid fun s => (form.save? s.publicId s.createdAt).getD s
  | .deleteSeminar sid, seminars => seminars.erase sid
  | _, seminars => seminars

def editUsers : SignUpAction ι → (ℕ → Bool) → ℕ → Bool
  | .deleteUser user, users => Function.update users user false
  | _, users => users

/-- One action. -/
def signUpStep (a : SignUpAction ι) (s : SignUpState ι) : SignUpState ι where
  seminars := editSeminars a s.seminars
  users := editUsers a s.users
  desk := match lookUp a s with
    | none => s.desk
    | some act => GetOrCreate.step Registration.key act s.desk

/-- What the requests of a run do to the registrations. -/
def lookUps (s : SignUpState ι) (acts : List (SignUpAction ι)) :
    List (GetOrCreate.Act ι (ℕ × ℕ) Registration) :=
  transcript signUpStep lookUp s acts

/-- How many registrations of a key an action takes away. -/
def withdrawn (k : ℕ × ℕ) : SignUpAction ι → SignUpState ι → ℕ
  | .deleteSeminar sid, s => if k.1 = sid then held Registration.key k s.desk.rows else 0
  | .deleteUser user, s => if k.2 = user then held Registration.key k s.desk.rows else 0
  | _, _ => 0

/-- Seminars and users stay. -/
def SignUpAction.deletes : SignUpAction ι → Bool
  | .deleteSeminar _ | .deleteUser _ => true
  | _ => false

/-- Every registration that is asked for refers to rows that are there. -/
def Present (s : SignUpState ι) : Prop :=
  ∀ i r, (s.desk.phase i).pending = some r → s.refers r = true

/-- Every registration, stored or asked for, satisfies `P` with its seminar and its roles. -/
structure Backed (P : ℕ → Json → Prop) (s : SignUpState ι) : Prop where
  stored : ∀ id r, s.desk.rows.get id = some r → P r.seminar r.roles
  pending : ∀ i r, (s.desk.phase i).pending = some r → P r.seminar r.roles

end Step

section Runs

variable [DecidableEq ι] {s : SignUpState ι} {a : SignUpAction ι} {acts : List (SignUpAction ι)}

theorem desk_signUpStep (a : SignUpAction ι) (s : SignUpState ι) :
    (signUpStep a s).desk =
      run (GetOrCreate.step Registration.key) s.desk (lookUp a s).toList := by
  rw [signUpStep]
  cases lookUp a s with
  | none => rfl
  | some act => rfl

/-- The registrations of a run are those of a table that is got from or created under a key. -/
theorem signUp_simulates (s : SignUpState ι) (acts : List (SignUpAction ι)) :
    (run signUpStep s acts).desk =
      run (GetOrCreate.step Registration.key) s.desk (lookUps s acts) :=
  run_transcript (I := fun _ => True) (fun _ _ _ => trivial) (fun a s _ => desk_signUpStep a s)
    trivial acts

/-- No user has two registrations for a seminar. -/
theorem unique_signUp (hs : Unique Registration.key s.desk.rows)
    (acts : List (SignUpAction ι)) :
    Unique Registration.key (run signUpStep s acts).desk.rows := by
  rw [signUp_simulates]
  exact unique_run hs (lookUps s acts)

omit [DecidableEq ι] in
theorem admitRequest_eq_ok {seminars : Table Seminar} {user : ℕ} {key : String}
    {roles : Option Json} {r : Registration}
    (h : admitRequest seminars user key roles = .ok r) :
    r.user = user ∧ ∃ seminar, seminars.get r.seminar = some seminar ∧
      roleGate seminar.allowedRoles r.roles = some true := by
  rw [admitRequest] at h
  split at h
  case h_1 => cases h
  case h_2 sid seminar hfind =>
    split at h
    case h_1 => cases h
    case h_2 => cases h
    case h_3 hgate =>
      cases h
      exact ⟨rfl, seminar, (Table.oldest_spec hfind).1, hgate⟩

omit [DecidableEq ι] in
/-- A request stops before the desk, or asks there for a registration that was let in. -/
theorem lookUp_post (s : SignUpState ι) (i : ι) (user : ℕ) (key : String) (roles : Option Json) :
    lookUp (.post i user key roles) s = none ∨
      ∃ r, lookUp (.post i user key roles) s = some (.ask i r) ∧ s.refers r = true ∧
        ∃ seminar, s.seminars.get r.seminar = some seminar ∧
          roleGate seminar.allowedRoles r.roles = some true := by
  rw [lookUp]
  split_ifs with huser
  · cases hin : admitRequest s.seminars user key roles with
    | error response => exact Or.inl rfl
    | ok r =>
      obtain ⟨rfl, seminar, hget, hgate⟩ := admitRequest_eq_ok hin
      exact Or.inr ⟨r, rfl, by simp [SignUpState.refers, hget, huser], seminar, hget, hgate⟩
  · exact Or.inl rfl

omit [DecidableEq ι] in
/-- A client that has found no registration creates it, and is refused only when its seminar or
its user has gone. -/
theorem lookUp_create (s : SignUpState ι) (i : ι) :
    lookUp (.create i) s = none ∨ lookUp (.create i) s = some (.insert i) ∨
      (lookUp (.create i) s = some (.refuse i) ∧
        ∃ r, s.desk.phase i = .missed r ∧ s.refers r = false) := by
  rw [lookUp, toCreate]
  cases hphase : s.desk.phase i with
  | missed r =>
    dsimp only
    split_ifs with hrefers
    · exact Or.inr (Or.inl rfl)
    · refine Or.inr (Or.inr ⟨rfl, r, rfl, ?_⟩)
      cases hr : s.refers r with
      | false => rfl
      | true => exact absurd (by rw [hr, Bool.true_or]) hrefers
  | _ => exact Or.inl rfl

/-- Registrations go with their seminar or their user only. -/
theorem total_lookUp (k : ℕ × ℕ) (a : SignUpAction ι) (s : SignUpState ι) :
    total (GetOrCreate.step Registration.key) (deleted Registration.key k) s.desk
      (lookUp a s).toList = withdrawn k a s := by
  cases a with
  | post i user key roles =>
    rcases lookUp_post s i user key roles with hstop | ⟨r, hask, -⟩
    · rw [hstop]
      rfl
    · rw [hask]
      rfl
  | create i =>
    rcases lookUp_create s i with hnone | hinsert | ⟨hrefuse, -⟩
    · rw [hnone]
      rfl
    · rw [hinsert]
      rfl
    · rw [hrefuse]
      rfl
  | deleteSeminar sid => simp [lookUp, withdrawn, deleted]
  | deleteUser user => simp [lookUp, withdrawn, deleted]
  | _ => rfl

/-- Along any run, the requests of a user for a seminar that were told that
their registration is new are the registrations that are there at the end and were not at the
start, with those that went with a seminar or a user. -/
theorem registered_once (hs : Unique Registration.key s.desk.rows)
    (acts : List (SignUpAction ι)) (k : ℕ × ℕ) :
    created Registration.key k (run signUpStep s acts).desk +
        held Registration.key k s.desk.rows =
      created Registration.key k s.desk + total signUpStep (withdrawn k) s acts +
        held Registration.key k (run signUpStep s acts).desk.rows := by
  have htotal := total_transcript (I := fun _ : SignUpState ι => True)
    (f := deleted Registration.key k) (fun _ _ _ => trivial)
    (fun a s _ => desk_signUpStep a s) trivial acts (s := s)
  simp only [total_lookUp] at htotal
  rw [signUp_simulates, ← htotal]
  exact created_run hs (lookUps s acts)

/-- A seminar for coaches, with no registrations. -/
def oneSeminar : SignUpState Bool where
  seminars := Table.empty.insert coachSeminar
  users := fun _ => true
  desk := ⟨Table.empty, fun _ => .idle, []⟩

/-- Two requests of one user that both look before one creates. -/
def twoRequests : List (SignUpAction Bool) :=
  [.post false 5 "s1" (some (rolesJson ["coach"])),
    .post true 5 "s1" (some (rolesJson ["coach", "player"])), .get false, .get true,
    .create true, .create false, .getAgain false]

theorem unique_oneSeminar : Unique Registration.key oneSeminar.desk.rows := by
  intro id id' r r' h
  cases h

theorem registered_once_oneSeminar :
    created Registration.key (1, 5)
        (run signUpStep oneSeminar (twoRequests ++ [.deleteSeminar 1])).desk = 1 ∧
      created Registration.key (1, 5)
          (run signUpStep oneSeminar (twoRequests ++ [.deleteSeminar 1])).desk +
          held Registration.key (1, 5) oneSeminar.desk.rows =
        created Registration.key (1, 5) oneSeminar.desk +
          total signUpStep (withdrawn (1, 5)) oneSeminar (twoRequests ++ [.deleteSeminar 1]) +
          held Registration.key (1, 5)
            (run signUpStep oneSeminar (twoRequests ++ [.deleteSeminar 1])).desk.rows :=
  ⟨by decide, registered_once unique_oneSeminar _ _⟩

/-! ### What was let in -/

omit [DecidableEq ι] in
/-- A request that comes to the desk has been let in by its seminar. -/
theorem lookUp_eq_ask {i : ι} {r : Registration} (h : lookUp a s = some (.ask i r)) :
    s.refers r = true ∧ ∃ seminar, s.seminars.get r.seminar = some seminar ∧
      roleGate seminar.allowedRoles r.roles = some true := by
  cases a with
  | post j user key roles =>
    rcases lookUp_post s j user key roles with hstop | ⟨r', hask, hin⟩
    · rw [hstop] at h
      cases h
    · rw [hask] at h
      cases h
      exact hin
  | create j =>
    rcases lookUp_create s j with hother | hother | ⟨hother, -⟩
    all_goals
      rw [hother] at h
      cases h
  | _ => cases h

/-- What the desk holds after an action it held before, or has just been asked for. -/
theorem pending_signUpStep {i : ι} {r : Registration}
    (h : ((signUpStep a s).desk.phase i).pending = some r) :
    (s.desk.phase i).pending = some r ∨ lookUp a s = some (.ask i r) := by
  rw [desk_signUpStep] at h
  cases hact : lookUp a s with
  | none =>
    rw [hact] at h
    exact Or.inl h
  | some act =>
    rw [hact] at h
    rcases pending_of_effect (effect_step act s.desk) h with hold | hask
    · exact Or.inl hold
    · exact Or.inr (by rw [hask])

theorem request_markPaid (amount : ℕ) (refCode : String) (now : Time) (r : Registration) :
    (r.markPaid amount refCode now).request = r.request := by
  have hsame : (r.markPaid amount refCode now).seminar = r.seminar ∧
      (r.markPaid amount refCode now).user = r.user := by
    rw [Registration.markPaid, SeminarRegistration.markPaid]
    by_cases hpaid : r.isPaid
    · simp [hpaid]
    · simp [hpaid]
  rw [Registration.request, hsame.1, hsame.2]
  rfl

omit [DecidableEq ι] in
/-- No write changes who asked for what. -/
theorem request_of_write {id : ℕ} {f : Registration → Registration}
    (h : lookUp a s = some (.write id f)) (r : Registration) :
    (f r).request = r.request := by
  cases a with
  | markPaid id' amount refCode now =>
    cases h
    exact request_markPaid amount refCode now r
  | post j user key roles =>
    rcases lookUp_post s j user key roles with hother | ⟨r', hother, -⟩
    all_goals
      rw [hother] at h
      cases h
  | create j =>
    rcases lookUp_create s j with hother | hother | ⟨hother, -⟩
    all_goals
      rw [hother] at h
      cases h
  | _ => cases h

theorem get_signUpStep {id : ℕ} {r : Registration}
    (h : (signUpStep a s).desk.rows.get id = some r) :
    (∃ r', s.desk.rows.get id = some r' ∧ r'.request = r.request) ∨
      ∃ i, (s.desk.phase i).pending = some r := by
  rw [desk_signUpStep] at h
  cases hact : lookUp a s with
  | none =>
    rw [hact] at h
    exact Or.inl ⟨r, h, rfl⟩
  | some act =>
    rw [hact] at h
    refine get_of_effect (effect_step act s.desk) (fun id f heq r => ?_) h
    exact request_of_write (hact.trans (congrArg some heq)) r

theorem backed_step {P : ℕ → Json → Prop} (a : SignUpAction ι) (s : SignUpState ι)
    (hgate : ∀ sid seminar roles, s.seminars.get sid = some seminar →
      roleGate seminar.allowedRoles roles = some true → P sid roles)
    (hs : Backed P s) : Backed P (signUpStep a s) where
  stored id r hget := by
    rcases get_signUpStep hget with ⟨r', hold, hsame⟩ | ⟨i, hpending⟩
    · have hP := hs.stored id r' hold
      simp only [Registration.request, Prod.mk.injEq] at hsame
      rwa [hsame.1, hsame.2.2] at hP
    · exact hs.pending i r hpending
  pending i r hpending := by
    rcases pending_signUpStep hpending with hold | hask
    · exact hs.pending i r hold
    · obtain ⟨-, seminar, hget, hok⟩ := lookUp_eq_ask hask
      exact hgate r.seminar seminar r.roles hget hok

/-- Every registration of a run that starts with none has roles that its seminar
let in at some time. -/
theorem backed_run (hrows : s.desk.rows = Table.empty) (hidle : ∀ i, s.desk.phase i = .idle)
    (acts : List (SignUpAction ι)) {id : ℕ} {r : Registration}
    (hget : (run signUpStep s acts).desk.rows.get id = some r) :
    ∃ u ∈ visited signUpStep s acts, ∃ seminar, u.seminars.get r.seminar = some seminar ∧
      roleGate seminar.allowedRoles r.roles = some true := by
  -- the roles that some seminar lets in at some time of the run
  let P : ℕ → Json → Prop := fun sid roles =>
    ∃ u ∈ visited signUpStep s acts, ∃ seminar, u.seminars.get sid = some seminar ∧
      roleGate seminar.allowedRoles roles = some true
  have hstart : Backed P s := by
    refine ⟨fun id r h => ?_, fun i r h => ?_⟩
    · rw [hrows] at h
      cases h
    · rw [hidle i] at h
      cases h
  have hgates : Along signUpStep (fun _ u => ∀ sid seminar roles,
      u.seminars.get sid = some seminar →
        roleGate seminar.allowedRoles roles = some true → P sid roles) s acts :=
    along_of_forall_visited fun u hu _ seminar _ hsid hok => ⟨u, hu, seminar, hsid, hok⟩
  exact (hgates.invariant (I := Backed P) backed_step hstart).stored id r hget

theorem backed_run_oneSeminar :
    ∃ u ∈ visited signUpStep oneSeminar twoRequests, ∃ seminar,
      u.seminars.get 1 = some seminar ∧
        roleGate seminar.allowedRoles (rolesJson ["coach", "player"]) = some true :=
  backed_run (s := oneSeminar) rfl (fun _ => rfl) twoRequests
    (show (run signUpStep oneSeminar twoRequests).desk.rows.get 1 =
      some (newRegistration 1 5 (rolesJson ["coach", "player"])) from rfl)

/-! ### While nothing is deleted -/

omit [DecidableEq ι] in
theorem isSome_editSeminars (ha : a.deletes = false) {seminars : Table Seminar} {sid : ℕ}
    (h : (seminars.get sid).isSome = true) : ((editSeminars a seminars).get sid).isSome = true := by
  obtain ⟨seminar, hget⟩ := Option.isSome_iff_exists.mp h
  cases a with
  | addSeminar form publicId now =>
    rw [editSeminars]
    cases form.save? publicId now with
    | none => exact h
    | some new =>
      dsimp only
      split_ifs
      · exact h
      · rw [Table.get_insert_of_get hget, Option.isSome_some]
  | changeSeminar sid' form =>
    rw [editSeminars, Table.get_modify]
    split_ifs
    · rw [Option.isSome_map, h]
    · exact h
  | deleteSeminar sid' => cases ha
  | _ => exact h

theorem refers_signUpStep (ha : a.deletes = false) {r : Registration}
    (h : s.refers r = true) : (signUpStep a s).refers r = true := by
  rw [SignUpState.refers, Bool.and_eq_true] at h ⊢
  refine ⟨isSome_editSeminars ha h.1, ?_⟩
  cases a with
  | deleteUser user => cases ha
  | _ => exact h.2

theorem present_step (a : SignUpAction ι) (s : SignUpState ι) (ha : a.deletes = false)
    (hs : Present s) : Present (signUpStep a s) := by
  intro i r hpending
  rcases pending_signUpStep hpending with hold | hask
  · exact refers_signUpStep ha (hs i r hold)
  · exact refers_signUpStep ha (lookUp_eq_ask hask).1

omit [DecidableEq ι] in
/-- Without deletions the desk takes nothing away and refuses no insert for want of a row. -/
theorem disturbs_lookUp (a : SignUpAction ι) (s : SignUpState ι) (ha : a.deletes = false)
    (hs : Present s) :
    ∀ act, lookUp a s = some act → act.disturbs = false ∧ act.Spares (·.request) := by
  intro act hact
  cases a with
  | post i user key roles =>
    rcases lookUp_post s i user key roles with hother | ⟨r, hother, -⟩
    · rw [hother] at hact
      cases hact
    · rw [hother] at hact
      cases hact
      exact ⟨rfl, trivial⟩
  | create i =>
    rcases lookUp_create s i with hother | hother | ⟨-, r, hphase, hgone⟩
    · rw [hother] at hact
      cases hact
    · rw [hother] at hact
      cases hact
      exact ⟨rfl, trivial⟩
    · have hthere : s.refers r = true := hs i r (by rw [hphase]; rfl)
      rw [hthere] at hgone
      cases hgone
  | markPaid id amount refCode now =>
    cases hact
    exact ⟨rfl, fun r => request_markPaid amount refCode now r⟩
  | deleteSeminar sid => cases ha
  | deleteUser user => cases ha
  | addSeminar form publicId now => cases hact
  | changeSeminar sid form => cases hact
  | _ =>
    cases hact
    exact ⟨rfl, trivial⟩

theorem along_lookUps (hpresent : Present s) (hacts : ∀ a ∈ acts, a.deletes = false) :
    Along (GetOrCreate.step Registration.key)
      (fun act _ => act.disturbs = false ∧ act.Spares (·.request)) s.desk (lookUps s acts) := by
  refine (along_transcript_iff (I := fun _ => True) (fun _ _ _ => trivial)
    (fun a s _ => desk_signUpStep a s) trivial acts).mpr ?_
  exact (along_of_forall (P := fun a : SignUpAction ι => a.deletes = false) hacts).imp_invariant
    present_step disturbs_lookUp hpresent

/-- As long as no seminar and no user is deleted, all requests of a user
for a seminar, in whatever order their parts run, are told of one registration, which is there
and has the roles of the request that created it; at most one created it, and one did if
there was none. -/
theorem same_registration (hs : Unique Registration.key s.desk.rows)
    (hidle : ∀ i, s.desk.phase i = .idle) (hnone : s.desk.answers = [])
    (hacts : ∀ a ∈ acts, a.deletes = false) :
    (∀ x ∈ (run signUpStep s acts).desk.answers, ∃ id r, x.id = some id ∧
      (run signUpStep s acts).desk.rows.get id = some r ∧ r.key = x.asked.key ∧
      (x.created = true → r.roles = x.asked.roles) ∧
      (∀ y ∈ (run signUpStep s acts).desk.answers, y.asked.key = x.asked.key → y.id = x.id)) ∧
    ∀ k, created Registration.key k (run signUpStep s acts).desk +
      held Registration.key k s.desk.rows =
        held Registration.key k (run signUpStep s acts).desk.rows := by
  have hpresent : Present s := fun i r h => by rw [hidle i] at h; cases h
  have halong := along_lookUps hpresent hacts
  have hsettled : Settled Registration.key s.desk := by
    refine ⟨hs, ?_, ?_, ?_⟩
    · rw [hnone]
      exact fun x hx => absurd hx List.not_mem_nil
    · intro i r h
      rw [hidle i] at h
      cases h
    · intro i r h
      rw [hidle i] at h
      cases h
  have hkept : Kept Registration.request s.desk := by
    rw [Kept, hnone]
    exact fun x hx => absurd hx List.not_mem_nil
  rw [signUp_simulates]
  have hfinal := settled_run (halong.mono fun _ _ h => h.1) hsettled
  have hroles := kept_run (halong.mono fun _ _ h => h.2) hkept
  refine ⟨fun x hx => ?_, fun k => ?_⟩
  · obtain ⟨id, hid, hfind⟩ := hfinal.answered x hx
    obtain ⟨r, hget, hkey⟩ := (find_eq_some_iff hfinal.unique).mp hfind
    refine ⟨id, r, hid, hget, hkey, fun hcreated => ?_, fun y hy hyx => hfinal.same_row hy hx hyx⟩
    obtain ⟨id', r', hid', hget', hsame⟩ := hroles x hx hcreated
    obtain rfl : id = id' := Option.some.inj (hid.symm.trans hid')
    obtain rfl : r = r' := Option.some.inj (hget.symm.trans hget')
    exact congrArg (fun request => request.2.2) hsame
  · have hcount := created_undisturbed (k := k) (halong.mono fun _ _ h => h.1) hs
    have hzero : created Registration.key k s.desk = 0 := by
      rw [created, hnone]
      rfl
    rw [hcount, hzero, Nat.zero_add]

theorem same_registration_oneSeminar :
    (run signUpStep oneSeminar twoRequests).desk.answers.map (fun x => (x.id, x.created)) =
        [(some 1, true), (some 1, false)] ∧
      (∀ x ∈ (run signUpStep oneSeminar twoRequests).desk.answers, ∃ id r, x.id = some id ∧
        (run signUpStep oneSeminar twoRequests).desk.rows.get id = some r ∧ r.key = x.asked.key ∧
        (x.created = true → r.roles = x.asked.roles) ∧
        (∀ y ∈ (run signUpStep oneSeminar twoRequests).desk.answers,
          y.asked.key = x.asked.key → y.id = x.id)) ∧
      ∀ k, created Registration.key k (run signUpStep oneSeminar twoRequests).desk +
        held Registration.key k oneSeminar.desk.rows =
          held Registration.key k (run signUpStep oneSeminar twoRequests).desk.rows :=
  ⟨by decide, same_registration unique_oneSeminar (fun _ => rfl) rfl (by simp [twoRequests,
    SignUpAction.deletes])⟩

end Runs

end Tkdchb.Seminars
