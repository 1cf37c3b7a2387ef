import Mathlib.Data.Finset.Card
import Tkdchb.Lib.Transition

/-!
# The clubs of a coach

A coach may have three clubs. The coach sets them, an approved edit of the profile sets
them, or a club asks the coach to join or to leave and the coach answers. A club asks at
most once: there is one request for each coach, club and kind, and it keeps its answer.

## Main definitions

* `CoachProfile`, `CoachClubRequest`, `CoachClubState` — the rows
* `CoachClubAction`, `CoachClubState.handle` — the four views
* `AtMostThree` — no coach has more than three clubs
* `Reached`, `Unanswered` — the requests a club wants, and what may stand in their way

## Main results

* `atMostThree_iff_roomToJoin` — the limit holds exactly in the runs in which there is room
  whenever a coach accepts to join
* `reached_iff_unanswered` — the requests of a club reach the coaches exactly in the runs
  in which no request of the same kind was answered before
-/

namespace Tkdchb.Accounts

open Transition

/-- The columns of a profile that the views read, with `coaching_clubs`. -/
structure CoachProfile where
  isCoach : Bool
  clubs : Finset ℕ
  deriving DecidableEq

structure PendingEditProfile where
  originalUser : ℕ
  isCoach : Bool
  clubs : Finset ℕ

/-- `CoachClubRequest.REQUEST_TYPE_CHOICES` -/
inductive RequestType where
  | add
  | remove
  deriving DecidableEq, Repr

/-- `CoachClubRequest.STATUS_CHOICES` -/
inductive RequestStatus where
  | pending
  | accepted
  | rejected
  deriving DecidableEq, Repr

/-- The columns that are unique together, and so stand for the primary key. -/
structure CoachClubRequest where
  coach : ℕ
  club : ℕ
  requestType : RequestType
  deriving DecidableEq, Repr

structure CoachClubState where
  /-- the ids of the clubs -/
  clubs : Finset ℕ
  profiles : ℕ → Option CoachProfile
  edits : ℕ → Option PendingEditProfile
  requests : CoachClubRequest → Option RequestStatus

/-- An entry of a list of ids in a request. -/
inductive IdValue where
  | number (id : ℕ)
  /-- the text of a number, which Python does not find equal to the number -/
  | text (id : ℕ)
  /-- no query takes it for an id -/
  | bad
  deriving DecidableEq, Repr

/-- What a query makes of the entry. -/
def IdValue.id? : IdValue → Option ℕ
  | .number id | .text id => some id
  | .bad => none

/-- The `action` of `RespondToCoachRequestView`. -/
inductive Response where
  | accept
  | reject
  | other
  deriving DecidableEq, Repr

inductive CoachClubAction where
  /-- `UpdateCoachClubsAPIView.patch` of a profile; `none` is no list -/
  | updateCoachClubs (coach : ℕ) (clubIds : Option (List IdValue))
  /-- `UpdateClubCoachesView.post` of the user's club, if there is one. The entries come in
  the order in which the set of them is gone through. -/
  | updateClubCoaches (club : Option ℕ) (selectedIds : Option (List IdValue))
  /-- `RespondToCoachRequestView.post` of a profile -/
  | respondToCoachRequest (coach : ℕ) (request : CoachClubRequest) (action : Response)
  /-- `approve_edited_profile` -/
  | approveEditedProfile (pk : ℕ)

inductive CoachClubError where
  | notCoach
  | tooManyClubs
  | noClub
  | badData
  | noRequest
  | badAction
  | noProfile
  /-- `Http404`, or an exception that the view does not catch -/
  | raised
  deriving DecidableEq, Repr

def CoachClubError.message : CoachClubError → String
  | .notCoach => "شما مربی نیستید."
  | .tooManyClubs => "حداکثر ۳ باشگاه مجاز است."
  | .noClub => "باشگاه یافت نشد."
  | .badData => "داده‌ها معتبر نیستند."
  | .noRequest => "درخواست یافت نشد."
  | .badAction => "دستور نامعتبر است."
  | .noProfile => "پروفایل اصلی یافت نشد."
  | .raised => ""

/-! ### The views -/

namespace CoachClubState

/-- Write the profile. -/
def setProfile (s : CoachClubState) (coach : ℕ) (p : CoachProfile) : CoachClubState :=
  { s with profiles := Function.update s.profiles coach (some p) }

def setRequest (s : CoachClubState) (r : CoachClubRequest) (status : RequestStatus) :
    CoachClubState :=
  { s with requests := Function.update s.requests r (some status) }

/-- The coach is in `club.coaches`. -/
def isMember (s : CoachClubState) (club coach : ℕ) : Bool :=
  (s.profiles coach).any fun p => club ∈ p.clubs

/-- `CoachClubRequest.objects.get_or_create(…, defaults={"status": "pending"})` -/
def getOrCreate (s : CoachClubState) (r : CoachClubRequest) : CoachClubState :=
  if (s.requests r).isSome then s else s.setRequest r .pending

/-- The entry is in `active_ids`. -/
def isActive (s : CoachClubState) (club : ℕ) : IdValue → Bool
  | .number id => s.isMember club id
  | .text _ | .bad => false

/-- The loop over `to_add`. -/
def requestAdds (club : ℕ) : List IdValue → CoachClubState →
    CoachClubState × Except CoachClubError Unit
  | [], s => (s, .ok ())
  | v :: rest, s =>
    if s.isActive club v then requestAdds club rest s
    else
      -- without a coach `get_or_create` violates `NOT NULL`
      match v.id?.bind fun id => (s.profiles id).map (Prod.mk id) with
      | none => (s, .error .raised)
      | some (coach, p) =>
        if 3 ≤ p.clubs.card then requestAdds club rest s
        else requestAdds club rest (s.getOrCreate ⟨coach, club, .add⟩)

/-- The loop over `to_remove`. -/
def requestRemoves (s : CoachClubState) (club : ℕ) (selectedIds : List IdValue) :
    CoachClubState :=
  { s with
    requests := fun r =>
      if r.requestType = .remove ∧ r.club = club ∧ s.isMember club r.coach = true ∧
          .number r.coach ∉ selectedIds then
        (s.requests r).or (some .pending)
      else s.requests r }

def handle (s : CoachClubState) : CoachClubAction → CoachClubState × Except CoachClubError Unit
  | .updateCoachClubs coach clubIds =>
    match s.profiles coach with
    | none => (s, .error .raised)
    | some p =>
      if p.isCoach = false then (s, .error .notCoach)
      else
        match clubIds with
        | none => (s, .error .tooManyClubs)
        | some ids =>
          if 3 < ids.length then (s, .error .tooManyClubs)
          else if .bad ∈ ids then (s, .error .raised)
          else
            let clubs := (ids.filterMap IdValue.id?).toFinset ∩ s.clubs
            (s.setProfile coach { p with clubs }, .ok ())
  | .updateClubCoaches club selectedIds =>
    match club, selectedIds with
    | none, _ => (s, .error .noClub)
    | some _, none => (s, .error .badData)
    | some club, some ids =>
      match requestAdds club ids s with
      | (s', .error e) => (s', .error e)
      | (s', .ok ()) => (s'.requestRemoves club ids, .ok ())
  | .respondToCoachRequest coach request action =>
    match s.profiles coach with
    | none => (s, .error .raised)
    | some p =>
      if request.coach = coach ∧ s.requests request = some .pending then
        match action, request.requestType with
        | .accept, .add =>
          ((s.setProfile coach { p with clubs := insert request.club p.clubs }).setRequest
            request .accepted, .ok ())
        | .accept, .remove =>
          ((s.setProfile coach { p with clubs := p.clubs.erase request.club }).setRequest
            request .accepted, .ok ())
        | .reject, _ => (s.setRequest request .rejected, .ok ())
        | .other, _ => (s, .error .badAction)
      else (s, .error .noRequest)
  | .approveEditedProfile pk =>
    match s.edits pk with
    | none => (s, .error .raised)
    | some e =>
      match s.profiles e.originalUser with
      | none => (s, .error .noProfile)
      | some p =>
        let clubs := if e.clubs = ∅ then p.clubs else e.clubs
        ({ s.setProfile e.originalUser ⟨e.isCoach, clubs⟩ with
            edits := Function.update s.edits pk none }, .ok ())

end CoachClubState

def coachClubStep (a : CoachClubAction) (s : CoachClubState) : CoachClubState := (s.handle a).1

/-! ### Three clubs -/

/-- Every coach has at most three clubs. -/
def AtMostThree (s : CoachClubState) : Prop :=
  ∀ coach p, s.profiles coach = some p → p.clubs.card ≤ 3

/-- And so has every edit that waits for approval. -/
def EditsFit (s : CoachClubState) : Prop := ∀ pk e, s.edits pk = some e → e.clubs.card ≤ 3

/-- If a coach accepts to join a club, then as a member or with fewer than three clubs. -/
def RoomToJoin : CoachClubAction → CoachClubState → Prop
  | .respondToCoachRequest coach request action, s =>
    action = .accept → request.requestType = .add → request.coach = coach →
      s.requests request = some .pending →
        ∀ p, s.profiles coach = some p → request.club ∈ p.clubs ∨ p.clubs.card < 3
  | .updateCoachClubs _ _, _ => True
  | .updateClubCoaches _ _, _ => True
  | .approveEditedProfile _, _ => True

section Limit

variable {s t : CoachClubState} {coach club : ℕ} {p : CoachProfile} {ids : List IdValue}

theorem profiles_getOrCreate (r : CoachClubRequest) :
    (s.getOrCreate r).profiles = s.profiles ∧ (s.getOrCreate r).edits = s.edits := by
  unfold CoachClubState.getOrCreate
  split_ifs
  · exact ⟨rfl, rfl⟩
  · exact ⟨rfl, rfl⟩

theorem profiles_requestAdds (club : ℕ) (ids : List IdValue) (s : CoachClubState) :
    (CoachClubState.requestAdds club ids s).1.profiles = s.profiles ∧
      (CoachClubState.requestAdds club ids s).1.edits = s.edits := by
  induction ids generalizing s with
  | nil => exact ⟨rfl, rfl⟩
  | cons v rest ih =>
    simp only [CoachClubState.requestAdds]
    split_ifs
    · exact ih s
    · split
      · exact ⟨rfl, rfl⟩
      · next coach p _ =>
        split_ifs
        · exact ih s
        · obtain ⟨hprofiles, hedits⟩ := ih (s.getOrCreate ⟨coach, club, .add⟩)
          obtain ⟨hprofiles', hedits'⟩ :=
            profiles_getOrCreate (s := s) ⟨coach, club, .add⟩
          exact ⟨hprofiles.trans hprofiles', hedits.trans hedits'⟩

/-- A request of a club changes no profile. -/
theorem profiles_updateClubCoaches (club : Option ℕ) (ids : Option (List IdValue)) :
    (coachClubStep (.updateClubCoaches club ids) s).profiles = s.profiles ∧
      (coachClubStep (.updateClubCoaches club ids) s).edits = s.edits := by
  simp only [coachClubStep, CoachClubState.handle]
  split
  · exact ⟨rfl, rfl⟩
  · exact ⟨rfl, rfl⟩
  · next club ids =>
    have hadds := profiles_requestAdds club ids s
    split
    · next heq =>
      rw [heq] at hadds
      exact hadds
    · next heq =>
      rw [heq] at hadds
      exact hadds

theorem atMostThree_congr (h : t.profiles = s.profiles) : AtMostThree t ↔ AtMostThree s := by
  rw [AtMostThree, h, AtMostThree]

/-- Writing a profile keeps the limit exactly if the profile does. -/
theorem atMostThree_update_iff (h : AtMostThree s)
    (ht : t.profiles = Function.update s.profiles coach (some p)) :
    AtMostThree t ↔ p.clubs.card ≤ 3 := by
  rw [AtMostThree, ht]
  constructor
  · intro hall
    exact hall coach p (Function.update_self coach (some p) s.profiles)
  · intro hle c q hq
    by_cases hc : c = coach
    · subst hc
      rw [Function.update_self] at hq
      rwa [← Option.some.inj hq]
    · rw [Function.update_of_ne hc] at hq
      exact h c q hq

/-- A club joins a set of at most three exactly if it is in it or there is room. -/
theorem card_insert_le_three_iff {clubs : Finset ℕ} (h : clubs.card ≤ 3) :
    (insert club clubs).card ≤ 3 ↔ club ∈ clubs ∨ clubs.card < 3 := by
  by_cases hmem : club ∈ clubs
  · rw [Finset.insert_eq_of_mem hmem]
    exact iff_of_true h (Or.inl hmem)
  · rw [Finset.card_insert_of_notMem hmem, or_iff_right hmem]
    exact Nat.succ_le_iff

theorem editsFit_step (a : CoachClubAction) (s : CoachClubState) (h : EditsFit s) :
    EditsFit (coachClubStep a s) := by
  cases a with
  | updateClubCoaches club ids =>
    rw [EditsFit, (profiles_updateClubCoaches club ids).2]
    exact h
  | updateCoachClubs coach ids =>
    simp only [coachClubStep, CoachClubState.handle]
    repeat' split
    all_goals exact h
  | respondToCoachRequest coach request action =>
    simp only [coachClubStep, CoachClubState.handle]
    repeat' split
    all_goals exact h
  | approveEditedProfile pk =>
    simp only [coachClubStep, CoachClubState.handle]
    split
    · exact h
    · split
      · exact h
      · intro k e he
        by_cases hk : k = pk
        · subst hk
          simp at he
        · exact h k e (by simpa [Function.update_of_ne hk] using he)

/-- **One step** keeps the limit exactly if nobody accepts to join without room. -/
theorem atMostThree_step_iff (a : CoachClubAction) (s : CoachClubState) (hedits : EditsFit s)
    (h : AtMostThree s) : AtMostThree (coachClubStep a s) ↔ RoomToJoin a s := by
  cases a with
  | updateClubCoaches club ids =>
    -- the view of the club only writes requests
    rw [atMostThree_congr (profiles_updateClubCoaches club ids).1]
    exact iff_of_true h trivial
  | updateCoachClubs coach ids =>
    refine iff_of_true ?_ trivial
    simp only [coachClubStep, CoachClubState.handle]
    split
    · exact h
    · split_ifs
      · exact h
      · split
        · exact h
        · next ids =>
          split_ifs with hlen
          · exact h
          · exact h
          · -- the view counts the entries of the request, which are at least the clubs written
            refine (atMostThree_update_iff h rfl).mpr ?_
            calc ((ids.filterMap IdValue.id?).toFinset ∩ s.clubs).card
                ≤ (ids.filterMap IdValue.id?).toFinset.card :=
                  Finset.card_le_card Finset.inter_subset_left
              _ ≤ (ids.filterMap IdValue.id?).length := List.toFinset_card_le _
              _ ≤ ids.length := List.length_filterMap_le _ _
              _ ≤ 3 := Nat.le_of_not_lt hlen
  | respondToCoachRequest coach request action =>
    simp only [coachClubStep, CoachClubState.handle, RoomToJoin]
    cases hp : s.profiles coach with
    | none => exact iff_of_true h fun _ _ _ _ p hp' => by cases hp'
    | some p =>
      dsimp only
      split_ifs with hfound
      · obtain ⟨hcoach, hpending⟩ := hfound
        cases action with
        | accept =>
          cases htype : request.requestType with
          | add =>
            -- nothing is counted when the coach accepts, so this is where room is needed
            rw [atMostThree_update_iff h rfl, card_insert_le_three_iff (h coach p hp)]
            simp [hcoach, hpending]
          | remove =>
            refine iff_of_true ((atMostThree_update_iff h rfl).mpr ?_) (fun _ hadd => by cases hadd)
            exact (Finset.card_erase_le).trans (h coach p hp)
        | reject => exact iff_of_true h fun haccept => by cases haccept
        | other => exact iff_of_true h fun haccept => by cases haccept
      · exact iff_of_true h fun _ _ hcoach hpending => absurd ⟨hcoach, hpending⟩ hfound
  | approveEditedProfile pk =>
    refine iff_of_true ?_ trivial
    simp only [coachClubStep, CoachClubState.handle]
    split
    · exact h
    · next e he =>
      split
      · exact h
      · next p hp =>
        -- an edit without clubs leaves those of the profile
        refine (atMostThree_update_iff h rfl).mpr ?_
        dsimp only
        split_ifs
        · exact h _ p hp
        · exact hedits pk e he

/-- **The limit of three clubs** holds in every state of a run exactly if, whenever a coach
accepts to join a club, the coach is a member of it or has fewer than three clubs. -/
theorem atMostThree_iff_roomToJoin (s : CoachClubState) (acts : List CoachClubAction)
    (hedits : EditsFit s) (h : AtMostThree s) :
    (∀ t ∈ visited coachClubStep s acts, AtMostThree t) ↔
      Along coachClubStep RoomToJoin s acts :=
  forall_visited_iff editsFit_step atMostThree_step_iff hedits h acts

end Limit

/-- Coach 5 has two clubs, and four clubs are there. -/
def twoClubs : CoachClubState where
  clubs := {1, 2, 3, 4}
  profiles := Function.update (fun _ => none) 5 (some ⟨true, {1, 2}⟩)
  edits _ := none
  requests _ := none

theorem fits_twoClubs : EditsFit twoClubs ∧ AtMostThree twoClubs := by
  refine ⟨fun pk e he => (by cases he), fun coach p hp => ?_⟩
  by_cases hcoach : coach = 5
  · subst hcoach
    obtain rfl : (⟨true, {1, 2}⟩ : CoachProfile) = p := by simpa [twoClubs] using hp
    decide
  · simp [twoClubs, Function.update_of_ne hcoach] at hp

/-- The coach joins a third club, and sets the clubs anew. -/
def thirdClub : List CoachClubAction :=
  [.updateClubCoaches (some 3) (some [.number 5]),
    .respondToCoachRequest 5 ⟨5, 3, .add⟩ .accept,
    .updateCoachClubs 5 (some [.number 1, .number 4])]

theorem thirdClub_atMostThree : AtMostThree (run coachClubStep twoClubs thirdClub) := by
  have hroom : Along coachClubStep RoomToJoin twoClubs thirdClub := by
    refine ⟨trivial, fun _ _ _ _ p hp => ?_, trivial, trivial⟩
    obtain rfl : (⟨true, {1, 2}⟩ : CoachProfile) = p := Option.some.inj hp
    exact Or.inr (by decide)
  exact (atMostThree_iff_roomToJoin twoClubs thirdClub fits_twoClubs.1 fits_twoClubs.2).mpr hroom
    _ (run_mem_visited _ _)

/-- Two clubs ask while the coach has two clubs, and the coach accepts both. -/
def twoAccepted : List CoachClubAction :=
  [.updateClubCoaches (some 3) (some [.number 5]),
    .updateClubCoaches (some 4) (some [.number 5]),
    .respondToCoachRequest 5 ⟨5, 3, .add⟩ .accept,
    .respondToCoachRequest 5 ⟨5, 4, .add⟩ .accept]

theorem twoAccepted_exceeds :
    (EditsFit twoClubs ∧ AtMostThree twoClubs) ∧
      ¬ AtMostThree (run coachClubStep twoClubs twoAccepted) := by
  refine ⟨fits_twoClubs, fun h => ?_⟩
  have hle := h 5 ⟨true, {4, 3, 1, 2}⟩ (by decide)
  revert hle
  decide

/-! ### Requests that reach the coach -/

/-- The requests that a club wants of a selection: each selected coach who may join has a
pending request to join, and each member who was not selected one to leave. -/
def Reached (club : ℕ) (selected : List ℕ) (s : CoachClubState) : Prop :=
  (∀ c ∈ selected, ∀ p, s.profiles c = some p → club ∉ p.clubs → p.clubs.card < 3 →
    s.requests ⟨c, club, .add⟩ = some .pending) ∧
  ∀ c p, s.profiles c = some p → club ∈ p.clubs → c ∉ selected →
    s.requests ⟨c, club, .remove⟩ = some .pending

/-- No request was answered before. -/
def Open (status : Option RequestStatus) : Prop := status = none ∨ status = some .pending

/-- None of these requests was answered before. -/
def Unanswered (club : ℕ) (selected : List ℕ) (s : CoachClubState) : Prop :=
  (∀ c ∈ selected, ∀ p, s.profiles c = some p → club ∉ p.clubs → p.clubs.card < 3 →
    Open (s.requests ⟨c, club, .add⟩)) ∧
  ∀ c p, s.profiles c = some p → club ∈ p.clubs → c ∉ selected →
    Open (s.requests ⟨c, club, .remove⟩)

/-- The action is the one of a club with this selection of coaches. -/
def Selects (club : ℕ) (selected : List ℕ) (a : CoachClubAction) (s : CoachClubState) : Prop :=
  a = .updateClubCoaches (some club) (some (selected.map .number)) ∧
    ∀ c ∈ selected, ∃ p, s.profiles c = some p ∧ p.isCoach = true

/-- A club that selects coaches reaches them. -/
def Delivers (a : CoachClubAction) (s : CoachClubState) : Prop :=
  ∀ club selected, Selects club selected a s → Reached club selected (coachClubStep a s)

/-- A club that selects coaches wants no request that was answered before. -/
def AsksAnew (a : CoachClubAction) (s : CoachClubState) : Prop :=
  ∀ club selected, Selects club selected a s → Unanswered club selected s

section Requests

variable {s : CoachClubState} {club : ℕ} {selected : List ℕ} {r : CoachClubRequest}

theorem open_iff {status : Option RequestStatus} :
    Open status ↔ status.or (some .pending) = some .pending := by
  cases status with
  | none => simp [Open]
  | some status => simp [Open]

theorem requests_getOrCreate (r r' : CoachClubRequest) :
    (s.getOrCreate r).requests r' =
      if r' = r then (s.requests r).or (some .pending) else s.requests r' := by
  unfold CoachClubState.getOrCreate
  split_ifs with hsome heq heq
  · subst heq
    obtain ⟨status, hstatus⟩ := Option.isSome_iff_exists.mp hsome
    rw [hstatus, Option.some_or]
  · rfl
  · subst heq
    rw [Option.not_isSome_iff_eq_none.mp hsome]
    exact Function.update_self r' _ _
  · exact Function.update_of_ne heq _ _

/-- The coach is no member and has room for a club. -/
def CoachClubState.mayJoin (s : CoachClubState) (club coach : ℕ) : Bool :=
  (s.profiles coach).any fun p => club ∉ p.clubs && p.clubs.card < 3

theorem mayJoin_iff {c : ℕ} :
    s.mayJoin club c = true ↔
      ∃ p, s.profiles c = some p ∧ club ∉ p.clubs ∧ p.clubs.card < 3 := by
  simp [CoachClubState.mayJoin, Option.any_eq_true]

/-- **What the loop over the new coaches does**: of those who may join, each has a request
afterwards. -/
theorem requestAdds_coaches (club : ℕ) (hselected : ∀ c ∈ selected, ∃ p, s.profiles c = some p) :
    ∃ s', CoachClubState.requestAdds club (selected.map .number) s = (s', .ok ()) ∧
      s'.profiles = s.profiles ∧ ∀ r, s'.requests r =
        if r.coach ∈ selected ∧ r.requestType = .add ∧ r.club = club ∧
            s.mayJoin club r.coach = true then
          (s.requests r).or (some .pending)
        else s.requests r := by
  induction selected generalizing s with
  | nil => exact ⟨s, rfl, rfl, fun r => by simp⟩
  | cons c rest ih =>
    obtain ⟨p, hp⟩ := hselected c List.mem_cons_self
    have hrest : ∀ c ∈ rest, ∃ p, s.profiles c = some p :=
      fun c hc => hselected c (List.mem_cons_of_mem _ hc)
    have hactive : s.isActive club (.number c) = decide (club ∈ p.clubs) := by
      rw [CoachClubState.isActive, CoachClubState.isMember, hp, Option.any_some]
    simp only [List.map_cons, CoachClubState.requestAdds, hactive, IdValue.id?, Option.bind_some,
      hp, Option.map_some, decide_eq_true_eq]
    by_cases hjoin : s.mayJoin club c = true
    · -- the coach is asked
      obtain ⟨q, hq, hnot, hlt⟩ := mayJoin_iff.mp hjoin
      obtain rfl := Option.some.inj (hp.symm.trans hq)
      rw [if_neg hnot, if_neg (Nat.not_le_of_lt hlt)]
      have hprofiles := (profiles_getOrCreate (s := s) ⟨c, club, .add⟩).1
      obtain ⟨s', heq, hprofiles', hreqs⟩ := ih (s := s.getOrCreate ⟨c, club, .add⟩)
        (by rwa [hprofiles])
      refine ⟨s', heq, hprofiles'.trans hprofiles, fun r => ?_⟩
      have hmay : (s.getOrCreate ⟨c, club, .add⟩).mayJoin club r.coach =
          s.mayJoin club r.coach := by
        rw [CoachClubState.mayJoin, hprofiles, CoachClubState.mayJoin]
      rw [hreqs, hmay, requests_getOrCreate]
      by_cases hr : r = ⟨c, club, .add⟩
      · subst hr
        simp [hjoin]
      · rw [if_neg hr]
        refine if_congr (and_congr_left fun ⟨htype, hclub, _⟩ => ?_) rfl rfl
        rw [List.mem_cons, or_iff_right]
        rintro rfl
        exact hr (by rw [← hclub, ← htype])
    · -- and is not, if a member or without room
      have hskip : (if club ∈ p.clubs then CoachClubState.requestAdds club (rest.map .number) s
          else if 3 ≤ p.clubs.card then CoachClubState.requestAdds club (rest.map .number) s
          else CoachClubState.requestAdds club (rest.map .number)
            (s.getOrCreate ⟨c, club, .add⟩)) =
          CoachClubState.requestAdds club (rest.map .number) s := by
        split_ifs with hmem hfull
        · rfl
        · rfl
        · exact absurd (mayJoin_iff.mpr ⟨p, hp, hmem, Nat.lt_of_not_le hfull⟩) hjoin
      obtain ⟨s', heq, hprofiles, hreqs⟩ := ih (s := s) hrest
      refine ⟨s', hskip.trans heq, hprofiles, fun r => ?_⟩
      rw [hreqs]
      refine if_congr (and_congr_left fun ⟨_, _, hmay⟩ => ?_) rfl rfl
      rw [List.mem_cons, or_iff_right]
      rintro rfl
      exact hjoin hmay

/-- The step of a club with a selection of coaches, on one request. -/
theorem requests_selects {a : CoachClubAction} (h : Selects club selected a s) :
    (coachClubStep a s).profiles = s.profiles ∧
      ∀ c,
        (coachClubStep a s).requests ⟨c, club, .add⟩ =
          (if c ∈ selected ∧ s.mayJoin club c = true then
            (s.requests ⟨c, club, .add⟩).or (some .pending)
          else s.requests ⟨c, club, .add⟩) ∧
        (coachClubStep a s).requests ⟨c, club, .remove⟩ =
          if s.isMember club c = true ∧ c ∉ selected then
            (s.requests ⟨c, club, .remove⟩).or (some .pending)
          else s.requests ⟨c, club, .remove⟩ := by
  obtain ⟨rfl, hcoaches⟩ := h
  obtain ⟨s', heq, hprofiles, hreqs⟩ := requestAdds_coaches club
    fun c hc => (hcoaches c hc).imp fun _ => And.left
  simp only [coachClubStep, CoachClubState.handle, heq, CoachClubState.requestRemoves, hreqs]
  refine ⟨hprofiles, fun c => ⟨by simp, ?_⟩⟩
  have hmember : s'.isMember club c = s.isMember club c := by
    rw [CoachClubState.isMember, hprofiles, CoachClubState.isMember]
  have hselected : IdValue.number c ∈ selected.map IdValue.number ↔ c ∈ selected := by
    simp
  simp [hmember, hselected]

/-- **One step** makes the requests reach the coaches exactly if none of them was answered
before. -/
theorem reached_step_iff {a : CoachClubAction} (h : Selects club selected a s) :
    Reached club selected (coachClubStep a s) ↔ Unanswered club selected s := by
  obtain ⟨hprofiles, hreqs⟩ := requests_selects h
  rw [Reached, hprofiles, Unanswered]
  refine and_congr ?_ ?_
  · refine forall₂_congr fun c hc => forall₄_congr fun p hp hnot hlt => ?_
    rw [(hreqs c).1, if_pos ⟨hc, mayJoin_iff.mpr ⟨p, hp, hnot, hlt⟩⟩, open_iff]
  · refine forall₄_congr fun c p hp hmem => forall_congr' fun hc => ?_
    have hmember : s.isMember club c = true := by
      rw [CoachClubState.isMember, hp, Option.any_some, decide_eq_true hmem]
    rw [(hreqs c).2, if_pos ⟨hmember, hc⟩, open_iff]

/-- **The requests of clubs reach the coaches** in exactly the runs in which, whenever a club
selects coaches, none of the requests it then wants was accepted or rejected before. -/
theorem reached_iff_unanswered (s : CoachClubState) (acts : List CoachClubAction) :
    Along coachClubStep Delivers s acts ↔ Along coachClubStep AsksAnew s acts := by
  have hiff : ∀ a s, Delivers a s ↔ AsksAnew a s := fun a s =>
    forall₃_congr fun _ _ hselects => reached_step_iff hselects
  exact ⟨Along.mono fun a s => (hiff a s).mp, Along.mono fun a s => (hiff a s).mpr⟩

end Requests

/-- Coach 5 declines to join club 3, which asks again. -/
def declined : List CoachClubAction :=
  [.updateClubCoaches (some 3) (some [.number 5]),
    .respondToCoachRequest 5 ⟨5, 3, .add⟩ .reject]

theorem declined_not_asked_again :
    Selects 3 [5] (.updateClubCoaches (some 3) (some [.number 5]))
        (run coachClubStep twoClubs declined) ∧
      ¬ Reached 3 [5] (coachClubStep (.updateClubCoaches (some 3) (some [.number 5]))
        (run coachClubStep twoClubs declined)) := by
  refine ⟨⟨rfl, fun c hc => ?_⟩, fun h => ?_⟩
  · obtain rfl := List.mem_singleton.mp hc
    exact ⟨⟨true, {1, 2}⟩, by decide, rfl⟩
  · have hpending := h.1 5 (by decide) ⟨true, {1, 2}⟩ (by decide) (by decide) (by decide)
    revert hpending
    decide

end Tkdchb.Accounts
