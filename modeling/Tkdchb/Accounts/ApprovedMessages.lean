import Tkdchb.Accounts.ApprovalBatch

/-!
# Messages for approved applicants

The messages of an approval go out while the transaction is open, and nothing takes them back.
Whether they are right in the end can be told from the applications alone: a row is refused if
its unique columns are taken by a row that was there, or by an earlier application of the batch.

## Main definitions

* `ApprovalKind` — what the approvals of people and of clubs have in common
* `ApprovalKind.Creates` — the row of an application will be made
* `PendingAdmin.forecast` — what each application comes to

## Main results

* `ApprovalKind.noClash_iff` — when the row of an application is refused
* `approval_messages_match_iff` — when messages and report fit what is committed
-/

namespace Tkdchb.Accounts

open AtomicBatch

/-! ### Users by name -/

def userName (users : Table User) (id : ℕ) : Option String := (users.get id).map User.username

/-- The user of the name. -/
def userNamed (users : Table User) (name : String) : Option ℕ :=
  (users.oldest fun u => u.username = name).map Prod.fst

/-- The user that `get_or_create` gives for the name. -/
def userFor (users : Table User) (name : String) : ℕ := (userNamed users name).getD users.next

/-- Users stay under their names, and new ones come behind them. -/
structure GrowsUsers (users users' : Table User) : Prop where
  next_le : users.next ≤ users'.next
  userName : ∀ id < users.next, userName users' id = userName users id

section Users

variable {users users' users'' : Table User} {name name' : String} {id : ℕ}

theorem userName_eq_some_iff :
    userName users id = some name ↔ ∃ u, users.get id = some u ∧ u.username = name :=
  Option.map_eq_some_iff

theorem userNamed_eq_some_iff : userNamed users name = some id ↔
    userName users id = some name ∧ ∀ j < id, userName users j ≠ some name := by
  simp only [userNamed, Option.map_eq_some_iff, Prod.exists, exists_and_right,
    exists_eq_right, Table.oldest_eq_some_iff, decide_eq_true_eq, decide_eq_false_iff_not, ne_eq,
    userName_eq_some_iff, not_exists, not_and]
  constructor
  · rintro ⟨u, hu, hname, hearlier⟩
    exact ⟨⟨u, hu, hname⟩, fun j hj v hv => hearlier j v hj hv⟩
  · rintro ⟨⟨u, hu, hname⟩, hearlier⟩
    exact ⟨u, hu, hname, fun j v hj hv => hearlier j hj v hv⟩

theorem userNamed_eq_none_iff :
    userNamed users name = none ↔ ∀ j, userName users j ≠ some name := by
  simp only [userNamed, Option.map_eq_none_iff, Table.oldest_eq_none_iff,
    decide_eq_false_iff_not, ne_eq, userName_eq_some_iff, not_exists, not_and]

theorem lt_next_of_userNamed (h : userNamed users name = some id) : id < users.next := by
  obtain ⟨u, hu, -⟩ := userName_eq_some_iff.mp (userNamed_eq_some_iff.mp h).1
  exact Table.lt_next_of_get hu

/-- A user has one name. -/
theorem userNamed_inj (h : userNamed users name = some id) (h' : userNamed users name' = some id) :
    name = name' := by
  have hname := (userNamed_eq_some_iff.mp h).1
  have hname' := (userNamed_eq_some_iff.mp h').1
  exact Option.some.inj (hname.symm.trans hname')

theorem userFor_of_userNamed (h : userNamed users name = some id) : userFor users name = id := by
  rw [userFor, h, Option.getD_some]

namespace GrowsUsers

theorem refl (users : Table User) : GrowsUsers users users := ⟨le_rfl, fun _ _ => rfl⟩

theorem trans (h : GrowsUsers users users') (h' : GrowsUsers users' users'') :
    GrowsUsers users users'' where
  next_le := h.next_le.trans h'.next_le
  userName id hid := (h'.userName id (hid.trans_le h.next_le)).trans (h.userName id hid)

/-- Among the users that were there, a name has the same one. -/
theorem userNamed_iff (h : GrowsUsers users users') (hid : id < users.next) :
    userNamed users' name = some id ↔ userNamed users name = some id := by
  rw [userNamed_eq_some_iff, userNamed_eq_some_iff, h.userName id hid]
  refine and_congr_right fun _ => forall₂_congr fun j hj => ?_
  rw [h.userName j (hj.trans hid)]

theorem userNamed_eq_some (h : GrowsUsers users users') (hnamed : userNamed users name = some id) :
    userNamed users' name = some id :=
  (h.userNamed_iff (lt_next_of_userNamed hnamed)).mpr hnamed

/-- A user that was there is the one of the name only if it was before. -/
theorem userFor_eq_iff (h : GrowsUsers users users') (hid : id < users.next) :
    userFor users' name = id ↔ userNamed users name = some id := by
  rw [← h.userNamed_iff hid]
  refine ⟨fun hfor => ?_, userFor_of_userNamed⟩
  cases hnamed : userNamed users' name with
  | none =>
    -- a new user comes behind all that were there
    rw [userFor, hnamed, Option.getD_none] at hfor
    exact absurd (hfor ▸ hid.trans_le h.next_le) (lt_irrefl _)
  | some id' => rw [← hfor, userFor_of_userNamed hnamed]

end GrowsUsers

theorem getOrCreate_snd (t : AccountTables) (phone code : String) :
    (t.getOrCreateAuthUserByPhone phone code).2 = userFor t.users (normalizePhone phone) := by
  unfold AccountTables.getOrCreateAuthUserByPhone userFor userNamed
  dsimp only
  cases t.users.oldest fun u => u.username = normalizePhone phone with
  | none => rfl
  | some x => rfl

/-- The helper renames no user. -/
theorem growsUsers_getOrCreate (t : AccountTables) (phone code : String) :
    GrowsUsers t.users (t.getOrCreateAuthUserByPhone phone code).1.users := by
  unfold AccountTables.getOrCreateAuthUserByPhone
  dsimp only
  split
  · refine ⟨Nat.le_succ _, fun id hid => ?_⟩
    exact congrArg (Option.map User.username) (Table.get_insert_of_ne hid.ne)
  · next k _ _ =>
    refine ⟨le_rfl, fun id _ => ?_⟩
    unfold userName
    dsimp only
    rw [Table.get_modify]
    by_cases heq : id = k
    · rw [if_pos heq, Option.map_map]
      rfl
    · rw [if_neg heq]

/-- Afterwards the name has its user. -/
theorem userNamed_getOrCreate (t : AccountTables) (phone code : String) :
    userNamed (t.getOrCreateAuthUserByPhone phone code).1.users (normalizePhone phone) =
      some (userFor t.users (normalizePhone phone)) := by
  have hgrows := growsUsers_getOrCreate t phone code
  cases hnamed : userNamed t.users (normalizePhone phone) with
  | some id => rw [hgrows.userNamed_eq_some hnamed, userFor_of_userNamed hnamed]
  | none =>
    have hnone : (t.users.oldest fun u => u.username = normalizePhone phone) = none :=
      Option.map_eq_none_iff.mp hnamed
    rw [userFor, hnamed, Option.getD_none, userNamed_eq_some_iff]
    constructor
    · simp only [AccountTables.getOrCreateAuthUserByPhone, hnone, userName,
        Table.get_insert_next, Option.map_some]
    · intro j hj
      rw [hgrows.userName j hj]
      exact userNamed_eq_none_iff.mp hnamed j

end Users

/-! ### What the approvals have in common -/

/-- The rows that an approval makes, and the applications it makes them of. -/
structure ApprovalKind (ρ κ : Type) where
  rows : AccountTables → Table ρ
  pendings : AccountTables → Table κ
  /-- The row of an application, with its user. -/
  row : κ → ℕ → ρ
  userOf : ρ → Option ℕ
  /-- The name of the user. -/
  username : κ → String
  /-- A row has the value of a unique column of an application, besides the user. -/
  shares : ρ → κ → Prop
  /-- Two applications have the value of such a column in common. -/
  sharesPending : κ → κ → Prop
  userOf_row : ∀ p user, userOf (row p user) = some user
  shares_row : ∀ p' user p, shares (row p' user) p ↔ sharesPending p' p
  /-- Nothing but a clash keeps the row from being made. -/
  attempts : ApprovalWorld → ℕ → κ → Prop

/-- Players, coaches and referees. -/
def peopleKind : ApprovalKind UserProfile PendingUserProfile where
  rows := AccountTables.profiles
  pendings := AccountTables.pendingProfiles
  row := profileOfPending
  userOf := UserProfile.user
  username p := normalizePhone p.phone
  shares q p := q.nationalCode = p.nationalCode ∨ q.phone = normalizePhone p.phone
  sharesPending p' p :=
    p'.nationalCode = p.nationalCode ∨ normalizePhone p'.phone = normalizePhone p.phone
  userOf_row _ _ := rfl
  shares_row _ _ _ := by simp only [profileOfPending]
  attempts w pk _ := w.userFault pk = none ∧ w.createFault pk = none

/-- Clubs. The name of the user is normalised twice. -/
def clubKind : ApprovalKind TkdClub PendingClub where
  rows := AccountTables.clubs
  pendings := AccountTables.pendingClubs
  row := clubOfPending
  userOf := TkdClub.user
  username p := normalizePhone (normalizePhone (founderNumber p))
  shares c p := c.clubName = p.clubName ∧ c.city = p.city
  sharesPending p' p := p'.clubName = p.clubName ∧ p'.city = p.city
  userOf_row _ _ := rfl
  shares_row _ _ _ := Iff.rfl
  attempts w pk p := founderNumber p ≠ "" ∧ w.userFault pk = none ∧ w.createFault pk = none

theorem peopleKind_username (p : PendingUserProfile) :
    peopleKind.username p = normalizePhone p.phone := by
  simp only [peopleKind]

theorem clubKind_username (p : PendingClub) :
    clubKind.username p = normalizePhone (normalizePhone (founderNumber p)) := by
  simp only [clubKind]

namespace ApprovalKind

variable {ρ κ : Type} {K : ApprovalKind ρ κ} {w : ApprovalWorld} {t s s' : AccountTables}
  {earlier : List ℕ} {pk : ℕ} {p : κ}

/-- The rows belong to users that are there. -/
def ForeignKeys (K : ApprovalKind ρ κ) (t : AccountTables) : Prop :=
  ∀ k q user, (K.rows t).get k = some q → K.userOf q = some user →
    (t.users.get user).isSome = true

/-- A row that is there has the user of the application, or the value of a unique column. -/
def Taken (K : ApprovalKind ρ κ) (t : AccountTables) (p : κ) : Prop :=
  ∃ k q, (K.rows t).get k = some q ∧
    (K.shares q p ∨ ∃ user, K.userOf q = some user ∧ userNamed t.users (K.username p) = some user)

/-- Two applications have the name of the user in common, or the value of a unique column. -/
def Same (K : ApprovalKind ρ κ) (p' p : κ) : Prop :=
  K.sharesPending p' p ∨ K.username p' = K.username p

/-- The row of the application is refused. -/
def Refused (K : ApprovalKind ρ κ) (w : ApprovalWorld) (t : AccountTables) (earlier : List ℕ)
    (p : κ) : Prop :=
  K.Taken t p ∨
    ∃ e ∈ earlier, ∃ p', (K.pendings t).get e = some p' ∧ K.attempts w e p' ∧ K.Same p' p

/-- The row of the application will be made. -/
def Creates (K : ApprovalKind ρ κ) (w : ApprovalWorld) (t : AccountTables) (earlier : List ℕ)
    (pk : ℕ) : Prop :=
  ∃ p, (K.pendings t).get pk = some p ∧ K.attempts w pk p ∧ ¬K.Refused w t earlier p

theorem creates_iff (hp : (K.pendings t).get pk = some p) :
    K.Creates w t earlier pk ↔ K.attempts w pk p ∧ ¬K.Refused w t earlier p := by
  simp [Creates, hp]

/-- **The tables after part of a batch.** Users keep their names; rows are those that were there
and those of the applications; the other applications are as they were. -/
structure AfterBatch (K : ApprovalKind ρ κ) (w : ApprovalWorld) (t : AccountTables)
    (earlier : List ℕ) (s : AccountTables) : Prop where
  users : GrowsUsers t.users s.users
  old : ∀ k q, (K.rows t).get k = some q → (K.rows s).get k = some q
  made : ∀ e ∈ earlier, ∀ p, (K.pendings t).get e = some p → K.attempts w e p →
    ∃ k user, (K.rows s).get k = some (K.row p user) ∧ userNamed s.users (K.username p) = some user
  only : ∀ k q, (K.rows s).get k = some q → (K.rows t).get k = some q ∨
    ∃ e ∈ earlier, ∃ p user, (K.pendings t).get e = some p ∧ K.attempts w e p ∧
      q = K.row p user ∧ userNamed s.users (K.username p) = some user
  pending : ∀ e, e ∉ earlier → (K.pendings s).get e = (K.pendings t).get e

theorem afterBatch_nil : K.AfterBatch w t [] t where
  users := GrowsUsers.refl t.users
  old _ _ h := h
  made _ he := by cases he
  only _ _ h := .inl h
  pending _ _ := rfl

/-- An application without a row. -/
theorem AfterBatch.skip (h : K.AfterBatch w t earlier s) (husers : GrowsUsers s.users s'.users)
    (hrows : K.rows s' = K.rows s) (hpendings : K.pendings s' = K.pendings s)
    (hnot : ∀ p, (K.pendings t).get pk = some p → ¬K.attempts w pk p) :
    K.AfterBatch w t (earlier ++ [pk]) s' where
  users := h.users.trans husers
  old k q hq := hrows ▸ h.old k q hq
  made e he p hp hattempts := by
    rcases List.mem_append.mp he with he | he
    · obtain ⟨k, user, hrow, hnamed⟩ := h.made e he p hp hattempts
      rw [hrows]
      exact ⟨k, user, hrow, husers.userNamed_eq_some hnamed⟩
    · obtain rfl := List.mem_singleton.mp he
      exact absurd hattempts (hnot p hp)
  only k q hq := by
    refine (h.only k q (hrows ▸ hq)).imp_right ?_
    rintro ⟨e, he, p, user, hp, hattempts, hrow, hnamed⟩
    exact ⟨e, List.mem_append_left _ he, p, user, hp, hattempts, hrow,
      husers.userNamed_eq_some hnamed⟩
  pending e he := by
    rw [hpendings]
    exact h.pending e fun hmem => he (List.mem_append_left _ hmem)

/-- An application whose row is made. -/
theorem AfterBatch.insert (h : K.AfterBatch w t earlier s) (user : ℕ)
    (hp : (K.pendings t).get pk = some p) (hattempts : K.attempts w pk p)
    (husers : GrowsUsers s.users s'.users) (hnamed : userNamed s'.users (K.username p) = some user)
    (hrows : K.rows s' = (K.rows s).insert (K.row p user))
    (hpendings : ∀ e, e ≠ pk → (K.pendings s').get e = (K.pendings s).get e) :
    K.AfterBatch w t (earlier ++ [pk]) s' where
  users := h.users.trans husers
  old k q hq := by
    rw [hrows]
    exact Table.get_insert_of_get (h.old k q hq)
  made e he p' hp' hattempts' := by
    rcases List.mem_append.mp he with he | he
    · obtain ⟨k, user', hrow, hnamed'⟩ := h.made e he p' hp' hattempts'
      rw [hrows]
      exact ⟨k, user', Table.get_insert_of_get hrow, husers.userNamed_eq_some hnamed'⟩
    · obtain rfl := List.mem_singleton.mp he
      obtain rfl := Option.some.inj (hp.symm.trans hp')
      rw [hrows]
      exact ⟨(K.rows s).next, user, Table.get_insert_next, hnamed⟩
  only k q hq := by
    rw [hrows] at hq
    rcases Table.get_insert_cases hq with hq | ⟨-, rfl⟩
    · refine (h.only k q hq).imp_right ?_
      rintro ⟨e, he, p', user', hp', hattempts', hrow, hnamed'⟩
      exact ⟨e, List.mem_append_left _ he, p', user', hp', hattempts', hrow,
        husers.userNamed_eq_some hnamed'⟩
    · exact .inr ⟨pk, List.mem_append_right _ List.mem_cons_self, p, user, hp, hattempts, rfl,
        hnamed⟩
  pending e he := by
    rw [List.mem_append, List.mem_singleton, not_or] at he
    rw [hpendings e he.2]
    exact h.pending e he.1

/-- **When the row is refused**, by the tables that the earlier applications leave: the clash was
there before, or is with one of them. -/
theorem AfterBatch.noClash_iff (h : K.AfterBatch w t earlier s) (hkeys : K.ForeignKeys t) :
    (∀ k q, (K.rows s).get k = some q →
      ¬(K.shares q p ∨ K.userOf q = some (userFor s.users (K.username p)))) ↔
      ¬K.Refused w t earlier p := by
  constructor
  · rintro hno (⟨k, q, hq, hshares | ⟨user, huser, hnamed⟩⟩ | ⟨e, he, p', hp', hattempts, hsame⟩)
    -- a row that was there is still there, and so is its user
    · exact hno k q (h.old k q hq) (.inl hshares)
    · have hnamed' := h.users.userNamed_eq_some hnamed
      refine hno k q (h.old k q hq) (.inr ?_)
      rw [huser, userFor_of_userNamed hnamed']
    -- an earlier application has its row by now
    · obtain ⟨k, user, hrow, hnamed⟩ := h.made e he p' hp' hattempts
      refine hno k _ hrow ?_
      rcases hsame with hshares | hname
      · exact .inl ((K.shares_row p' user p).mpr hshares)
      · right
        rw [K.userOf_row, ← hname, userFor_of_userNamed hnamed]
  · intro hnot k q hq hclash
    rcases h.only k q hq with hold | ⟨e, he, p', user, hp', hattempts, rfl, hnamed⟩
    · refine hnot (.inl ⟨k, q, hold, hclash.imp_right fun huser => ⟨_, huser, ?_⟩⟩)
      -- the user was there, so the name had it before
      have hthere := hkeys k q _ hold huser
      obtain ⟨u, hu⟩ := Option.isSome_iff_exists.mp hthere
      exact (h.users.userFor_eq_iff (Table.lt_next_of_get hu)).mp rfl
    · refine hnot (.inr ⟨e, he, p', hp', hattempts, ?_⟩)
      rcases hclash with hshares | huser
      · exact .inl ((K.shares_row p' user p).mp hshares)
      · rw [K.userOf_row, Option.some.injEq] at huser
        have hlt := lt_next_of_userNamed hnamed
        have hsame := ((GrowsUsers.refl s.users).userFor_eq_iff hlt).mp huser.symm
        exact .inr (userNamed_inj hnamed hsame)

end ApprovalKind

section Rows

variable {w : ApprovalWorld} {t s : AccountTables} {earlier : List ℕ} {pk : ℕ}

theorem exists_createProfile_iff {p : PendingUserProfile} {user : ℕ} :
    (∃ s', s.createProfile (profileOfPending p user) = some s') ↔
      ∀ k q, s.profiles.get k = some q →
        ¬(peopleKind.shares q p ∨ peopleKind.userOf q = some user) := by
  have hclash : ∀ q, ProfilesClash q (profileOfPending p user) ↔
      peopleKind.shares q p ∨ peopleKind.userOf q = some user := by
    intro q
    simp only [ProfilesClash, profileOfPending, peopleKind, or_assoc]
    refine or_congr_right (or_congr_right (and_iff_right_of_imp fun huser => ?_))
    rw [huser, Option.isSome_some]
  simp only [createProfile_eq_some_iff, exists_and_left, exists_eq', and_true, hclash]

theorem exists_createClub_iff {p : PendingClub} {user : ℕ} :
    (∃ s', s.createClub (clubOfPending p user) = some s') ↔
      ∀ k c, s.clubs.get k = some c →
        ¬(clubKind.shares c p ∨ clubKind.userOf c = some user) := by
  have hclash : ∀ c, ClubsClash c (clubOfPending p user) ↔
      clubKind.shares c p ∨ clubKind.userOf c = some user := by
    intro c
    refine or_congr_right (and_iff_right_of_imp fun huser => ?_)
    rw [huser]
    rfl
  simp only [createClub_eq_some_iff, exists_and_left, exists_eq', and_true, hclash]

/-- A person's row is made unless something fails or clashes. -/
theorem profileMade_isSome_iff {p : PendingUserProfile} :
    (profileMade w s pk p).isSome = true ↔ peopleKind.attempts w pk p ∧
      ∀ k q, s.profiles.get k = some q → ¬(peopleKind.shares q p ∨
        peopleKind.userOf q = some (userFor s.users (peopleKind.username p))) := by
  unfold profileMade createProfileFromPending
  dsimp only
  rw [getOrCreate_snd, getOrCreate_fst, peopleKind_username]
  split_ifs with hfault hfault'
  · rw [Option.isSome_iff_ne_none] at hfault
    exact iff_of_false (by simp) fun h => hfault h.1.1
  · rw [Option.isSome_iff_ne_none] at hfault'
    exact iff_of_false (by simp) fun h => hfault' h.1.2
  · rw [Option.not_isSome_iff_eq_none] at hfault hfault'
    have hattempts : peopleKind.attempts w pk p := ⟨hfault, hfault'⟩
    rw [and_iff_right hattempts, Option.isSome_iff_exists]
    exact exists_createProfile_iff

/-- A club's row is made unless something fails or clashes. -/
theorem exists_clubMade_iff {p : PendingClub} :
    (∃ s', clubMade w s pk p = .ok s') ↔ clubKind.attempts w pk p ∧
      ∀ k c, s.clubs.get k = some c → ¬(clubKind.shares c p ∨
        clubKind.userOf c = some (userFor s.users (clubKind.username p))) := by
  unfold clubMade
  dsimp only
  rw [getOrCreate_snd, getOrCreate_fst, clubKind_username]
  split_ifs with hempty
  · exact iff_of_false (by simp) fun h => h.1.1 hempty
  · cases hfault : w.userFault pk with
    | some fault =>
      refine iff_of_false (by simp) fun h => ?_
      rw [h.1.2.1] at hfault
      cases hfault
    | none =>
      cases hfault' : w.createFault pk with
      | some fault =>
        refine iff_of_false (by simp) fun h => ?_
        rw [h.1.2.2] at hfault'
        cases hfault'
      | none =>
        have hattempts : clubKind.attempts w pk p := ⟨hempty, hfault, hfault'⟩
        rw [and_iff_right hattempts]
        generalize (s.getOrCreateAuthUserByPhone _ _).1.users = users
        refine Iff.trans ?_ (@exists_createClub_iff { s with users } p _)
        dsimp only
        split
        · next hnone =>
          rw [hnone]
          simp
        · next t'' hsome =>
          rw [hsome]
          simp

/-- The tables after a person that the loop goes on after. -/
theorem afterBatch_person {s' : AccountTables} {p : PendingUserProfile} {made : Option ℕ}
    {sent counted : Bool} (hafter : peopleKind.AfterBatch w t earlier s)
    (hp : t.pendingProfiles.get pk = some p) (hrow : s.pendingProfiles.get pk = some p)
    (hact : approvePendingPerson w s pk = .passes s' made sent counted) :
    peopleKind.AfterBatch w t (earlier ++ [pk]) s' := by
  obtain ⟨t', hmade, -, hs'⟩ := approvePendingPerson_passes hrow hact
  have hattempts := (profileMade_isSome_iff.mp (by rw [hmade]; rfl)).1
  have ht' := profileMade_eq_some hmade
  dsimp only at ht'
  rw [getOrCreate_snd] at ht'
  have husers : s'.users =
      (s.getOrCreateAuthUserByPhone p.phone p.nationalCode).1.users := by
    rw [hs', ht']
    cases counted <;> rfl
  refine hafter.insert (userFor s.users (normalizePhone p.phone)) hp hattempts ?_ ?_ ?_ ?_
  · rw [husers]
    exact growsUsers_getOrCreate s p.phone p.nationalCode
  · rw [husers, peopleKind_username]
    exact userNamed_getOrCreate s p.phone p.nationalCode
  · rw [hs', ht']
    cases counted <;> rfl
  · intro e he
    rw [hs', ht']
    cases counted with
    | false => rfl
    | true => exact if_neg he

/-- The tables after a club that the loop goes on after, whether or not its row is made. -/
theorem afterBatch_club {s' : AccountTables} {p : PendingClub} {made : Option ℕ}
    {sent counted : Bool} (hafter : clubKind.AfterBatch w t earlier s)
    (hp : t.pendingClubs.get pk = some p) (hrow : s.pendingClubs.get pk = some p)
    (hact : approvePendingClub w s pk = .passes s' made sent counted) :
    clubKind.AfterBatch w t (earlier ++ [pk]) s' := by
  obtain ⟨users, rfl, -, -, -, hleft⟩ | ⟨t', hmade, -, hs'⟩ := approvePendingClub_passes hrow hact
  · refine hafter.skip ?_ rfl rfl fun p' hp' hattempts => ?_
    · rcases hleft.users with rfl | rfl
      · exact GrowsUsers.refl s.users
      · exact growsUsers_getOrCreate ..
    · obtain rfl := Option.some.inj (hp.symm.trans hp')
      obtain ⟨hnumber, huser, hcreate⟩ := hattempts
      rcases hleft.fails with hempty | hfault | ⟨-, hfault⟩
      · exact hnumber hempty
      · rw [huser] at hfault
        cases hfault
      · rw [hcreate] at hfault
        cases hfault
  · have hattempts := (exists_clubMade_iff.mp ⟨t', hmade⟩).1
    have ht' := clubMade_eq_ok hmade
    dsimp only at ht'
    rw [getOrCreate_snd] at ht'
    have husers : s'.users = (s.getOrCreateAuthUserByPhone (normalizePhone (founderNumber p))
        p.founderNationalCode).1.users := by
      rw [hs', ht']
      cases counted <;> rfl
    refine hafter.insert (userFor s.users (clubKind.username p)) hp hattempts ?_ ?_ ?_ ?_
    · rw [husers]
      exact growsUsers_getOrCreate ..
    · rw [husers, clubKind_username]
      exact userNamed_getOrCreate ..
    · rw [hs', ht', clubKind_username]
      cases counted <;> rfl
    · intro e he
      rw [hs', ht']
      cases counted with
      | false => rfl
      | true => exact if_neg he

end Rows

/-! ### What each application comes to -/

/-- A person disturbs the transaction by whatever fails, the row being refused included, and
also by the database error that `safe_delete_pending` catches. -/
def peopleForecast (w : ApprovalWorld) (t : AccountTables) : Forecast ℕ where
  disturbs earlier pk := ¬peopleKind.Creates w t earlier pk ∨
    w.deleteFault pk = some .integrityError ∨ ∃ fault, w.deleteFault pk = some (.raises fault)
  escapes earlier pk := ¬peopleKind.Creates w t earlier pk ∨
    ∃ fault, w.deleteFault pk = some (.raises fault)
  makes := peopleKind.Creates w t
  tells pk := ∃ p, t.pendingProfiles.get pk = some p ∧ tellsPerson w pk p = true
  removes pk := w.deleteFault pk = none

/-- A club disturbs it by a database error: of the user, of the club, which may be refused, or of
the deletion. -/
def clubForecast (w : ApprovalWorld) (t : AccountTables) : Forecast ℕ where
  disturbs earlier pk := ∃ p, t.pendingClubs.get pk = some p ∧ founderNumber p ≠ "" ∧
    (w.userFault pk = some .database ∨ w.userFault pk = none ∧
      (w.createFault pk = some .database ∨ w.createFault pk = none ∧
        (clubKind.Refused w t earlier p ∨ w.deleteFault pk = some .integrityError ∨
          w.deleteFault pk = some (.raises .database))))
  escapes _ _ := False
  makes := clubKind.Creates w t
  tells pk := ∃ p, t.pendingClubs.get pk = some p ∧ tellsClub w pk p = true
  removes pk := w.deleteFault pk = none

section Says

variable {w : ApprovalWorld} {t s : AccountTables} {batch earlier : List ℕ} {pk : ℕ}

/-- **The forecast for a person** is right. -/
theorem peopleForecast_right {p : PendingUserProfile} (hkeys : peopleKind.ForeignKeys t)
    (hafter : peopleKind.AfterBatch w t earlier s) (hp : t.pendingProfiles.get pk = some p)
    (hrow : s.pendingProfiles.get pk = some p) :
    (peopleForecast w t).Says earlier pk (approvePendingPerson w s pk) := by
  have hmade : (profileMade w s pk p).isSome = true ↔ peopleKind.Creates w t earlier pk := by
    rw [profileMade_isSome_iff, ApprovalKind.creates_iff hp, ← hafter.noClash_iff hkeys]
    rfl
  have htells : (∃ p, t.pendingProfiles.get pk = some p ∧ tellsPerson w pk p = true) ↔
      tellsPerson w pk p = true := by
    simp [hp]
  rw [approvePendingPerson_eq hrow]
  cases hs' : profileMade w s pk p with
  | none =>
    have hnot : ¬peopleKind.Creates w t earlier pk := by
      rw [← hmade, hs']
      exact Bool.false_ne_true
    constructor <;> simp [peopleForecast, hnot]
  | some t' =>
    have hcreates : peopleKind.Creates w t earlier pk := by
      rw [← hmade, hs', Option.isSome_some]
    rcases hdelete : w.deleteFault pk with _ | (_ | _ | fault)
    all_goals
      constructor <;> simp [peopleForecast, safeDeletePending, hcreates, htells, hdelete]

/-- **The forecast for a club** is right. -/
theorem clubForecast_right {p : PendingClub} (hkeys : clubKind.ForeignKeys t)
    (hafter : clubKind.AfterBatch w t earlier s) (hp : t.pendingClubs.get pk = some p)
    (hrow : s.pendingClubs.get pk = some p) :
    (clubForecast w t).Says earlier pk (approvePendingClub w s pk) := by
  have hmade : (∃ s', clubMade w s pk p = .ok s') ↔ clubKind.Creates w t earlier pk := by
    rw [exists_clubMade_iff, ApprovalKind.creates_iff hp, ← hafter.noClash_iff hkeys]
    rfl
  have hcreates : clubKind.Creates w t earlier pk ↔ _ := ApprovalKind.creates_iff hp
  rw [approvePendingClub_eq hrow]
  cases hs' : clubMade w s pk p with
  | error v =>
    have hnot : ¬clubKind.Creates w t earlier pk := by
      rw [← hmade, hs']
      simp
    obtain ⟨rfl, hnumber, hfault⟩ | ⟨users, rfl, hleft⟩ := clubMade_eq_error hs'
    · -- a database error, or the row is refused
      have hdisturbs : (clubForecast w t).disturbs earlier pk := by
        refine ⟨p, hp, hnumber, hfault.imp_right fun ⟨huser, hcreate⟩ => ⟨huser, ?_⟩⟩
        cases hcreate' : w.createFault pk with
        | none =>
          refine .inr ⟨rfl, .inl ?_⟩
          by_contra hrefused
          exact hnot (hcreates.mpr ⟨⟨hnumber, huser, hcreate'⟩, hrefused⟩)
        | some fault =>
          cases fault with
          | database => exact .inl rfl
          | other => exact absurd hcreate' hcreate
      constructor
      · simp [hdisturbs]
      all_goals simp [clubForecast, hnot]
    · have hgoes : ¬(clubForecast w t).disturbs earlier pk := by
        rintro ⟨p', hp', hnumber, hfault⟩
        obtain rfl := Option.some.inj (hp.symm.trans hp')
        rcases hleft.fails with hempty | huser | ⟨huser, hcreate⟩
        · exact hnumber hempty
        · simp [huser] at hfault
        · simp [huser, hcreate] at hfault
      constructor
      · simp [hgoes]
      all_goals simp [clubForecast, hnot]
  | ok t' =>
    have hyes : clubKind.Creates w t earlier pk := hmade.mp ⟨t', hs'⟩
    obtain ⟨⟨hnumber, huser, hcreate⟩, hrefused⟩ := hcreates.mp hyes
    rcases hdelete : w.deleteFault pk with _ | (_ | _ | _ | _)
    all_goals
      constructor <;> simp [clubForecast, safeDeletePending, swallowed, hyes, hdelete, hp, hnumber,
        huser, hcreate, hrefused]

/-- **A forecast that is right for each record**, in the tables that the earlier ones leave, is
right for the batch. -/
theorem ApprovalKind.forecast_holds {ρ κ : Type} {K : ApprovalKind ρ κ} {f : Forecast ℕ}
    {act : AccountTables → ℕ → Verdict AccountTables} (hnodup : batch.Nodup)
    (hrows : ∀ pk ∈ batch, ((K.pendings t).get pk).isNone = false)
    (hstep : ∀ {earlier pk s s' p made sent counted}, K.AfterBatch w t earlier s →
      (K.pendings t).get pk = some p → (K.pendings s).get pk = some p →
      act s pk = .passes s' made sent counted → K.AfterBatch w t (earlier ++ [pk]) s')
    (hright : ∀ {earlier pk s p}, K.AfterBatch w t earlier s →
      (K.pendings t).get pk = some p → (K.pendings s).get pk = some p →
      f.Says earlier pk (act s pk)) :
    f.Holds act t batch := by
  have hrow : ∀ {earlier pk rest}, batch = earlier ++ pk :: rest →
      pk ∉ earlier ∧ ∃ p, (K.pendings t).get pk = some p := by
    rintro earlier pk rest rfl
    have hnot := (List.nodup_cons.mp (List.nodup_middle.mp hnodup)).1
    have hsome := Option.isNone_eq_false_iff.mp (hrows pk (by simp))
    exact ⟨fun hmem => hnot (List.mem_append_left _ hmem), Option.isSome_iff_exists.mp hsome⟩
  intro earlier pk rest heq hearlier
  -- what the earlier applications leave, by induction on them
  have hafter : K.AfterBatch w t earlier (after act t earlier) := by
    refine after_induction (P := K.AfterBatch w t) ApprovalKind.afterBatch_nil ?_ heq hearlier
    intro e pk' rest' s s' made sent counted heq' hbefore hact
    obtain ⟨hnew, p, hp⟩ := hrow heq'
    exact hstep hbefore hp ((hbefore.pending pk' hnew).trans hp) hact
  obtain ⟨hnew, p, hp⟩ := hrow heq
  exact hright hafter hp ((hafter.pending pk hnew).trans hp)

end Says

/-- Profiles and clubs belong to users that are there. -/
structure ForeignKeys (t : AccountTables) : Prop where
  profiles : peopleKind.ForeignKeys t
  clubs : clubKind.ForeignKeys t

namespace PendingAdmin

def forecast : PendingAdmin → ApprovalWorld → AccountTables → Forecast ℕ
  | .player | .coach | .referee => peopleForecast
  | .club => clubForecast

variable {w : ApprovalWorld} {t : AccountTables} {queryset : List ℕ}

theorem peopleForecast_holds (hkeys : ForeignKeys t) (hnodup : queryset.Nodup)
    (hrows : ∀ pk ∈ queryset, (t.pendingProfiles.get pk).isNone = false) :
    (peopleForecast w t).Holds (approvePendingPerson w) t queryset :=
  peopleKind.forecast_holds hnodup hrows afterBatch_person (peopleForecast_right hkeys.profiles)

theorem clubForecast_holds (hkeys : ForeignKeys t) (hnodup : queryset.Nodup)
    (hrows : ∀ pk ∈ queryset, (t.pendingClubs.get pk).isNone = false) :
    (clubForecast w t).Holds (approvePendingClub w) t queryset :=
  clubKind.forecast_holds hnodup hrows afterBatch_club (clubForecast_right hkeys.clubs)

/-- **The forecast is right**, whichever admin approves. -/
theorem forecast_holds (admin : PendingAdmin) (hkeys : ForeignKeys t) (hnodup : queryset.Nodup)
    (hrows : ∀ pk ∈ queryset, admin.removed t pk = false) :
    (admin.forecast w t).Holds (admin.act w) t queryset := by
  cases admin with
  | player => exact peopleForecast_holds hkeys hnodup hrows
  | coach => exact peopleForecast_holds hkeys hnodup hrows
  | referee => exact peopleForecast_holds hkeys hnodup hrows
  | club => exact clubForecast_holds hkeys hnodup hrows

end PendingAdmin

/-- **Approval messages and the report** fit what is committed exactly if nothing disturbs the
transaction and every application that is made a row of gets its message; or something disturbs
it, no message goes out up to there, and either an exception ends the action or none of these
applications would have been removed. -/
theorem approval_messages_match_iff (admin : PendingAdmin) (w : ApprovalWorld) (t : AccountTables)
    (queryset : List ℕ) (hkeys : ForeignKeys t) (hnodup : queryset.Nodup)
    (hrows : ∀ pk ∈ queryset, admin.removed t pk = false) :
    admin.MessagesMatch (admin.approve w t queryset).1 queryset ↔
      (admin.forecast w t).Fits admin.lateEscapes queryset := by
  rw [PendingAdmin.approve_fst]
  exact Forecast.matches_iff (admin.forecast_holds hkeys hnodup hrows) (admin.lawful w) hnodup hrows

/-- Nothing fails but what clashes. -/
def nothingFails : ApprovalWorld where
  dryRun := false
  configured := true
  accepts _ := true
  userFault _ := none
  createFault _ := none
  deleteFault _ := none

/-- A founder applies for two clubs. -/
def oneFounder : AccountTables :=
  { noAccounts with
    pendingClubs := (Table.empty.insert
      ⟨"آریا", "شهرکرد", "09131234567", "0012345678", "03832221100", "12", "34"⟩).insert
      ⟨"پارس", "بروجن", "09131234567", "0012345678", "03834221100", "56", "78"⟩ }

theorem foreignKeys_oneFounder : ForeignKeys oneFounder where
  profiles _ _ _ h := by cases h
  clubs _ _ _ h := by cases h

/-- One of the clubs alone. -/
theorem approval_messages_match_iff_first_club :
    (PendingAdmin.club.forecast nothingFails oneFounder).Fits PendingAdmin.club.lateEscapes [1] :=
  (approval_messages_match_iff .club nothingFails oneFounder [1] foreignKeys_oneFounder
    (by decide) (by decide +kernel)).mp (by decide +kernel)

/-- **Both clubs**: the second is refused, as the founder has a club by then. The report says that
one was approved, its message went out, and nothing is committed. -/
theorem oneFounder_not_matched :
    (ForeignKeys oneFounder ∧ [1, 2].Nodup ∧
      ∀ pk ∈ [1, 2], PendingAdmin.club.removed oneFounder pk = false) ∧
    (PendingAdmin.club.approve nothingFails oneFounder [1, 2]).1.sent = [1] ∧
    (PendingAdmin.club.approve nothingFails oneFounder [1, 2]).1.reported = some (1, 1) ∧
    (PendingAdmin.club.approve nothingFails oneFounder [1, 2]).1.tables.clubs.get 1 = none ∧
    ¬PendingAdmin.club.MessagesMatch
      (PendingAdmin.club.approve nothingFails oneFounder [1, 2]).1 [1, 2] :=
  ⟨⟨foreignKeys_oneFounder, by decide, by decide +kernel⟩, by decide +kernel, by decide +kernel,
    by decide +kernel, by decide +kernel⟩

end Tkdchb.Accounts
