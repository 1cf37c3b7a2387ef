import Tkdchb.Accounts.Records

/-!
# Login

One view logs in everybody. It translates the digits of the user name and the password,
authenticates, and compares the roles of the user with the form that was used.

## Main definitions

* `AccountTables.authenticate` — the user with this name and password
* `LoginRequest`, `universalLogin` — the view
* `passesAuthentication` — the answers that are given to an authenticated user

## Main results

* `passesAuthentication_universalLogin` — which requests are authenticated
-/

namespace Tkdchb.Accounts

/-- The data of a request, empty where there is none. -/
structure LoginRequest where
  username : String
  identifier : String
  password : String
  otp : String
  /-- the header `X-Role-Group` -/
  roleHeader : String
  roleGroup : String
  /-- `roleGroup` in the query of the URL -/
  roleQuery : String
  deriving DecidableEq, Repr

inductive LoginError where
  | noUsername
  | noPassword
  | noGroup
  | badGroup
  | badCredentials
  | otherForm (userRoles requiredAnyOf : List String)
  deriving DecidableEq, Repr

def LoginError.message : LoginError → String
  | .noUsername => "identifier/username الزامی است."
  | .noPassword => "password یا otp لازم است."
  | .noGroup => "roleGroup ارسال نشده است."
  | .badGroup => "roleGroup نامعتبر است."
  | .badCredentials => "نام کاربری یا رمز عبور اشتباه است."
  | .otherForm _ _ => "این فرم برای نقش دیگری است. لطفاً از فرم صحیح ورود استفاده کنید."

/-- `ROLE_GROUPS` -/
def roleGroups : String → Option (List String)
  | "player" => some ["player"]
  | "coachref" => some ["coach", "referee", "both"]
  | "club" => some ["club"]
  | "heyat" => some ["heyat", "board"]
  | _ => none

/-- `ROLE_PRIORITY` -/
def rolePriority : List String := ["club", "heyat", "coach", "referee", "both", "player"]

/-- `_roles_of` -/
def AccountTables.rolesOf (t : AccountTables) (user : ℕ) : List String :=
  let profileRoles :=
    match t.profileOf user with
    | none => []
    | some profile =>
      let role := Text.lower (Text.strip profile.role)
      if role = "both" then ["coach", "referee", "both"]
      else if role ∈ ["player", "coach", "referee"] then [role] else []
  let roles := profileRoles ++ (if (t.clubOf user).isSome then ["club"] else []) ++
    (if t.hasBoard user then ["heyat"] else [])
  if roles.isEmpty then ["player"] else roles

/-- `_pick_role_for_response`, for roles that the group allows. -/
def pickRole (hit roles : List String) : String :=
  (rolePriority.find? (hit.contains ·)).getD
    ((rolePriority.find? (roles.contains ·)).getD "player")

/-- `authenticate`, which compares the exact texts. -/
def AccountTables.authenticate (t : AccountTables) (username password : String) : Option ℕ :=
  ((t.users.oldest fun u => u.username = username).filter fun x =>
    x.2.password = some password && x.2.isActive).map Prod.fst

def LoginRequest.normalizedName (r : LoginRequest) : String :=
  viewsNormalizeDigits (Text.orElse r.username r.identifier)

/-- `req_group` -/
def LoginRequest.group (r : LoginRequest) : String :=
  Text.lower (Text.strip (Text.orElse (Text.orElse r.roleHeader r.roleGroup) r.roleQuery))

/-- `UniversalLoginAPIView.post`: the user and the role of the answer. -/
def universalLogin (t : AccountTables) (r : LoginRequest) : Except LoginError (ℕ × String) :=
  let username := r.normalizedName
  let password := viewsNormalizeDigits r.password
  let otp := viewsNormalizeDigits r.otp
  if username = "" ∧ otp = "" then .error .noUsername
  else if password = "" ∧ otp = "" then .error .noPassword
  else if r.group = "" then .error .noGroup
  else
    match roleGroups r.group with
    | none => .error .badGroup
    | some allowed =>
      match if password = "" then none else t.authenticate username password with
      | none => .error .badCredentials
      | some user =>
        let roles := t.rolesOf user
        let hit := roles.filter (allowed.contains ·)
        if hit.isEmpty then .error (.otherForm roles allowed)
        else .ok (user, pickRole hit roles)

/-- The user was authenticated, whether or not the form is the right one. -/
def passesAuthentication : Except LoginError (ℕ × String) → Bool
  | .ok _ | .error (.otherForm _ _) => true
  | .error _ => false

section

variable {t : AccountTables} {r : LoginRequest} {username password : String}

/-- **A request with a name, a password and a form is authenticated** exactly if there is an
active user with this name and this password. -/
theorem passesAuthentication_universalLogin (hname : r.normalizedName = username)
    (hpassword : viewsNormalizeDigits r.password = password) (hname' : username ≠ "")
    (hpassword' : password ≠ "") (hgroup : (roleGroups r.group).isSome = true) :
    passesAuthentication (universalLogin t r) = (t.authenticate username password).isSome := by
  obtain ⟨allowed, hallowed⟩ := Option.isSome_iff_exists.mp hgroup
  have hsent : r.group ≠ "" := by
    intro hempty
    rw [hempty] at hallowed
    cases hallowed
  simp only [universalLogin, hname, hpassword, hname', hpassword', false_and, if_false, hsent,
    hallowed]
  cases t.authenticate username password with
  | none => rfl
  | some user =>
    dsimp only
    split_ifs
    · rfl
    · rfl

/-- A new user is found by the name and the password it was made with. -/
theorem authenticate_insert_isSome_iff {users : Table User} {u : User}
    (husers : t.users = users.insert u) (hactive : u.isActive = true)
    (hnew : ∀ k v, users.get k = some v → v.username ≠ username) :
    (t.authenticate username password).isSome = true ↔
      u.username = username ∧ u.password = some password := by
  unfold AccountTables.authenticate
  rw [husers, Option.isSome_map]
  constructor
  · intro hsome
    obtain ⟨⟨k, v⟩, hfound⟩ := Option.isSome_iff_exists.mp hsome
    obtain ⟨hfound, hmatch⟩ := Option.filter_eq_some_iff.mp hfound
    obtain ⟨hget, hname⟩ := Table.oldest_spec hfound
    rcases Table.get_insert_cases hget with hold | ⟨-, rfl⟩
    · exact absurd (of_decide_eq_true hname) (hnew k v hold)
    · simp only [Bool.and_eq_true, decide_eq_true_eq] at hmatch
      exact ⟨of_decide_eq_true hname, hmatch.1⟩
  · rintro ⟨hname, hpassword⟩
    have hfound : (users.insert u).oldest (fun u => u.username = username) =
        some (users.next, u) := by
      refine Table.oldest_eq_some_of_unique Table.get_insert_next (decide_eq_true hname) ?_
      intro k v hv hv'
      rcases Table.get_insert_cases hv with hold | ⟨hk, -⟩
      · exact absurd (of_decide_eq_true hv') (hnew k v hold)
      · exact hk
    rw [hfound, Option.filter_some, if_pos (by simp [hpassword, hactive])]
    rfl

end

end Tkdchb.Accounts
