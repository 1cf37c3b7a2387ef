import Tkdchb.Lib.Calendar
import Tkdchb.Lib.Text
import Tkdchb.Lib.Web

/-!
# Seminars

A seminar names the roles that may sign up; no roles means all. Five places ask whether a role
may: the list, the sidebar, the card, the page of the seminar and the request that signs up.
Each has its own code. The site posts one role, or two for a coach who is also a referee.

## Main definitions

* `Seminar`, `SeminarForm.save?` — what the admin form lets through
* `listRoleOk`, `sidebarRoleOk`, `visibleForRole` — the lists and the card
* `canRegisterByRole`, `sitePosts` — the page of the seminar
* `roleGate` — the check of the request
* `sidebarSeminars` — the sidebar as it is answered

## Main results

* `roleGate_sitePosts` — what the page posts passes the check
* `sitePosts_isSome_iff` — the page posts for the seminars that the sidebar shows to its role
* `sidebar_signs_up` — what is on the sidebar can be signed up for, and the other way round
  while it is short
-/

namespace Tkdchb.Seminars

open Calendar Web

/-- `Seminar.ROLE_VALUES` -/
def roleValues : List String := ["player", "coach", "referee"]

/-- A stored seminar. The dates are constraints of the table, the roles are checked by the one
form that writes them. -/
structure Seminar where
  publicId : String
  title : String
  allowedRoles : List String
  registrationStart : Date
  registrationEnd : Date
  eventDate : Date
  createdAt : ℕ
  roles_valid : ∀ r ∈ allowedRoles, r ∈ roleValues
  start_le_end : registrationStart.toOrdinal ≤ registrationEnd.toOrdinal
  end_le_event : registrationEnd.toOrdinal ≤ eventDate.toOrdinal

/-- What is posted to `SeminarAdminForm`. -/
structure SeminarForm where
  title : String
  allowedRoles : List String
  registrationStart : Option Date
  registrationEnd : Option Date
  eventDate : Option Date

/-- The seminar that the form saves, if it is valid: the dates are required and in order, and
the roles are choices. -/
def SeminarForm.save? (form : SeminarForm) (publicId : String) (createdAt : ℕ) : Option Seminar :=
  match form.registrationStart, form.registrationEnd, form.eventDate with
  | some rs, some re, some cd =>
    if h : (∀ r ∈ form.allowedRoles, r ∈ roleValues) ∧
        rs.toOrdinal ≤ re.toOrdinal ∧ re.toOrdinal ≤ cd.toOrdinal ∧ form.title ≠ "" then
      some ⟨publicId, form.title, form.allowedRoles, rs, re, cd, createdAt, h.1, h.2.1, h.2.2.1⟩
    else none
  | _, _, _ => none

/-! ### The lists and the card -/

/-- Roles that see every seminar. -/
def seesAll : List String := ["club", "heyat"]

/-- The filter of `SeminarListView.get_queryset` for the parameter `role`. -/
def listRoleOk (param : Option String) (s : Seminar) : Bool :=
  let role := Text.lower (Text.strip (param.getD ""))
  if role = "" || role ∈ seesAll then true
  else if role = "both" then
    s.allowedRoles.isEmpty || ["coach", "referee"].any fun r => r ∈ s.allowedRoles
  else s.allowedRoles.isEmpty || role ∈ s.allowedRoles

/-- `role_ok` -/
def roleOk (role : String) (s : Seminar) : Bool :=
  if s.allowedRoles.isEmpty then true
  else if role = "both" then "coach" ∈ s.allowedRoles || "referee" ∈ s.allowedRoles
  else role ∈ s.allowedRoles

/-- What `sidebar_seminars` filters by, for its parameter `role` in lower case. -/
def sidebarRoleOk (role : String) (s : Seminar) : Bool :=
  if role ∈ seesAll then true else roleOk role s

/-- `get_visible_for_role`, for the role in the context of the serializer. -/
def visibleForRole (contextRole : Option String) (s : Seminar) : Bool :=
  let role := Text.strip (contextRole.getD "")
  if role ∈ seesAll then true
  else if s.allowedRoles.isEmpty then true
  else role ∈ s.allowedRoles

/-- The part of the seminars that is asked for with `show`. -/
def inPart (part : String) (today : Date) (s : Seminar) : Bool :=
  if part = "open" then
    decide (s.registrationStart.toOrdinal ≤ today.toOrdinal) &&
      decide (s.registrationEnd.toOrdinal ≥ today.toOrdinal)
  else if part = "upcoming" then decide (s.eventDate.toOrdinal ≥ today.toOrdinal)
  else if part = "past" then decide (s.eventDate.toOrdinal < today.toOrdinal)
  else true

/-- The order of the sidebar: by the day of the event, the latest first in the past, and the
newest first on a day. -/
def inOrder (part : String) (s s' : Seminar) : Bool :=
  let day := s.eventDate.toOrdinal
  let day' := s'.eventDate.toOrdinal
  if day = day' then decide (s'.createdAt ≤ s.createdAt)
  else if part = "past" then decide (day' < day)
  else decide (day < day')

/-- `xs[:limit]` -/
def upTo {α : Type} (xs : List α) (limit : ℤ) : List α :=
  if 0 ≤ limit then xs.take limit.toNat else xs.take (xs.length - limit.natAbs)

/-- `sidebar_seminars`, with `none` for an error. A query set takes no negative limit, and is
cut before the roles are looked at. -/
def sidebarSeminars (rows : List Seminar) (role part : Option String) (limit : Option String)
    (today : Date) : Option (List Seminar) := do
  let role := Text.lower (Text.orElse (role.getD "") "player")
  let limit ← match limit with
    | none => some 6
    | some text => Text.int? text
  let part := part.getD "upcoming"
  let qs := (rows.filter (inPart part today)).mergeSort (inOrder part)
  if role ∈ seesAll then
    if limit < 0 then none else some (qs.take limit.toNat)
  else some (upTo ((qs.take 200).filter (roleOk role)) limit)

/-! ### The page of a seminar and its request -/

/-- `roleArrayFromRole` -/
def roleArrayFromRole (role : String) : List String :=
  if role = "both" then ["coach", "referee"]
  else if role ∈ ["player", "coach", "referee"] then [role]
  else []

/-- `canRegisterByRole`: the button of the page can be pressed. -/
def canRegisterByRole (role : String) (s : Seminar) : Bool :=
  if role ∈ ["club", "heyat", "board"] then false
  else if s.allowedRoles.isEmpty then true
  else (roleArrayFromRole role).any fun r => r ∈ s.allowedRoles

/-- The roles that the page posts: nothing without the button, and nothing without roles. -/
def sitePosts (role : String) (s : Seminar) : Option (List String) :=
  if !canRegisterByRole role s then none
  else if (roleArrayFromRole role).isEmpty then none
  else some (roleArrayFromRole role)

/-- Truth of a JSON value. -/
def truthy : Json → Bool
  | .null => false
  | .bool b => b
  | .num n => n ≠ 0
  | .str s => s ≠ ""
  | .arr xs => !xs.isEmpty
  | .obj fields => !fields.isEmpty

/-- The values that a loop over a JSON value takes: the characters of a text, the keys of an
object. A number has none, which is an error. -/
def elements? : Json → Option (List Json)
  | .str s => some (s.toList.map fun c => .str (String.singleton c))
  | .arr xs => some xs
  | .obj fields => some (fields.map fun field => .str field.1)
  | _ => none

/-- `r in allowed` -/
def isAllowed (allowed : List String) : Json → Bool
  | .str r => r ∈ allowed
  | _ => false

/-- `request.data.get("roles") or []` -/
def postedRoles : Option Json → Json
  | none => .arr []
  | some roles => if truthy roles then roles else .arr []

/-- The check of `SeminarRegisterView.post`, with `none` for the `TypeError` of a value that
cannot be looped over. -/
def roleGate (allowed : List String) (roles : Json) : Option Bool :=
  if allowed.isEmpty then some true
  else (elements? roles).map fun rs => rs.any (isAllowed allowed)

/-- The roles as the page posts them. -/
def rolesJson (roles : List String) : Json := .arr (roles.map .str)

/-- The roles that the page has a request for. -/
def siteRoles : List String := ["player", "coach", "referee", "both"]

section Roles

variable {role : String} {s : Seminar} {roles : List String}

/-- The request is let in when one of its roles is allowed, or no roles are named. -/
theorem roleGate_rolesJson (allowed roles : List String) :
    roleGate allowed (rolesJson roles) =
      some (allowed.isEmpty || roles.any fun r => r ∈ allowed) := by
  rw [roleGate, rolesJson, elements?]
  cases allowed with
  | nil => rfl
  | cons a allowed => simp [isAllowed, List.any_map, Function.comp_def]

theorem postedRoles_rolesJson (roles : List String) :
    postedRoles (some (rolesJson roles)) = rolesJson roles := by
  cases roles with
  | nil => rfl
  | cons r roles => rfl

theorem sitePosts_eq_some_iff :
    sitePosts role s = some roles ↔
      canRegisterByRole role s = true ∧ roles = roleArrayFromRole role ∧ roles ≠ [] := by
  rw [sitePosts]
  cases hbutton : canRegisterByRole role s with
  | false => simp
  | true =>
    cases harray : roleArrayFromRole role with
    | nil => simp
    | cons r rs =>
      simp only [Bool.not_true, Bool.false_eq_true, if_false, List.isEmpty_cons,
        Option.some.injEq, true_and]
      exact ⟨fun h => ⟨h.symm, by simp [← h]⟩, fun h => h.1.symm⟩

/-- What the page posts passes the check. -/
theorem roleGate_sitePosts (h : sitePosts role s = some roles) :
    roleGate s.allowedRoles (postedRoles (some (rolesJson roles))) = some true := by
  obtain ⟨hbutton, rfl, -⟩ := sitePosts_eq_some_iff.mp h
  rw [postedRoles_rolesJson, roleGate_rolesJson]
  rw [canRegisterByRole] at hbutton
  split_ifs at hbutton with hnone hempty
  · rw [hempty, Bool.true_or]
  · rw [hbutton, Bool.or_true]

theorem roleArrayFromRole_ne_nil_iff : roleArrayFromRole role ≠ [] ↔ role ∈ siteRoles := by
  rw [roleArrayFromRole]
  split_ifs with hboth hone
  · subst hboth
    simp [siteRoles]
  · have hmem : role ∈ siteRoles := List.mem_append_left ["both"] hone
    simp [hmem]
  · simp_all [siteRoles]

/-- For its roles, the button of the page asks what the sidebar asks. -/
theorem canRegisterByRole_eq (h : role ∈ siteRoles) (s : Seminar) :
    canRegisterByRole role s = roleOk role s := by
  simp only [siteRoles, List.mem_cons, List.not_mem_nil, or_false] at h
  rw [canRegisterByRole, roleOk]
  rcases h with rfl | rfl | rfl | rfl <;> simp [roleArrayFromRole]

theorem sidebarRoleOk_eq (h : role ∈ siteRoles) (s : Seminar) :
    sidebarRoleOk role s = roleOk role s := by
  have hall : role ∉ seesAll := by
    intro hmem
    simp only [siteRoles, seesAll, List.mem_cons, List.not_mem_nil, or_false] at h hmem
    rcases hmem with rfl | rfl <;> simp at h
  rw [sidebarRoleOk, if_neg hall]

/-- The page posts for the seminars that the sidebar shows to its role. -/
theorem sitePosts_isSome_iff (role : String) (s : Seminar) :
    (sitePosts role s).isSome = true ↔ role ∈ siteRoles ∧ sidebarRoleOk role s = true := by
  rw [Option.isSome_iff_exists]
  simp only [sitePosts_eq_some_iff]
  constructor
  · rintro ⟨_, hbutton, rfl, hne⟩
    have hrole : role ∈ siteRoles := roleArrayFromRole_ne_nil_iff.mp hne
    rw [sidebarRoleOk_eq hrole, ← canRegisterByRole_eq hrole]
    exact ⟨hrole, hbutton⟩
  · rintro ⟨hrole, hshown⟩
    rw [sidebarRoleOk_eq hrole, ← canRegisterByRole_eq hrole] at hshown
    exact ⟨roleArrayFromRole role, hshown, rfl, roleArrayFromRole_ne_nil_iff.mpr hrole⟩

/-- The list filters by role as the sidebar does. -/
theorem listRoleOk_eq {text : String} (h : Text.lower (Text.strip text) ≠ "") (s : Seminar) :
    listRoleOk (some text) s = sidebarRoleOk (Text.lower (Text.strip text)) s := by
  rw [listRoleOk, sidebarRoleOk, roleOk, Option.getD_some]
  generalize Text.lower (Text.strip text) = role at h ⊢
  by_cases hall : role ∈ seesAll
  · simp [hall]
  · cases hempty : s.allowedRoles.isEmpty with
    | true => simp [h, hall]
    | false => simp [h, hall]

/-- The flag on the cards of the sidebar, whose serializer is not told of the role. -/
theorem visibleForRole_none (s : Seminar) : visibleForRole none s = s.allowedRoles.isEmpty := by
  have hrole : Text.strip ((none : Option String).getD "") = "" := rfl
  have hmem : "" ∉ s.allowedRoles := by
    intro hmem
    have hvalid := s.roles_valid "" hmem
    simp [roleValues] at hvalid
  rw [visibleForRole, hrole]
  cases hempty : s.allowedRoles.isEmpty with
  | true => simp [seesAll]
  | false => simp [seesAll, hmem]

end Roles

/-! ### The sidebar -/

section Sidebar

variable {part role : String} {today : Date}

theorem inOrder_iff (part : String) (a b : Seminar) :
    inOrder part a b = true ↔
      (a.eventDate.toOrdinal = b.eventDate.toOrdinal ∧ b.createdAt ≤ a.createdAt) ∨
        (if part = "past" then b.eventDate.toOrdinal < a.eventDate.toOrdinal
          else a.eventDate.toOrdinal < b.eventDate.toOrdinal) := by
  simp only [inOrder]
  split_ifs with hday hpast hpast
  · simp [hday]
  · simp [hday]
  · simp [hday]
  · simp [hday]

theorem inOrder_trans (part : String) (a b c : Seminar) (hab : inOrder part a b = true)
    (hbc : inOrder part b c = true) : inOrder part a c = true := by
  rw [inOrder_iff] at hab hbc ⊢
  split_ifs at hab hbc ⊢ with hpast
  · omega
  · omega

theorem inOrder_total (part : String) (a b : Seminar) :
    (inOrder part a b || inOrder part b a) = true := by
  rw [Bool.or_eq_true, inOrder_iff, inOrder_iff]
  split_ifs with hpast
  · omega
  · omega

/-- The first `n` of a sorted list that satisfy `p`: what does not come up has `n` before it. -/
theorem mem_take_filter {α : Type} {le : α → α → Bool} {xs : List α} {p : α → Bool} {n : ℕ}
    (hsorted : xs.Pairwise fun a b => le a b = true) {x : α} (hx : x ∈ xs) (hp : p x = true) :
    x ∈ (xs.filter p).take n ∨
      (((xs.filter p).take n).length = n ∧ ∀ y ∈ (xs.filter p).take n, le y x = true) := by
  have hmem : x ∈ (xs.filter p).take n ++ (xs.filter p).drop n := by
    rw [List.take_append_drop]
    exact List.mem_filter.mpr ⟨hx, hp⟩
  have hcut : ((xs.filter p).take n ++ (xs.filter p).drop n).Pairwise
      fun a b => le a b = true := by
    rw [List.take_append_drop]
    exact hsorted.filter p
  rcases List.mem_append.mp hmem with hfirst | hlater
  · exact Or.inl hfirst
  · refine Or.inr ⟨?_, fun y hy => (List.pairwise_append.mp hcut).2.2 y hy x hlater⟩
    have hpos : 0 < ((xs.filter p).drop n).length := List.length_pos_of_mem hlater
    rw [List.length_drop] at hpos
    rw [List.length_take]
    omega

theorem sidebarSeminars_eq (hrole : role ∈ siteRoles) {limit : String} {n : ℕ}
    (hlimit : Text.int? limit = some (n : ℤ)) (rows : List Seminar) :
    sidebarSeminars rows (some role) (some part) (some limit) today =
      some (((((rows.filter (inPart part today)).mergeSort (inOrder part)).take 200).filter
        (roleOk role)).take n) := by
  have hnorm : Text.lower (Text.orElse role "player") = role := by
    simp only [siteRoles, List.mem_cons, List.not_mem_nil, or_false] at hrole
    rcases hrole with rfl | rfl | rfl | rfl <;> decide
  have hall : role ∉ seesAll := by
    intro hmem
    simp only [siteRoles, seesAll, List.mem_cons, List.not_mem_nil, or_false] at hrole hmem
    rcases hmem with rfl | rfl <;> simp at hrole
  have hpos : 0 ≤ (n : ℤ) := Int.natCast_nonneg n
  simp only [sidebarSeminars, Option.getD_some, hnorm, hlimit, Option.bind_eq_bind,
    Option.bind_some, hall, if_false, upTo, hpos, if_true, Int.toNat_natCast]

/-- What the sidebar shows to a role of the site can be signed up for by it, in order and no
more than asked for. A seminar that could be signed up for is left out only for earlier ones,
as long as the part has no more than 200. -/
theorem sidebar_signs_up (hrole : role ∈ siteRoles) {limit : String} {n : ℕ}
    (hlimit : Text.int? limit = some (n : ℤ)) (rows : List Seminar) :
    ∃ shown, sidebarSeminars rows (some role) (some part) (some limit) today = some shown ∧
      shown.length ≤ n ∧ shown.Pairwise (fun s s' => inOrder part s s' = true) ∧
      (∀ s ∈ shown, s ∈ rows ∧ inPart part today s = true ∧
        ∃ roles, sitePosts role s = some roles ∧
          roleGate s.allowedRoles (postedRoles (some (rolesJson roles))) = some true) ∧
      ((rows.filter (inPart part today)).length ≤ 200 →
        ∀ s ∈ rows, inPart part today s = true → (sitePosts role s).isSome = true →
          s ∈ shown ∨ (shown.length = n ∧ ∀ s' ∈ shown, inOrder part s' s = true)) := by
  have hsorted : ((rows.filter (inPart part today)).mergeSort (inOrder part)).Pairwise
      (fun s s' => inOrder part s s' = true) :=
    List.pairwise_mergeSort (inOrder_trans part) (inOrder_total part) _
  refine ⟨_, sidebarSeminars_eq hrole hlimit rows, List.length_take_le _ _, ?_, ?_, ?_⟩
  · exact ((hsorted.sublist (List.take_sublist 200 _)).filter _).sublist (List.take_sublist n _)
  · intro s hs
    obtain ⟨hcut, hok⟩ := List.mem_filter.mp (List.mem_of_mem_take hs)
    obtain ⟨hrow, hpart⟩ := List.mem_filter.mp (List.mem_mergeSort.mp (List.mem_of_mem_take hcut))
    have hposts : (sitePosts role s).isSome = true :=
      (sitePosts_isSome_iff role s).mpr ⟨hrole, (sidebarRoleOk_eq hrole s).trans hok⟩
    obtain ⟨roles, hroles⟩ := Option.isSome_iff_exists.mp hposts
    exact ⟨hrow, hpart, roles, hroles, roleGate_sitePosts hroles⟩
  · intro hfew s hrow hpart hposts
    have hok : roleOk role s = true := by
      rw [← sidebarRoleOk_eq hrole]
      exact ((sitePosts_isSome_iff role s).mp hposts).2
    have hall : ((rows.filter (inPart part today)).mergeSort (inOrder part)).take 200 =
        (rows.filter (inPart part today)).mergeSort (inOrder part) :=
      List.take_of_length_le (by rwa [List.length_mergeSort])
    rw [hall]
    exact mem_take_filter hsorted
      (List.mem_mergeSort.mpr (List.mem_filter.mpr ⟨hrow, hpart⟩)) hok

/-- A seminar for coaches. -/
def coachSeminar : Seminar where
  publicId := "s1"
  title := "s"
  allowedRoles := ["coach"]
  registrationStart := ⟨2026, 4, 1, by decide⟩
  registrationEnd := ⟨2026, 4, 5, by decide⟩
  eventDate := ⟨2026, 4, 9, by decide⟩
  createdAt := 0
  roles_valid := by decide
  start_le_end := by decide
  end_le_event := by decide

theorem sidebar_signs_up_coachSeminar :
    ∃ shown, sidebarSeminars [coachSeminar] (some "coach") (some "all") (some "12")
        ⟨2026, 4, 2, by decide⟩ = some shown ∧
      shown.length ≤ 12 ∧ shown.Pairwise (fun s s' => inOrder "all" s s' = true) ∧
      (∀ s ∈ shown, s ∈ [coachSeminar] ∧ inPart "all" ⟨2026, 4, 2, by decide⟩ s = true ∧
        ∃ roles, sitePosts "coach" s = some roles ∧
          roleGate s.allowedRoles (postedRoles (some (rolesJson roles))) = some true) ∧
      (([coachSeminar].filter (inPart "all" ⟨2026, 4, 2, by decide⟩)).length ≤ 200 →
        ∀ s ∈ [coachSeminar], inPart "all" ⟨2026, 4, 2, by decide⟩ s = true →
          (sitePosts "coach" s).isSome = true →
            s ∈ shown ∨ (shown.length = 12 ∧ ∀ s' ∈ shown, inOrder "all" s' s = true)) :=
  sidebar_signs_up (by decide) (by decide) [coachSeminar]

end Sidebar

end Tkdchb.Seminars
