import Tkdchb.Competitions.PoomsaeRegister

/-!
# Admission and eligibility

The handlers that admit players look at less than the pages that tell who is eligible. Of
whom a handler admits, the page says that he is eligible exactly if he meets the conditions
the handler has left out.

## Main definitions

* `LeftToCoach`, `LeftToSelf`, `LeftToPoomsae` — the conditions that each handler leaves out

## Main results

* `mem_coachStudentsEligible_iff`, `getUserEligibleSelf_iff`, `poomsaeUserEligible_iff` — what
  a page says of a player with whom the handler is content
* `admitted_eligible_iff` — for everyone whom the handlers admit
-/

namespace Tkdchb

open Calendar Web

/-! ### What the handlers leave out -/

/-- What `CoachRegisterStudentsView.post` does not ask of a student: the coach, the stored
text of the gender, the birth date, and the belt where there are no belt groups. -/
structure LeftToCoach (T : EligibilityTables) (jd : Jdatetime) (coach : ℤ) (comp : KyorugiSettings)
    (p : PlayerProfile) : Prop where
  coach : p.coach = some coach
  gender : requiredGenderForComp comp.competition = some "male" ∨
    requiredGenderForComp comp.competition = some "female" →
    some p.gender = requiredGenderForComp comp.competition
  age : ∃ bd, playerBirthdateToGregorian jd p = some bd ∧
    ∀ cat, T.ageCategory comp.ageCategory = some cat → cat.covers bd = true
  belt : comp.belts.groups = [] → ∃ c, playerBeltCodeFromProfile p = some c ∧
    ∃ name ∈ levelBeltNames comp.belts.level, normBelt name = some c

/-- What `CompetitionRegistrationSerializer.validate` does not ask of a player. -/
structure LeftToSelf (T : EligibilityTables) (jd : Jdatetime) (comp : KyorugiSettings)
    (p : PlayerProfile) : Prop where
  gender : normGender comp.competition.gender = "" ∨ normGender comp.competition.gender = "both" ∨
    normGender comp.competition.gender = normGender p.gender
  age : ∀ cat, T.ageCategory comp.ageCategory = some cat → ∃ fromJ toJ dobJ,
    jd.fromgregorian cat.fromDate = some fromJ ∧ jd.fromgregorian cat.toDate = some toJ ∧
    parseJalaliStr jd p.birthDate = some dobJ ∧ fromJ.le dobJ = true ∧ dobJ.le toJ = true
  belt : comp.belts.groups = [] → ∃ c, playerBeltCodeFromProfile p = some c ∧
    c ∈ levelBelts comp.belts.level

/-- What `PoomsaeRegisterSelfView.post` does not ask of a player. -/
structure LeftToPoomsae (T : EligibilityTables) (jd : Jdatetime) (comp : PoomsaeSettings)
    (p : PlayerProfile) : Prop where
  gender : requiredGenderForComp comp.shared ∈ [none, some "", some "both"] ∨
    genderNorm p.gender = requiredGenderForComp comp.shared
  age : T.ageWindows comp ≠ [] → ∃ bd, playerBirthdateToGregorian jd p = some bd ∧
    ∃ cat ∈ T.ageWindows comp, cat.covers bd = true
  belt : comp.belts.groups = [] → ∃ c, playerBeltCodeFromProfile p = some c ∧
    c ∈ levelBelts comp.belts.level

section Pages

variable {T : EligibilityTables} {jd : Jdatetime} {p : PlayerProfile}

/-! ### The pages -/

/-- The filter of the coach's list on the stored text of the gender. -/
theorem genderFilter_eq_true_iff {req : Option String} {gender : String} :
    (if req = some "male" ∨ req = some "female" then some gender == req else true) = true ↔
      (req = some "male" ∨ req = some "female" → some gender = req) := by
  split_ifs with h
  · rw [beq_iff_eq, forall_prop_of_true h]
  · exact iff_of_true rfl fun h' => absurd h' h

theorem ageOkForComp_eq_true_iff {comp : KyorugiSettings} :
    T.ageOkForComp jd p comp = true ↔ ∃ bd, playerBirthdateToGregorian jd p = some bd ∧
      ∀ cat, T.ageCategory comp.ageCategory = some cat → cat.covers bd = true := by
  unfold EligibilityTables.ageOkForComp
  cases playerBirthdateToGregorian jd p with
  | none => simp
  | some bd => cases T.ageCategory comp.ageCategory <;> simp

/-- **The list of the coach** shows an admitted student exactly if he meets what the handler
leaves out. -/
theorem mem_coachStudentsEligible_iff {comp : KyorugiSettings} {coach pid : ℤ}
    (hprofile : T.profiles.get pid = some p) (hrole : p.role ∈ ["player", "both", "coach"])
    (hbelt : comp.belts.Grouped (playerBeltCodeFromProfile p)) :
    (pid, p) ∈ T.coachStudentsEligible jd coach comp ↔ LeftToCoach T jd coach comp p := by
  have hmem : (pid, p) ∈ T.profiles.rows := ProfileRows.get_eq_some_iff.mp hprofile
  have hroles : ["player", "both", "coach", "referee"].contains p.role = true := by
    simp only [List.mem_cons, List.not_mem_nil, or_false] at hrole
    rcases hrole with h | h | h <;> rw [h] <;> decide
  unfold EligibilityTables.coachStudentsEligible
  dsimp only
  rw [List.mem_filter, and_iff_right hmem, Bool.and_eq_true, Bool.and_eq_true, Bool.and_eq_true,
    Bool.and_eq_true, hroles, genderFilter_eq_true_iff, BeltRules.listed_iff hbelt, ageOkForComp_eq_true_iff,
    beq_iff_eq]
  constructor
  · rintro ⟨⟨⟨⟨hcoach, -⟩, hgender⟩, hbelt⟩, hage⟩
    exact ⟨hcoach, hgender, hage, hbelt⟩
  · rintro ⟨hcoach, hgender, hage, hbelt⟩
    exact ⟨⟨⟨⟨hcoach, rfl⟩, hgender⟩, hbelt⟩, hage⟩

theorem genderOkSelf_eq_true_iff {comp : KyorugiSettings} :
    EligibilityTables.genderOkSelf p comp = true ↔
      normGender comp.competition.gender = "" ∨ normGender comp.competition.gender = "both" ∨
        normGender comp.competition.gender = normGender p.gender := by
  unfold EligibilityTables.genderOkSelf
  dsimp only
  split_ifs with hany hsome
  · exact iff_of_true rfl (hany.elim Or.inl fun h => Or.inr (Or.inl h))
  · rw [beq_iff_eq, ← or_assoc, or_iff_right hany]
  · -- no gender is stored, and one is asked for
    rw [← or_assoc, or_iff_right hany]
    refine iff_of_false (by decide) fun heq => hany (Or.inl ?_)
    rw [heq]
    exact not_not.mp hsome

theorem ageOkSelf_eq_some_true_iff {comp : KyorugiSettings} :
    T.ageOkSelf jd p comp = some true ↔
      ∀ cat, T.ageCategory comp.ageCategory = some cat → ∃ fromJ toJ dobJ,
        jd.fromgregorian cat.fromDate = some fromJ ∧ jd.fromgregorian cat.toDate = some toJ ∧
        parseJalaliStr jd p.birthDate = some dobJ ∧ fromJ.le dobJ = true ∧ dobJ.le toJ = true := by
  unfold EligibilityTables.ageOkSelf
  cases T.ageCategory comp.ageCategory with
  | none => simp
  | some cat =>
    simp only [Option.some.injEq, forall_eq']
    cases jd.fromgregorian cat.fromDate with
    | none => simp
    | some fromJ =>
      cases jd.fromgregorian cat.toDate with
      | none => simp
      | some toJ => cases parseJalaliStr jd p.birthDate <;> simp

/-- The three tests of `get_user_eligible_self`. -/
theorem getUserEligibleSelf_eq_some_true_iff {comp : KyorugiSettings} {user : ℕ} {pid : ℤ}
    (hprofile : T.profiles.profileOf user = some (pid, p)) :
    T.getUserEligibleSelf jd user comp = some true ↔
      EligibilityTables.genderOkSelf p comp = true ∧ T.ageOkSelf jd p comp = some true ∧
        comp.belts.allows (playerBeltCodeFromProfile p) = true := by
  have hbind : T.getUserEligibleSelf jd user comp = (T.ageOkSelf jd p comp).bind fun ageOk =>
      some (EligibilityTables.genderOkSelf p comp && ageOk &&
        comp.belts.allows (playerBeltCodeFromProfile p)) := by
    unfold EligibilityTables.getUserEligibleSelf
    rw [ProfileRows.getProfile_eq, hprofile]
    rfl
  rw [hbind]
  cases T.ageOkSelf jd p comp with
  | none => simp
  | some ok => simp [and_assoc]

/-- **The page of the competition** calls an admitted player eligible exactly if he meets what
the serializer leaves out. -/
theorem getUserEligibleSelf_iff {comp : KyorugiSettings} {user : ℕ} {pid : ℤ}
    (hprofile : T.profiles.profileOf user = some (pid, p))
    (hbelt : comp.belts.Grouped (playerBeltCodeFromProfile p)) :
    T.getUserEligibleSelf jd user comp = some true ↔ LeftToSelf T jd comp p := by
  rw [getUserEligibleSelf_eq_some_true_iff hprofile, genderOkSelf_eq_true_iff, ageOkSelf_eq_some_true_iff, BeltRules.allows_iff hbelt]
  constructor
  · rintro ⟨hgender, hage, hbelt⟩
    exact ⟨hgender, hage, hbelt⟩
  · rintro ⟨hgender, hage, hbelt⟩
    exact ⟨hgender, hage, hbelt⟩

theorem ageOkPoomsae_eq_true_iff {comp : PoomsaeSettings} :
    T.ageOkPoomsae jd p comp = true ↔ (T.ageWindows comp ≠ [] →
      ∃ bd, playerBirthdateToGregorian jd p = some bd ∧
        ∃ cat ∈ T.ageWindows comp, cat.covers bd = true) := by
  unfold EligibilityTables.ageOkPoomsae
  dsimp only
  by_cases hwins : T.ageWindows comp = []
  · rw [hwins]
    simp
  · rw [Bool.or_eq_true, List.isEmpty_iff, or_iff_right hwins, forall_prop_of_true hwins,
      Option.any_eq_true]
    simp only [List.any_eq_true]

theorem genderOkPoomsae_eq_true_iff {comp : PoomsaeSettings} :
    EligibilityTables.genderOkPoomsae p comp = true ↔
      requiredGenderForComp comp.shared ∈ [none, some "", some "both"] ∨
        genderNorm p.gender = requiredGenderForComp comp.shared := by
  unfold EligibilityTables.genderOkPoomsae
  rw [Bool.or_eq_true, List.contains_iff_mem, beq_iff_eq]

/-- **The page of a poomsae competition** calls an admitted player eligible exactly if he
meets what the handler leaves out. -/
theorem poomsaeUserEligible_iff {comp : PoomsaeSettings} {user : ℕ} {pid : ℤ}
    (hprofile : T.profiles.profileOf user = some (pid, p))
    (hbelt : comp.belts.Grouped (playerBeltCodeFromProfile p)) :
    T.poomsaeUserEligible jd user comp = true ↔ LeftToPoomsae T jd comp p := by
  unfold EligibilityTables.poomsaeUserEligible
  rw [hprofile]
  dsimp only
  rw [Bool.and_eq_true, Bool.and_eq_true, genderOkPoomsae_eq_true_iff, ageOkPoomsae_eq_true_iff,
    BeltRules.allows_iff hbelt]
  constructor
  · rintro ⟨⟨hgender, hage⟩, hbelt⟩
    exact ⟨hgender, hage, hbelt⟩
  · rintro ⟨hgender, hage, hbelt⟩
    exact ⟨⟨hgender, hage⟩, hbelt⟩

end Pages

/-! ### Whom the handlers admit -/

section Handlers

variable {T : EligibilityTables} {base : Registry}

/-- A group payment that a request has written is of the coach and the competition of the
request, and its items are those the loop has accepted. -/
theorem coachRegister_group {cfg : Settings} {reg : Registry} {now : Time} {today : Date}
    {user : ℕ} {publicId key : String} {data : CoachRegisterData} {db db' : Db} {r : Response}
    (h : coachRegister cfg reg now today user publicId key data db = .ok (r, db')) {k : ℕ}
    {g : GroupRegistrationPayment} (hold : db.groups.get k = none)
    (hnew : db'.groups.get k = some g) :
    ∃ comp, reg.getCompByKey key = some g.competition ∧ reg.kyorugi g.competition = some comp ∧
      reg.coachFromRequest user = some g.coach ∧
      g.payload.items = (checkStudents reg db g.competition comp data.students).items := by
  simp only [coachRegister] at h
  split at h
  · cases h
  · next compId comp hcomp =>
    obtain ⟨id, hkey, hmap⟩ := Option.bind_eq_some_iff.mp hcomp
    obtain ⟨comp', hkyorugi, heq⟩ := Option.map_eq_some_iff.mp hmap
    cases heq
    -- whatever is written later is written by the end of the handler
    have hunchanged : db' ≠ db := by
      rintro rfl
      rw [hold] at hnew
      cases hnew
    split at h
    · cases h
      exact absurd rfl hunchanged
    · next coach coachProfile hcoach =>
      obtain ⟨id, hrequest, hmap⟩ := Option.bind_eq_some_iff.mp hcoach
      obtain ⟨profile, -, heq⟩ := Option.map_eq_some_iff.mp hmap
      cases heq
      split_ifs at h
      iterate 5
        · cases h
          exact absurd rfl hunchanged
      simp only [bind, Except.bind] at h
      split at h
      · cases h
      · next q _ =>
        have hinserted : ∀ g₀ : GroupRegistrationPayment, db'.groups = db.groups.insert g₀ →
            g = g₀ := by
          intro g₀ hgroups
          rw [hgroups] at hnew
          rcases Table.get_insert_cases hnew with hget | ⟨-, rfl⟩
          · rw [hold] at hget
            cases hget
          · rfl
        rcases settleOrCharge_cases h with rfl | ⟨-, -, coachName, ref, ids, t, -, rfl⟩ | ⟨-, rfl⟩
        · exact absurd rfl hunchanged
        · obtain rfl := hinserted _ rfl
          exact ⟨comp, hkey, hkyorugi, hrequest, rfl⟩
        · obtain rfl := hinserted _ rfl
          exact ⟨comp, hkey, hkyorugi, hrequest, rfl⟩

/-- What the serializer has looked at when it accepts a request. -/
theorem validate_ok {self : SelfRegistry} {today : Date} {user compId : ℕ}
    {comp : KyorugiCompetition} {db : Db} {data : SelfRegisterData}
    (h : data.validate self today user compId comp db = .ok ()) :
    ∃ pid, self.getPlayerLikeProfile user = some pid ∧
      (comp.beltGroups ≠ [] → self.findBeltGroupObj pid compId ≠ none) := by
  unfold SelfRegisterData.validate at h
  split at h
  · cases h
  · split at h
    · cases h
    · split at h
      · cases h
      · split at h
        · cases h
        · next pid hpid =>
          refine ⟨pid, hpid, fun hgroups hnone => ?_⟩
          -- with this belt every path ends in an error
          simp only [if_pos (And.intro hgroups hnone)] at h
          split at h
          · cases h
          · split at h
            · cases h
            · split at h
              · cases h
              · split at h
                · cases h
                · split at h <;> cases h

theorem grouped_of_beltGroups {comp : KyorugiSettings} {pid : ℤ} {compId : ℕ} {p : PlayerProfile}
    (hp : T.profiles.get pid = some p) (hcomp : T.kyorugi compId = some comp)
    (h : comp.competition.beltGroups ≠ [] → T.beltGroupForPlayerInComp pid compId ≠ none) :
    comp.belts.Grouped (playerBeltCodeFromProfile p) := by
  intro hgroups
  rw [← EligibilityTables.beltGroupForPlayerInComp_eq hp hcomp]
  exact h (KyorugiSettings.beltGroups_ne_nil_iff.mpr hgroups)

/-- An item of a group payment, and the list of the coach who has registered it. -/
theorem item_listed_iff (jd : Jdatetime) {cfg : Settings} {now : Time} {today : Date} {user : ℕ}
    {publicId key : String} {data : CoachRegisterData} {db db' : Db} {r : Response}
    (h : coachRegister cfg (T.registry base) now today user publicId key data db = .ok (r, db'))
    {k : ℕ} {g : GroupRegistrationPayment} (hold : db.groups.get k = none)
    (hnew : db'.groups.get k = some g) {it : GroupItem} (hit : it ∈ g.payload.items) :
    ∃ comp p, base.getCompByKey key = some g.competition ∧
      T.kyorugi g.competition = some comp ∧ base.coachFromRequest user = some g.coach ∧
      T.profiles.get it.playerId = some p ∧
      ((it.playerId, p) ∈ T.coachStudentsEligible jd g.coach comp ↔
        LeftToCoach T jd g.coach comp p) := by
  obtain ⟨comp', hkey, hkyorugi, hcoach, hitems⟩ := coachRegister_group h hold hnew
  obtain ⟨comp, hcomp, rfl⟩ := Option.map_eq_some_iff.mp hkyorugi
  rw [hitems] at hit
  have haccepted : ∀ it ∈ (checkStudents (T.registry base) db g.competition comp.competition
      data.students).items, ∃ player, (T.registry base).profile it.playerId = some player ∧
        player.role ∈ ["player", "both", "coach"] ∧
        (comp.competition.beltGroups ≠ [] →
          (T.registry base).beltGroupForPlayerInComp it.playerId g.competition ≠ none) := by
    refine forall_items_checkStudents (fun st it hst => ?_) data.students
    obtain ⟨player, _, _, _, -, hprofile, hrole, hgroup, -⟩ := checkStudent_item hst
    exact ⟨player, hprofile, hrole, hgroup⟩
  obtain ⟨player, hplayer, hrole, hgroup⟩ := haccepted it hit
  obtain ⟨p, hp, rfl⟩ := Option.map_eq_some_iff.mp hplayer
  exact ⟨comp, p, hkey, hcomp, hcoach, hp,
    mem_coachStudentsEligible_iff hp hrole (grouped_of_beltGroups hp hcomp hgroup)⟩

/-- A request that the serializer accepts, and the page of the competition. -/
theorem validated_eligible_iff (jd : Jdatetime) {self : SelfRegistry} {today : Date}
    {user compId : ℕ} {comp : KyorugiSettings} {db : Db} {data : SelfRegisterData}
    (hcomp : T.kyorugi compId = some comp)
    (h : data.validate (T.selfRegistry self) today user compId comp.competition db = .ok ()) :
    ∃ pid p, T.profiles.getPlayerLikeProfile user = some (pid, p) ∧
      (T.getUserEligibleSelf jd user comp = some true ↔ LeftToSelf T jd comp p) := by
  obtain ⟨pid, hpid, hgroup⟩ := validate_ok h
  obtain ⟨⟨key, p⟩, hprofile, rfl⟩ := Option.map_eq_some_iff.mp hpid
  have hof : T.profiles.profileOf user = some (key, p) :=
    ProfileRows.getPlayerLikeProfile_eq.symm.trans hprofile
  have hp : T.profiles.get key = some p :=
    ProfileRows.get_eq_some_iff.mpr (ProfileRows.profileOf_eq_some_iff.mp hof).1
  exact ⟨key, p, hprofile,
    getUserEligibleSelf_iff hof (grouped_of_beltGroups hp hcomp hgroup)⟩

/-- A poomsae enrollment, and the page of the competition. -/
theorem enrolled_eligible_iff {cfg : Settings} {jd : Jdatetime} {look : PoomsaeLookups}
    {today : Date} {user : ℕ} {key : String} {data : PoomsaeSelfData} {db db' : Db} {r : Response}
    (h : poomsaeRegisterSelf cfg T jd base look today user key data db = .ok (r, db')) {k : ℕ}
    {e : PoomsaeEnrollment} (hold : db.poomsae.get k = none) (hnew : db'.poomsae.get k = some e) :
    ∃ comp pid p, look.getCompByKey key = some e.registration.competition ∧
      T.poomsae e.registration.competition = some comp ∧
      e.registration.player = some pid ∧ T.profiles.profileOf user = some (pid, p) ∧
      (T.poomsaeUserEligible jd user comp = true ↔ LeftToPoomsae T jd comp p) := by
  rcases poomsaeRegisterSelf_ok h with rfl |
    ⟨compId, comp, pid, p, row, hkey, hcomp, hfirst, hbelt, hplayer, hrowComp, rfl⟩
  · rw [hold] at hnew
    cases hnew
  · rcases Table.get_insert_cases hnew with hget | ⟨-, rfl⟩
    · rw [hold] at hget
      cases hget
    · obtain ⟨hof, -⟩ := ProfileRows.profileOf_of_firstOf hfirst
      subst hrowComp
      exact ⟨comp, pid, p, hkey, hcomp, hplayer, hof, poomsaeUserEligible_iff hof hbelt⟩

end Handlers

/-- **Whom the handlers admit, the pages call eligible** exactly if he meets the conditions
that the handler leaves out: a coach's students one by one, a player who registers alone, and a
player who registers for poomsae. -/
theorem admitted_eligible_iff (T : EligibilityTables) (jd : Jdatetime) (base : Registry) :
    (∀ (cfg : Settings) (now : Time) (today : Date) (user : ℕ) (publicId key : String)
        (data : CoachRegisterData) (db db' : Db) (r : Response) (k : ℕ)
        (g : GroupRegistrationPayment),
      coachRegister cfg (T.registry base) now today user publicId key data db = .ok (r, db') →
      db.groups.get k = none → db'.groups.get k = some g → ∀ it ∈ g.payload.items,
      ∃ comp p, base.getCompByKey key = some g.competition ∧
        T.kyorugi g.competition = some comp ∧ base.coachFromRequest user = some g.coach ∧
        T.profiles.get it.playerId = some p ∧
        ((it.playerId, p) ∈ T.coachStudentsEligible jd g.coach comp ↔
          LeftToCoach T jd g.coach comp p)) ∧
    (∀ (self : SelfRegistry) (today : Date) (user compId : ℕ) (comp : KyorugiSettings) (db : Db)
        (data : SelfRegisterData),
      T.kyorugi compId = some comp →
      data.validate (T.selfRegistry self) today user compId comp.competition db = .ok () →
      ∃ pid p, T.profiles.getPlayerLikeProfile user = some (pid, p) ∧
        (T.getUserEligibleSelf jd user comp = some true ↔ LeftToSelf T jd comp p)) ∧
    ∀ (cfg : Settings) (look : PoomsaeLookups) (today : Date) (user : ℕ) (key : String)
        (data : PoomsaeSelfData) (db db' : Db) (r : Response) (k : ℕ) (e : PoomsaeEnrollment),
      poomsaeRegisterSelf cfg T jd base look today user key data db = .ok (r, db') →
      db.poomsae.get k = none → db'.poomsae.get k = some e →
      ∃ comp pid p, look.getCompByKey key = some e.registration.competition ∧
        T.poomsae e.registration.competition = some comp ∧
        e.registration.player = some pid ∧ T.profiles.profileOf user = some (pid, p) ∧
        (T.poomsaeUserEligible jd user comp = true ↔ LeftToPoomsae T jd comp p) := by
  refine ⟨?_, ?_, ?_⟩
  · intro cfg now today user publicId key data db db' r k g h hold hnew it hit
    exact item_listed_iff jd h hold hnew hit
  · intro self today user compId comp db data hcomp h
    exact validated_eligible_iff jd hcomp h
  · intro cfg look today user key data db db' r k e h hold hnew
    exact enrolled_eligible_iff h hold hnew

/-! ### A boy without a coach -/

/-- The date 1390/01/01, on the day it is in the other calendar. -/
def newYear1390 : Jdatetime where
  date y m d := if (y, m, d) = (1390, 1, 1) then some ⟨1390, 1, 1⟩ else none
  togregorian j := if j = ⟨1390, 1, 1⟩ then some ⟨2011, 3, 21, by decide⟩ else none
  fromgregorian d := if d = ⟨2011, 3, 21, by decide⟩ then some ⟨1390, 1, 1⟩ else none

/-- The coach, and a boy who is nobody's student. -/
def boyProfiles : ProfileRows where
  rows :=
    [(1, { (default : PlayerProfile) with role := "coach", gender := "male", user := some 10 }),
      (2, { (default : PlayerProfile) with
        role := "player", gender := "male", user := some 20
        birthDate := "1390/01/01", beltGrade := "زرد" })]
  unique := by decide
  oneToOne := by
    intro x hx y hy user hxuser hyuser
    simp only [List.mem_cons, List.not_mem_nil, or_false] at hx hy
    rcases hx with rfl | rfl <;> rcases hy with rfl | rfl
    · rfl
    · cases hxuser.trans hyuser.symm
    · cases hxuser.trans hyuser.symm
    · rfl

/-- A competition in autumn, for one gender and all belts. -/
def autumnCup (gender : String) : KyorugiSettings where
  competition := {
    entryFee := 500000
    gender := gender
    beltGroups := []
    competitionDate := ⟨2026, 9, 18, by decide⟩
    registrationManual := some true
    registrationStart := ⟨2026, 2, 3, by decide⟩
    registrationEnd := ⟨2026, 8, 5, by decide⟩ }
  belts := ⟨[], "all"⟩
  ageCategory := none
  beltGroups_eq := rfl

/-- A poomsae competition for women. -/
def womensPoomsae : PoomsaeSettings where
  gender := "female"
  belts := ⟨[], "all"⟩
  ageCategory := none
  ageCategories := []
  entryFee := 500000
  startDate := ⟨2026, 9, 18, by decide⟩
  competitionDate := none
  registrationManual := some true
  registrationStart := ⟨2026, 2, 3, by decide⟩
  registrationEnd := ⟨2026, 8, 5, by decide⟩

/-- The boy, a competition for men, one for women, and the poomsae competition. -/
def boyTables : EligibilityTables where
  profiles := boyProfiles
  kyorugi id := if id = 1 then some (autumnCup "male") else if id = 2 then some (autumnCup "female")
    else none
  poomsae id := if id = 1 then some womensPoomsae else none
  ageCategories := Table.empty

def boyRegistry : Registry :=
  { (default : Registry) with
    getCompByKey := fun key => if key = "1" then some 1 else none
    coachFromRequest := fun user => if user = 10 then some 1 else none
    parseInsuranceDate := fromisoformat
    findWeightCategoryFor := fun _ gender _ => if gender = some "male" then some 1 else none
    acceptsEnrollment := fun _ => true
    acceptsGroup := fun _ => true
    poomsaeFieldsClean := fun _ => true }

def boySelfRegistry : SelfRegistry :=
  { (default : SelfRegistry) with
    toGregFromStrJalali := fromisoformat
    parseWeightToFloat := fun _ => some 40
    coachApproval := fun _ code => if code = "123456" then some (1, "123456") else none
    weightCategory := fun _ _ => some 7 }

def poomsaeLookups : PoomsaeLookups where
  getCompByKey key := if key = "1" then some 1 else none
  coachApproval _ code := if code = "123456" then some 1 else none
  clubBoard _ := none
  columnsClean _ _ := true

def charging : Settings := { (default : Settings) with paymentsEnabled := true }

/-- The coach registers the boy. -/
def registerBoy : CoachRegisterData :=
  { (default : CoachRegisterData) with
    students := [⟨some 2, some 40, "ins", some "2026-03-01"⟩] }

def boyAlone : SelfRegisterData := ⟨"123456", "40", "ins", "2026-03-01"⟩

def boyPoomsae : PoomsaeSelfData := fun key =>
  List.lookup key [("coach_code", "123456"), ("poomsae_type", "standard"),
    ("insurance_number", "ins"), ("insurance_issue_date", "2026-03-01")]

/-- **The pages refuse him, the handlers do not**: he is registered by a coach whose student he
is not, and alone in two competitions for women. -/
theorem ineligible_admitted :
    (∃ r db' g it, coachRegister charging (boyTables.registry boyRegistry) 0 default 10 "g1" "1"
        registerBoy default = .ok (r, db') ∧ db'.groups.get 1 = some g ∧ it ∈ g.payload.items ∧
      it.playerId ∉ (boyTables.coachStudentsEligible newYear1390 g.coach (autumnCup "male")).map
        Prod.fst) ∧
    (boyAlone.validate (boyTables.selfRegistry boySelfRegistry) ⟨2026, 7, 6, by decide⟩ 20 2
        (autumnCup "female").competition default = .ok () ∧
      boyTables.getUserEligibleSelf newYear1390 20 (autumnCup "female") = some false) ∧
    ∃ r db' e, poomsaeRegisterSelf charging boyTables newYear1390 boyRegistry poomsaeLookups default
        20 "1" boyPoomsae default = .ok (r, db') ∧ db'.poomsae.get 1 = some e ∧
      e.registration.player = some 2 ∧
      boyTables.poomsaeUserEligible newYear1390 20 womensPoomsae = false := by
  refine ⟨⟨_, _, _, _, rfl, rfl, List.mem_cons_self, ?_⟩, ⟨?_, ?_⟩, ⟨_, _, _, rfl, rfl, rfl, ?_⟩⟩
  · decide +kernel
  · have hok : (boyAlone.validate (boyTables.selfRegistry boySelfRegistry)
        ⟨2026, 7, 6, by decide⟩ 20 2 (autumnCup "female").competition default).toOption.isSome := by
      decide +kernel
    cases hvalid : boyAlone.validate (boyTables.selfRegistry boySelfRegistry)
        ⟨2026, 7, 6, by decide⟩ 20 2 (autumnCup "female").competition default with
    | ok => rfl
    | error => simp [hvalid, Except.toOption] at hok
  · decide +kernel
  · decide +kernel

end Tkdchb
