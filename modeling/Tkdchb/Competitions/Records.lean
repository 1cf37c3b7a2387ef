import Mathlib.Data.Rat.Defs
import Tkdchb.Lib.Calendar

/-!
# Records of the competitions application

The rows that registration and payment read and write: enrollments of the two
disciplines, seminar registrations, group payments with their JSON payload, and
discount codes. Primary keys live in the tables, not in the rows. Text columns
are unbounded and time stamps are natural numbers.

## Main definitions

* `Enrollment`, `PoomsaeEnrollment`, `SeminarRegistration` — what a payment settles
* `GroupPayload`, `GroupRegistrationPayment` — a coach's pending group
* `DiscountCode` — a code with its usage counter and cap
* `Registry` — profiles, competitions and the lookups the handlers only read
-/

namespace Tkdchb

open Calendar

/-- `timezone.now()`. -/
abbrev Time := ℕ

/-! ### Enrollments -/

/-- `Enrollment.STATUS_CHOICES`, with the empty text. -/
inductive EnrollmentStatus where
  | pendingPayment
  | paid
  | confirmed
  | accepted
  | completed
  | canceled
  | blank
  deriving DecidableEq, Repr, Inhabited

/-- `ELIGIBLE_STATUSES` of the admin. -/
def eligibleStatuses : List EnrollmentStatus := [.paid, .confirmed, .accepted, .completed]

/-- A kyorugi enrollment. -/
structure Enrollment where
  competition : ℕ
  player : ℤ
  coach : Option ℤ
  coachName : String
  club : Option ℕ
  clubName : String
  board : Option ℕ
  boardName : String
  beltGroup : Option ℕ
  weightCategory : Option ℕ
  declaredWeight : ℚ
  insuranceNumber : String
  insuranceIssueDate : Date
  discountCode : Option String
  discountAmount : ℕ
  payableAmount : ℕ
  status : EnrollmentStatus
  isPaid : Bool
  paidAmount : ℕ
  bankRefCode : String
  paidAt : Option Time
  deriving Inhabited

/-- `PoomsaeEnrollment.MODE_CHOICES`. -/
inductive PoomsaeMode where
  | single
  | team
  deriving DecidableEq, Repr, Inhabited

/-- What a poomsae enrollment is for, apart from its payment. -/
structure PoomsaeRegistration where
  competition : ℕ
  player : Option ℤ
  team : Option ℕ
  mode : PoomsaeMode
  poomsaeType : String
  coach : Option ℤ
  coachName : String
  club : Option ℕ
  clubName : String
  board : Option ℕ
  boardName : String
  insuranceIssueDate : Date
  deriving Inhabited

/-- A poomsae enrollment. -/
structure PoomsaeEnrollment where
  registration : PoomsaeRegistration
  status : EnrollmentStatus
  isPaid : Bool
  paidAmount : ℕ
  bankRefCode : String
  paidAt : Option Time
  deriving Inhabited

/-- A seminar registration. -/
structure SeminarRegistration where
  seminar : ℕ
  user : ℕ
  isPaid : Bool
  paidAmount : ℕ
  bankRefCode : String
  paidAt : Option Time
  deriving Inhabited

/-! ### Group payments -/

/-- One student of a group, as stored in the payload. -/
structure GroupItem where
  playerId : ℤ
  declaredWeight : ℚ
  insuranceNumber : String
  insuranceIssueDate : String
  beltGroupId : Option ℕ
  weightCategoryId : Option ℕ
  clubId : Option ℕ
  clubName : String
  boardId : Option ℕ
  boardName : String
  deriving Inhabited

/-- The JSON payload of a group payment. A missing key is `none`. -/
structure GroupPayload where
  items : List GroupItem
  rawTotalToman : ℕ
  discountAmountToman : ℕ
  payableAmountToman : ℕ
  rawTotal : ℕ
  discountAmount : ℕ
  payableAmount : Option ℕ
  discountCode : Option String
  createdAt : Time
  enrollmentIds : Option (List ℕ)
  paidAt : Option Time
  deriving Inhabited

/-- A coach's group registration. -/
structure GroupRegistrationPayment where
  coach : ℤ
  competition : ℕ
  payload : GroupPayload
  totalAmount : ℕ
  isPaid : Bool
  bankRefCode : Option String
  deriving Inhabited

/-! ### Discount codes -/

/-- A discount code. `maxUses` of `none` or zero means no cap. -/
structure DiscountCode where
  code : String
  percent : ℕ
  competition : Option ℕ
  poomsaeCompetition : Option ℕ
  seminar : Option ℕ
  maxUses : Option ℕ
  usedCount : ℕ
  active : Bool
  deriving Inhabited

/-- `max_uses not in (None, 0) and used_count >= max_uses`. -/
def DiscountCode.exhausted (dc : DiscountCode) : Bool :=
  match dc.maxUses with
  | none => false
  | some m => m != 0 && decide (m ≤ dc.usedCount)

/-! ### What the handlers only read -/

/-- The columns of a profile that registration reads. -/
structure UserProfile where
  firstName : String
  lastName : String
  role : String
  gender : String
  club : Option ℕ
  tkdBoard : Option ℕ
  deriving Inhabited

structure TkdClub where
  clubName : String
  deriving Inhabited

structure TkdBoard where
  name : String
  deriving Inhabited

structure KyorugiCompetition where
  entryFee : ℕ
  gender : String
  beltGroups : List ℕ
  competitionDate : Date
  registrationManual : Option Bool
  registrationStart : Date
  registrationEnd : Date
  deriving Inhabited

structure PoomsaeCompetition where
  competitionDate : Option Date
  deriving Inhabited

structure PoomsaeTeam where
  competition : ℕ
  style : String
  deriving Inhabited

/-- Tables and lookups that registration and payment read and never write. The
lookups that belong to other parts of the program keep their names. -/
structure Registry where
  kyorugi : ℕ → Option KyorugiCompetition
  poomsae : ℕ → Option PoomsaeCompetition
  poomsaeTeam : ℕ → Option PoomsaeTeam
  profile : ℤ → Option UserProfile
  club : ℕ → Option TkdClub
  board : ℕ → Option TkdBoard
  /-- `_get_comp_by_key` -/
  getCompByKey : String → Option ℕ
  kyorugiByPublicId : String → Option ℕ
  poomsaeByPublicId : String → Option ℕ
  /-- `_coach_from_request`, by user -/
  coachFromRequest : ℕ → Option ℤ
  /-- `_parse_insurance_date` -/
  parseInsuranceDate : String → Option Date
  /-- `_belt_group_for_player_in_comp` -/
  beltGroupForPlayerInComp : ℤ → ℕ → Option ℕ
  /-- `_find_weight_category_for` -/
  findWeightCategoryFor : ℕ → Option String → ℚ → Option ℕ
  /-- the database accepts the row: foreign keys, `NOT NULL`, column ranges -/
  acceptsEnrollment : Enrollment → Bool
  acceptsGroup : GroupRegistrationPayment → Bool
  /-- `clean_fields` and the uniqueness checks of `PoomsaeEnrollment.full_clean` -/
  poomsaeFieldsClean : PoomsaeRegistration → Bool
  /-- the validator of `serializers.URLField` -/
  validUrl : String → Bool
  deriving Inhabited

/-- `f"{p.first_name} {p.last_name}".strip()` is taken by the callers. -/
def UserProfile.fullName (p : UserProfile) : String := p.firstName ++ " " ++ p.lastName

/-- `RegistrationManualMixin.registration_open_effective` on date columns. -/
def KyorugiCompetition.registrationOpenEffective (c : KyorugiCompetition) (today : Date) : Bool :=
  match c.registrationManual with
  | some manual => manual
  | none =>
    decide (c.registrationStart.toOrdinal ≤ today.toOrdinal) &&
      decide (today.toOrdinal ≤ c.registrationEnd.toOrdinal)

end Tkdchb
