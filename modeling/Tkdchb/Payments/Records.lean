import Tkdchb.Competitions.Records
import Tkdchb.Lib.Table
import Tkdchb.Lib.Text

/-!
# Records of the payments application

Payment intents, the Bank records of the gateway package, the settings the
handlers consult, and the database they share.

Two fields are history variables and not columns: the origin of an intent and
the intent a Bank record was created for. No handler reads them.

## Main definitions

* `PaymentIntent`, `Bank` — the two ends of a payment
* `extractRefFromExtra` — the bank's reference number in a Bank record
* `Db` — the tables that registration and payment write
-/

namespace Tkdchb

/-- An exception that leaves a handler or a transaction. -/
inductive Failure where
  | validationError (errors : List (String × String))
  | doesNotExist (model : String)
  | multipleObjectsReturned (model : String)
  | integrityError (model : String)
  | valueError (detail : String)
  | http404

/-! ### Bank records -/

/-- A value inside `Bank.extra_information` when that is a dictionary. -/
inductive ExtraValue where
  | text (s : String)
  | dict (entries : List (String × String))

/-- `Bank.extra_information`: nothing, a text, or a dictionary. -/
inductive ExtraInformation where
  | null
  | text (s : String)
  | dict (entries : List (String × ExtraValue))
  deriving Inhabited

/-- A Bank record of the gateway package. -/
structure Bank where
  trackingCode : String
  amount : ℕ
  isSuccess : Bool
  status : String
  referenceNumber : String
  bankTrackId : String
  extraInformation : ExtraInformation
  /-- History: the intent whose dispatch created the record, if one did. -/
  intent : Option ℕ
  deriving Inhabited

/-- `str` of a value inside the dictionary. -/
def ExtraValue.str : ExtraValue → String
  | .text s => s
  | .dict entries =>
    "\x7b" ++ ", ".intercalate (entries.map fun e => "'" ++ e.1 ++ "': '" ++ e.2 ++ "'") ++ "\x7d"

/-- Truth value of a value inside the dictionary. -/
def ExtraValue.truthy : ExtraValue → Bool
  | .text s => s != ""
  | .dict entries => !entries.isEmpty

/-- `v = d.get(k); if v: return str(v).strip()`, for the first such key. -/
def firstRef (lookup : String → Option ExtraValue) (keys : List String) : Option String :=
  keys.findSome? fun k => ((lookup k).filter ExtraValue.truthy).map fun v => Text.strip v.str

/-- `_extract_ref_from_extra` -/
def extractRefFromExtra : ExtraInformation → String
  | .null => ""
  | .dict entries =>
    let top := firstRef (fun k => entries.lookup k)
      ["RetrivalRefNo", "RetrievalRefNo", "SystemTraceNo", "ref", "RefNo", "reference_number"]
    let sub := ["result", "data", "bank", "extra"].findSome? fun subk =>
      match entries.lookup subk with
      | some (.dict sub) => firstRef (fun k => (sub.lookup k).map ExtraValue.text)
          ["RetrivalRefNo", "RetrievalRefNo", "SystemTraceNo", "ref", "RefNo"]
      | _ => none
    (top.or sub).getD ""
  | .text s =>
    let found := ["RetrivalRefNo", "RetrievalRefNo", "SystemTraceNo"].findSome? fun key =>
      Text.searchAssigned key.toList s.toList
    (found.map String.ofList).getD ""

/-- The masked card number `_handle_sadad` takes from a dictionary. -/
def maskedPan : ExtraInformation → Option String
  | .dict entries =>
    ["card_pan", "maskedPan", "CardNoMasked", "CardNumberMasked", "cardNumberMasked"].findSome?
      fun k => ((entries.lookup k).filter ExtraValue.truthy).map ExtraValue.str
  | _ => none

/-- `reference_number or bank_track_id or tracking_code`. -/
def Bank.refFromBank (b : Bank) : String :=
  Text.orElse b.referenceNumber (Text.orElse b.bankTrackId b.trackingCode)

/-! ### Payment intents -/

/-- `PaymentIntent.STATUS_CHOICES` -/
inductive IntentStatus where
  | initiated
  | redirected
  | paid
  | failed
  deriving DecidableEq, Repr, Inhabited

/-- The dictionaries the handlers store in `PaymentIntent.extra`. -/
inductive IntentExtra where
  | empty
  | result (bankId : ℕ) (bankStatus : String) (bankExtra : ExtraInformation)
  | callback (status : String) (ref : String) (extraInformation : ExtraInformation)
  | free
  | dummy
  deriving Inhabited

/-- History: which endpoint created the intent. -/
inductive Origin where
  | api
  | group (gp : ℕ)
  deriving DecidableEq, Repr, Inhabited

/-- A payment intent. -/
structure PaymentIntent where
  publicId : String
  user : Option ℕ
  gateway : String
  status : IntentStatus
  competition : Option ℕ
  amount : ℕ
  originalAmount : ℕ
  discountAmount : ℕ
  discountCode : Option ℕ
  description : String
  callbackUrl : String
  token : String
  refId : String
  cardPan : String
  extra : IntentExtra
  initiatorIp : Option String
  userAgent : String
  kyorugiEnrollments : List ℕ
  kyorugiEnrollment : Option ℕ
  poomsaeEnrollment : Option ℕ
  seminarRegistration : Option ℕ
  /-- History: the endpoint that created the intent. -/
  origin : Origin
  deriving Inhabited

/-- The row `PaymentIntent.objects.create` inserts: the given columns, and the
defaults of the model in the others. -/
def PaymentIntent.create (publicId : String) (user amount originalAmount : ℕ)
    (description gateway callbackUrl : String) (origin : Origin) : PaymentIntent where
  publicId
  user := some user
  gateway
  status := .initiated
  competition := none
  amount
  originalAmount
  discountAmount := 0
  discountCode := none
  description
  callbackUrl
  token := ""
  refId := ""
  cardPan := ""
  extra := .empty
  initiatorIp := none
  userAgent := ""
  kyorugiEnrollments := []
  kyorugiEnrollment := none
  poomsaeEnrollment := none
  seminarRegistration := none
  origin

/-! ### Settings and database -/

/-- The settings the handlers consult. -/
structure Settings where
  debug : Bool
  paymentsEnabled : Bool
  paymentsDummy : Bool
  returnUrl : String
  paymentsCallbackUrl : String
  allowedCallbackHosts : List String
  allowedGateways : List String
  defaultGateway : String
  sadadCredsOk : Bool
  deriving Inhabited

/-- The tables that registration and payment write. -/
structure Db where
  intents : Table PaymentIntent
  banks : Table Bank
  groups : Table GroupRegistrationPayment
  enrollments : Table Enrollment
  poomsae : Table PoomsaeEnrollment
  seminars : Table SeminarRegistration
  codes : Table DiscountCode
  deriving Inhabited

/-- The intent under a key is paid. -/
def Db.Paid (db : Db) (pk : ℕ) : Prop := ∃ i, db.intents.get pk = some i ∧ i.status = .paid

instance (db : Db) (pk : ℕ) : Decidable (db.Paid pk) :=
  match h : db.intents.get pk with
  | none => isFalse fun ⟨_, hi, _⟩ => by simp [h] at hi
  | some i =>
    if hp : i.status = .paid then isTrue ⟨i, h, hp⟩
    else isFalse fun ⟨j, hj, hjp⟩ => hp (Option.some.inj (h.symm.trans hj) ▸ hjp)

theorem Db.paid_iff_of_get {db : Db} {pk : ℕ} {i : PaymentIntent}
    (h : db.intents.get pk = some i) : db.Paid pk ↔ i.status = .paid := by
  constructor
  · rintro ⟨j, hj, hpaid⟩
    obtain rfl : i = j := Option.some.inj (h.symm.trans hj)
    exact hpaid
  · exact fun hpaid => ⟨i, h, hpaid⟩

/-- Whether an intent is paid depends on its row alone. -/
theorem Db.paid_congr {db db' : Db} {pk : ℕ} (h : db'.intents.get pk = db.intents.get pk) :
    db'.Paid pk ↔ db.Paid pk := by
  simp only [Db.Paid, h]

end Tkdchb
