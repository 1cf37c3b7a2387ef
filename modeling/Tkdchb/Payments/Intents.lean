import Tkdchb.Lib.Web
import Tkdchb.Payments.Discounts

/-!
# Creating an intent

`InitiateSerializer` and `create_intent`: any authenticated user creates an intent with
an amount, a description and a discount code of their choice.

## Main definitions

* `normalizeGatewayName` — `_normalize_gateway_name`
* `InitiateData.validate` — the serializer
* `createIntent` — the endpoint

## Main results

* `createIntent_ok` — a request that returns has inserted one initiated intent with a
  fresh public identifier, or nothing
-/

namespace Tkdchb

open Web

/-! ### Gateway names -/

/-- `_normalize_gateway_name` -/
def normalizeGatewayName (name : Option String) : String :=
  let n := Text.lower (Text.strip (name.getD ""))
  if n = "dummy" ∨ n = "test" then "dummy"
  else if n = "sodad" ∨ n = "saddad" ∨ n = "sadad" then "sadad"
  else if n = "bmi" then "bmi"
  else if n = "fake" then "fake"
  else Text.orElse n "sadad"

/-- `_return_url` -/
def Settings.returnUrlOr (cfg : Settings) : String := Text.orElse cfg.returnUrl "/"

/-- `_default_gateway` of the serializers. -/
def Settings.defaultGatewayName (cfg : Settings) : String :=
  let g := Text.lower (Text.strip (Text.orElse cfg.defaultGateway "sadad"))
  if g = "sodad" ∨ g = "saddad" ∨ g = "sadad" then "sadad" else g

/-- `_allowed_gateways` -/
def Settings.allowedGatewayNames (cfg : Settings) : List String :=
  let allowed :=
    if cfg.allowedGateways.isEmpty then ["dummy", "fake", "sadad", "bmi"] else cfg.allowedGateways
  if cfg.paymentsDummy then "dummy" :: allowed else allowed

/-! ### The serializer -/

/-- The body of a request to `create_intent`. An absent field is `none`. -/
structure InitiateData where
  competitionId : Option ℤ
  competitionPublicId : Option String
  discountCode : Option String
  amount : Option ℤ
  amountToman : Option ℤ
  description : Option String
  callbackUrl : Option String
  gateway : Option String
  style : Option String
  deriving Inhabited

/-- `serializer.validated_data` -/
structure Initiate where
  competitionId : Option ℤ
  competitionPublicId : String
  discountCode : String
  amount : ℕ
  description : String
  callbackUrl : String
  gateway : Option String
  style : String

/-- `validate_gateway`, on the trimmed text. -/
def validateGateway (cfg : Settings) (v : String) : Except String String :=
  let name := Text.orElse (Text.lower v) cfg.defaultGatewayName
  if cfg.allowedGatewayNames.contains name then .ok name else .error "unsupported gateway"

/-- `validate_style`, on the trimmed text. -/
def validateStyle (v : String) : String := Text.orElse (Text.lower v) "kyorugi"

/-- `min_value=0` on an integer field. -/
def minValueErrors (field : String) : Option ℤ → List (String × String)
  | none => []
  | some n => if n < 0 then [(field, "min_value")] else []

/-- `validate_gateway` of the request's gateway, when there is one. -/
def InitiateData.gatewayName (cfg : Settings) (data : InitiateData) :
    Option (Except String String) :=
  data.gateway.map fun v => validateGateway cfg (Text.strip v)

/-- The errors of the single fields, each under its name. -/
def InitiateData.fieldErrors (cfg : Settings) (reg : Registry) (data : InitiateData) :
    List (String × String) :=
  let callbackUrl := Text.strip (data.callbackUrl.getD "")
  minValueErrors "amount" data.amount ++
  minValueErrors "amount_toman" data.amountToman ++
  (if callbackUrl = "" ∨ reg.validUrl callbackUrl then [] else [("callback_url", "invalid")]) ++
  (match data.gatewayName cfg with
  | some (.error text) => [("gateway", text)]
  | _ => [])

/-- `InitiateSerializer.is_valid`. Character fields are trimmed; the errors of the
fields are collected before `validate` runs. -/
def InitiateData.validate (cfg : Settings) (reg : Registry) (data : InitiateData) :
    Except Failure Initiate :=
  if data.fieldErrors cfg reg ≠ [] then .error (.validationError (data.fieldErrors cfg reg))
  else
    match data.amount.or (data.amountToman.map (· * 10)) with
    | none => .error (.validationError [("amount", "amount (rial) is required")])
    | some amount =>
      .ok {
        competitionId := data.competitionId
        competitionPublicId := Text.strip (data.competitionPublicId.getD "")
        discountCode := Text.lower (Text.strip (data.discountCode.getD ""))
        amount := amount.toNat
        description := Text.strip (data.description.getD "")
        callbackUrl := Text.strip (data.callbackUrl.getD "")
        gateway := (data.gatewayName cfg).bind Except.toOption
        style := validateStyle (Text.strip (data.style.getD "kyorugi")) }

/-! ### The endpoint -/

/-- `get_object_or_404` by primary key or by public identifier, in one table. -/
def getObjectOr404 (byKey : ℕ → Option ℕ) (byPublicId : String → Option ℕ)
    (data : Initiate) : Except Failure (Option ℕ) :=
  match data.competitionId.filter (· ≠ 0) with
  | some id =>
    match (if 0 ≤ id then byKey id.toNat else none) with
    | some id => .ok (some id)
    | none => .error .http404
  | none =>
    if data.competitionPublicId = "" then .ok none
    else
      match byPublicId data.competitionPublicId with
      | some id => .ok (some id)
      | none => .error .http404

/-- The competition of the request, by its style. -/
def findCompetition (reg : Registry) (data : Initiate) :
    Except Failure (Option CompetitionRef) :=
  if data.style = "kyorugi" then do
    let id ← getObjectOr404 (fun k => (reg.kyorugi k).map fun _ => k) reg.kyorugiByPublicId data
    return id.map .kyorugi
  else if data.style = "poomsae" then do
    let id ← getObjectOr404 (fun k => (reg.poomsae k).map fun _ => k) reg.poomsaeByPublicId data
    return id.map .poomsae
  else
    .ok none

/-- The discount of the request, with the checks `create_intent` adds. The other checks
of its results (signs, `final ≤ base`) repeat what the discount guarantees. -/
def discountForIntent (competition : Option CompetitionRef) (data : Initiate)
    (codes : Table DiscountCode) : Except String Discounted :=
  if data.discountCode = "" then .ok ⟨data.amount, none, 0⟩
  else
    match applyDiscountForCompetition competition data.amount data.discountCode false none
      codes with
    | .error text => .error text
    | .ok (d, _) =>
      if data.amount < d.finalAmount then
        .error "amount نهایی از مبلغ اولیه بیشتر شد (خطای تخفیف)."
      else if 0 < d.finalAmount ∧ d.finalAmount < 10000 then
        .error "amount نهایی باید به ریال باشد (عدد بسیار کوچک است)."
      else .ok d

/-- The row `create_intent` inserts. -/
def apiIntent (cfg : Settings) (user : ℕ) (publicId : String)
    (competition : Option CompetitionRef) (data : Initiate) (d : Discounted) : PaymentIntent :=
  { PaymentIntent.create publicId user d.finalAmount data.amount data.description
      (normalizeGatewayName data.gateway) (Text.orElse data.callbackUrl cfg.returnUrlOr) .api with
    competition := competition.bind CompetitionRef.kyorugiId
    discountCode := d.code.map Prod.fst
    discountAmount := d.discountAmount }

/-- No intent has the public identifier yet: the unique constraint on the column. -/
def publicIdFree (db : Db) (publicId : String) : Bool :=
  (db.intents.oldest fun i => i.publicId == publicId).isNone

/-- `create_intent`, with the public identifier that was drawn for the intent. -/
def createIntent (cfg : Settings) (reg : Registry) (user : ℕ) (publicId : String)
    (data : InitiateData) (db : Db) : Except Failure (Response × Db) := do
  let data ← data.validate cfg reg
  -- the client's amount is taken as it is, whatever the competition costs
  if data.amount < 10000 then
    throw (.validationError [("", "amount باید به ریال ارسال شود (عدد خیلی کوچک است).")])
  let competition ← findCompetition reg data
  match discountForIntent competition data db.codes with
  | .error text => return (.json 400 [("detail", .str ("['" ++ text ++ "']"))], db)
  | .ok d =>
    -- the unique column is checked by the insert
    if publicIdFree db publicId then
      let intent := apiIntent cfg user publicId competition data d
      return (.json 201 [
        ("public_id", .str intent.publicId),
        ("amount", .num intent.amount),
        ("original_amount", .num intent.originalAmount),
        ("discount_amount", .num intent.discountAmount),
        ("discount_code", .ofText? (d.code.map fun c => c.2.code))],
        { db with intents := db.intents.insert intent })
    else throw (.integrityError "PaymentIntent")

section CreateIntent

variable {cfg : Settings} {reg : Registry} {user : ℕ} {publicId : String} {data : InitiateData}
  {db db' : Db} {r : Response}

/-- The texts an intent gets are the trimmed ones of the request. -/
theorem validate_texts {v : Initiate} (h : data.validate cfg reg = .ok v) :
    v.description = Text.strip (data.description.getD "") ∧
      v.callbackUrl = Text.strip (data.callbackUrl.getD "") := by
  simp only [InitiateData.validate] at h
  split at h
  · cases h
  · split at h
    · cases h
    · cases h
      exact ⟨rfl, rfl⟩

/-- A request that returns has inserted the intent of its validated data, with the discount it
was granted, or nothing. -/
theorem createIntent_cases (h : createIntent cfg reg user publicId data db = .ok (r, db')) :
    db' = db ∨ ∃ (v : Initiate) (competition : Option CompetitionRef) (d : Discounted),
      data.validate cfg reg = .ok v ∧ 10000 ≤ v.amount ∧
      discountForIntent competition v db.codes = .ok d ∧ publicIdFree db publicId = true ∧
      db' = { db with
        intents := db.intents.insert (apiIntent cfg user publicId competition v d) } := by
  simp only [createIntent, bind, Except.bind, pure, Except.pure, throw, throwThe,
    MonadExceptOf.throw] at h
  split at h
  · cases h
  · next v hv =>
    split at h
    · cases h
    · next _ hamount =>
      split at h
      · cases h
      · next competition _ =>
        split at h
        · cases h
          exact Or.inl rfl
        · next d hd =>
          split at h
          · next hfree =>
            cases h
            exact Or.inr ⟨v, competition, d, hv, Nat.le_of_not_lt hamount, hd, hfree, rfl⟩
          · cases h

/-- A request that returns has inserted the intent of its validated data, under a fresh
public identifier, or nothing. -/
theorem createIntent_inserts (h : createIntent cfg reg user publicId data db = .ok (r, db')) :
    db' = db ∨ ∃ (v : Initiate) (competition : Option CompetitionRef) (d : Discounted),
      data.validate cfg reg = .ok v ∧ publicIdFree db publicId = true ∧
      db' = { db with
        intents := db.intents.insert (apiIntent cfg user publicId competition v d) } := by
  rcases createIntent_cases h with hsame | ⟨v, competition, d, hv, -, -, hfree, hdb⟩
  · exact Or.inl hsame
  · exact Or.inr ⟨v, competition, d, hv, hfree, hdb⟩

/-- A request that returns has inserted one intent of its own making, under a fresh
public identifier, or nothing. -/
theorem createIntent_ok (h : createIntent cfg reg user publicId data db = .ok (r, db')) :
    db' = db ∨ ∃ (v : Initiate) (competition : Option CompetitionRef) (d : Discounted),
      v.description = Text.strip (data.description.getD "") ∧
      publicIdFree db publicId = true ∧
      db' = { db with
        intents := db.intents.insert (apiIntent cfg user publicId competition v d) } := by
  rcases createIntent_inserts h with hsame | ⟨v, competition, d, hv, hfree, hdb⟩
  · exact Or.inl hsame
  · exact Or.inr ⟨v, competition, d, (validate_texts hv).1, hfree, hdb⟩

end CreateIntent

end Tkdchb
