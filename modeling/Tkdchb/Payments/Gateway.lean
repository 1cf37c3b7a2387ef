import Tkdchb.Payments.GroupFinalization
import Tkdchb.Payments.Intents
import Tkdchb.Payments.Notices

/-!
# Starting a payment and hearing back from the bank

`StartPaymentView`, `payment_result_redirect` and `GatewayCallbackView`. A handler is cut
where it gives up the database: between its transactions, and between a read without a
lock and the write that follows it. A piece answers with a response, raises, or leaves a
task for its next piece. What a piece has read into memory travels in the task.

## Main definitions

* `Task` — what a request still has to do
* `Reply` — how a piece of a handler ends
* `begin`, `dispatchToGateway`, `recordReady`, `recordError` — `StartPaymentView`
* `resultRequest`, `resultCommit`, `resultFinalize` — `payment_result_redirect`
* `callbackRequest`, `callbackCommit` — `GatewayCallbackView._handle_sadad`
-/

namespace Tkdchb

open Web

/-- What a request still has to do, with what it holds in memory. -/
inductive Task where
  /-- `_dispatch_to_gateway`, after `_begin` -/
  | dispatch (pk : ℕ) (intent : PaymentIntent)
  /-- the locked write after the gateway answered -/
  | gatewayReady (pk bankId : ℕ) (trackingCode : String) (payment : Json)
  /-- the locked write after the gateway raised -/
  | gatewayError (pk : ℕ) (known : Bool) (detail : String)
  /-- `payment_result_redirect`, after the unlocked reads -/
  | result (tc : String) (bankId : ℕ) (bank : Bank) (pk : ℕ) (intent : PaymentIntent)
  /-- `payment_result_redirect`, after the intent was settled -/
  | resultFinalize (tc : String) (bankId : ℕ) (bank : Bank) (pk : ℕ) (intent : PaymentIntent)
  /-- `_handle_sadad`, after the unlocked reads -/
  | callback (bankId : ℕ) (bank : Bank) (pk : ℕ) (returnUrl : String)

/-- How a piece of a handler ends. -/
inductive Reply where
  | respond (r : Response)
  | raise (e : Failure)
  | next (t : Task)

/-- The task that is left. -/
def Reply.task? : Reply → Option Task
  | .next t => some t
  | _ => none

/-! ### Starting -/

/-- A request to `StartPaymentView`. -/
structure StartRequest where
  user : ℕ
  publicId : String
  gateway : Option String
  callbackUrl : String
  forwardedFor : Option String
  remoteAddr : Option String
  userAgent : String
  /-- scheme and host, for `build_absolute_uri` -/
  base : String
  deriving Inhabited

/-- `_pick_gateway` -/
def pickGateway (cfg : Settings) (raw : Option String) : String :=
  if !cfg.debug && !cfg.paymentsDummy then "sadad" else normalizeGatewayName raw

/-- `_client_ip` -/
def StartRequest.clientIp (rq : StartRequest) : Option String :=
  match rq.forwardedFor.filter (· ≠ "") with
  | some xff => some (Text.strip (String.ofList (xff.toList.takeWhile (· ≠ ','))))
  | none => rq.remoteAddr

/-- `_callback_allowed` -/
def callbackAllowed (cfg : Settings) (host : String) : Bool :=
  let allowed := if cfg.allowedCallbackHosts.isEmpty
    then ["chbtkd.ir", "www.chbtkd.ir", "api.chbtkd.ir", "localhost", "127.0.0.1"]
    else cfg.allowedCallbackHosts
  (allowed.map Text.lower).contains (Text.lower host)

/-- The URL of the result page, with the outcome. -/
def paidUrl (returnUrl publicId refId : String) : String :=
  returnUrl ++ querySep returnUrl ++ "ok=1&pid=" ++ publicId ++ "&ref=" ++ refId

/-- The row `_begin` saves. -/
def PaymentIntent.begun (i : PaymentIntent) (rq : StartRequest) (gw callbackUrl : String) :
    PaymentIntent :=
  { i with
    callbackUrl := if callbackUrl = "" then i.callbackUrl else callbackUrl
    initiatorIp := rq.clientIp
    userAgent := String.ofList (rq.userAgent.toList.take 255)
    gateway := gw }

/-- `_begin`, under the lock of the intent's row. -/
def begin (cfg : Settings) (rq : StartRequest) (gw callbackUrl : String) (db : Db) : Reply × Db :=
  if !cfg.paymentsEnabled && gw != "dummy" then
    (.respond (.json 403 [("detail", .str "payments disabled")]), db)
  else
    match db.intents.oldest fun i => i.publicId == rq.publicId && i.user == some rq.user with
    | none => (.raise .http404, db)
    | some (pk, i) =>
      let returnUrl := Text.orElse i.callbackUrl cfg.returnUrlOr
      let proceed :=
        (Reply.next (.dispatch pk (i.begun rq gw callbackUrl)),
          { db with intents := db.intents.modify pk fun i => i.begun rq gw callbackUrl })
      -- the last time before the gateway answers that the status is looked at
      if i.status = .paid then
        (.respond (.json 200 [("already_paid", .bool true),
          ("redirect_url", .str (paidUrl returnUrl i.publicId i.refId))]), db)
      -- a tab that comes after another tab's redirect is sent there
      else if i.status = .redirected ∧ i.token ≠ "" then
        (.respond (.json 409 [("already_redirected", .bool true),
          ("redirect_url",
            .str (rq.base ++ "/bankgateways/go-to-bank-gateway/?tc=" ++ i.token))]), db)
      else if callbackUrl = "" then proceed
      else
        match urlparse callbackUrl with
        | none => (.raise (.valueError "Invalid IPv6 URL"), db)
        | some u =>
          if (u.scheme ≠ "http" ∧ u.scheme ≠ "https") ∨ u.netloc = "" then
            (.respond (.json 400 [("detail", .str "invalid callback_url")]), db)
          else if !callbackAllowed cfg u.netloc then
            (.respond (.json 400 [("detail", .str "callback_url not allowed")]), db)
          else proceed

/-- `StartPaymentView.post` and `.get`, up to the dispatch. -/
def startPayment (cfg : Settings) (rq : StartRequest) (db : Db) : Reply × Db :=
  begin cfg rq (pickGateway cfg rq.gateway) (Text.strip rq.callbackUrl) db

/-- What the gateway package does when asked for a payment: it creates a Bank record and
a payment form, or creates the record and then raises, or raises before. `known` is an
`AZBankGatewaysException`. -/
inductive GatewayOutcome where
  | ready (record : Bank) (payment : Json)
  | readyError (record : Bank) (known : Bool) (detail : String)
  | error (known : Bool) (detail : String)

/-- The Bank record the package has created. -/
def GatewayOutcome.record? : GatewayOutcome → Option Bank
  | .ready record _ | .readyError record _ _ => some record
  | .error _ _ => none

/-- The Bank record of a dispatch: the package stores the amount it was given. -/
def dispatchedBank (record : Bank) (pk amount : ℕ) : Bank :=
  { record with amount := amount, intent := some pk }

/-- `_dispatch_to_gateway`, up to the locked write. -/
def dispatchToGateway (cfg : Settings) (reg : Registry) (now : Time) (pk : ℕ)
    (intent : PaymentIntent) (outcome : GatewayOutcome) (db : Db) : Reply × Db :=
  if intent.amount = 0 then
    match lockAndMarkPaid reg now pk .free db with
    | .error e => (.raise e, db)
    | .ok (i, db) =>
      let returnUrl := Text.orElse i.callbackUrl cfg.returnUrlOr
      (.respond (.json 200 [("gateway", .str "free"),
        ("redirect_url", .str (paidUrl returnUrl i.publicId i.refId)),
        ("public_id", .str i.publicId), ("ref_id", .str i.refId)]), db)
  else if intent.gateway = "dummy" then
    match lockAndMarkPaid reg now pk .dummy db with
    | .error e => (.raise e, db)
    | .ok (i, db) =>
      let returnUrl := Text.orElse i.callbackUrl cfg.returnUrlOr
      -- unlike the free branch, the separator is always a question mark
      let url := returnUrl ++ "?ok=1&pid=" ++ i.publicId ++ "&ref=" ++ i.refId
      (.respond (.json 200 [("gateway", .str "dummy"), ("redirect_url", .str url),
        ("public_id", .str i.publicId), ("ref_id", .str i.refId)]), db)
  else if intent.gateway = "sadad" ∨ intent.gateway = "bmi" then
    if !cfg.sadadCredsOk then
      (.respond (.json 503 [("detail", .str "SADAD credentials not configured.")]), db)
    else if intent.amount < 10000 then
      (.respond (.json 400 [("detail", .str "invalid amount (must be rials)")]), db)
    else
      -- the call is made outside any transaction
      match outcome with
      | .ready record payment =>
        (.next (.gatewayReady pk db.banks.next record.trackingCode payment),
          { db with banks := db.banks.insert (dispatchedBank record pk intent.amount) })
      | .readyError record known detail =>
        (.next (.gatewayError pk known detail),
          { db with banks := db.banks.insert (dispatchedBank record pk intent.amount) })
      | .error known detail => (.next (.gatewayError pk known detail), db)
  else
    (.respond (.json 400 [("detail", .str "unsupported gateway")]), db)

/-- The write of an answered dispatch. -/
def PaymentIntent.redirectTo (trackingCode : String) (bankId : ℕ) (i : PaymentIntent) :
    PaymentIntent :=
  { i with
    token := trackingCode
    refId := Text.orElse i.refId (toString bankId)
    status := .redirected }

/-- The write of a failed dispatch. -/
def PaymentIntent.fail (i : PaymentIntent) : PaymentIntent := { i with status := .failed }

/-- The locked write after an answer of the gateway. -/
def recordReady (pk bankId : ℕ) (trackingCode : String) (payment : Json) (db : Db) : Reply × Db :=
  match db.intents.get pk with
  | none => (.raise (.doesNotExist "PaymentIntent"), db)
  | some i =>
    (.respond (.json 200 [("gateway", .str "sadad"), ("payment", payment),
      ("token", .str trackingCode), ("public_id", .str i.publicId)]),
      { db with intents := db.intents.modify pk (PaymentIntent.redirectTo trackingCode bankId) })

/-- The locked write after an exception of the gateway. -/
def recordError (pk : ℕ) (known : Bool) (detail : String) (db : Db) : Reply × Db :=
  match db.intents.get pk with
  | none => (.raise (.doesNotExist "PaymentIntent"), db)
  | some _ =>
    let response := if known
      then Response.json 502 [("detail", .str "payment init failed"), ("error", .str detail)]
      else Response.json 500 [("detail", .str "unexpected error"), ("error", .str detail)]
    (.respond response, { db with intents := db.intents.modify pk PaymentIntent.fail })

/-! ### The result redirect -/

/-- `ref or token or tc`: the reference code of the enrollments. -/
def finalizeRefCode (b : Bank) (tc : String) : String :=
  Text.orElse (extractRefFromExtra b.extraInformation)
    (Text.orElse (Text.strip b.referenceNumber) tc)

/-- The redirect at the end of `payment_result_redirect`. -/
def resultUrl (cfg : Settings) (tc : String) (b : Bank) (publicId : Option String)
    (enrollmentIds : List ℕ) : String :=
  let returnUrl := Text.orElse cfg.returnUrl "https://chbtkd.ir/#/payment/result"
  let ref := extractRefFromExtra b.extraInformation
  let token := Text.strip b.referenceNumber
  let params :=
    [("ok", if b.isSuccess then "1" else "0"), ("tc", tc)] ++
    (if ref ≠ "" then [("ref", ref)] else if token ≠ "" then [("ref", token)] else []) ++
    (if token ≠ "" then [("token", token)] else []) ++
    (match publicId with
    | some pid => [("pid", pid)]
    | none => []) ++
    (if enrollmentIds.isEmpty then []
      else [("enrollment_ids", ",".intercalate (enrollmentIds.map fun id => toString id))])
  returnUrl ++ querySep returnUrl ++ urlencode params

/-- `PaymentIntent.objects.filter(token=tc).first()`, newest first. -/
def intentByToken (db : Db) (tc : String) : Option (ℕ × PaymentIntent) :=
  db.intents.newest fun i => i.token == tc

/-- `PaymentIntent.objects.filter(ref_id=str(bank.id)).first()`, newest first. -/
def intentByRefId (db : Db) (bankId : ℕ) : Option (ℕ × PaymentIntent) :=
  db.intents.newest fun i => i.refId == toString bankId

/-- `payment_result_redirect` up to the first write: the unlocked reads. -/
def resultRequest (cfg : Settings) (tc : String) (db : Db) : Reply :=
  let tc := Text.strip tc
  if tc = "" then .respond (.text 200 "OK")
  else
    match db.banks.oldest fun b => b.trackingCode == tc with
    | none => .respond (.text 200 "OK")
    | some (bankId, b) =>
      match (intentByToken db tc).or (intentByRefId db bankId) with
      | none => .respond (.redirect (resultUrl cfg tc b none []))
      | some (pk, i) => .next (.result tc bankId b pk i)

/-- The write of an unsuccessful result. -/
def PaymentIntent.failResult (bankId : ℕ) (b : Bank) (i : PaymentIntent) : PaymentIntent :=
  { i with status := .failed, extra := .result bankId b.status b.extraInformation }

/-- The success or the failure branch of `payment_result_redirect`, up to the
finalisation. The status of the copy decides whether the row is looked at again. -/
def resultCommit (cfg : Settings) (reg : Registry) (now : Time) (tc : String) (bankId : ℕ)
    (b : Bank) (pk : ℕ) (intent : PaymentIntent) (db : Db) : Reply × Db :=
  if b.isSuccess then
    if intent.status ≠ .paid then
      match resultBlock reg now pk bankId b tc db with
      | .error e => (.raise e, db)
      | .ok (i, db) => (.next (.resultFinalize tc bankId b pk i), db)
    else (.next (.resultFinalize tc bankId b pk intent), db)
  else
    let response := Reply.respond (.redirect (resultUrl cfg tc b (some intent.publicId) []))
    if intent.status ≠ .paid then
      -- written without a lock, whatever the row says by now
      (response,
        { db with intents := db.intents.modify pk (PaymentIntent.failResult bankId b) })
    else (response, db)

/-- The finalisation at the end of `payment_result_redirect`; its exceptions are logged
and swallowed. -/
def resultFinalize (cfg : Settings) (reg : Registry) (now : Time) (tc : String) (b : Bank)
    (intent : PaymentIntent) (db : Db) : Reply × Db :=
  match finalizeGroupPaymentIfNeeded reg now intent (finalizeRefCode b tc) db with
  | .ok (ids, db) => (.respond (.redirect (resultUrl cfg tc b (some intent.publicId) ids)), db)
  | .error _ => (.respond (.redirect (resultUrl cfg tc b (some intent.publicId) [])), db)

/-! ### The gateway callback -/

/-- `Bank.objects.get(tracking_code=tracking)` -/
def getBank (db : Db) (tracking : String) : Except Failure (ℕ × Bank) :=
  match db.banks.oldest fun b => b.trackingCode == tracking,
      db.banks.newest fun b => b.trackingCode == tracking with
  | some (bankId, b), some (last, _) =>
    if bankId = last then .ok (bankId, b) else .error (.multipleObjectsReturned "Bank")
  | _, _ => .error (.doesNotExist "Bank")

/-- `PaymentIntent.objects.filter(public_id=pid).first()` when a `pid` was sent. -/
def intentByPid (db : Db) : Option String → Option (ℕ × PaymentIntent)
  | none | some "" => none
  | some pid => db.intents.newest fun i => i.publicId == pid

/-- `_handle_sadad` up to the first write: the unlocked reads. -/
def callbackRequest (cfg : Settings) (gatewayName : String) (tracking pid : Option String)
    (db : Db) : Reply :=
  if gatewayName ≠ "sadad" then
    .respond (.json 400 [("detail", .str "unsupported callback")])
  else
    match tracking.filter (· ≠ "") with
    | none => .respond (.json 400 [("detail", .str "tracking code not found")])
    | some tracking =>
      match getBank db tracking with
      | .error (.doesNotExist _) =>
        .respond (.json 404 [("detail", .str "bank record not found")])
      | .error e => .raise e
      | .ok (bankId, b) =>
        -- the client's `pid` comes before the keys of the Bank record
        match ((intentByPid db pid).or (intentByToken db tracking)).or
            (intentByRefId db bankId) with
        | none => .respond (.json 404 [("detail", .str "intent not found"),
            ("pid", .ofText? pid), ("tc", .str tracking)])
        | some (pk, i) =>
          .next (.callback bankId b pk (Text.orElse i.callbackUrl cfg.returnUrlOr))

/-- The write of an unsuccessful callback. -/
def PaymentIntent.failCallback (b : Bank) (i : PaymentIntent) : PaymentIntent :=
  { i with
    status := .failed
    extra := .callback b.status b.refFromBank b.extraInformation }

/-- The locked block of `_handle_sadad`. -/
def callbackCommit (reg : Registry) (now : Time) (bankId : ℕ) (b : Bank) (pk : ℕ)
    (returnUrl : String) (db : Db) : Reply × Db :=
  if b.isSuccess then
    match lockAndMarkPaid reg now pk (.callback bankId b) db with
    | .error e => (.raise e, db)
    | .ok (i, db) => (.respond (.redirect (paidUrl returnUrl i.publicId i.refId)), db)
  else
    match db.intents.get pk with
    | none => (.raise (.doesNotExist "PaymentIntent"), db)
    | some i =>
      (.respond (.redirect (returnUrl ++ querySep returnUrl ++ "ok=0&pid=" ++ i.publicId)),
        { db with intents := db.intents.modify pk (PaymentIntent.failCallback b) })

/-! ### How a request starts -/

section Requests

variable {cfg : Settings} {rq : StartRequest} {gw callbackUrl : String} {db : Db} {t : Task}

/-- `_begin` answers and writes nothing, or saves an unpaid intent and hands it on. -/
theorem begin_cases (cfg : Settings) (rq : StartRequest) (gw callbackUrl : String) (db : Db) :
    ((begin cfg rq gw callbackUrl db).1.task? = none ∧ (begin cfg rq gw callbackUrl db).2 = db) ∨
    ∃ pk i, db.intents.get pk = some i ∧ i.status ≠ .paid ∧
      begin cfg rq gw callbackUrl db = (.next (.dispatch pk (i.begun rq gw callbackUrl)),
        { db with intents := db.intents.modify pk fun i => i.begun rq gw callbackUrl }) := by
  unfold begin
  split
  · exact Or.inl ⟨rfl, rfl⟩
  · split
    · exact Or.inl ⟨rfl, rfl⟩
    · next pk i hfind =>
      have hrow := (Table.oldest_spec hfind).1
      -- three early answers, then the checks of a callback URL
      split_ifs with hpaid hredirected hempty
      · exact Or.inl ⟨rfl, rfl⟩
      · exact Or.inl ⟨rfl, rfl⟩
      · exact Or.inr ⟨pk, i, hrow, hpaid, rfl⟩
      · split
        · exact Or.inl ⟨rfl, rfl⟩
        · split_ifs
          · exact Or.inl ⟨rfl, rfl⟩
          · exact Or.inl ⟨rfl, rfl⟩
          · exact Or.inr ⟨pk, i, hrow, hpaid, rfl⟩

/-- What a call of the gateway leaves: nothing, an answer with its Bank record, or an
error with or without one. -/
inductive GatewayCall (pk amount : ℕ) (db : Db) : GatewayOutcome → Reply × Db → Prop
  | none (outcome : GatewayOutcome) (r : Reply) (hr : r.task? = Option.none) :
      GatewayCall pk amount db outcome (r, db)
  | ready (record : Bank) (payment : Json) :
      GatewayCall pk amount db (.ready record payment)
        (.next (.gatewayReady pk db.banks.next record.trackingCode payment),
          { db with banks := db.banks.insert (dispatchedBank record pk amount) })
  | readyError (record : Bank) (known : Bool) (detail : String) :
      GatewayCall pk amount db (.readyError record known detail)
        (.next (.gatewayError pk known detail),
          { db with banks := db.banks.insert (dispatchedBank record pk amount) })
  | error (known : Bool) (detail : String) :
      GatewayCall pk amount db (.error known detail) (.next (.gatewayError pk known detail), db)

/-- A dispatch that has to be paid is a call of the gateway. -/
theorem dispatchToGateway_call {reg : Registry} {now : Time} {pk : ℕ} {i : PaymentIntent}
    {outcome : GatewayOutcome} (hamount : i.amount ≠ 0) (hdummy : i.gateway ≠ "dummy") :
    GatewayCall pk i.amount db outcome (dispatchToGateway cfg reg now pk i outcome db) := by
  simp only [dispatchToGateway, if_neg hamount, if_neg hdummy]
  split_ifs
  · exact .none _ _ rfl
  · exact .none _ _ rfl
  · cases outcome with
    | ready record payment => exact .ready record payment
    | readyError record known detail => exact .readyError record known detail
    | error known detail => exact .error known detail
  · exact .none _ _ rfl

/-- A dispatch that settles the intent itself ends the request. -/
theorem dispatchToGateway_settles {i : PaymentIntent} (h : i.amount = 0 ∨ i.gateway = "dummy")
    (cfg : Settings) (reg : Registry) (now : Time) (pk : ℕ) (outcome : GatewayOutcome) (db : Db) :
    (dispatchToGateway cfg reg now pk i outcome db).1.task? = none := by
  unfold dispatchToGateway
  split_ifs with hfree hdummy
  · split <;> rfl
  · split <;> rfl
  all_goals exact absurd h (not_or.mpr ⟨hfree, hdummy⟩)

/-- A result request goes on exactly when it has found a Bank record and an intent. -/
theorem resultRequest_next {tc : String} (h : resultRequest cfg tc db = .next t) :
    ∃ bankId b pk i, t = .result (Text.strip tc) bankId b pk i ∧ Text.strip tc ≠ "" ∧
      (db.banks.oldest fun b => b.trackingCode == Text.strip tc) = some (bankId, b) ∧
      (intentByToken db (Text.strip tc)).or (intentByRefId db bankId) = some (pk, i) := by
  simp only [resultRequest] at h
  split at h
  · cases h
  · next hne =>
    split at h
    · cases h
    · next bankId b hbank =>
      split at h
      · cases h
      · next pk i hfind =>
        cases h
        exact ⟨bankId, b, pk, i, rfl, hne, hbank, hfind⟩

/-- A callback goes on exactly when it has found a Bank record and an intent, and with the URL
of that intent. -/
theorem callbackRequest_next {gatewayName : String} {tracking pid : Option String}
    (h : callbackRequest cfg gatewayName tracking pid db = .next t) :
    ∃ tc bankId b pk i,
      t = .callback bankId b pk (Text.orElse i.callbackUrl cfg.returnUrlOr) ∧
      tracking = some tc ∧ tc ≠ "" ∧ getBank db tc = .ok (bankId, b) ∧
      ((intentByPid db pid).or (intentByToken db tc)).or (intentByRefId db bankId) =
        some (pk, i) := by
  simp only [callbackRequest] at h
  split at h
  · cases h
  · split at h
    · cases h
    · next tc htc =>
      obtain ⟨htracking, hne⟩ := Option.filter_eq_some_iff.mp htc
      split at h
      · cases h
      · cases h
      · next bankId b hbank =>
        split at h
        · cases h
        · next pk i hfind =>
          cases h
          exact ⟨tc, bankId, b, pk, i, rfl, htracking, by simpa using hne, hbank, hfind⟩

end Requests

end Tkdchb
