import Tkdchb.Payments.OwnMoney
import Tkdchb.Payments.PaidStatus

/-!
# Where a payment returns to

The client may name a URL to return to, at `create_intent` and again when the payment is
started. `StartPaymentView` checks its scheme and its host against the allowed ones;
`create_intent` only checks that it is a URL. Every later redirect takes the stored URL
as it is.

## Main definitions

* `AllowedUrl` — what `_begin` demands of a client's URL
* `createPaymentLink` — `create_payment_link`
* `Issues` — the redirects a handler may issue in a state
* `ReturnUrlsSafe` — every stored URL, and every one a request holds, is allowed or
  configured
* `UrlChecked` — a `create_intent` whose URL would pass the check of `_begin`

## Main results

* `returnUrlsSafe_step` — only an unchecked `create_intent` stores a foreign URL
* `StaysHome.of_issues` — no redirect leaves the allowed hosts then
* `redirects_stay_home` — neither happens in a run whose URLs are checked
-/

namespace Tkdchb

open Transition Web

/-! ### Allowed and configured URLs -/

/-- The checks of `_begin`: the scheme, and the host. -/
def AllowedUrl (cfg : Settings) (url : String) : Prop :=
  ∃ u, urlparse url = some u ∧ (u.scheme = "http" ∨ u.scheme = "https") ∧ u.netloc ≠ "" ∧
    callbackAllowed cfg u.netloc = true

/-- The URLs of the settings: the default return URL, with or without its last resort,
and the one coach registrations store. -/
def Settings.ownUrls (cfg : Settings) : List String :=
  [cfg.returnUrlOr, cfg.paymentsCallbackUrl,
    Text.orElse cfg.returnUrl "https://chbtkd.ir/#/payment/result"]

/-- A URL of the settings, or one a client may name. -/
def SafeUrl (cfg : Settings) (url : String) : Prop := url ∈ cfg.ownUrls ∨ AllowedUrl cfg url

/-- What a redirect of a site at `base` may lead to: an allowed host, a URL of the
settings with a query, or the site itself. -/
def StaysHome (cfg : Settings) (base url : String) : Prop :=
  AllowedUrl cfg url ∨
  (∃ own ∈ cfg.ownUrls, ∃ sep params, (sep = "?" ∨ sep = querySep own) ∧
    url = own ++ sep ++ params) ∨
  ∃ path, url = base ++ "/" ++ path

section Urls

variable {cfg : Settings} {url sep : String}

theorem AllowedUrl.append_query (h : AllowedUrl cfg url) (hsep : sep = "?" ∨ sep = querySep url)
    (params : String) : AllowedUrl cfg (url ++ sep ++ params) := by
  obtain ⟨u, hu, hscheme, hnetloc, hhost⟩ := h
  have hne : u.scheme ≠ "" := by
    rcases hscheme with hscheme | hscheme
    · rw [hscheme]
      decide
    · rw [hscheme]
      decide
  exact ⟨u, urlparse_append_query hu hne hnetloc hsep params, hscheme, hnetloc, hhost⟩

/-- A safe URL stays one with a query behind it. -/
theorem SafeUrl.staysHome (h : SafeUrl cfg url) (hsep : sep = "?" ∨ sep = querySep url)
    (base params : String) : StaysHome cfg base (url ++ sep ++ params) := by
  rcases h with hown | hallowed
  · exact Or.inr (Or.inl ⟨url, hown, sep, params, hsep, rfl⟩)
  · exact Or.inl (hallowed.append_query hsep params)

/-- An empty column means the default return URL. -/
theorem SafeUrl.orElse (h : url = "" ∨ SafeUrl cfg url) :
    SafeUrl cfg (Text.orElse url cfg.returnUrlOr) := by
  unfold Text.orElse
  split_ifs with hempty
  · exact Or.inl List.mem_cons_self
  · exact h.resolve_left hempty

end Urls

/-! ### Redirects -/

/-- The URL a response sends the client to. -/
def redirectUrl? : Response → Option String
  | .redirect url => some url
  | .json _ body =>
    match (body.lookup "redirect_url").or (body.lookup "payment_url") with
    | some (.str url) => some url
    | _ => none
  | .text _ _ => none

/-- `create_payment_link` with the token that was drawn. The two columns it writes, the
token and its expiry, are read nowhere. -/
def createPaymentLink (cfg : Settings) (user : ℕ) (publicId base lt : String) (db : Db) :
    Except Failure Response :=
  match db.intents.oldest fun i => i.publicId == publicId && i.user == some user with
  | none => .error .http404
  | some (_, i) =>
    if i.status = .paid then
      let returnUrl := Text.orElse i.callbackUrl cfg.returnUrlOr
      .ok (.json 200 [("already_paid", .bool true),
        ("payment_url", .str (paidUrl returnUrl i.publicId i.refId))])
    else
      .ok (.json 200 [("payment_url",
        .str (base ++ "/" ++ ("api/payments/start/" ++ i.publicId ++ "/?lt=" ++ lt)))])

/-- The redirects a handler may issue in a state, at a site whose own address is `base`. -/
inductive Issues (s : State) : String → String → Prop
  | start (rq : StartRequest) (r : Response) (url : String)
      (h : (startPayment s.settings rq s.db).1 = .respond r) (hurl : redirectUrl? r = some url) :
      Issues s rq.base url
  | resume (base : String) (k : ℕ) (t : Task) (outcome : GatewayOutcome) (r : Response)
      (url : String) (htask : s.tasks.get k = some t) (h : (perform s outcome t).1 = .respond r)
      (hurl : redirectUrl? r = some url) : Issues s base url
  | result (base tc : String) (r : Response) (url : String)
      (h : resultRequest s.settings tc s.db = .respond r) (hurl : redirectUrl? r = some url) :
      Issues s base url
  | callback (base gatewayName : String) (tracking pid : Option String) (r : Response)
      (url : String) (h : callbackRequest s.settings gatewayName tracking pid s.db = .respond r)
      (hurl : redirectUrl? r = some url) : Issues s base url
  | link (user : ℕ) (publicId base lt : String) (r : Response) (url : String)
      (h : createPaymentLink s.settings user publicId base lt s.db = .ok r)
      (hurl : redirectUrl? r = some url) : Issues s base url

/-! ### What is stored -/

/-- Every stored URL is empty, configured or allowed, and so is every URL that a gateway
callback has read and not yet answered with. -/
structure ReturnUrlsSafe (s : State) : Prop where
  stored : ∀ pk i, s.db.intents.get pk = some i →
    i.callbackUrl = "" ∨ SafeUrl s.settings i.callbackUrl
  inFlight : ∀ k bankId b pk url, s.tasks.get k = some (.callback bankId b pk url) →
    SafeUrl s.settings url

/-- The settings are those of the deployment. -/
def KeepsSettings : Action → State → Prop
  | .configure _ settings, s => settings = s.settings
  | _, _ => True

/-- A `create_intent` without a URL, or with one that would pass the check of `_begin`. -/
def UrlChecked : Action → State → Prop
  | .createIntent _ _ data, s =>
    Text.strip (data.callbackUrl.getD "") = "" ∨
      AllowedUrl s.settings (Text.strip (data.callbackUrl.getD ""))
  | _, _ => True

section Step

variable {s : State} {a : Action} {pk : ℕ}

/-- `_begin` stores no URL, or one it has checked. -/
theorem begin_url (cfg : Settings) (rq : StartRequest) (gw callbackUrl : String) (db : Db) :
    (begin cfg rq gw callbackUrl db).2 = db ∨
    (callbackUrl = "" ∨ AllowedUrl cfg callbackUrl) ∧ ∃ pk, (begin cfg rq gw callbackUrl db).2 =
      { db with intents := db.intents.modify pk fun i => i.begun rq gw callbackUrl } := by
  unfold begin
  split
  · exact Or.inl rfl
  · split
    · exact Or.inl rfl
    · next pk i hfind =>
      split_ifs with hpaid hredirected hempty
      · exact Or.inl rfl
      · exact Or.inl rfl
      · exact Or.inr ⟨Or.inl hempty, pk, rfl⟩
      · split
        · exact Or.inl rfl
        · next u hu =>
          split_ifs with hscheme hhost
          · exact Or.inl rfl
          · exact Or.inl rfl
          · refine Or.inr ⟨Or.inr ⟨u, hu, ?_, ?_, by simpa using hhost⟩, pk, rfl⟩
            · by_contra hother
              exact hscheme (Or.inl (not_or.mp hother))
            · exact fun hnone => hscheme (Or.inr hnone)

/-- No blind write touches the URL. -/
theorem Task.callbackUrl_blindWrite {t : Task} {f : PaymentIntent → PaymentIntent}
    (h : t.blindWrite = some (pk, f)) (i : PaymentIntent) : (f i).callbackUrl = i.callbackUrl := by
  rcases Task.blindWrite_cases h with ⟨_, _, _, -, rfl⟩ | rfl | ⟨_, _, rfl⟩ | ⟨_, rfl⟩
  all_goals rfl

/-- What a task or the bank does leaves the URLs alone. -/
theorem Effect.callbackUrl_resume {db' : Db} {k : ℕ} {outcome : GatewayOutcome}
    (h : Effect s (.resume k outcome) db') {i' : PaymentIntent}
    (hi' : db'.intents.get pk = some i') :
    ∃ i, s.db.intents.get pk = some i ∧ i'.callbackUrl = i.callbackUrl := by
  cases h with
  | none | dispatched => exact ⟨i', hi', rfl⟩
  | settled _ _ t n pk' row _ htask hnotice hrow hunpaid h =>
    by_cases hpk : pk = pk'
    · subst hpk
      obtain rfl : n.settle row = i' := Option.some.inj ((h.get_self hrow).symm.trans hi')
      obtain ⟨_, _, _, heq⟩ := n.settle_eq row
      exact ⟨row, hrow, by rw [heq]⟩
    · exact ⟨i', by rw [← h.get_of_ne hpk, hi'], rfl⟩
  | blind _ _ t pk' f htask hwrite =>
    rcases Table.get_modify_cases hi' with hold | ⟨-, i, hi, rfl⟩
    · exact ⟨i', hold, rfl⟩
    · exact ⟨i, hi, Task.callbackUrl_blindWrite hwrite i⟩
  | finalized _ _ tc bankId b pk' i ids _ htask h =>
    rw [finalize_intents h] at hi'
    exact ⟨i', hi', rfl⟩

/-- Only a `configure` changes the settings. -/
theorem settings_step (hkeeps : KeepsSettings a s) : (step a s).settings = s.settings := by
  cases a with
  | configure registry settings => exact hkeeps
  | createIntent user publicId data =>
    simp only [step]
    cases createIntent s.settings s.registry user publicId data s.db <;> rfl
  | coachRegister user publicId key data =>
    simp only [step]
    cases coachRegister s.settings s.registry s.now s.today user publicId key data s.db <;> rfl
  | start rq =>
    simp only [step]
    obtain ⟨r | e | t, db⟩ := startPayment s.settings rq s.db <;> rfl
  | resultRequest tc =>
    simp only [step]
    cases resultRequest s.settings tc s.db <;> rfl
  | callbackRequest gatewayName tracking pid =>
    simp only [step]
    cases callbackRequest s.settings gatewayName tracking pid s.db <;> rfl
  | resume k outcome =>
    simp only [step]
    split
    · next t _ =>
      obtain ⟨r | e | t, db⟩ := perform s outcome t <;> rfl
    · rfl
  | verify | otherBank | tick => rfl

/-- A group's intent returns to the URL of the settings. -/
theorem callbackUrl_groupIntent (cfg : Settings) (user : ℕ) (publicId gateway : String) (gpId : ℕ)
    (q : Quote) :
    (groupIntent cfg user publicId gateway gpId q).callbackUrl = cfg.paymentsCallbackUrl := by
  dsimp only [groupIntent]
  split <;> rfl

/-- A new intent stores the URL of the request, or the default. -/
theorem stored_createIntent (hs : ReturnUrlsSafe s) {user : ℕ} {publicId : String}
    {data : InitiateData} (hchecked : UrlChecked (.createIntent user publicId data) s)
    {i' : PaymentIntent}
    (hi' : (step (.createIntent user publicId data) s).db.intents.get pk = some i') :
    i'.callbackUrl = "" ∨ SafeUrl s.settings i'.callbackUrl := by
  simp only [step] at hi'
  cases h : createIntent s.settings s.registry user publicId data s.db with
  | error e =>
    rw [h] at hi'
    exact hs.stored pk i' hi'
  | ok x =>
    rw [h] at hi'
    rcases createIntent_inserts h with hsame | ⟨v, competition, d, hv, -, hdb⟩
    · simp only [State.finish, hsame] at hi'
      exact hs.stored pk i' hi'
    · simp only [State.finish, hdb] at hi'
      rcases Table.get_insert_cases hi' with hold | ⟨-, rfl⟩
      · exact hs.stored pk i' hold
      · refine Or.inr (SafeUrl.orElse ?_)
        rw [(validate_texts hv).2]
        exact hchecked.imp_right Or.inr

/-- The intent of a group stores the URL of the settings. -/
theorem stored_coachRegister (hs : ReturnUrlsSafe s) {user : ℕ} {publicId key : String}
    {data : CoachRegisterData} {i' : PaymentIntent}
    (hi' : (step (.coachRegister user publicId key data) s).db.intents.get pk = some i') :
    i'.callbackUrl = "" ∨ SafeUrl s.settings i'.callbackUrl := by
  simp only [step] at hi'
  cases h : coachRegister s.settings s.registry s.now s.today user publicId key data s.db with
  | error e =>
    rw [h] at hi'
    exact hs.stored pk i' hi'
  | ok x =>
    rw [h] at hi'
    obtain ⟨r, db'⟩ := x
    cases coachRegister_ok h with
    | nothing | simulated => exact hs.stored pk i' hi'
    | opened coach compId items q gateway =>
      rcases Table.get_insert_cases hi' with hold | ⟨-, rfl⟩
      · exact hs.stored pk i' hold
      · rw [callbackUrl_groupIntent]
        exact Or.inr (Or.inl (List.mem_cons_of_mem _ List.mem_cons_self))

/-- A start stores only a URL it has checked. -/
theorem stored_start (hs : ReturnUrlsSafe s) {rq : StartRequest} {i' : PaymentIntent}
    (hi' : (step (.start rq) s).db.intents.get pk = some i') :
    i'.callbackUrl = "" ∨ SafeUrl s.settings i'.callbackUrl := by
  simp only [step, State.accept_db, startPayment] at hi'
  rcases begin_url s.settings rq (pickGateway s.settings rq.gateway) (Text.strip rq.callbackUrl)
    s.db with hsame | ⟨hurl, pk', heq⟩
  · rw [hsame] at hi'
    exact hs.stored pk i' hi'
  · rw [heq] at hi'
    rcases Table.get_modify_cases hi' with hold | ⟨-, i, hi, rfl⟩
    · exact hs.stored pk i' hold
    · simp only [PaymentIntent.begun]
      split_ifs with hempty
      · exact hs.stored pk i hi
      · exact Or.inr (Or.inr (hurl.resolve_left hempty))

/-- The URLs stored after a step. -/
theorem stored_step (hs : ReturnUrlsSafe s) (hchecked : UrlChecked a s) {i' : PaymentIntent}
    (hi' : (step a s).db.intents.get pk = some i') :
    i'.callbackUrl = "" ∨ SafeUrl s.settings i'.callbackUrl := by
  cases a with
  | createIntent user publicId data => exact stored_createIntent hs hchecked hi'
  | coachRegister user publicId key data => exact stored_coachRegister hs hi'
  | start rq => exact stored_start hs hi'
  | resultRequest tc =>
    simp only [step, State.accept_db] at hi'
    exact hs.stored pk i' hi'
  | callbackRequest gatewayName tracking pid =>
    simp only [step, State.accept_db] at hi'
    exact hs.stored pk i' hi'
  | resume k outcome =>
    obtain ⟨i, hi, hurl⟩ := (step_effect (.resume k outcome) s).callbackUrl_resume hi'
    rw [hurl]
    exact hs.stored pk i hi
  | verify | otherBank | configure | tick => exact hs.stored pk i' hi'

/-- A callback holds the URL of the intent it has found. -/
theorem callbackRequest_url {cfg : Settings} {gatewayName : String} {tracking pid : Option String}
    {db : Db} {bankId : ℕ} {b : Bank} {url : String}
    (h : callbackRequest cfg gatewayName tracking pid db = .next (.callback bankId b pk url)) :
    ∃ i, db.intents.get pk = some i ∧ url = Text.orElse i.callbackUrl cfg.returnUrlOr := by
  obtain ⟨tc, bankId', b', pk', i, heq, -, -, -, hfind⟩ := callbackRequest_next h
  cases heq
  exact ⟨i, (findIntent_spec hfind).1, rfl⟩

/-- The URLs held after a step. -/
theorem inFlight_step (hs : ReturnUrlsSafe s) {k bankId : ℕ} {b : Bank} {url : String}
    (h : (step a s).tasks.get k = some (.callback bankId b pk url)) : SafeUrl s.settings url := by
  rcases step_tasks h with hold | hspawns
  · exact hs.inFlight k bankId b pk url hold
  · cases hspawns with
    | callback gatewayName tc pid _ _ _ i =>
      simp only [step] at h
      rcases State.accept_tasks h with hold | hnext
      · exact hs.inFlight k bankId b pk url hold
      · obtain ⟨i, hi, rfl⟩ := callbackRequest_url hnext
        exact SafeUrl.orElse (hs.stored pk i hi)

/-- **Only an unchecked `create_intent` stores a foreign URL.** -/
theorem returnUrlsSafe_step (hkeeps : KeepsSettings a s) (hchecked : UrlChecked a s)
    (hs : ReturnUrlsSafe s) : ReturnUrlsSafe (step a s) := by
  constructor
  · intro pk i hi
    rw [settings_step hkeeps]
    exact stored_step hs hchecked hi
  · intro k bankId b pk url h
    rw [settings_step hkeeps]
    exact inFlight_step hs h

end Step

/-! ### What is issued -/

section Issued

variable {s : State} {base url : String} {r : Response}

/-- The intent a locked block returns has the URL of its row. -/
theorem callbackUrl_of_lockAndMarkPaid {reg : Registry} {now : Time} {pk : ℕ} {n : Notice}
    {db db' : Db} {i : PaymentIntent} (h : lockAndMarkPaid reg now pk n db = .ok (i, db')) :
    ∃ row, db.intents.get pk = some row ∧ i.callbackUrl = row.callbackUrl := by
  obtain ⟨row, hrow, ⟨-, rfl, -⟩ | ⟨-, rfl, -⟩⟩ := lockAndMarkPaid_cases h
  · obtain ⟨_, _, _, heq⟩ := n.preset_eq row
    exact ⟨row, hrow, by rw [heq]⟩
  · obtain ⟨_, _, _, heq⟩ := n.settle_eq row
    exact ⟨row, hrow, by rw [heq]⟩

theorem staysHome_paidUrl {cfg : Settings} (h : SafeUrl cfg url) (base publicId refId : String) :
    StaysHome cfg base (paidUrl url publicId refId) := by
  simpa only [paidUrl, String.append_assoc] using
    h.staysHome (Or.inr rfl) base ("ok=1&pid=" ++ (publicId ++ ("&ref=" ++ refId)))

/-- The URL of an unsuccessful callback. -/
theorem staysHome_failedUrl {cfg : Settings} (h : SafeUrl cfg url) (base publicId : String) :
    StaysHome cfg base (url ++ querySep url ++ "ok=0&pid=" ++ publicId) := by
  simpa only [String.append_assoc] using h.staysHome (Or.inr rfl) base ("ok=0&pid=" ++ publicId)

/-- The URL of the dummy gateway, whose separator is always a question mark. -/
theorem staysHome_dummyUrl {cfg : Settings} (h : SafeUrl cfg url) (base publicId refId : String) :
    StaysHome cfg base (url ++ "?ok=1&pid=" ++ publicId ++ "&ref=" ++ refId) := by
  have hquery : StaysHome cfg base
      (url ++ "?" ++ ("ok=1&pid=" ++ (publicId ++ ("&ref=" ++ refId)))) :=
    h.staysHome (Or.inl rfl) base _
  have hmark : "?ok=1&pid=" = "?" ++ "ok=1&pid=" := by decide
  rw [hmark]
  simpa only [String.append_assoc] using hquery

theorem staysHome_resultUrl (cfg : Settings) (base tc : String) (b : Bank)
    (publicId : Option String) (ids : List ℕ) :
    StaysHome cfg base (resultUrl cfg tc b publicId ids) := by
  have hown : SafeUrl cfg (Text.orElse cfg.returnUrl "https://chbtkd.ir/#/payment/result") :=
    Or.inl (List.mem_cons_of_mem _ (List.mem_cons_of_mem _ List.mem_cons_self))
  exact hown.staysHome (Or.inr rfl) base _

/-- The redirects of `_dispatch_to_gateway`. -/
theorem staysHome_dispatch (hs : ReturnUrlsSafe s) {pk : ℕ} {i : PaymentIntent}
    {outcome : GatewayOutcome} (h : (perform s outcome (.dispatch pk i)).1 = .respond r)
    (hurl : redirectUrl? r = some url) (base : String) : StaysHome s.settings base url := by
  simp only [perform, dispatchToGateway] at h
  split_ifs at h with hfree hdummy hsadad hcreds hsmall
  · split at h
    · cases h
    · next i db' hlock =>
      cases h
      cases hurl
      obtain ⟨row, hrow, hsame⟩ := callbackUrl_of_lockAndMarkPaid hlock
      rw [hsame]
      exact staysHome_paidUrl (SafeUrl.orElse (hs.stored pk row hrow)) base _ _
  · split at h
    · cases h
    · next i db' hlock =>
      cases h
      cases hurl
      obtain ⟨row, hrow, hsame⟩ := callbackUrl_of_lockAndMarkPaid hlock
      rw [hsame]
      exact staysHome_dummyUrl (SafeUrl.orElse (hs.stored pk row hrow)) base _ _
  · cases h
    cases hurl
  · cases h
    cases hurl
  · cases outcome <;> cases h
  · cases h
    cases hurl

/-- The redirects of the callback. -/
theorem staysHome_callbackCommit {bankId pk : ℕ} {b : Bank} {returnUrl : String}
    {outcome : GatewayOutcome} (hsafe : SafeUrl s.settings returnUrl)
    (h : (perform s outcome (.callback bankId b pk returnUrl)).1 = .respond r)
    (hurl : redirectUrl? r = some url) (base : String) : StaysHome s.settings base url := by
  simp only [perform, callbackCommit] at h
  split_ifs at h
  · split at h
    · cases h
    · cases h
      cases hurl
      exact staysHome_paidUrl hsafe base _ _
  · split at h
    · cases h
    · cases h
      cases hurl
      exact staysHome_failedUrl hsafe base _

/-- The redirects of the tasks. -/
theorem staysHome_perform (hs : ReturnUrlsSafe s) {k : ℕ} {t : Task} {outcome : GatewayOutcome}
    (htask : s.tasks.get k = some t) (h : (perform s outcome t).1 = .respond r)
    (hurl : redirectUrl? r = some url) (base : String) : StaysHome s.settings base url := by
  cases t with
  | dispatch pk i => exact staysHome_dispatch hs h hurl base
  | gatewayReady pk bankId tc payment =>
    simp only [perform, recordReady] at h
    split at h
    · cases h
    · cases h
      cases hurl
  | gatewayError pk known detail =>
    simp only [perform, recordError] at h
    split at h
    · cases h
    · cases known <;> cases h <;> cases hurl
  | result tc bankId b pk i =>
    simp only [perform, resultCommit] at h
    -- the gateway's answer is shown on the result page
    split_ifs at h
    · split at h <;> cases h
    · cases h
      cases hurl
      exact staysHome_resultUrl _ base _ _ _ _
    · cases h
      cases hurl
      exact staysHome_resultUrl _ base _ _ _ _
  | resultFinalize tc bankId b pk i =>
    simp only [perform, resultFinalize] at h
    split at h
    · cases h
      cases hurl
      exact staysHome_resultUrl _ base _ _ _ _
    · cases h
      cases hurl
      exact staysHome_resultUrl _ base _ _ _ _
  | callback bankId b pk returnUrl =>
    -- the one address that was stored before
    exact staysHome_callbackCommit (hs.inFlight k bankId b pk returnUrl htask) h hurl base

/-- The redirects of `StartPaymentView` before it dispatches. -/
theorem staysHome_startPayment (hs : ReturnUrlsSafe s) {rq : StartRequest}
    (h : (startPayment s.settings rq s.db).1 = .respond r) (hurl : redirectUrl? r = some url) :
    StaysHome s.settings rq.base url := by
  unfold startPayment begin at h
  split at h
  · cases h
    cases hurl
  · split at h
    · cases h
    · next pk i hfind =>
      have hstored := hs.stored pk i (Table.oldest_spec hfind).1
      dsimp only at h
      split at h
      · cases h
        cases hurl
        exact staysHome_paidUrl (SafeUrl.orElse hstored) rq.base _ _
      · split at h
        · cases h
          cases hurl
          refine Or.inr (Or.inr ⟨"bankgateways/go-to-bank-gateway/?tc=" ++ i.token, ?_⟩)
          have hslash : "/bankgateways/go-to-bank-gateway/?tc=" =
              "/" ++ "bankgateways/go-to-bank-gateway/?tc=" := by decide
          rw [hslash, String.append_assoc, String.append_assoc, String.append_assoc]
        · -- the rest goes on, or answers without a URL
          split at h
          · cases h
          · split at h
            · cases h
            · split at h
              · cases h
                cases hurl
              · split at h
                · cases h
                  cases hurl
                · cases h

/-- **No redirect leaves the allowed hosts** while the URLs are safe. -/
theorem StaysHome.of_issues (hs : ReturnUrlsSafe s) (h : Issues s base url) :
    StaysHome s.settings base url := by
  cases h with
  | start rq r _ h hurl => exact staysHome_startPayment hs h hurl
  | resume _ k t outcome r _ htask h hurl => exact staysHome_perform hs htask h hurl base
  | result _ tc r _ h hurl =>
    simp only [resultRequest] at h
    split at h
    · cases h
      cases hurl
    · split at h
      · cases h
        cases hurl
      · split at h
        · cases h
          cases hurl
          exact staysHome_resultUrl _ base _ _ _ _
        · cases h
  | callback _ gatewayName tracking pid r _ h hurl =>
    -- the answers before the locked block carry no URL
    simp only [callbackRequest] at h
    split at h
    · cases h
      cases hurl
    · split at h
      · cases h
        cases hurl
      · split at h
        · cases h
          cases hurl
        · cases h
        · split at h
          · cases h
            cases hurl
          · cases h
  | link user publicId _ lt r _ h hurl =>
    simp only [createPaymentLink] at h
    split at h
    · cases h
    · next pk i hfind =>
      have hstored := hs.stored pk i (Table.oldest_spec hfind).1
      split at h
      · cases h
        cases hurl
        exact staysHome_paidUrl (SafeUrl.orElse hstored) base _ _
      · cases h
        cases hurl
        exact Or.inr (Or.inr ⟨_, rfl⟩)

end Issued

/-! ### Runs -/

/-- **No open redirect in a run of checked URLs.** Under fixed settings, if every
`create_intent` of the run has no callback URL or one that `_begin` would accept, then in
every state of the run each stored URL is configured or allowed, and so is every redirect
that can be issued there. -/
theorem redirects_stay_home {s : State} (hs : ReturnUrlsSafe s) {acts : List Action}
    (hkeeps : Along step KeepsSettings s acts) (hchecked : Along step UrlChecked s acts) :
    ∀ s' ∈ visited step s acts, ReturnUrlsSafe s' ∧
      ∀ base url, Issues s' base url → StaysHome s'.settings base url := by
  intro s' hs'
  have hsafe : ReturnUrlsSafe s' :=
    (hkeeps.and hchecked).forall_visited (fun a s h hs => returnUrlsSafe_step h.1 h.2 hs) hs s' hs'
  exact ⟨hsafe, fun base url h => StaysHome.of_issues hsafe h⟩

/-- A shop whose URL field accepts every text. -/
def urlShop : State :=
  { openShop with
    registry := { (default : Registry) with validUrl := fun _ => true }
    settings := { openShop.settings with paymentsCallbackUrl := "https://chbtkd.ir/pay" } }

/-- User 7 creates an intent with a URL to return to, and pays it at the bank, up to the
answer of the gateway callback. -/
def payFrom (url : String) : List Action :=
  [.createIntent 7 "a1"
      { (default : InitiateData) with amount := some 50000, callbackUrl := some url },
    .start startFresh,
    .resume 1 (.ready { (default : Bank) with trackingCode := "111" } .null),
    .resume 1 (.error false ""),
    .verify 1 bankSuccess,
    .callbackRequest "sadad" (some "111") none]

theorem returnUrlsSafe_urlShop : ReturnUrlsSafe urlShop := by
  constructor
  · intro pk i hi
    cases hi
  · intro k bankId b pk url h
    cases h

/-- A return to an allowed host is one of the runs above. -/
theorem redirects_stay_home_chbtkd :
    let s := run step urlShop (payFrom "https://chbtkd.ir/done")
    (s.db.intents.get 1).map PaymentIntent.callbackUrl = some "https://chbtkd.ir/done" ∧
      ReturnUrlsSafe s ∧
      ∀ base url, Issues s base url → StaysHome s.settings base url := by
  have hchecked : Along step UrlChecked urlShop (payFrom "https://chbtkd.ir/done") := by
    refine ⟨Or.inr ?_, trivial, trivial, trivial, trivial, trivial, trivial⟩
    exact ⟨⟨"https", "chbtkd.ir"⟩, by decide, by decide, by decide, by decide⟩
  have hkeeps : Along step KeepsSettings urlShop (payFrom "https://chbtkd.ir/done") :=
    ⟨trivial, trivial, trivial, trivial, trivial, trivial, trivial⟩
  exact ⟨by decide, redirects_stay_home returnUrlsSafe_urlShop hkeeps hchecked _
    (run_mem_visited _ _)⟩

/-- A text does not start with what its first characters differ from. -/
theorem ne_append_of_not_prefix {url own : String} (h : ¬ own.toList <+: url.toList)
    (rest : String) : url ≠ own ++ rest := by
  intro heq
  rw [heq, String.toList_append] at h
  exact h (List.prefix_append _ _)

/-- With a foreign URL, the client of a successful payment is sent there. -/
theorem redirect_leaves :
    let s := run step urlShop (payFrom "https://evil.example/done")
    (s.db.intents.get 1).map PaymentIntent.callbackUrl = some "https://evil.example/done" ∧
      ¬ AllowedUrl s.settings "https://evil.example/done" ∧
      ∃ url, Issues s "https://api.chbtkd.ir" url ∧
        ¬ StaysHome s.settings "https://api.chbtkd.ir" url := by
  have hother : ∀ url u, urlparse url = some u → u.netloc = "evil.example" →
      ¬ AllowedUrl urlShop.settings url := by
    rintro url u hu hnetloc ⟨u', hu', -, -, hhost⟩
    obtain rfl : u = u' := Option.some.inj (hu.symm.trans hu')
    rw [hnetloc] at hhost
    revert hhost
    decide
  refine ⟨by decide, hother _ ⟨"https", "evil.example"⟩ (by decide) rfl,
    "https://evil.example/done?ok=1&pid=a1&ref=111", ?_, ?_⟩
  · exact .resume _ 2 _ (.error false "") _ _ rfl rfl rfl
  · rintro (hallowed | ⟨own, hown, sep, params, -, heq⟩ | ⟨path, heq⟩)
    · exact hother _ ⟨"https", "evil.example"⟩ (by decide) rfl hallowed
    · have hnotFront : ∀ own ∈ urlShop.settings.ownUrls,
          ¬ own.toList <+: "https://evil.example/done?ok=1&pid=a1&ref=111".toList := by decide
      rw [String.append_assoc] at heq
      exact ne_append_of_not_prefix (hnotFront own hown) _ heq
    · exact ne_append_of_not_prefix (by decide) _ heq

end Tkdchb
