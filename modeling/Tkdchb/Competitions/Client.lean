import Tkdchb.Competitions.PublicIds

/-!
# The client of the API

The pages of the site call the API by paths that they make of a key. Some calls have several
paths for one thing, which are tried one after another as long as the answer is that there is
nothing. A path may be one that the API has no route for.

## Main definitions

* `Client.calls` — the calls that take a key, with their paths
* `Client.respond` — how the API answers a path
* `Client.tryFirst` — the answer to a call

## Main results

* `Client.reaches_iff` — a call reaches a page with every key, or with none
* `Client.getCompetitionDetail_eq` — what the further paths of the detail call are good for
* `Client.getCompetitionTerms_eq` — and those of the call for the terms
-/

namespace Tkdchb.Client

open Routes Transition Urls PublicIds

/-! ### The calls -/

/-- `${k}` -/
def key : Segment Converter := .arg .str "key"

def anyPublicRoot : Pattern Converter := [.word "api", .word "competitions"]

def kyPublicRoot : Pattern Converter := anyPublicRoot ++ [.word "kyorugi"]

def kyAuthRoot : Pattern Converter := anyPublicRoot ++ [.word "auth", .word "kyorugi"]

def poomPublicRoot : Pattern Converter := anyPublicRoot ++ [.word "poomsae"]

def poomAuthRoot : Pattern Converter := anyPublicRoot ++ [.word "auth", .word "poomsae"]

def seminarsRoot : Pattern Converter := anyPublicRoot ++ [.word "seminars"]

def paymentsRoot : Pattern Converter := [.word "api", .word "payments"]

def getCompetitionTerms : List (Pattern Converter) :=
  [anyPublicRoot ++ [.word "by-public", key, .word "terms"],
   anyPublicRoot ++ [key, .word "terms"],
   kyPublicRoot ++ [key, .word "terms"],
   poomPublicRoot ++ [key, .word "terms"]]

def getCompetitionDetail : List (Pattern Converter) :=
  [anyPublicRoot ++ [.word "by-public", key],
   anyPublicRoot ++ [key],
   kyPublicRoot ++ [key],
   poomPublicRoot ++ [key]]

/-- The paths of each call, and the name of its function; the two styles of a call are two. -/
def calls : List (String × List (Pattern Converter)) :=
  [("getCompetitionTerms", getCompetitionTerms),
   ("getCompetitionDetail", getCompetitionDetail),
   ("getCoachApprovalStatus", [kyAuthRoot ++ [key, .word "coach-approval", .word "status"]]),
   ("approveCompetition", [kyAuthRoot ++ [key, .word "coach-approval", .word "approve"]]),
   ("getPoomsaeCoachApprovalStatus",
    [poomAuthRoot ++ [key, .word "coach-approval", .word "status"]]),
   ("approvePoomsaeCompetition",
    [poomAuthRoot ++ [key, .word "coach-approval", .word "approve"]]),
   ("getRegisterSelfPrefill", [kyAuthRoot ++ [key, .word "prefill"]]),
   ("registerSelf", [kyAuthRoot ++ [key, .word "register", .word "self"]]),
   ("registerSelfPoomsae", [poomAuthRoot ++ [key, .word "register", .word "self"]]),
   ("registerPoomsaeTeams",
    [poomAuthRoot ++ [key, .word "teams"],
     poomAuthRoot ++ [key, .word "coach", .word "teams"],
     poomAuthRoot ++ [key, .word "coach", .word "register", .word "teams"]]),
   ("getCoachEligibleStudents poomsae",
    [poomAuthRoot ++ [key, .word "coach", .word "students", .word "eligible"]]),
   ("getCoachEligibleStudents kyorugi",
    [kyAuthRoot ++ [key, .word "coach", .word "students", .word "eligible"]]),
   ("registerStudentsBulk poomsae",
    [poomAuthRoot ++ [key, .word "coach", .word "register", .word "students"]]),
   ("registerStudentsBulk kyorugi",
    [kyAuthRoot ++ [key, .word "coach", .word "register", .word "students"]]),
   ("getMyEnrollment", [kyAuthRoot ++ [key, .word "my-enrollment"]]),
   ("getMyPoomsaeEnrollments",
    [poomAuthRoot ++ [key, .word "my-enrollments"],
     poomPublicRoot ++ [key, .word "my-enrollments"]]),
   ("getBracket",
    [kyPublicRoot ++ [key, .word "bracket"],
     anyPublicRoot ++ [.word "by-public", key, .word "bracket"]]),
   ("getCompetitionResults",
    [kyPublicRoot ++ [key, .word "results"],
     anyPublicRoot ++ [.word "by-public", key, .word "results"],
     anyPublicRoot ++ [key, .word "results"]]),
   ("getSeminarDetail", [seminarsRoot ++ [key]]),
   ("registerSeminar", [anyPublicRoot ++ [.word "auth", .word "seminars", key, .word "register"]]),
   ("startPaymentIntent", [paymentsRoot ++ [.word "start", key]]),
   ("verifyGroupPayment", [paymentsRoot ++ [.word "group", .word "verify", key]]),
   ("getGroupPaymentStatus", [paymentsRoot ++ [.word "group", .word "status", key]])]

/-- The calls for which the API has no route. -/
def unserved : List String :=
  ["registerPoomsaeTeams", "registerStudentsBulk poomsae", "verifyGroupPayment",
   "getGroupPaymentStatus"]

/-! ### The answers -/

inductive Reply where
  /-- the view goes on with a competition -/
  | shows (found : Kind × ℕ)
  /-- a page that looks no competition up -/
  | elsewhere
  | status (code : ℕ)
  deriving DecidableEq, Repr

/-- What a view answers after its lookup. -/
def answerOf : Found → Reply
  | .ok found => .shows found
  | .error .http404 => .status 404
  | .error _ => .status 500

/-- How the API answers a path. -/
def respond (db : Collation) (site : Site) (path : List Char) : Reply :=
  match dispatch path, opened db site path with
  | none, _ => .status 404
  | some _, none => .elsewhere
  | some _, some (_, found) => answerOf found

/-- `tryFirst`: only a 404 leads on to the next path. -/
def tryFirst (answer : List Char → Reply) (lastErr : Option Reply) :
    List (List Char) → Option Reply
  | [] => lastErr
  | url :: urls =>
    if answer url = .status 404 then tryFirst answer (some (.status 404)) urls
    else some (answer url)

/-- The answer to a call. -/
def call (db : Collation) (site : Site) (urls : List (Pattern Converter)) (key : List Char) :
    Option Reply :=
  tryFirst (respond db site) none (urls.map fun url => render url [key])

/-! ### Which calls reach a page -/

theorem accepts_str_of_ckey {text : List Char} (h : Converter.ckey.accepts text = true) :
    Converter.str.accepts text = true := by
  have hslash : '/' ∉ text := vocabulary.slash_notMem .ckey text h
  refine Bool.and_eq_true_iff.mpr ⟨?_, ?_⟩
  · cases text with
    | nil => cases h
    | cons c text => rfl
  · rw [List.all_eq_true]
    intro c hc
    refine decide_eq_true fun heq => hslash ?_
    rwa [← heq]

section Calls

variable {name : String} {urls : List (Pattern Converter)} {url : Pattern Converter}
  {text : List Char}

theorem plain_url (hcall : (name, urls) ∈ calls) (hurl : url ∈ urls) :
    Plain url ∧ placeholders url = [.str] := by
  have hall : ∀ call ∈ calls, ∀ url ∈ call.2, Plain url ∧ placeholders url = [.str] := by
    decide +kernel
  exact hall (name, urls) hcall url hurl

/-- **A call reaches a page** with every key that the converters of the API take, or with none:
registering poomsae teams or the poomsae students of a coach, and the two calls about group
payments, always end in a 404. -/
theorem reaches_iff (hcall : (name, urls) ∈ calls) (htext : Converter.ckey.accepts text = true) :
    (∃ url ∈ urls, (dispatch (render url [text])).isSome = true) ↔ name ∉ unserved := by
  have htakes : ∀ url ∈ urls, Takes vocabulary url [text] := by
    intro url hurl
    rw [takes_iff, (plain_url hcall hurl).2]
    exact .cons (accepts_str_of_ckey htext) .nil
  have hserved : ∀ call ∈ calls, call.1 ∉ unserved → ∃ url ∈ call.2, ∃ q ∈ patterns,
      conflict vocabulary url q = some [.anything] ∨
        conflict vocabulary url q = some [.accepted .ckey] := by
    decide +kernel
  have hunserved : ∀ call ∈ calls, call.1 ∈ unserved → ∀ url ∈ call.2, ∀ q ∈ patterns,
      conflict vocabulary url q = none := by
    decide +kernel
  constructor
  · rintro ⟨url, hurl, hdispatch⟩ hname
    rw [isSome_dispatch_render_iff (plain_url hcall hurl).1 (htakes url hurl)] at hdispatch
    obtain ⟨q, hq, needs, hneeds, -⟩ := hdispatch
    rw [hunserved (name, urls) hcall hname url hurl q hq] at hneeds
    cases hneeds
  · intro hname
    obtain ⟨url, hurl, q, hq, hneeds⟩ := hserved (name, urls) hcall hname
    refine ⟨url, hurl, ?_⟩
    rw [isSome_dispatch_render_iff (plain_url hcall hurl).1 (htakes url hurl)]
    rcases hneeds with hneeds | hneeds
    · exact ⟨q, hq, _, hneeds, .cons rfl .nil⟩
    · exact ⟨q, hq, _, hneeds, .cons htext .nil⟩

/-- Teams cannot be registered. -/
theorem reaches_iff_letters :
    ¬ ∃ url ∈ [poomAuthRoot ++ [key, .word "teams"],
      poomAuthRoot ++ [key, .word "coach", .word "teams"],
      poomAuthRoot ++ [key, .word "coach", .word "register", .word "teams"]],
      (dispatch (render url [letters.chars])).isSome = true := by
  have hcall : ("registerPoomsaeTeams", [poomAuthRoot ++ [key, .word "teams"],
      poomAuthRoot ++ [key, .word "coach", .word "teams"],
      poomAuthRoot ++ [key, .word "coach", .word "register", .word "teams"]]) ∈ calls := by
    decide +kernel
  have hunserved : "registerPoomsaeTeams" ∈ unserved := by decide +kernel
  exact fun h => (reaches_iff hcall letters.accepts_ckey).mp h hunserved

end Calls

/-! ### What the further paths are good for -/

section Answers

variable {db : Collation} {site : Site} {p : PublicId} {page : Page} {lookup : Lookup}
  {url : Pattern Converter}

/-- The answer of a page to a public id. -/
theorem respond_page (hpage : page ∈ pages) (hlookup : lookup? page = some lookup) :
    respond db site (render page.pattern [p.chars]) = answerOf (lookup.find db site p.text) := by
  have htakes := takes_publicId hpage hlookup p
  have hfree := not_shadowed_publicId hpage hlookup p
  have hdispatch := (dispatch_render_iff hpage htakes).mpr hfree
  have hopened := opened_render db site hpage hlookup htakes hfree
  rw [respond, hdispatch, hopened]
  rfl

/-- A search of both kinds finds a competition, or nothing of either kind is there. -/
theorem getCompByKeyAny_text_cases (db : Collation) (hunique : Unique site) (p : PublicId) :
    (∃ found, getCompByKeyAny db site p.text = .ok found) ∨
      getCompByKeyAny db site p.text = .error .http404 ∧
        Unknown site .kyorugi p ∧ Unknown site .poomsae p := by
  rw [getCompByKeyAny, getCompByKey, p.strip_text]
  by_cases hkyorugi : Unknown site .kyorugi p
  · rw [byIdThenPublicId_text_of_unknown hkyorugi]
    by_cases hpoomsae : Unknown site .poomsae p
    · exact Or.inr ⟨byIdThenPublicId_text_of_unknown hpoomsae, hkyorugi, hpoomsae⟩
    · obtain ⟨k, hk⟩ := exists_byIdThenPublicId_text db .http404 hunique hpoomsae
      exact Or.inl ⟨_, hk⟩
  · obtain ⟨k, hk⟩ := exists_byIdThenPublicId_text db .http404 hunique hkyorugi
    rw [hk]
    exact Or.inl ⟨_, rfl⟩

/-- The poomsae page for a public id that is unknown. -/
theorem poomsaeDetailComp_text_of_unknown (h : Unknown site .poomsae p) :
    poomsaeDetailComp db site p.text =
      .error (if Text.allDigits p.text = true then .http404 else .fieldError) := by
  rw [poomsaeDetailComp, p.strip_text]
  by_cases hdigits : Text.allDigits p.text = true
  · rw [if_pos hdigits, if_pos hdigits, byId_text hdigits, h.1 _ (p.number?_of_allDigits hdigits)]
    rfl
  · rw [if_neg hdigits, if_neg hdigits, byPublicId_text_of_unknown db.iexact_iff h.2]
    rfl

/-- The paths of the two calls, with the pages that they lead to. -/
def detailByPublic : Page :=
  ⟨"competitions", [.word "api", .word "competitions", .word "by-public", .arg .ckey "key"],
    "detail-by-public"⟩

def competitionDetailAny : Page :=
  ⟨"competitions", [.word "api", .word "competitions", .arg .ckey "key"], "competition-detail-any"⟩

def termsByPublic : Page :=
  ⟨"competitions",
    [.word "api", .word "competitions", .word "by-public", .arg .ckey "key", .word "terms"],
    "terms-by-public"⟩

def termsGeneric : Page :=
  ⟨"competitions", [.word "api", .word "competitions", .arg .ckey "key", .word "terms"],
    "terms-generic"⟩

def kyorugiTerms : Page :=
  ⟨"competitions",
    [.word "api", .word "competitions", .word "kyorugi", .arg .ckey "key", .word "terms"],
    "kyorugi-terms"⟩

theorem lookup?_pages :
    (detailByPublic ∈ pages ∧ lookup? detailByPublic = some .any) ∧
      (competitionDetailAny ∈ pages ∧ lookup? competitionDetailAny = some .any) ∧
      (kyorugiDetail ∈ pages ∧ lookup? kyorugiDetail = some .kyorugi) ∧
      (poomsaeDetail ∈ pages ∧ lookup? poomsaeDetail = some .poomsaeDetail) ∧
      (termsByPublic ∈ pages ∧ lookup? termsByPublic = some .any) ∧
      (termsGeneric ∈ pages ∧ lookup? termsGeneric = some .any) ∧
      kyorugiTerms ∈ pages ∧ lookup? kyorugiTerms = some .any := by
  decide +kernel

/-- **The call for a competition.** Its further paths never find what the first one misses: they
turn the answer that there is nothing into an error of the server, unless the key is all
digits. -/
theorem getCompetitionDetail_eq (db : Collation) (actions : List Action) (p : PublicId) :
    call db (run step nothing actions) getCompetitionDetail p.chars =
      some (match getCompByKeyAny db (run step nothing actions) p.text with
        | .ok found => .shows found
        | .error _ => .status (if Text.allDigits p.text = true then 404 else 500)) := by
  obtain ⟨⟨hby, hbyAny⟩, ⟨hany, hanyAny⟩, ⟨hky, hkyKyorugi⟩, ⟨hpoom, hpoomDetail⟩, -⟩ := lookup?_pages
  have hurls : call db (run step nothing actions) getCompetitionDetail p.chars =
      tryFirst (respond db (run step nothing actions)) none
        [render detailByPublic.pattern [p.chars], render competitionDetailAny.pattern [p.chars],
          render kyorugiDetail.pattern [p.chars], render poomsaeDetail.pattern [p.chars]] := rfl
  rw [hurls]
  simp only [tryFirst, respond_page hby hbyAny, respond_page hany hanyAny,
    respond_page hky hkyKyorugi, respond_page hpoom hpoomDetail, Lookup.find]
  rcases getCompByKeyAny_text_cases db (unique_run actions) p with
    ⟨found, hfound⟩ | ⟨hnothing, hkyorugi, hpoomsae⟩
  · rw [hfound]
    simp [answerOf]
  · -- the first three paths have nothing, and the last one is the poomsae page
    have hkyorugi404 : getCompByKey db (run step nothing actions) p.text = .error .http404 := by
      rw [getCompByKey, p.strip_text, byIdThenPublicId_text_of_unknown hkyorugi]
    rw [hnothing, hkyorugi404, poomsaeDetailComp_text_of_unknown hpoomsae]
    by_cases hdigits : Text.allDigits p.text = true
    · simp [answerOf, hdigits]
    · simp [answerOf, hdigits]

/-- There are no terms of a poomsae competition under `poomsae/`. -/
theorem dispatch_poomsae_terms (p : PublicId) :
    dispatch (render (poomPublicRoot ++ [key, .word "terms"]) [p.chars]) = none := by
  have hplain : Plain (poomPublicRoot ++ [key, .word "terms"]) := by decide +kernel
  have htakes : Takes vocabulary (poomPublicRoot ++ [key, .word "terms"]) [p.chars] :=
    takes_iff.mpr (.cons p.accepts_str .nil)
  have hconflict : ∀ q ∈ patterns,
      conflict vocabulary (poomPublicRoot ++ [key, .word "terms"]) q = none := by
    decide +kernel
  rw [← Option.not_isSome_iff_eq_none, isSome_dispatch_render_iff hplain htakes]
  rintro ⟨q, hq, needs, hneeds, -⟩
  rw [hconflict q hq] at hneeds
  cases hneeds

/-- **The call for the terms.** Its first three paths lead to one view, and its last one nowhere. -/
theorem getCompetitionTerms_eq (db : Collation) (actions : List Action) (p : PublicId) :
    call db (run step nothing actions) getCompetitionTerms p.chars =
      some (match getCompByKeyAny db (run step nothing actions) p.text with
        | .ok found => .shows found
        | .error _ => .status 404) := by
  obtain ⟨-, -, -, -, ⟨hby, hbyAny⟩, ⟨hany, hanyAny⟩, hky, hkyAny⟩ := lookup?_pages
  have hlast : respond db (run step nothing actions)
      (render (poomPublicRoot ++ [key, .word "terms"]) [p.chars]) = .status 404 := by
    rw [respond, dispatch_poomsae_terms]
  have hurls : call db (run step nothing actions) getCompetitionTerms p.chars =
      tryFirst (respond db (run step nothing actions)) none
        [render termsByPublic.pattern [p.chars], render termsGeneric.pattern [p.chars],
          render kyorugiTerms.pattern [p.chars],
          render (poomPublicRoot ++ [key, .word "terms"]) [p.chars]] := rfl
  rw [hurls]
  simp only [tryFirst, respond_page hby hbyAny, respond_page hany hanyAny,
    respond_page hky hkyAny, hlast, Lookup.find]
  rcases getCompByKeyAny_text_cases db (unique_run actions) p with
    ⟨found, hfound⟩ | ⟨hnothing, -⟩
  · rw [hfound]
    simp [answerOf]
  · rw [hnothing]
    simp [answerOf]

end Answers

end Tkdchb.Client
