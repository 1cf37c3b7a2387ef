import Tkdchb.Lib.Routes
import Tkdchb.Lib.Text

/-!
# The paths of the API

The site's table of paths is made of five applications, each with its table under a prefix. A
path is taken to the first route that it fits. Some routes can be reached by no path, since a
route before them takes every path of theirs, and some by all their paths but one whose key is
a word of the site.

## Main definitions

* `Urls.vocabulary` — what the converters take
* `Urls.pages` — the table of paths
* `Urls.dispatch` — the page a path is taken to
* `Urls.shadows` — the paths that an earlier route takes

## Main results

* `Urls.dispatch_eq_some` — a path is taken to a page only if it is a path of that page
* `Urls.dispatch_render_iff` — and every path of a page is taken to it, but for the shadows
-/

namespace Tkdchb.Urls

open Routes

/-- `<str:…>`, `<int:…>` and the site's own `<ckey:…>`. -/
inductive Converter where
  | str
  | int
  | ckey
  deriving DecidableEq, Repr

/-- `[A-Za-z0-9_-]`. -/
def slugChar (c : Char) : Bool := c.isAlphanum || c = '_' || c = '-'

theorem toNat_lt_of_slugChar {c : Char} (h : slugChar c = true) : c.toNat < 128 := by
  have hbelow : ∀ high : UInt32, high.toNat < 128 → c.val ≤ high → c.toNat < 128 :=
    fun high hhigh hle => lt_of_le_of_lt (UInt32.le_iff_toNat_le.mp hle) hhigh
  rcases Bool.or_eq_true_iff.mp h with h | h
  · rcases Bool.or_eq_true_iff.mp h with h | h
    · rcases Bool.or_eq_true_iff.mp h with halpha | hdigit
      · rcases Bool.or_eq_true_iff.mp halpha with hupper | hlower
        · exact hbelow _ (by decide) (of_decide_eq_true hupper).2
        · exact hbelow _ (by decide) (of_decide_eq_true (Bool.and_eq_true_iff.mp hlower).2)
      · exact hbelow _ (by decide) (of_decide_eq_true (Bool.and_eq_true_iff.mp hdigit).2)
    · rw [of_decide_eq_true h]
      decide
  · rw [of_decide_eq_true h]
    decide

/-- These are no blanks, and their digits are decimal. -/
theorem plain_of_slugChar {c : Char} (h : slugChar c = true) :
    Text.isSpace c = false ∧ (Text.isDigit c = true → Text.isDecimal c = true) := by
  have hall : ∀ n < 128, slugChar (Char.ofNat n) = true → Text.isSpace (Char.ofNat n) = false ∧
      (Text.isDigit (Char.ofNat n) = true → Text.isDecimal (Char.ofNat n) = true) := by
    decide +kernel
  have hc := hall c.toNat (toNat_lt_of_slugChar h)
  rw [Char.ofNat_toNat] at hc
  exact hc h

/-- `[^/]+`, `[0-9]+` and `\d+|[A-Za-z0-9_-]{1,128}`. -/
def Converter.accepts : Converter → List Char → Bool
  | .str, text => !text.isEmpty && text.all (· ≠ '/')
  | .int, text => !text.isEmpty && text.all Char.isDigit
  | .ckey, text =>
    !text.isEmpty && text.all Text.isDecimal ||
      decide (1 ≤ text.length ∧ text.length ≤ 128) && text.all slugChar

/-- A text of characters that are not a slash has none. -/
theorem slash_notMem_of_all {p : Char → Bool} (hp : p '/' = false) {text : List Char}
    (h : text.all p = true) : '/' ∉ text := by
  intro hmem
  have hslash := List.all_eq_true.mp h '/' hmem
  rw [hp] at hslash
  cases hslash

def vocabulary : Vocabulary Converter where
  accepts := Converter.accepts
  slash_notMem := by
    intro c text h
    cases c with
    | str => exact slash_notMem_of_all (by decide) (Bool.and_eq_true_iff.mp h).2
    | int => exact slash_notMem_of_all (by decide) (Bool.and_eq_true_iff.mp h).2
    | ckey =>
      rcases Bool.or_eq_true_iff.mp h with h | h
      · exact slash_notMem_of_all (by decide) (Bool.and_eq_true_iff.mp h).2
      · exact slash_notMem_of_all (by decide) (Bool.and_eq_true_iff.mp h).2

/-- A route and its name in the application. -/
structure Page where
  application : String
  pattern : Pattern Converter
  name : String
  deriving DecidableEq, Repr

/-- `path(under, include((urls, application)))`. -/
def includes (under : Pattern Converter) (application : String)
    (urls : List (Pattern Converter × String)) : List Page :=
  urls.map fun (route, name) => ⟨application, under ++ route, name⟩

/-- `accounts/urls.py`. -/
def accountsUrls : List (Pattern Converter × String) :=
  [([.word "send-code"], "send-code"),
   ([.word "verify-code"], "verify-code"),
   ([.word "login"], "universal-login"),
   ([.word "password", .word "forgot", .word "send"], "password-forgot-send"),
   ([.word "password", .word "forgot", .word "verify"], "password-forgot-verify"),
   ([.word "jwt", .word "create"], "token_obtain_pair"),
   ([.word "jwt", .word "refresh"], "token_refresh"),
   ([.word "jwt", .word "verify"], "token_verify"),
   ([.word "form-data"], "form-data"),
   ([.word "form-data-player"], "form-data-player"),
   ([.word "user-profile-with-options"], "user-profile-with-options"),
   ([.word "profile", .word "edit"], "edit_profile"),
   ([.word "dashboard", .arg .str "role"], "dashboard-combined"),
   ([.word "dashboard", .word "kyorugi"], "kyorugi-list"),
   ([.word "coaches"], "coaches-by-club-gender"),
   ([.word "register-coach"], "register-coach"),
   ([.word "register-player"], "register-player"),
   ([.word "check-national-code"], "check_national_code"),
   ([.word "register-club"], "register-club"),
   ([.word "admin", .word "approve-club", .arg .int "pk"], "approve_pending_club"),
   ([.word "coach", .word "students"], "coach-students"),
   ([.word "coach", .word "clubs"], "coach-clubs"),
   ([.word "coach", .word "update-clubs"], "update-coach-clubs"),
   ([.word "all-clubs"], "all-clubs"),
   ([.word "club", .word "students"], "club-students"),
   ([.word "club", .word "coaches"], "club-coaches"),
   ([.word "club", .word "all-coaches"], "club-all-coaches"),
   ([.word "club", .word "update-coaches"], "update-club-coaches"),
   ([.word "coach", .word "requests"], "coach-requests"),
   ([.word "coach", .word "requests", .arg .int "pk", .word "respond"], "respond-coach-request"),
   ([.word "login", .word "board"], "board-login"),
   ([.word "heyat", .word "students"], "heyat-students"),
   ([.word "heyat", .word "form-data"], "heyat-form-data"),
   ([.word "heyat", .word "coaches"], "heyat-coaches"),
   ([.word "heyat", .word "referees"], "heyat-referees"),
   ([.word "heyat", .word "clubs"], "heyat-clubs"),
   ([.word "approve", .arg .int "pk"], "approve_pending_user"),
   ([.word "admin", .word "approve-edit", .arg .int "pk"], "approve_edited_profile")]

/-- `competitions/urls.py`. -/
def competitionsUrls : List (Pattern Converter × String) :=
  [([.word "kyorugi", .arg .ckey "key"], "kyorugi-detail"),
   ([.word "kyorugi", .arg .ckey "key", .word "terms"], "kyorugi-terms"),
   ([.word "kyorugi", .arg .ckey "key", .word "bracket"], "kyorugi-bracket"),
   ([.word "kyorugi", .arg .ckey "key", .word "results"], "kyorugi-results"),
   ([.word "competitions", .arg .ckey "key", .word "results"], "kyorugi-results-compat"),
   ([.word "by-public", .arg .ckey "key"], "detail-by-public"),
   ([.word "by-public", .arg .ckey "key", .word "terms"], "terms-by-public"),
   ([.word "by-public", .arg .ckey "key", .word "bracket"], "bracket-by-public"),
   ([.word "by-public", .arg .ckey "key", .word "results"], "results-by-public"),
   ([.word "auth", .word "kyorugi", .arg .ckey "key", .word "prefill"], "prefill"),
   ([.word "auth", .word "kyorugi", .arg .ckey "key", .word "register", .word "self"],
    "register-self"),
   ([.word "auth", .word "kyorugi", .arg .ckey "key", .word "coach-approval", .word "status"],
    "coach-approval-status"),
   ([.word "auth", .word "kyorugi", .arg .ckey "key", .word "coach-approval", .word "approve"],
    "coach-approval-approve"),
   ([.word "auth", .word "kyorugi", .arg .ckey "key", .word "my-enrollment"], "my-enrollment"),
   ([.word "auth", .word "enrollments", .arg .int "enrollment_id", .word "card"],
    "enrollment-card"),
   ([.word "auth", .word "enrollments", .word "cards", .word "bulk"], "enrollment-cards-bulk"),
   ([.word "auth", .word "kyorugi", .arg .ckey "key", .word "coach", .word "students", .word "eligible"],
    "coach-eligible-students"),
   ([.word "auth", .word "kyorugi", .arg .ckey "key", .word "coach", .word "register", .word "students"],
    "coach-register-students"),
   ([.word "auth", .word "kyorugi", .arg .ckey "key", .word "register", .word "students"],
    "register-students-bulk-alias"),
   ([.word "dashboard", .word "all"], "dashboard-all"),
   ([.word "dashboard", .word "kyorugi"], "dashboard-kyorugi"),
   ([.word "auth", .word "dashboard", .word "all"], "dashboard-all-auth-alias"),
   ([.word "auth", .word "dashboard", .word "kyorugi"], "dashboard-kyorugi-auth-alias"),
   ([.word "kyorugi", .word "player", .word "competitions"], "player-competitions"),
   ([.word "kyorugi", .word "referee", .word "competitions"], "referee-competitions"),
   ([.word "public", .word "kyorugi", .arg .str "public_id", .word "bracket"],
    "public-kyorugi-bracket"),
   ([.word "seminars"], "seminar-list"),
   ([.word "seminars", .arg .ckey "key"], "seminar-detail"),
   ([.word "auth", .word "seminars", .arg .ckey "key", .word "register"], "seminar-register"),
   ([.word "seminars", .word "sidebar"], "seminars-sidebar"),
   ([.arg .ckey "key", .word "terms"], "terms-generic"),
   ([.word "competitions", .word "kyorugi", .arg .ckey "key", .word "terms"],
    "kyorugi-terms-compat"),
   ([.word "poomsae", .arg .ckey "key"], "poomsae-detail"),
   ([.word "competitions", .word "poomsae", .arg .ckey "key"], "poomsae-detail-compat"),
   ([.word "auth", .word "poomsae", .arg .ckey "public_id", .word "coach-approval", .word "status"],
    "poomsae-coach-approval-status"),
   ([.word "auth", .word "poomsae", .arg .ckey "public_id", .word "coach-approval", .word "approve"],
    "poomsae-coach-approval-approve"),
   ([.word "auth", .word "poomsae", .arg .ckey "public_id", .word "register", .word "self"],
    "poomsae-register-self"),
   ([.word "poomsae", .arg .str "key", .word "my-enrollments"], "poomsae-my-enrollments"),
   ([.arg .ckey "key"], "competition-detail-any"),
   ([.word "competitions", .arg .ckey "key"], "competition-detail-any-compat"),
   ([.word "auth", .word "poomsae", .arg .ckey "key", .word "coach", .word "students", .word "eligible"],
    "poomsae-coach-eligible-students"),
   ([.word "auth", .word "poomsae", .arg .ckey "public_id", .word "coach", .word "students", .word "eligible"],
    "poomsae-coach-eligible-students-publicid-alias")]

/-- `payments/urls.py`. -/
def paymentsUrls : List (Pattern Converter × String) :=
  [([.word "intent"], "create_intent"),
   ([.word "intent", .arg .str "pid", .word "enrollments"], "intent-enrollments"),
   ([.word "start", .arg .str "public_id"], "start_payment"),
   ([.word "callback", .arg .str "gateway_name"], "callback"),
   ([.word "link", .arg .str "public_id"], "create-payment-link"),
   ([.word "bank-return", .arg .str "public_id"], "bank_return"),
   ([.word "result", .arg .str "tc"], "payment_result_redirect")]

/-- `main/urls.py`. -/
def mainUrls : List (Pattern Converter × String) :=
  [([.word "header-background"], "header-background"),
   ([.word "slider-images"], "slider-images"),
   ([.word "news", .word "slider"], "news-slider"),
   ([.word "news"], "news-list"),
   ([.word "news", .arg .int "pk"], "news-detail"),
   ([.word "circulars", .word "slider"], "circulars-slider"),
   ([.word "circulars"], "circulars"),
   ([.word "circulars", .arg .int "pk"], "circular-detail"),
   ([.word "news", .word "board", .word "submit"], "board-news-submit"),
   ([.word "news", .word "board", .word "mine"], "board-news-mine")]

/-- `urlpatterns`, the part under `api/`. -/
def pages : List Page :=
  includes [.word "api", .word "discounts"] "" [([.word "apply"], "discount-apply")] ++
    includes [] "" [([.word "api", .word "auth", .word "profile", .word "mini"], "profile-mini")] ++
    includes [.word "api", .word "auth"] "accounts" accountsUrls ++
    includes [.word "api", .word "competitions"] "competitions" competitionsUrls ++
    includes [.word "api", .word "payments"] "payments" paymentsUrls ++
    includes [.word "api"] "main" mainUrls

def patterns : List (Pattern Converter) := pages.map Page.pattern

/-- The page that a path is taken to, and the arguments of its view. -/
def dispatch (path : List Char) : Option (Page × List (String × List Char)) :=
  (route vocabulary patterns path).bind fun (i, kwargs) => pages[i]?.map (·, kwargs)

/-- The paths of each page that an earlier route takes, by their arguments. -/
def shadows : List (String × List (Need Converter)) :=
  [ -- taken by `dashboard/<role>/`
   ("kyorugi-list", []),
   -- taken by `seminars/<ckey:key>/`
   ("seminars-sidebar", []),
   -- taken by `kyorugi/<ckey:key>/`, `by-public/<ckey:key>/` and `seminars/<ckey:key>/`
   ("terms-generic", [.exactly "kyorugi"]),
   ("terms-generic", [.exactly "by-public"]),
   ("terms-generic", [.exactly "seminars"]),
   -- taken by `<ckey:key>/terms/`
   ("poomsae-detail", [.exactly "terms"]),
   ("competition-detail-any-compat", [.exactly "terms"]),
   -- taken by `competitions/<ckey:key>/results/`
   ("poomsae-detail-compat", [.exactly "results"]),
   -- taken by `seminars/`
   ("competition-detail-any", [.exactly "seminars"]),
   -- taken by the same route with the other name of the key
   ("poomsae-coach-eligible-students-publicid-alias", [.anything])]

/-- A path of the page, with these arguments, is taken by an earlier route. -/
def Shadowed (page : Page) (args : List (List Char)) : Prop :=
  ∃ needs, (page.name, needs) ∈ shadows ∧
    List.Forall₂ (fun need text => Need.holds vocabulary need text = true) needs args

theorem pages_nodup : pages.Nodup := by decide +kernel

theorem plain_pattern {page : Page} (h : page ∈ pages) : Plain page.pattern := by
  have hall : ∀ page ∈ pages, Plain page.pattern := by decide +kernel
  exact hall page h

/-- The shadows are the conflicts of the table. -/
theorem mem_conflicts_iff {i : ℕ} {page : Page} (h : pages[i]? = some page)
    {needs : List (Need Converter)} :
    needs ∈ conflicts vocabulary patterns i ↔ (page.name, needs) ∈ shadows := by
  have hall : ∀ i < pages.length, ∀ page ∈ pages[i]?,
      conflicts vocabulary patterns i =
        shadows.filterMap fun (name, needs) => if name = page.name then some needs else none := by
    decide +kernel
  rw [hall i (List.getElem?_eq_some_iff.mp h).1 page h]
  simp [eq_comm]

/-- The page at a place of the table is the one a path is taken to if the route is. -/
theorem dispatch_eq_some_iff {path : List Char} {page : Page} {kwargs : List (String × List Char)} :
    dispatch path = some (page, kwargs) ↔
      ∃ i, pages[i]? = some page ∧ route vocabulary patterns path = some (i, kwargs) := by
  simp only [dispatch, Option.bind_eq_some_iff, Prod.exists, Option.map_eq_some_iff, Prod.mk.injEq]
  constructor
  · rintro ⟨i, kwargs', hroute, page', hpage, rfl, rfl⟩
    exact ⟨i, hpage, hroute⟩
  · rintro ⟨i, hpage, hroute⟩
    exact ⟨i, kwargs, hroute, page, hpage, rfl, rfl⟩

/-- A path that is written after some pattern is taken to a page if it fits one. -/
theorem isSome_dispatch_render_iff {p : Pattern Converter} {args : List (List Char)}
    (hp : Plain p) (h : Takes vocabulary p args) :
    (dispatch (render p args)).isSome = true ↔
      ∃ q ∈ patterns, ∃ needs, conflict vocabulary p q = some needs ∧
        List.Forall₂ (fun need text => Need.holds vocabulary need text = true) needs args := by
  have hroute : (dispatch (render p args)).isSome = true ↔
      (route vocabulary patterns (render p args)).isSome = true := by
    rw [Option.isSome_iff_exists, Option.isSome_iff_exists]
    constructor
    · rintro ⟨⟨page, kwargs⟩, hdispatch⟩
      obtain ⟨i, -, hroute⟩ := dispatch_eq_some_iff.mp hdispatch
      exact ⟨(i, kwargs), hroute⟩
    · rintro ⟨⟨i, kwargs⟩, hroute⟩
      obtain ⟨-, q, args, hq, -⟩ := route_eq_iff.mp hroute
      rw [patterns, List.getElem?_map] at hq
      obtain ⟨page, hpage, -⟩ := Option.map_eq_some_iff.mp hq
      exact ⟨(page, kwargs), dispatch_eq_some_iff.mpr ⟨i, hpage, hroute⟩⟩
  rw [hroute, isSome_route_iff]
  simp only [isSome_fit?_render_iff hp h]

/-- **A path of a page** is taken to it, unless an earlier route takes it. -/
theorem dispatch_render_iff {page : Page} {args : List (List Char)} (hpage : page ∈ pages)
    (h : Takes vocabulary page.pattern args) :
    dispatch (render page.pattern args) = some (page, named page.pattern args) ↔
      ¬ Shadowed page args := by
  obtain ⟨i, hi⟩ := List.mem_iff_getElem?.mp hpage
  have hpattern : patterns[i]? = some page.pattern := by
    rw [patterns, List.getElem?_map, hi, Option.map_some]
  have hroute := route_render_iff (plain_pattern hpage) hpattern h
  rw [dispatch_eq_some_iff]
  constructor
  · rintro ⟨j, hj, hdispatch⟩ ⟨needs, hneeds, hholds⟩
    obtain rfl : j = i := by
      have hlt := (List.getElem?_eq_some_iff.mp hj).1
      exact (List.getElem?_inj hlt pages_nodup).mp (hj.trans hi.symm)
    exact hroute.mp hdispatch needs ((mem_conflicts_iff hi).mpr hneeds) hholds
  · intro hfree
    refine ⟨i, hi, hroute.mpr fun needs hneeds hholds => ?_⟩
    exact hfree ⟨needs, (mem_conflicts_iff hi).mp hneeds, hholds⟩

end Tkdchb.Urls
