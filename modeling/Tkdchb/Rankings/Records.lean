import Tkdchb.Competitions.Records
import Tkdchb.Lib.Ledger
import Tkdchb.Lib.Table
import Tkdchb.Lib.Text

/-!
# Records of the rankings

Profiles, clubs and boards carry running totals; awards and ranking transactions are the
ledgers behind them. Points are exact rationals. A total is looked up by its account, and
an account exists for every number, so nothing is said about profiles, clubs or boards
that have been deleted.

## Main definitions

* `Account` — the columns that hold a running total
* `RankingAward`, `RankingAward.updates` — the award of one enrollment, and the updates
  that book it
* `awardFor` — the award an enrollment gets, with its subjects resolved
* `KyorugiResult`, `RankingTransaction` — the result of a weight category, and the ledger
  rows that scoring it writes
* `RankingState` — the tables of the rankings
-/

namespace Tkdchb

/-- A column that holds a running total, with the number of its row. -/
inductive Account where
  /-- `UserProfile.ranking_competition` -/
  | competition (profile : ℤ)
  /-- `UserProfile.ranking_total` -/
  | profile (id : ℤ)
  /-- `TkdClub.ranking_total` -/
  | club (id : ℤ)
  /-- `TkdBoard.ranking_total` -/
  | board (id : ℤ)
  deriving DecidableEq, Repr

/-- Points added to an account. -/
abbrev Posting := Account × ℚ

/-! ### Awards -/

/-- What the fallback chains of an award read of profiles, clubs and boards. -/
structure Roster where
  profile : ℤ → Option UserProfile
  /-- `UserProfile.coach` -/
  coachOf : ℤ → Option ℤ
  club : ℕ → Option TkdClub
  /-- `TkdClub.tkd_board` -/
  clubBoard : ℕ → Option ℕ
  board : ℕ → Option TkdBoard
  deriving Inhabited

/-- A ranking award. -/
structure RankingAward where
  enrollment : ℕ
  player : ℤ
  coach : Option ℤ
  club : Option ℕ
  board : Option ℕ
  playerName : String
  coachName : String
  clubName : String
  boardName : String
  pointsPlayer : ℚ
  pointsCoach : ℚ
  pointsClub : ℚ
  pointsBoard : ℚ

/-- `f"{p.first_name} {p.last_name}".strip()` -/
def Roster.nameOf (roster : Roster) (id : ℤ) : String :=
  ((roster.profile id).map fun p => Text.strip p.fullName).getD ""

/-- The subjects and points of the award an enrollment gets. -/
def awardFor (roster : Roster) (pk : ℕ) (enrollment : Enrollment) : RankingAward :=
  let player := enrollment.player
  let profile := roster.profile player
  let coach := enrollment.coach.or (roster.coachOf player)
  let club := enrollment.club.or (profile.bind UserProfile.club)
  let board := (enrollment.board.or (club.bind roster.clubBoard)).or
    (profile.bind UserProfile.tkdBoard)
  { enrollment := pk
    player
    coach
    club
    board
    playerName := roster.nameOf player
    coachName := (coach.map roster.nameOf).getD ""
    clubName := ((club.bind roster.club).map TkdClub.clubName).getD ""
    boardName := ((board.bind roster.board).map TkdBoard.name).getD ""
    pointsPlayer := 1
    pointsCoach := if coach.isSome then 3 / 4 else 0
    pointsClub := if club.isSome then 1 / 2 else 0
    pointsBoard := if board.isSome then 1 / 2 else 0 }

/-- The `UPDATE` statements that book an award, in order. The first one writes two
columns. -/
def RankingAward.updates (award : RankingAward) : List (List Posting) :=
  [[(.competition award.player, award.pointsPlayer), (.profile award.player, award.pointsPlayer)]]
    ++ (award.coach.map fun c => [(Account.profile c, award.pointsCoach)]).toList
    ++ (award.club.map fun c => [(Account.club c, award.pointsClub)]).toList
    ++ (award.board.map fun b => [(Account.board b, award.pointsBoard)]).toList

/-- What an award books. -/
def RankingAward.postings (award : RankingAward) : List Posting := award.updates.flatten

/-- The enrollment has an award. -/
def hasAward (awards : List RankingAward) (pk : ℕ) : Bool :=
  awards.any fun award => award.enrollment == pk

theorem hasAward_iff {awards : List RankingAward} {pk : ℕ} :
    hasAward awards pk = true ↔ pk ∈ awards.map RankingAward.enrollment := by
  simp [hasAward]

/-! ### Results -/

/-- The medals a ranking transaction can be for. -/
inductive Medal where
  | gold
  | silver
  | bronze
  deriving DecidableEq, Repr

/-- An enrollment object in memory. It may be older than its row. -/
structure Medalist where
  pk : ℕ
  enrollment : Enrollment
  /-- `Enrollment.medal` -/
  medal : Option Medal
  deriving Inhabited

/-- The result of a weight category. `α` is what stands for an enrollment: its number in a
row of the table, the object itself in memory. -/
structure KyorugiResult (α : Type) where
  competition : ℕ
  weightCategory : ℕ
  gold : Option α
  silver : Option α
  bronze1 : Option α
  bronze2 : Option α
  createdBy : Option ℕ
  deriving Inhabited

/-- The columns of a result in memory. -/
def KyorugiResult.toRow (result : KyorugiResult Medalist) : KyorugiResult ℕ where
  competition := result.competition
  weightCategory := result.weightCategory
  gold := result.gold.map Medalist.pk
  silver := result.silver.map Medalist.pk
  bronze1 := result.bronze1.map Medalist.pk
  bronze2 := result.bronze2.map Medalist.pk
  createdBy := result.createdBy

/-- `RankingTransaction.SUBJECT_CHOICES` -/
inductive SubjectType where
  | player
  | coach
  | club
  | board
  deriving DecidableEq, Repr

/-- The two implementations of scoring. -/
inductive Writer where
  /-- `KyorugiResult.save` -/
  | save
  /-- `apply_results_and_points` -/
  | service
  deriving DecidableEq, Repr

/-- A ranking transaction. -/
structure RankingTransaction where
  competition : ℕ
  result : ℕ
  subjectType : SubjectType
  subjectId : ℤ
  medal : Medal
  points : ℚ
  /-- who wrote the row; not a column, and nothing reads it -/
  writer : Writer
  deriving DecidableEq

/-- A medal counter of a profile or a club. -/
inductive MedalCounter where
  | profile (id : ℤ) (medal : Medal)
  | club (id : ℤ) (medal : Medal)
  deriving DecidableEq, Repr

/-- The tables of the rankings. -/
structure RankingState where
  enrollments : Table Enrollment
  results : Table (KyorugiResult ℕ)
  transactions : List RankingTransaction
  awards : List RankingAward
  totals : Account → ℚ
  medals : MedalCounter → ℕ

end Tkdchb
