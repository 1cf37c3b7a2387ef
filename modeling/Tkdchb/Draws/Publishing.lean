import Tkdchb.Draws.Renumbering
import Tkdchb.Draws.Seating
import Tkdchb.Lib.Text

/-!
# Publishing the brackets of a competition

The admin's publication is refused while a match of two players has no number. The public
view shows a draw only if none of its matches that are not BYEs lacks a number, whether
players are in it or not. A draw of one player has such matches: its later rounds are
filled up, but never numbered.

## Main definitions

* `numberingPublishView` — publication, and its withdrawal
* `kyorugiBracketView` — the draws that the public sees
* `drawnState` — draws as they were created, before any numbering

## Main results

* `published_shows_all_iff` — all draws of a competition that was drawn, numbered and
  published are seen exactly if each has two players
-/

namespace Tkdchb

open Transition NumberingState

/-! ### The two views -/

/-- The messages of `numbering_publish_view`. -/
inductive PublishMessage where
  | noCompetition
  | notFound
  | hidden
  | unnumbered
  | published
  deriving DecidableEq, Repr

def PublishMessage.text : PublishMessage → String
  | .noCompetition => "مسابقه انتخاب نشده است."
  | .notFound => "مسابقه یافت نشد."
  | .hidden => "جدول از پنل کاربر پنهان شد."
  | .unnumbered => "برخی مسابقات شماره‌گذاری نشده‌اند. ابتدا شماره‌گذاری را کامل کنید."
  | .published => "جدول منتشر شد و در پنل کاربر قابل مشاهده است."

/-- The number of the competition in the form. -/
def readCompetition (competition : Option String) : Option ℕ :=
  let compId := Text.strip (competition.getD "")
  if compId ≠ "" ∧ compId.toList.all Text.isDecimal then some (Text.intOfDigits compId.toList)
  else none

/-- `request.GET.get("unpublish") in ("1", "true", "True")` -/
def isUnpublish (unpublish : Option String) : Bool :=
  unpublish == some "1" || unpublish == some "true" || unpublish == some "True"

/-- A match of two players that has no number. -/
def Bout.isUnnumbered (m : Bout) : Bool :=
  !m.isBye && m.matchNumber.isNone && m.playerA.isSome && m.playerB.isSome

/-- `has_unnumbered` -/
def NumberingState.hasUnnumbered (s : NumberingState) (competitionId : ℕ) : Bool :=
  (s.draws.select fun b => b.scope.competition = competitionId).any fun d =>
    d.2.bouts.any Bout.isUnnumbered

def NumberingState.setPublished (s : NumberingState) (competitionId : ℕ)
    (bracketPublishedAt : Option Time) : NumberingState :=
  { s with
    events := Function.update s.events competitionId
      ((s.events competitionId).map fun event => { event with bracketPublishedAt }) }

/-- `numbering_publish_view` -/
def numberingPublishView (competition unpublish : Option String) (now : Time)
    (s : NumberingState) : PublishMessage × NumberingState :=
  match readCompetition competition with
  | none => (.noCompetition, s)
  | some competitionId =>
    match s.events competitionId with
    | none => (.notFound, s)
    | some event =>
      if isUnpublish unpublish then (.hidden, s.setPublished competitionId none)
      else if s.hasUnnumbered competitionId then (.unnumbered, s)
      else
        (.published,
          if event.bracketPublishedAt.isSome then s else s.setPublished competitionId (some now))

inductive BracketViewError where
  /-- `Http404` -/
  | notFound
  /-- the answer 404 with `bracket_not_ready` -/
  | bracketNotReady
  deriving DecidableEq, Repr

/-- `_has_unumbered`: the draw has a match that is no BYE and has no number. -/
def Bracket.isUnsafe (b : Bracket) : Bool := b.bouts.any fun m => !m.isBye && m.matchNumber.isNone

/-- The draws that the public sees, by weight and id. -/
def NumberingState.visibleDraws (s : NumberingState) (competitionId : ℕ) : List (ℕ × Bracket) :=
  (s.draws.select fun b => b.scope.competition = competitionId && !b.isUnsafe).insertionSort
    (drawOrder s.minWeight)

/-- `KyorugiBracketView.get`: the draws of the answer. -/
def kyorugiBracketView (reg : Registry) (key : String) (s : NumberingState) :
    Except BracketViewError (List (ℕ × Bracket)) :=
  match reg.getCompByKey key with
  | none => .error .notFound
  | some competitionId =>
    if ((s.events competitionId).bind BracketEvent.bracketPublishedAt).isNone then
      .error .bracketNotReady
    else
      let hasAnyDraw := (s.draws.oldest fun b => b.scope.competition = competitionId).isSome
      let draws := s.visibleDraws competitionId
      if !hasAnyDraw || draws.isEmpty then .error .bracketNotReady else .ok draws

/-! ### Draws as they are created -/

/-- A match of a new draw has no mat and no number. -/
def Match.bout (m : Match) : Bout := { m with matNo := none, matchNumber := none }

/-- A draw before any numbering. -/
def Draw.bracket (draw : Draw) : Bracket := ⟨draw.scope, draw.size, draw.matchRows.map Match.bout⟩

/-- The draws of a state, before any numbering. -/
def drawnState (d : DrawState) (events : ℕ → Option BracketEvent) (minWeight : ℕ → ℚ) :
    NumberingState where
  draws := d.draws.image Draw.bracket
  events
  minWeight

/-- What holds of a draw that was created: its matches are a first round, and a table of
two has two players. -/
structure Draw.Drawn (draw : Draw) : Prop where
  rows_ne_nil : draw.matchRows ≠ []
  round : ∀ m ∈ draw.matchRows, m.roundNo = 1
  two_le_size : 2 ≤ draw.size
  full : draw.size < 3 → ∀ m ∈ draw.matchRows,
    m.isBye = false ∧ m.playerA.isSome = true ∧ m.playerB.isSome = true

section Drawn

variable {c : DrawCall} {s : DrawState} {size : ℕ}

theorem mem_of_mem_pairUp {α : Type} {l : List α} {a b : α} (h : (a, b) ∈ pairUp l) :
    a ∈ l ∧ b ∈ l := by
  induction l using List.twoStepInduction with
  | nil => cases h
  | singleton x => cases h
  | cons_cons x y rest ih _ =>
    rcases List.mem_cons.mp h with heq | htail
    · obtain ⟨rfl, rfl⟩ := Prod.mk.inj heq
      simp
    · obtain ⟨ha, hb⟩ := ih htail
      exact ⟨by simp [ha], by simp [hb]⟩

/-- A table without BYEs is full. -/
theorem isSome_of_mem_seeding {historyPairs : List PlayerPair} {l : List (Option Entry)}
    (h : c.seeding historyPairs size = some l) (hle : size ≤ c.entries.length)
    {e : Option Entry} (he : e ∈ l) : e.isSome = true := by
  have hslots := isNone_assemble h
  rw [byeSlots_of_le hle] at hslots
  have hmem : e.isNone ∈ l.map Option.isNone := List.mem_map_of_mem he
  rw [hslots] at hmem
  obtain ⟨_, -, hfalse⟩ := List.mem_map.mp hmem
  cases e with
  | none => simp at hfalse
  | some e => rfl

theorem drawn_newDraw {historyPairs : List PlayerPair} {scope : DrawScope}
    {l : List (Option Entry)} (hsize : c.size = .ok size)
    (hseed : c.seeding historyPairs size = some l) : (c.newDraw scope size l).Drawn := by
  obtain ⟨-, htwo, hfew⟩ := size_spec hsize
  have hlength := length_seeding hseed
  refine ⟨?_, ?_, htwo, ?_⟩
  · have hne : pairUp l ≠ [] := by
      apply List.ne_nil_of_length_pos
      rw [length_pairUp]
      omega
    simpa [DrawCall.newDraw, firstRound] using hne
  · intro m hm
    exact roundNo_of_mem_firstRound hm
  · intro hsmall m hm
    -- a table of two slots is taken for more than four players only
    have htwoSlots : size < 3 := hsmall
    have hneeded : size ≤ c.entries.length := by
      by_contra! hroom
      have hfour := hfew (by omega)
      omega
    obtain ⟨i, hi, rfl⟩ := mem_firstRound.mp hm
    have hpair : (pairUp l)[i] ∈ pairUp l := List.getElem_mem hi
    obtain ⟨ha, hb⟩ := mem_of_mem_pairUp hpair
    have hsome : (pairUp l)[i].1.isSome = true := isSome_of_mem_seeding hseed hneeded ha
    have hsome' : (pairUp l)[i].2.isSome = true := isSome_of_mem_seeding hseed hneeded hb
    have hbye : ((pairUp l)[i].1.isNone || (pairUp l)[i].2.isNone) = false := by
      rw [Bool.or_eq_false_iff, Option.isNone_eq_false_iff, Option.isNone_eq_false_iff]
      exact ⟨hsome, hsome'⟩
    exact ⟨hbye, by simpa using hsome, by simpa using hsome'⟩

/-- Every draw was created. -/
def AllDrawn (s : DrawState) : Prop := ∀ pk draw, s.draws.get pk = some draw → draw.Drawn

theorem allDrawn_step (a : DrawAction) (s : DrawState) (h : AllDrawn s) :
    AllDrawn (drawActionStep a s) := by
  cases a with
  | setLocked pk isLocked =>
    intro pk' draw hget
    rcases Table.get_modify_cases hget with hold | ⟨rfl, draw', hold, rfl⟩
    · exact h pk' draw hold
    · obtain ⟨hne, hround, htwo, hfull⟩ := h pk' draw' hold
      exact ⟨hne, hround, htwo, hfull⟩
  | draw c =>
    rw [drawActionStep]
    rcases drawStep_cases c s with heq | ⟨pk, scope, size, entriesFinal, -, hcreated⟩
    · rwa [heq]
    · intro pk' draw hget
      rw [hcreated.draws_eq] at hget
      rcases Table.get_insert_cases hget with hold | ⟨-, rfl⟩
      · exact h pk' draw (get_discardPrevious hold)
      · exact drawn_newDraw hcreated.size_eq hcreated.seeding_eq

/-- **Every draw of a run of calls was created.** -/
theorem allDrawn_run (acts : List DrawAction) : AllDrawn (run drawActionStep .empty acts) :=
  run_invariant allDrawn_step (fun _ _ h => by cases h) acts

end Drawn

/-! ### What is seen -/

section Seen

variable {s s' : NumberingState} {competitionId : ℕ} {competition unpublish : Option String}
  {now : Time} {reg : Registry} {key : String} {pk : ℕ} {b : Bracket}

/-- What an accepted publication has checked and done. -/
theorem numberingPublishView_published
    (h : numberingPublishView competition unpublish now s = (.published, s'))
    (hform : readCompetition competition = some competitionId) :
    s.hasUnnumbered competitionId = false ∧ s'.draws = s.draws ∧
      ((s'.events competitionId).bind BracketEvent.bracketPublishedAt).isSome = true := by
  unfold numberingPublishView at h
  simp only [hform] at h
  cases hevent : s.events competitionId with
  | none => simp [hevent] at h
  | some event =>
    simp only [hevent] at h
    split_ifs at h with hhide hcheck hset
    · cases (Prod.mk.inj h).1
    · cases (Prod.mk.inj h).1
    · obtain rfl := (Prod.mk.inj h).2
      exact ⟨Bool.eq_false_iff.mpr hcheck, rfl, by simp [hevent, hset]⟩
    · obtain rfl := (Prod.mk.inj h).2
      exact ⟨Bool.eq_false_iff.mpr hcheck, rfl, by simp [NumberingState.setPublished, hevent]⟩

theorem mem_visibleDraws_iff :
    (pk, b) ∈ s.visibleDraws competitionId ↔
      s.draws.get pk = some b ∧ b.scope.competition = competitionId ∧ b.isUnsafe = false := by
  rw [NumberingState.visibleDraws, List.mem_insertionSort, Table.mem_select_iff]
  simp

/-- All draws of a published competition are seen exactly if there are some and none is
unsafe. -/
theorem sees_all_iff (hkey : reg.getCompByKey key = some competitionId)
    (hpublished : ((s.events competitionId).bind BracketEvent.bracketPublishedAt).isSome = true)
    (hsome : ∃ pk b, s.draws.get pk = some b ∧ b.scope.competition = competitionId) :
    (∃ shown, kyorugiBracketView reg key s = .ok shown ∧
        ∀ pk b, s.draws.get pk = some b → b.scope.competition = competitionId → (pk, b) ∈ shown) ↔
      ∀ pk b, s.draws.get pk = some b → b.scope.competition = competitionId →
        b.isUnsafe = false := by
  -- of the three refusals of the view only the one on what is left to show can still happen
  have hview : kyorugiBracketView reg key s =
      if s.visibleDraws competitionId = [] then .error .bracketNotReady
      else .ok (s.visibleDraws competitionId) := by
    obtain ⟨pk, b, hb, hcomp⟩ := hsome
    have hany : (s.draws.oldest fun b => b.scope.competition = competitionId).isSome = true := by
      rw [Option.isSome_iff_ne_none, Ne, Table.oldest_eq_none_iff]
      intro hnone
      simpa [hcomp] using hnone pk b hb
    have hready :
        ((s.events competitionId).bind BracketEvent.bracketPublishedAt).isNone = false := by
      rwa [Option.isNone_eq_false_iff]
    simp [kyorugiBracketView, hkey, hready, hany]
  rw [hview]
  constructor
  · rintro ⟨shown, hok, hall⟩ pk b hb hcomp
    split_ifs at hok with hnil
    obtain rfl := Except.ok.inj hok
    exact (mem_visibleDraws_iff.mp (hall pk b hb hcomp)).2.2
  · intro hsafe
    have hall : ∀ pk b, s.draws.get pk = some b → b.scope.competition = competitionId →
        (pk, b) ∈ s.visibleDraws competitionId := fun pk b hb hcomp =>
      mem_visibleDraws_iff.mpr ⟨hb, hcomp, hsafe pk b hb hcomp⟩
    obtain ⟨pk, b, hb, hcomp⟩ := hsome
    exact ⟨_, if_neg (List.ne_nil_of_mem (hall pk b hb hcomp)), hall⟩

end Seen

/-! ### Created draws after a call -/

section Called

variable {draw : Draw} {s : NumberingState} {competitionId : ℕ} {weightIds : List ℕ}
  {clearPrev : Bool} {w2m : ℕ → Option ℕ} {pk matNo : ℕ} {b : Bracket}

theorem Bracket.two_le_roundsCount {size : ℕ} (h : 3 ≤ size) : 2 ≤ roundsCount size := by
  obtain ⟨n, rfl⟩ := Nat.exists_eq_add_of_le' h
  have hdouble : 1 <<< 1 < n + 3 := by
    rw [Nat.shiftLeft_eq]
    omega
  rw [roundsCount, roundsCountLoop, if_pos (by omega), roundsCountLoop, if_pos hdouble]
  omega

namespace Draw.Drawn

theorem firstRoundNo (h : draw.Drawn) : draw.bracket.firstRoundNo = some 1 := by
  rw [Bracket.firstRoundNo_eq_some_iff]
  obtain ⟨m, hm⟩ := List.exists_mem_of_ne_nil _ h.rows_ne_nil
  refine ⟨⟨m.bout, List.mem_map_of_mem hm, h.round m hm⟩, fun m' hm' => ?_⟩
  obtain ⟨m, hm, rfl⟩ := List.mem_map.mp hm'
  exact (h.round m hm).ge

theorem bouts_ne_nil (h : draw.Drawn) : draw.bracket.bouts ≠ [] := by
  simpa [Draw.bracket] using h.rows_ne_nil

/-- Where there are three slots or more, a second round is filled up. -/
theorem exists_missing (h : draw.Drawn) (hsize : 3 ≤ draw.size) :
    ∃ m ∈ draw.bracket.missing, m.roundNo = 2 ∧ m.isBye = false ∧ m.matchNumber = none := by
  have hbase : draw.bracket.baseRound = 1 := by
    simp [Bracket.baseRound, h.firstRoundNo]
  have htotal : draw.bracket.totalSize = draw.size := by
    have hne : draw.bracket.size ≠ 0 := by
      have hpos := h.two_le_size
      simp only [Draw.bracket]
      omega
    rw [Bracket.totalSize, if_neg hne, Draw.bracket]
  have hcount : draw.bracket.countInRound 2 = 0 := by
    rw [Bracket.countInRound, List.countP_eq_zero]
    intro m' hm'
    obtain ⟨m, hm, rfl⟩ := List.mem_map.mp hm'
    simp [Match.bout, h.round m hm]
  refine ⟨Bracket.emptyBout 2 0, ?_, rfl, rfl, rfl⟩
  rw [Bracket.missing, hbase, htotal, List.mem_flatMap]
  refine ⟨1, ?_, ?_⟩
  · have hrounds := Bracket.two_le_roundsCount hsize
    rw [List.mem_range'_1]
    omega
  · rw [Bracket.missingIn, hcount, Bracket.expectedIn]
    apply List.mem_map_of_mem
    rw [List.mem_range'_1]
    omega

/-- **A draw has a real match exactly if it has two players.** -/
theorem hasRealMatch_iff (h : draw.Drawn) :
    draw.bracket.ensureRoundsExist.hasRealMatch = true ↔ 2 ≤ draw.bracket.realPlayersCount := by
  have hfirst : draw.bracket.ensureRoundsExist.firstRoundNo = some 1 := by
    rw [Bracket.firstRoundNo_ensureRoundsExist h.bouts_ne_nil, h.firstRoundNo]
  unfold Bracket.hasRealMatch
  rw [Bracket.realPlayersCount_ensureRoundsExist, hfirst]
  by_cases hplayers : 2 ≤ draw.bracket.realPlayersCount
  · rw [if_neg (by omega)]
    simp only [hplayers, iff_true, Bool.or_eq_true, List.any_eq_true]
    by_cases hsize : 3 ≤ draw.size
    · left
      obtain ⟨m, hm, hround, -⟩ := h.exists_missing hsize
      refine ⟨m, ?_, by simp [hround]⟩
      rw [Bracket.bouts_ensureRoundsExist]
      exact List.mem_append_right _ hm
    · right
      obtain ⟨m, hm⟩ := List.exists_mem_of_ne_nil _ h.rows_ne_nil
      have hround := h.round m hm
      obtain ⟨hbye, -⟩ := h.full (by omega) m hm
      refine ⟨m.bout, ?_, by simp [Match.bout, hround, hbye]⟩
      rw [Bracket.bouts_ensureRoundsExist]
      exact List.mem_append_left _ (List.mem_map_of_mem hm)
  · rw [if_pos (by omega)]
    simp [hplayers]

end Draw.Drawn

/-- A draw that is numbered is safe. -/
theorem isUnsafe_numbered_of_real {b' : Bracket} (hb : s.draws.get pk = some b)
    (hsel : Selects competitionId weightIds b) (hmat : w2m b.scope.weightCategory = some matNo)
    (hreal : b.ensureRoundsExist.hasRealMatch = true)
    (hb' : (s.numbered competitionId weightIds clearPrev w2m).draws.get pk = some b') :
    b'.isUnsafe = false := by
  rw [Bracket.isUnsafe, List.any_eq_false]
  intro m hm
  obtain ⟨i, hrow⟩ := List.getElem?_of_mem hm
  have hafter :
      boutAt (s.numbered competitionId weightIds clearPrev w2m).draws (pk, i) = some m := by
    rw [boutAt_of_get hb', hrow]
  by_cases hcounts : b.ensureRoundsExist.Counts i
  · have hnumbers : s.Numbers competitionId weightIds w2m matNo pk i :=
      ⟨b, hb, hsel, hmat, hreal, hcounts⟩
    obtain ⟨number, hissued⟩ := exists_issued (x := (pk, i)) clearPrev hnumbers
    rw [boutAt_numbered_of_issued hissued] at hafter
    obtain ⟨m₀, -, rfl⟩ := Option.map_eq_some_iff.mp hafter
    simp [Bout.stamp]
  · -- what is not numbered is a BYE of the first round
    have hnot : ∀ matNo, ¬ s.Numbers competitionId weightIds w2m matNo pk i := by
      rintro matNo ⟨b₀, hb₀, -, -, -, hcounts₀⟩
      obtain rfl := Option.some.inj (hb.symm.trans hb₀)
      exact hcounts hcounts₀
    rw [boutAt_numbered_of_not clearPrev hnot, boutAt_prepared hb hsel] at hafter
    rw [← Bracket.counts_prepare clearPrev, Bracket.counts_iff] at hcounts
    have hbye : m.isBye = true := by
      by_contra hopen
      exact hcounts ⟨m, hafter, fun _ => Bool.eq_false_iff.mpr hopen⟩
    simp [hbye]

/-- The matches of a draw without a real match are prepared, and no more. -/
theorem bouts_numbered_of_not_real {b' : Bracket} (hb : s.draws.get pk = some b)
    (hsel : Selects competitionId weightIds b)
    (hreal : b.ensureRoundsExist.hasRealMatch = false)
    (hb' : (s.numbered competitionId weightIds clearPrev w2m).draws.get pk = some b') :
    b'.bouts = (b.prepare clearPrev).bouts := by
  apply List.ext_getElem?
  intro i
  have hnot : ∀ matNo, ¬ s.Numbers competitionId weightIds w2m matNo pk i := by
    rintro matNo ⟨b₀, hb₀, -, -, hreal₀, -⟩
    obtain rfl := Option.some.inj (hb.symm.trans hb₀)
    rw [hreal] at hreal₀
    cases hreal₀
  have hafter := boutAt_numbered_of_not (x := (pk, i)) clearPrev hnot
  rwa [boutAt_prepared hb hsel, boutAt_of_get hb'] at hafter

/-- **A draw that is not numbered is unsafe**, or it has a match of two players, which is
what the publication checks. -/
theorem unsafe_or_unnumbered (h : draw.Drawn) (hplayers : ¬ 2 ≤ draw.bracket.realPlayersCount)
    {b' : Bracket} (hb : s.draws.get pk = some draw.bracket)
    (hsel : Selects competitionId weightIds draw.bracket)
    (hb' : (s.numbered competitionId weightIds clearPrev w2m).draws.get pk = some b') :
    b'.isUnsafe = true ∨ ∃ m ∈ b'.bouts, m.isUnnumbered = true := by
  have hreal := Bool.eq_false_iff.mpr (h.hasRealMatch_iff.not.mpr hplayers)
  have hbouts := bouts_numbered_of_not_real hb hsel hreal hb'
  rw [Bracket.bouts_prepare] at hbouts
  by_cases hsize : 3 ≤ draw.size
  · left
    obtain ⟨m, hm, -, hbye, hnumber⟩ := h.exists_missing hsize
    rw [Bracket.isUnsafe, hbouts, List.any_eq_true]
    exact ⟨m, List.mem_append_right _ hm, by simp [hbye, hnumber]⟩
  · right
    obtain ⟨m, hm⟩ := List.exists_mem_of_ne_nil _ h.rows_ne_nil
    obtain ⟨hbye, hplayerA, hplayerB⟩ := h.full (by omega) m hm
    have hrow : m.bout ∈ draw.bracket.bouts := List.mem_map_of_mem hm
    refine ⟨m.bout.cleared clearPrev, ?_, ?_⟩
    · rw [hbouts]
      exact List.mem_append_left _ (List.mem_map_of_mem hrow)
    · cases clearPrev <;>
        simp [Bout.isUnnumbered, Bout.cleared, Match.bout, hbye, hplayerA, hplayerB]

/-- **The draws of a call over all weights of a competition** that leaves no match of two
players without a number are safe exactly if each has two players. -/
theorem safe_numbered_iff {d : DrawState} (hdrawn : AllDrawn d)
    (hs : ∀ pk, s.draws.get pk = (d.draws.get pk).map Draw.bracket)
    (hall : ∀ pk draw, d.draws.get pk = some draw → draw.scope.competition = competitionId →
      draw.scope.weightCategory ∈ weightIds)
    (hmats : ∀ w ∈ weightIds, ∃ matNo, w2m w = some matNo)
    (hnumbered : (s.numbered competitionId weightIds clearPrev w2m).hasUnnumbered competitionId =
      false) :
    (∀ pk b, (s.numbered competitionId weightIds clearPrev w2m).draws.get pk = some b →
        b.scope.competition = competitionId → b.isUnsafe = false) ↔
      ∀ pk draw, d.draws.get pk = some draw → draw.scope.competition = competitionId →
        2 ≤ draw.bracket.realPlayersCount := by
  have hfollows : Follows s (s.numbered competitionId weightIds clearPrev w2m) :=
    follows_numbered w2m
  constructor
  · intro hsafe pk draw hget hcomp
    have hb : s.draws.get pk = some draw.bracket := by rw [hs, hget, Option.map_some]
    have hselects : Selects competitionId weightIds draw.bracket := ⟨hcomp, hall pk draw hget hcomp⟩
    obtain ⟨b', hb', hgrown⟩ := hfollows.exists_grown_of_get hb
    have hcomp' : b'.scope.competition = competitionId := hgrown.scope ▸ hcomp
    by_contra hfew
    rcases unsafe_or_unnumbered (hdrawn pk draw hget) hfew hb hselects hb' with
      hunsafe | ⟨m, hm, hopen⟩
    · rw [hsafe pk b' hb' hcomp'] at hunsafe
      cases hunsafe
    · -- such a match stops the publication
      have hfound : (s.numbered competitionId weightIds clearPrev w2m).hasUnnumbered
          competitionId = true := by
        rw [NumberingState.hasUnnumbered, List.any_eq_true]
        exact ⟨(pk, b'), Table.mem_select_of_get hb' (decide_eq_true hcomp'),
          List.any_eq_true.mpr ⟨m, hm, hopen⟩⟩
      rw [hnumbered] at hfound
      cases hfound
  · intro hplayers pk b' hb' hcomp'
    obtain ⟨b, hb, hgrown⟩ := hfollows.exists_grown hb'
    obtain ⟨draw, hget, rfl⟩ := Option.map_eq_some_iff.mp ((hs pk).symm.trans hb)
    have hcomp : draw.scope.competition = competitionId := by
      rw [← hcomp', hgrown.scope]
      rfl
    have hselects : Selects competitionId weightIds draw.bracket := ⟨hcomp, hall pk draw hget hcomp⟩
    obtain ⟨matNo, hmat⟩ := hmats _ hselects.2
    have hreal := (hdrawn pk draw hget).hasRealMatch_iff.mpr (hplayers pk draw hget hcomp)
    exact isUnsafe_numbered_of_real hb hselects hmat hreal hb'

/-- **Published means visible for draws of two players or more.** The draws of a competition
are created, numbered in one call over all their weights, and published. Then the public
sees all of them exactly if each has at least two different players. -/
theorem published_shows_all_iff {acts : List DrawAction} {events : ℕ → Option BracketEvent}
    {minWeight : ℕ → ℚ} {counters : List (ℕ × ℕ)} {s' s'' : NumberingState}
    {competition unpublish : Option String} {now : Time} {reg : Registry} {key : String}
    (hall : ∀ pk draw, (run drawActionStep .empty acts).draws.get pk = some draw →
      draw.scope.competition = competitionId → draw.scope.weightCategory ∈ weightIds)
    (hcall : numberMatchesForCompetition competitionId weightIds clearPrev
      (drawnState (run drawActionStep .empty acts) events minWeight) = .ok (counters, s'))
    (hform : readCompetition competition = some competitionId)
    (hpublish : numberingPublishView competition unpublish now s' = (.published, s''))
    (hkey : reg.getCompByKey key = some competitionId) :
    (∃ shown, kyorugiBracketView reg key s'' = .ok shown ∧
        ∀ pk b, s''.draws.get pk = some b → b.scope.competition = competitionId →
          (pk, b) ∈ shown) ↔
      ∀ pk draw, (run drawActionStep .empty acts).draws.get pk = some draw →
        draw.scope.competition = competitionId → 2 ≤ draw.bracket.realPlayersCount := by
  obtain ⟨⟨⟨w2m, draws⟩, hchecks⟩, heq⟩ := numberMatchesForCompetition_ok_iff.mp hcall
  obtain ⟨-, hw2m, hmats, rfl, hdraws⟩ := selection_eq_ok_iff.mp hchecks
  rw [hw2m] at heq
  obtain ⟨-, rfl⟩ := Prod.mk.inj heq
  obtain ⟨hnumbered, hsame, hpublished⟩ := numberingPublishView_published hpublish hform
  have hsome : ∃ pk b, s''.draws.get pk = some b ∧ b.scope.competition = competitionId := by
    obtain ⟨⟨pk, b⟩, hmem⟩ := List.exists_mem_of_ne_nil _ hdraws
    obtain ⟨hb, hsel⟩ := mem_drawsOf_iff.mp hmem
    obtain ⟨b', hb', hgrown⟩ := (follows_numbered w2m).exists_grown_of_get hb
    rw [hsame]
    exact ⟨pk, b', hb', hgrown.scope ▸ hsel.1⟩
  rw [sees_all_iff hkey hpublished hsome, hsame]
  exact safe_numbered_iff (allDrawn_run acts) (fun pk => rfl) hall hmats hnumbered

end Called

/-- A competition with one draw, of the given players, whose weight is on mat 1. -/
def drawnGroup (players : List ℤ) : NumberingState :=
  drawnState (run drawActionStep .empty [.draw (groupCall (some 3) players (1, 2))])
    (fun competitionId => if competitionId = 1 then some ⟨[⟨1, [2]⟩], none⟩ else none) fun _ => 0

/-- The draw is numbered. -/
def numberedGroup (players : List ℤ) : NumberingState :=
  numberingStep (.number 1 [2] true) (drawnGroup players)

/-- And published. -/
def publishedGroup (players : List ℤ) : PublishMessage × NumberingState :=
  numberingPublishView (some "1") none 0 (numberedGroup players)

/-- Every key leads to competition 1. -/
def oneCompetition : Registry := { (default : Registry) with getCompByKey := fun _ => some 1 }

/-- The draw of two players is seen. -/
theorem two_players_seen :
    ∃ shown, kyorugiBracketView oneCompetition "1" (publishedGroup [5, 6]).2 = .ok shown ∧
      ∀ pk b, (publishedGroup [5, 6]).2.draws.get pk = some b → b.scope.competition = 1 →
        (pk, b) ∈ shown := by
  have hdraws : ∀ x ∈ (run drawActionStep .empty
      [.draw (groupCall (some 3) [5, 6] (1, 2))]).draws.select (fun _ => true),
        x.2.scope.weightCategory ∈ [2] ∧ 2 ≤ x.2.bracket.realPlayersCount := by
    decide +kernel
  have hmem : ∀ pk draw, (run drawActionStep .empty
      [.draw (groupCall (some 3) [5, 6] (1, 2))]).draws.get pk = some draw →
        draw.scope.weightCategory ∈ [2] ∧ 2 ≤ draw.bracket.realPlayersCount :=
    fun pk draw hget => hdraws (pk, draw) (Table.mem_select_of_get hget rfl)
  obtain ⟨counters, hcall⟩ := exists_counters 1 [2] true (drawnGroup [5, 6]) (by decide +kernel)
  have haccepted : (publishedGroup [5, 6]).1 = .published := by
    decide +kernel
  have hpublish : numberingPublishView (some "1") none 0 (numberedGroup [5, 6]) =
      (.published, (publishedGroup [5, 6]).2) := Prod.ext haccepted rfl
  have hform : readCompetition (some "1") = some 1 := by
    decide +kernel
  exact (published_shows_all_iff (fun pk draw hget _ => (hmem pk draw hget).1) hcall hform hpublish
    rfl).mpr fun pk draw hget _ => (hmem pk draw hget).2

/-- The draw of one player is numbered and published, and nothing is seen. -/
theorem one_player_not_seen :
    (publishedGroup [5]).1 = .published ∧
      ((publishedGroup [5]).2.draws.get 1).map (fun b => b.scope.competition) = some 1 ∧
      (kyorugiBracketView oneCompetition "1" (publishedGroup [5]).2).toOption.isNone = true := by
  decide +kernel

end Tkdchb
