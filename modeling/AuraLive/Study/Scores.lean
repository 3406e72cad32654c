import AuraLive.Study.Answers
import Mathlib.Tactic.Ring

set_option relaxedAutoImplicit false
set_option autoImplicit false

/-!
# Scores

`processAnswer` adds to the score of a participant in two places, the points of the quiz and the
bonus for a streak, and computes what it returns once more from the streak. Here the score is told
from the answers alone: by the runs of correct answers that follow each other.

## Main definitions

* `Study.runs`, `Study.runWorth` — the lengths of the runs of correct answers, and what a run of a
  length is worth.
* `Study.Returned`, `Study.paidStudy` — the results that `processAnswer` has returned, kept in a
  history beside the service.
* `Study.Accounts` — the counters of a participant agree with the results.

## Main results

* `Study.sum_runs` — a sum over the runs grows with a correct answer as its run does.
* `Study.Accounts.answered` — one more answer keeps the account.
* `Study.score_accounts` — in every run, the account of every participant is kept.

## Design

The last answer comes first, in the results and in the runs. Two wrong answers in a row, or a wrong
one at either end, leave a run of length zero, which is worth nothing.
-/

namespace Study

open Foundations

/-! ## Runs of correct answers -/

/-- The lengths of the runs of correct answers, the last run first. -/
def runs (outcomes : List Bool) : List ℕ := (outcomes.splitOn false).map List.length

/-- What a run of correct answers is worth. -/
def runWorth (L : ℕ) : ℕ := if 3 ≤ L then 100 * L + 25 * (L - 2) * (L - 1) else 100 * L

/-- A wrong answer starts an empty run. -/
lemma runs_cons_false (outcomes : List Bool) : runs (false :: outcomes) = 0 :: runs outcomes := by
  unfold runs List.splitOn
  rw [List.splitOnP_cons_eq_if_modifyHead, if_pos (by rfl)]
  rfl

/-- A correct answer extends the last run. -/
lemma runs_cons_true (outcomes : List Bool) :
    ∃ L Ls, runs outcomes = L :: Ls ∧ runs (true :: outcomes) = (L + 1) :: Ls := by
  unfold runs List.splitOn
  rw [List.splitOnP_cons_eq_if_modifyHead, if_neg (by decide)]
  obtain ⟨run, rest, hruns⟩ := List.exists_cons_of_ne_nil
    (List.splitOnP_ne_nil (· == false) outcomes)
  rw [hruns]
  exact ⟨run.length, rest.map List.length, rfl, rfl⟩

/-- A sum over the runs is the sum of what each correct answer adds to its run, if an empty run
counts for nothing. -/
lemma sum_runs {f g : ℕ → ℕ} (h0 : f 0 = 0) (hg : ∀ L, f (L + 1) = f L + g L)
    (outcomes : List Bool) :
    ((runs (false :: outcomes)).map f).sum = ((runs outcomes).map f).sum ∧
      ∀ L, (runs outcomes).head? = some L →
        ((runs (true :: outcomes)).map f).sum = ((runs outcomes).map f).sum + g L := by
  refine ⟨by rw [runs_cons_false, List.map_cons, List.sum_cons, h0, Nat.zero_add], ?_⟩
  intro L hL
  obtain ⟨L', Ls, hruns, hextended⟩ := runs_cons_true outcomes
  rw [hruns, List.head?_cons, Option.some.injEq] at hL
  subst hL
  rw [hextended, hruns]
  simp only [List.map_cons, List.sum_cons, hg]
  ring

/-- A run is worth the points and the bonuses of its answers. -/
lemma runWorth_succ : ∀ L, runWorth (L + 1) = runWorth L + (100 + streakBonus (L + 1))
  | 0 => rfl
  | 1 => rfl
  | 2 => rfl
  | k + 3 => by
    -- the bonuses grow by fifty, so that their sum is quadratic
    unfold runWorth streakBonus
    rw [if_pos (by omega), if_pos (by omega), if_pos (by omega)]
    show 100 * (k + 3 + 1) + 25 * (k + 2) * (k + 3) =
      100 * (k + 3) + 25 * (k + 1) * (k + 2) + (100 + 50 * (k + 2))
    ring

/-! ## Accounts -/

/-- The counters of a participant agree with the results of the answers, the last one first. -/
structure Accounts (participant : StudyParticipant) (results : List AnswerResult) : Prop where
  score : participant.score = (results.map AnswerResult.points).sum
  worth : (results.map AnswerResult.points).sum =
    ((runs (results.map AnswerResult.isCorrect)).map runWorth).sum
  correctAnswers : participant.correctAnswers = results.countP AnswerResult.isCorrect
  totalAnswers : participant.totalAnswers = results.length
  counts : participant.correctAnswers ≤ participant.totalAnswers
  /-- The streak is the length of the last run. -/
  streak : (runs (results.map AnswerResult.isCorrect)).head? = some participant.streak

/-- The result of an answer of a participant. -/
def resultOf (participant : StudyParticipant) (quiz : StudyQuiz) (isCorrect : Bool) :
    AnswerResult :=
  { isCorrect := isCorrect
    points :=
      if isCorrect then quiz.points + streakBonus (participant.answered quiz isCorrect).streak
      else 0
    explanation := quiz.explanation }

/-- A new participant has no results. -/
lemma accounts_newParticipant (participantId name : String) :
    Accounts (newParticipant participantId name) [] :=
  ⟨rfl, rfl, rfl, rfl, le_refl _, rfl⟩

/-- **One answer.** An answer to a quiz that is worth 100 points keeps the account.

**Proof sketch.** A wrong answer adds nothing and starts an empty run. A correct one extends the
last run, whose length was the streak, and adds what the run is worth more. -/
lemma Accounts.answered {participant : StudyParticipant} {results : List AnswerResult}
    {quiz : StudyQuiz} (h : Accounts participant results) (hquiz : quiz.points = 100)
    (isCorrect : Bool) :
    Accounts (participant.answered quiz isCorrect)
      (resultOf participant quiz isCorrect :: results) := by
  obtain ⟨hwrong, hright⟩ := sum_runs (f := runWorth) rfl runWorth_succ
    (results.map AnswerResult.isCorrect)
  have htotal := h.totalAnswers
  have hcorrect := h.correctAnswers
  have hcounts := h.counts
  cases isCorrect with
  | false =>
    refine ⟨?_, ?_, ?_, ?_, ?_, ?_⟩
    · simpa [StudyParticipant.answered, resultOf] using h.score
    · simpa [resultOf, hwrong] using h.worth
    · simpa [StudyParticipant.answered, resultOf] using hcorrect
    · simp [StudyParticipant.answered, htotal]
    · simpa [StudyParticipant.answered] using Nat.le_succ_of_le hcounts
    · simp [resultOf, runs_cons_false, StudyParticipant.answered]
  | true =>
    have hworth := hright _ h.streak
    have hlast : (participant.answered quiz true).streak = participant.streak + 1 := rfl
    refine ⟨?_, ?_, ?_, ?_, ?_, ?_⟩
    · simp only [List.map_cons, List.sum_cons, resultOf, hlast, if_true]
      rw [← h.score]
      show participant.score + quiz.points + streakBonus (participant.streak + 1) = _
      ring
    · simp only [List.map_cons, List.sum_cons, resultOf, hlast, if_true]
      rw [hworth, hquiz, h.worth]
      ring
    · simp [StudyParticipant.answered, resultOf, hcorrect]
    · simp [StudyParticipant.answered, htotal]
    · simpa [StudyParticipant.answered] using hcounts
    · obtain ⟨L, Ls, hruns, hextended⟩ := runs_cons_true (results.map AnswerResult.isCorrect)
      have hstreak := h.streak
      rw [hruns, List.head?_cons, Option.some.injEq] at hstreak
      simp [resultOf, hextended, hlast, hstreak]

/-! ## The history -/

/-- A result that has been returned for an answer of a participant in a session. -/
structure Returned where
  session : ℕ
  participantId : String
  result : AnswerResult

/-- What an event adds to the results. -/
def returned (s : StudyModeService) (e : Event) (g : List Returned) : List Returned :=
  match e with
  | .processAnswer roomId participantId answerIndex =>
    match s.scoring roomId participantId,
      (s.processAnswer roomId participantId answerIndex).2 with
    | some (i, _), some result => ⟨i, participantId, result⟩ :: g
    | _, _ => g
  | _ => g

/-- The service with the results that it has returned. -/
def paidStudy : EventSystem (StudyModeService × List Returned) Event :=
  studyMode.withHistory returned []

/-- The results of a participant in a session, the last one first. -/
def resultsOf (g : List Returned) (i : ℕ) (participantId : String) : List AnswerResult :=
  (g.filter fun y => y.session = i ∧ y.participantId = participantId).map Returned.result

/-- The results of the participant who has answered. -/
lemma resultsOf_cons_self (g : List Returned) (i : ℕ) (participantId : String)
    (result : AnswerResult) :
    resultsOf (⟨i, participantId, result⟩ :: g) i participantId =
      result :: resultsOf g i participantId := by
  unfold resultsOf
  rw [List.filter_cons_of_pos (by simp), List.map_cons]

/-- The results of the others. -/
lemma resultsOf_cons_of_ne {y : Returned} {i : ℕ} {participantId : String}
    (h : ¬ (y.session = i ∧ y.participantId = participantId)) (g : List Returned) :
    resultsOf (y :: g) i participantId = resultsOf g i participantId := by
  unfold resultsOf
  rw [List.filter_cons_of_neg (by simpa using h)]

/-- The account of every participant is kept, and the quizzes are worth 100 points. -/
structure Paid (x : StudyModeService × List Returned) : Prop where
  points : ∀ i context quiz, x.1.sessions.get i = some context →
    context.currentQuiz = some quiz → quiz.points = 100
  accounts : ∀ i context participantId participant, x.1.sessions.get i = some context →
    context.participants.get participantId = some participant →
      Accounts participant (resultsOf x.2 i participantId)
  /-- Results are for participants of the sessions. -/
  returned : ∀ y ∈ x.2, ∃ context, x.1.sessions.get y.session = some context ∧
    (context.participants.get y.participantId).isSome = true

section Steps

variable {s s' : StudyModeService} {e : Event} {g : List Returned}

/-- An idle event returns no result. -/
lemma returned_of_idle (h : e.Idle s) (g : List Returned) : returned s e g = g := by
  cases e with
  | processAnswer roomId participantId answerIndex =>
    simp only [Event.Idle] at h
    simp only [returned, h]
  | _ => rfl

/-- A question to the model returns no result. -/
lemma returned_of_asking {i : ℕ} {context : StudyContext} (h : s.asking e = some (i, context))
    (g : List Returned) : returned s e g = g := by
  cases e with
  | generateQuizFromConversation roomId recentTranscripts now => rfl
  | generateSurpriseQuiz roomId keyword => rfl
  | _ => cases h

/-- The result of an answer that is scored. -/
lemma returned_of_scoring {roomId : RoomId} {participantId : String} {i : ℕ}
    {context : StudyContext} {quiz : StudyQuiz} {participant : StudyParticipant}
    (h : s.scoring roomId participantId = some (i, context, quiz, participant)) (answerIndex : ℚ)
    (g : List Returned) :
    returned s (.processAnswer roomId participantId answerIndex) g =
      ⟨i, participantId, resultOf participant quiz (isAnswer quiz answerIndex)⟩ :: g := by
  simp only [returned, StudyModeService.processAnswer, h]
  rfl

/-- Accounts stay kept in sessions that go on, if quizzes and participants stay accounted for. -/
lemma Paid.of_grows (h : Paid (s, g))
    (hgrows : ∀ j x, s.sessions.get j = some x → ∃ x', s'.sessions.get j = some x' ∧ Grows x x')
    (hpoints : ∀ i context quiz, s'.sessions.get i = some context →
      context.currentQuiz = some quiz → quiz.points = 100)
    (haccounts : ∀ i context participantId participant, s'.sessions.get i = some context →
      context.participants.get participantId = some participant →
        Accounts participant (resultsOf g i participantId)) : Paid (s', g) := by
  refine ⟨hpoints, haccounts, fun y hy => ?_⟩
  obtain ⟨context, hcontext, hin⟩ := h.returned y hy
  obtain ⟨context', hcontext', hg⟩ := hgrows _ context hcontext
  exact ⟨context', hcontext', hg.participants _ hin⟩

/-- Sessions that are left alone keep the accounts. -/
lemma Paid.of_leaves (h : Paid (s, g)) (hleaves : Leaves s s') : Paid (s', g) := by
  refine h.of_grows (fun j x hx => ⟨x, (hleaves.get j).trans hx, Grows.refl x⟩) ?_ ?_
  · intro i context quiz hcontext
    exact h.points i context quiz ((hleaves.get i).symm.trans hcontext)
  · intro i context participantId participant hcontext
    exact h.accounts i context participantId participant ((hleaves.get i).symm.trans hcontext)

/-- A session that keeps its participants keeps the accounts, whatever quiz it gets. -/
lemma Paid.of_replaces {i : ℕ} {context context' : StudyContext} (h : Paid (s, g))
    (hold : s.sessions.get i = some context) (hreplaces : Replaces s s' i context')
    (hparticipants : context'.participants = context.participants)
    (hquizzes : context.quizCount ≤ context'.quizCount)
    (hpoints : ∀ quiz, context'.currentQuiz = some quiz → quiz.points = 100) : Paid (s', g) := by
  have hgrows : Grows context context' := ⟨hquizzes, fun p hp => by rwa [hparticipants]⟩
  refine h.of_grows (grows_of_replaces hreplaces hold hgrows) ?_ ?_
  · intro j x quiz hx
    rw [hreplaces.get j] at hx
    split at hx
    · exact Option.some.inj hx ▸ hpoints quiz
    · exact h.points j x quiz hx
  · intro j x participantId participant hx hparticipant
    rw [hreplaces.get j] at hx
    split at hx
    · rename_i hj
      obtain rfl := Option.some.inj hx
      subst hj
      exact h.accounts i context participantId participant hold (hparticipants ▸ hparticipant)
    · exact h.accounts j x participantId participant hx hparticipant

/-- A session that starts has no participants and no quiz. -/
lemma Paid.starts (h : Paid (s, g)) (roomId : RoomId) (topic : String)
    (durationSeconds now : ℕ) : Paid (s.startStudyMode roomId topic durationSeconds now, g) := by
  have hget : ∀ j, (s.startStudyMode roomId topic durationSeconds now).sessions.get j =
      if s.sessions.next = j then some (newContext topic durationSeconds now)
      else s.sessions.get j := fun j => s.sessions.get_enter j _
  refine h.of_grows ?_ ?_ ?_
  · intro j x hx
    have hj : s.sessions.next ≠ j := (Ledger.lt_next_of_get hx).ne'
    exact ⟨x, by rw [hget, if_neg hj, hx], Grows.refl x⟩
  · intro j x quiz hx hquiz
    rw [hget] at hx
    split at hx
    · obtain rfl := Option.some.inj hx
      cases hquiz
    · exact h.points j x quiz hx hquiz
  · intro j x participantId participant hx hparticipant
    rw [hget] at hx
    split at hx
    · obtain rfl := Option.some.inj hx
      simp [newContext] at hparticipant
    · exact h.accounts j x participantId participant hx hparticipant

/-- Who is not a participant has no results. -/
lemma Paid.resultsOf_eq_nil {i : ℕ} {context : StudyContext} {participantId : String}
    (h : Paid (s, g)) (hold : s.sessions.get i = some context)
    (hnone : context.participants.get participantId = none) :
    resultsOf g i participantId = [] := by
  refine List.map_eq_nil_iff.mpr (List.filter_eq_nil_iff.mpr fun y hy hmine => ?_)
  obtain ⟨rfl, rfl⟩ := of_decide_eq_true hmine
  obtain ⟨context', hcontext', hin⟩ := h.returned y hy
  obtain rfl := Option.some.inj (hold.symm.trans hcontext')
  rw [hnone] at hin
  cases hin

/-- Setting one participant of a session keeps the accounts of the others.

**Proof sketch.** For the participant that is set, the accounts are those of the hypothesis. The
others of the session and the other sessions have the participants and the results they had. -/
lemma Paid.sets {i : ℕ} {context : StudyContext} {participantId : String}
    {participant : StudyParticipant} {g' : List Returned} (h : Paid (s, g))
    (hold : s.sessions.get i = some context)
    (hreplaces : Replaces s s' i
      { context with participants := context.participants.set participantId participant })
    (hmine : Accounts participant (resultsOf g' i participantId))
    (hothers : ∀ j other, ¬ (i = j ∧ participantId = other) →
      resultsOf g' j other = resultsOf g j other)
    (hreturned : ∀ y ∈ g', y ∈ g ∨ y.session = i ∧ y.participantId = participantId) :
    Paid (s', g') := by
  have hgrows := grows_of_replaces hreplaces hold (grows_set context participantId participant)
  refine ⟨fun j x quiz hx hquiz => ?_, fun j x other p hx hp => ?_, fun y hy => ?_⟩
  · rw [hreplaces.get j] at hx
    split at hx
    · obtain rfl := Option.some.inj hx
      exact h.points i context quiz hold hquiz
    · exact h.points j x quiz hx hquiz
  · rw [hreplaces.get j] at hx
    split at hx
    · rename_i hj
      obtain rfl := Option.some.inj hx
      subst hj
      dsimp only at hp
      rw [JsMap.get_set] at hp
      split at hp
      · rename_i hother
        obtain rfl := Option.some.inj hp
        exact hother ▸ hmine
      · rename_i hother
        rw [hothers i other fun hboth => hother hboth.2]
        exact h.accounts i context other p hold hp
    · rename_i hj
      rw [hothers j other fun hboth => hj hboth.1]
      exact h.accounts j x other p hx hp
  · rcases hreturned y hy with hold' | ⟨hsession, hpid⟩
    · obtain ⟨x, hx, hin⟩ := h.returned y hold'
      obtain ⟨x', hx', hg⟩ := hgrows _ x hx
      exact ⟨x', hx', hg.participants _ hin⟩
    · refine ⟨_, (hreplaces.get _).trans (if_pos hsession.symm), ?_⟩
      rw [hpid, JsMap.get_set_self]
      rfl

/-- **The accounts are kept** by every step.

**Proof sketch.** One case for each kind of move. Only an answer that is scored adds a result, for
its own participant, with the points of the quiz that is open. A new participant has no results, and
the other moves leave the participants as they are. -/
lemma paid_step {x x' : StudyModeService × List Returned} (h : Paid x)
    (hstep : paidStudy.step x e = some x') : Paid x' := by
  obtain ⟨s, g⟩ := x
  obtain ⟨s', g'⟩ := x'
  obtain ⟨hs, hg⟩ := EventSystem.withHistory_step.mp hstep
  dsimp only at hs hg
  subst hg
  cases moves_of_step hs with
  | rests e s' hidle hleaves hcalls =>
    rw [returned_of_idle hidle]
    exact h.of_leaves hleaves
  | starts roomId topic durationSeconds now => exact h.starts roomId topic durationSeconds now
  | closes roomId i context s' hold hreplaces hcalls =>
    exact h.of_replaces hold hreplaces rfl (le_refl _) fun quiz => h.points i context quiz hold
  | adds roomId participantId name i context s' hadding hold hnew hreplaces hcalls =>
    refine h.sets hold hreplaces ?_ (fun _ _ _ => rfl) fun y hy => .inl hy
    show Accounts _ (resultsOf g i participantId)
    rw [h.resultsOf_eq_nil hold hnew]
    exact accounts_newParticipant participantId name
  | asks e generation context s' hmay hleaves hcalls =>
    rw [returned_of_asking hmay.asking]
    exact h.of_leaves hleaves
  | fails call generation now s' hcall hleaves hcalls => exact h.of_leaves hleaves
  | issues call generation quizData now s' hcall hsession hnone hcalls =>
    cases hold : s.sessions.get generation.context with
    | none => exact h.of_leaves (hnone hold)
    | some context =>
      refine h.of_replaces hold (hsession context hold) rfl (Nat.le_succ _) ?_
      rintro quiz hquiz
      obtain rfl := Option.some.inj hquiz
      rfl
  | scores roomId participantId answerIndex i context quiz participant s' hscoring hold hquiz
      hparticipant hreplaces hcalls =>
    rw [returned_of_scoring hscoring]
    refine h.sets hold hreplaces ?_ (fun j other hne => resultsOf_cons_of_ne hne g) ?_
    · rw [resultsOf_cons_self]
      exact (h.accounts i context participantId participant hold hparticipant).answered
        (h.points i context quiz hold hquiz) _
    · intro y hy
      rcases List.mem_cons.mp hy with rfl | hy
      · exact .inr ⟨rfl, rfl⟩
      · exact .inl hy

/-- No score is wrong at the start, as there are no sessions. -/
lemma paid_init : Paid paidStudy.init := by
  refine ⟨?_, ?_, ?_⟩
  · intro i context quiz hcontext
    cases hcontext
  · intro i context participantId participant hcontext
    cases hcontext
  · intro y hy
    cases hy

end Steps

/-! ## The score -/

/-- **Scores.** In every run, the score of a participant is the sum of the points that have been
returned, which is what the runs of correct answers are worth; there are no more correct answers
than answers, and the streak is the length of the last run. -/
theorem score_accounts {es : List Event} {x : StudyModeService × List Returned}
    (h : paidStudy.exec paidStudy.init es = some x) {i : ℕ} {context : StudyContext}
    {participantId : String} {participant : StudyParticipant}
    (hcontext : x.1.sessions.get i = some context)
    (hparticipant : context.participants.get participantId = some participant) :
    Accounts participant (resultsOf x.2 i participantId) :=
  (EventSystem.reachable_invariant paid_init (fun _ _ _ => paid_step) ⟨es, h⟩).accounts i context
    participantId participant hcontext hparticipant

/-- Four correct answers, a wrong one, and two more that are correct. -/
def sevenAnswers : List Event :=
  quizIssued ++ [2, 2, 2, 2, 1, 2, 2].map fun answerIndex : ℚ => .processAnswer "a" "p" answerIndex

/-- The seven answers are accounted for: 550 points for the first run, and 200 for the second. -/
theorem score_accounts_seven :
    ∃ x context participant, paidStudy.exec paidStudy.init sevenAnswers = some x ∧
      x.1.sessions.get 0 = some context ∧ context.participants.get "p" = some participant ∧
      participant.score = 750 ∧ participant.streak = 2 ∧
      runs ((resultsOf x.2 0 "p").map AnswerResult.isCorrect) = [2, 4] ∧
      Accounts participant (resultsOf x.2 0 "p") := by
  obtain ⟨x, hx, hfacts⟩ := (Option.any_eq_true _ _).mp (show
    (paidStudy.exec paidStudy.init sevenAnswers).any (fun x =>
      runs ((resultsOf x.2 0 "p").map AnswerResult.isCorrect) = [2, 4] ∧
        (x.1.sessions.get 0).any fun context =>
          context.participants.get "p" = some ⟨"p", "Min", 750, 6, 7, 2, true⟩) = true
      by decide +kernel)
  obtain ⟨hruns, hsession⟩ := of_decide_eq_true hfacts
  obtain ⟨context, hcontext, hone⟩ := (Option.any_eq_true _ _).mp hsession
  have hparticipant := of_decide_eq_true hone
  exact ⟨x, context, _, hx, hcontext, hparticipant, rfl, rfl, hruns,
    score_accounts hx hcontext hparticipant⟩

end Study
