import AuraLive.Study.Session
import Mathlib.Data.Finset.Card
import Mathlib.Order.Interval.Finset.Nat

set_option relaxedAutoImplicit false
set_option autoImplicit false

/-!
# Answers to a quiz

`processAnswer` scores every answer to the current quiz. Nothing in a session says who has answered
it, so what is scored is kept in a history beside the service.

## Main definitions

* `Study.Scored`, `Study.Added`, `Study.History` — the answers that have been scored and the
  participants that have been added.
* `Study.study` — the service with this history.
* `Study.ScoredOnce` — every participant is scored at most once for every quiz, and so for no more
  answers than there were quizzes.
* `Study.FirstAnswer` — a participant who is scored has not been scored for the current quiz before.

## Main results

* `Study.tallied_step` — the counters of the participants are those of the history.
* `Study.scored_once_iff` — answers are scored once in a run exactly when no participant answers the
  current quiz again.
* `Study.answered_three_times` — three answers to one quiz, with a bonus for the streak.

## Design

The quizzes of a session are numbered in the order in which they are issued, so that the number of
the current one is `quizCount`.
-/

namespace Study

open Foundations

/-! ## The history -/

/-- An answer that has been scored: the session, the number of the quiz and the participant. -/
structure Scored where
  session : ℕ
  quiz : ℕ
  participantId : String
  deriving DecidableEq

/-- A participant who has been added: how many quizzes had been issued then, and whether one was
current. -/
structure Added where
  session : ℕ
  participantId : String
  quizCount : ℕ
  current : Bool
  deriving DecidableEq

/-- What has been scored and added, the last one first. -/
structure History where
  scored : List Scored
  added : List Added

/-- What an event adds to the history. -/
def record (s : StudyModeService) (e : Event) (g : History) : History :=
  match e with
  | .addParticipant roomId participantId _ =>
    match s.adding roomId participantId with
    | none => g
    | some (i, context) =>
      { g with
        added := ⟨i, participantId, context.quizCount, context.currentQuiz.isSome⟩ :: g.added }
  | .processAnswer roomId participantId _ =>
    match s.scoring roomId participantId with
    | none => g
    | some (i, context, _, _) =>
      { g with scored := ⟨i, context.quizCount, participantId⟩ :: g.scored }
  | _ => g

/-- The service with its history. -/
def study : EventSystem (StudyModeService × History) Event := studyMode.withHistory record ⟨[], []⟩

/-- Every participant is scored at most once for every quiz. -/
structure ScoredOnce (x : StudyModeService × History) : Prop where
  once : x.2.scored.Nodup
  /-- A participant has no more answers than quizzes were issued since the participant was added,
  plus one for the quiz that was current then. -/
  within : ∀ a ∈ x.2.added, ∀ context participant, x.1.sessions.get a.session = some context →
    context.participants.get a.participantId = some participant →
      participant.totalAnswers ≤ (context.quizCount - a.quizCount) + (if a.current then 1 else 0)

/-- A participant whose answer is scored has not been scored for the current quiz before. -/
def FirstAnswer (x : StudyModeService × History) (e : Event) : Prop :=
  match e with
  | .processAnswer roomId participantId _ =>
    ∀ y ∈ x.1.scoring roomId participantId, ⟨y.1, y.2.1.quizCount, participantId⟩ ∉ x.2.scored
  | _ => True

/-! ## The invariant -/

/-- The history tells the counters of the participants. -/
structure Tallied (x : StudyModeService × History) : Prop where
  /-- There is a current quiz once one has been issued. -/
  quiz : ∀ i context, x.1.sessions.get i = some context →
    (context.currentQuiz.isSome = true ↔ 0 < context.quizCount)
  /-- A participant has as many answers as have been scored. -/
  total : ∀ i context participantId participant, x.1.sessions.get i = some context →
    context.participants.get participantId = some participant →
      participant.totalAnswers =
        x.2.scored.countP fun y => y.session = i ∧ y.participantId = participantId
  /-- What has been scored is for a participant of the session and one of its quizzes. -/
  scored : ∀ y ∈ x.2.scored, ∃ context, x.1.sessions.get y.session = some context ∧
    (context.participants.get y.participantId).isSome = true ∧ 0 < y.quiz ∧
      y.quiz ≤ context.quizCount
  /-- Who has been added is a participant of the session, and scored for later quizzes or the one
  that was current. -/
  added : ∀ a ∈ x.2.added, ∃ context, x.1.sessions.get a.session = some context ∧
    a.quizCount ≤ context.quizCount ∧ (a.current = true ↔ 0 < a.quizCount) ∧
      ∀ y ∈ x.2.scored, y.session = a.session → y.participantId = a.participantId →
        a.quizCount ≤ y.quiz

/-- Quizzes and participants become more. -/
structure Grows (context context' : StudyContext) : Prop where
  quizzes : context.quizCount ≤ context'.quizCount
  participants : ∀ participantId, (context.participants.get participantId).isSome = true →
    (context'.participants.get participantId).isSome = true

/-- A session keeps its quizzes and its participants. -/
lemma Grows.refl (context : StudyContext) : Grows context context := ⟨le_refl _, fun _ h => h⟩

/-- Setting a participant keeps the others. -/
lemma grows_set (context : StudyContext) (participantId : String)
    (participant : StudyParticipant) :
    Grows context
      { context with participants := context.participants.set participantId participant } := by
  refine ⟨le_refl _, fun other h => ?_⟩
  dsimp only
  rw [JsMap.get_set]
  split
  · rfl
  · exact h

/-- Every session goes on, and grows. -/
lemma grows_of_replaces {s s' : StudyModeService} {i : ℕ} {context context' : StudyContext}
    (h : Replaces s s' i context') (hold : s.sessions.get i = some context)
    (hgrows : Grows context context') (j : ℕ) (x : StudyContext)
    (hx : s.sessions.get j = some x) : ∃ x', s'.sessions.get j = some x' ∧ Grows x x' := by
  rw [h.get j]
  split
  · rename_i hj
    rw [← hj, hold] at hx
    exact ⟨context', rfl, Option.some.inj hx ▸ hgrows⟩
  · exact ⟨x, hx, Grows.refl x⟩

/-- What has been scored and added stays true of sessions that grow, if the same has been scored. -/
lemma Tallied.of_grows {s s' : StudyModeService} {g : History} (h : Tallied (s, g))
    (hgrows : ∀ j x, s.sessions.get j = some x → ∃ x', s'.sessions.get j = some x' ∧ Grows x x')
    (hquiz : ∀ i context, s'.sessions.get i = some context →
      (context.currentQuiz.isSome = true ↔ 0 < context.quizCount))
    (htotal : ∀ i context participantId participant, s'.sessions.get i = some context →
      context.participants.get participantId = some participant →
        participant.totalAnswers =
          g.scored.countP fun y => y.session = i ∧ y.participantId = participantId) :
    Tallied (s', g) := by
  refine ⟨hquiz, htotal, fun y hy => ?_, fun a ha => ?_⟩
  · obtain ⟨context, hcontext, hin, hpos, hle⟩ := h.scored y hy
    obtain ⟨context', hcontext', hg⟩ := hgrows _ context hcontext
    exact ⟨context', hcontext', hg.participants _ hin, hpos, hle.trans hg.quizzes⟩
  · obtain ⟨context, hcontext, hle, hcurrent, hlater⟩ := h.added a ha
    obtain ⟨context', hcontext', hg⟩ := hgrows _ context hcontext
    exact ⟨context', hcontext', hle.trans hg.quizzes, hcurrent, hlater⟩

section Steps

variable {s s' : StudyModeService} {e : Event} {g : History}

/-- An idle event is not recorded. -/
lemma record_of_idle (h : e.Idle s) (g : History) : record s e g = g := by
  cases e with
  | addParticipant roomId participantId name =>
    simp only [Event.Idle] at h
    simp only [record, h]
  | processAnswer roomId participantId answerIndex =>
    simp only [Event.Idle] at h
    simp only [record, h]
  | _ => rfl

/-- A question to the model is not recorded. -/
lemma record_of_asking {i : ℕ} {context : StudyContext} (h : s.asking e = some (i, context))
    (g : History) : record s e g = g := by
  cases e with
  | generateQuizFromConversation roomId recentTranscripts now => rfl
  | generateSurpriseQuiz roomId keyword => rfl
  | _ => cases h

/-- Sessions that are left alone keep the tally. -/
lemma Tallied.of_leaves (h : Tallied (s, g)) (hleaves : Leaves s s') : Tallied (s', g) := by
  refine h.of_grows (fun j x hx => ⟨x, (hleaves.get j).trans hx, Grows.refl x⟩) ?_ ?_
  · intro i context hcontext
    exact h.quiz i context ((hleaves.get i).symm.trans hcontext)
  · intro i context participantId participant hcontext hparticipant
    exact h.total i context participantId participant ((hleaves.get i).symm.trans hcontext)
      hparticipant

/-- A session that gets another field keeps the tally, if its participants stay the same. -/
lemma Tallied.of_replaces {i : ℕ} {context context' : StudyContext} (h : Tallied (s, g))
    (hold : s.sessions.get i = some context) (hreplaces : Replaces s s' i context')
    (hparticipants : context'.participants = context.participants)
    (hquizzes : context.quizCount ≤ context'.quizCount)
    (hquiz : context'.currentQuiz.isSome = true ↔ 0 < context'.quizCount) : Tallied (s', g) := by
  have hgrows : Grows context context' := ⟨hquizzes, fun p hp => by rwa [hparticipants]⟩
  refine h.of_grows (grows_of_replaces hreplaces hold hgrows) ?_ ?_
  · intro j x hx
    rw [hreplaces.get j] at hx
    split at hx
    · exact Option.some.inj hx ▸ hquiz
    · exact h.quiz j x hx
  · intro j x participantId participant hx hparticipant
    rw [hreplaces.get j] at hx
    split at hx
    · rename_i hj
      obtain rfl := Option.some.inj hx
      subst hj
      exact h.total i context participantId participant hold (hparticipants ▸ hparticipant)
    · exact h.total j x participantId participant hx hparticipant

/-- A session that starts has no participants. -/
lemma Tallied.starts (h : Tallied (s, g)) (roomId : RoomId) (topic : String)
    (durationSeconds now : ℕ) :
    Tallied (s.startStudyMode roomId topic durationSeconds now, g) := by
  have hget : ∀ j, (s.startStudyMode roomId topic durationSeconds now).sessions.get j =
      if s.sessions.next = j then some (newContext topic durationSeconds now)
      else s.sessions.get j := fun j => s.sessions.get_enter j _
  refine h.of_grows ?_ ?_ ?_
  · intro j x hx
    have hj : s.sessions.next ≠ j := (Ledger.lt_next_of_get hx).ne'
    exact ⟨x, by rw [hget, if_neg hj, hx], Grows.refl x⟩
  · intro j x hx
    rw [hget] at hx
    split at hx
    · obtain rfl := Option.some.inj hx
      simp [newContext]
    · exact h.quiz j x hx
  · intro j x participantId participant hx hparticipant
    rw [hget] at hx
    split at hx
    · obtain rfl := Option.some.inj hx
      simp [newContext] at hparticipant
    · exact h.total j x participantId participant hx hparticipant

/-- Who is not a participant has not been scored. -/
lemma Tallied.not_scored {i : ℕ} {context : StudyContext} {participantId : String}
    (h : Tallied (s, g)) (hold : s.sessions.get i = some context)
    (hnone : context.participants.get participantId = none) :
    ∀ y ∈ g.scored, y.session = i → y.participantId ≠ participantId := by
  rintro y hy rfl rfl
  obtain ⟨context', hcontext', hin, -⟩ := h.scored y hy
  obtain rfl := Option.some.inj (hold.symm.trans hcontext')
  rw [hnone] at hin
  cases hin

/-- A participant who is added starts with no answers.

**Proof sketch.** Nothing has been scored for somebody who is new, so the number of their answers is
zero. The others of the session and the other sessions are as before, and the session has only
grown. -/
lemma Tallied.adds {i : ℕ} {context : StudyContext} {participantId name : String}
    (h : Tallied (s, g)) (hold : s.sessions.get i = some context)
    (hnew : context.participants.get participantId = none)
    (hreplaces : Replaces s s' i
      { context with
        participants :=
          context.participants.set participantId (newParticipant participantId name) }) :
    Tallied (s', { g with
      added := ⟨i, participantId, context.quizCount, context.currentQuiz.isSome⟩ :: g.added }) := by
  have hnot := h.not_scored hold hnew
  have hg : Tallied (s', g) := by
    refine h.of_grows (grows_of_replaces hreplaces hold (grows_set context _ _)) ?_ ?_
    · intro j x hx
      rw [hreplaces.get j] at hx
      split at hx
      · obtain rfl := Option.some.inj hx
        exact h.quiz i context hold
      · exact h.quiz j x hx
    · intro j x other participant hx hparticipant
      rw [hreplaces.get j] at hx
      split at hx
      · rename_i hj
        obtain rfl := Option.some.inj hx
        subst hj
        dsimp only at hparticipant
        rw [JsMap.get_set] at hparticipant
        split at hparticipant
        · -- nothing has been scored for the new participant
          rename_i hother
          obtain rfl := Option.some.inj hparticipant
          symm
          refine List.countP_eq_zero.mpr fun y hy hp => ?_
          obtain ⟨hsession, hpid⟩ := of_decide_eq_true hp
          exact hnot y hy hsession (hpid.trans hother.symm)
        · exact h.total i context other participant hold hparticipant
      · exact h.total j x other participant hx hparticipant
  refine ⟨hg.quiz, hg.total, hg.scored, fun a ha => ?_⟩
  rcases List.mem_cons.mp ha with rfl | ha
  · refine ⟨_, (hreplaces.get i).trans (if_pos rfl), le_refl _, h.quiz i context hold, ?_⟩
    intro y hy hsession hpid
    exact absurd hpid (hnot y hy hsession)
  · exact hg.added a ha

/-- An answer is counted. -/
lemma answered_totalAnswers (participant : StudyParticipant) (quiz : StudyQuiz)
    (isCorrect : Bool) :
    (participant.answered quiz isCorrect).totalAnswers = participant.totalAnswers + 1 := by
  unfold StudyParticipant.answered
  split <;> rfl

/-- An answer that is scored is one more for its participant.

**Proof sketch.** The log and the number of answers of this participant both grow by one; for the
others both stay. The session has only grown, so what was said about earlier answers remains, and
the new one is for the quiz that is open. -/
lemma Tallied.scores {i : ℕ} {context : StudyContext} {quiz : StudyQuiz} {participantId : String}
    {participant : StudyParticipant} {isCorrect : Bool} (h : Tallied (s, g))
    (hold : s.sessions.get i = some context) (hquiz : context.currentQuiz = some quiz)
    (hparticipant : context.participants.get participantId = some participant)
    (hreplaces : Replaces s s' i
      { context with
        participants :=
          context.participants.set participantId (participant.answered quiz isCorrect) }) :
    Tallied (s', { g with scored := ⟨i, context.quizCount, participantId⟩ :: g.scored }) := by
  have hgrows := grows_of_replaces hreplaces hold (grows_set context _ _)
  refine ⟨fun j x hx => ?_, fun j x other p hx hp => ?_, fun y hy => ?_, fun a ha => ?_⟩
  · rw [hreplaces.get j] at hx
    split at hx
    · obtain rfl := Option.some.inj hx
      exact h.quiz i context hold
    · exact h.quiz j x hx
  · rw [List.countP_cons]
    rw [hreplaces.get j] at hx
    split at hx
    · rename_i hj
      obtain rfl := Option.some.inj hx
      subst hj
      dsimp only at hp
      rw [JsMap.get_set] at hp
      split at hp
      · rename_i hother
        obtain rfl := Option.some.inj hp
        subst hother
        rw [answered_totalAnswers, h.total i context participantId participant hold hparticipant]
        simp
      · rename_i hother
        rw [h.total i context other p hold hp]
        simp [hother]
    · rename_i hj
      rw [h.total j x other p hx hp]
      simp [hj]
  · rcases List.mem_cons.mp hy with rfl | hy
    · refine ⟨_, (hreplaces.get i).trans (if_pos rfl), ?_, ?_, le_refl _⟩
      · simp
      · exact (h.quiz i context hold).mp (by rw [hquiz]; rfl)
    · obtain ⟨x, hx, hin, hpos, hle⟩ := h.scored y hy
      obtain ⟨x', hx', hg⟩ := hgrows _ x hx
      exact ⟨x', hx', hg.participants _ hin, hpos, hle.trans hg.quizzes⟩
  · obtain ⟨x, hx, hle, hcurrent, hlater⟩ := h.added a ha
    obtain ⟨x', hx', hg⟩ := hgrows _ x hx
    refine ⟨x', hx', hle.trans hg.quizzes, hcurrent, fun y hy hsession hpid => ?_⟩
    rcases List.mem_cons.mp hy with rfl | hy
    · obtain rfl : i = a.session := hsession
      exact Option.some.inj (hold.symm.trans hx) ▸ hle
    · exact hlater y hy hsession hpid

/-- **The tally is kept** by every step. -/
lemma tallied_step {x x' : StudyModeService × History} (h : Tallied x)
    (hstep : study.step x e = some x') : Tallied x' := by
  obtain ⟨s, g⟩ := x
  obtain ⟨s', g'⟩ := x'
  obtain ⟨hs, hg⟩ := EventSystem.withHistory_step.mp hstep
  dsimp only at hs hg
  subst hg
  cases moves_of_step hs with
  | rests e s' hidle hleaves hcalls =>
    rw [record_of_idle hidle]
    exact h.of_leaves hleaves
  | starts roomId topic durationSeconds now => exact h.starts roomId topic durationSeconds now
  | closes roomId i context s' hold hreplaces hcalls =>
    exact h.of_replaces hold hreplaces rfl (le_refl _) (h.quiz i context hold)
  | adds roomId participantId name i context s' hadding hold hnew hreplaces hcalls =>
    simp only [record, hadding]
    exact h.adds hold hnew hreplaces
  | asks e generation context s' hmay hleaves hcalls =>
    rw [record_of_asking hmay.asking]
    exact h.of_leaves hleaves
  | fails call generation now s' hcall hleaves hcalls => exact h.of_leaves hleaves
  | issues call generation quizData now s' hcall hsession hnone hcalls =>
    cases hold : s.sessions.get generation.context with
    | none => exact h.of_leaves (hnone hold)
    | some context =>
      refine h.of_replaces hold (hsession context hold) rfl (Nat.le_succ _) ?_
      simp [StudyContext.issue]
  | scores roomId participantId answerIndex i context quiz participant s' hscoring hold hquiz
      hparticipant hreplaces hcalls =>
    simp only [record, hscoring]
    exact h.scores hold hquiz hparticipant hreplaces

/-- Nothing has been scored at the start. -/
lemma tallied_init : Tallied study.init := by
  refine ⟨?_, ?_, ?_, ?_⟩
  · intro i context hcontext
    cases hcontext
  · intro i context participantId participant hcontext
    cases hcontext
  · intro y hy
    cases hy
  · intro a ha
    cases ha

/-! ## Answers are scored once -/

/-- The answers of a participant who has been scored once for every quiz are no more than the
quizzes they are for.

**Proof sketch.** No two of the answers are for the same quiz, so their quizzes are as many
different numbers from `first` to `last`. -/
lemma countP_scored_le {l : List Scored} (h : l.Nodup) {i : ℕ} {participantId : String}
    {first last : ℕ} (hquiz : ∀ y ∈ l, y.session = i → y.participantId = participantId →
      first ≤ y.quiz ∧ y.quiz ≤ last) :
    (l.countP fun y => y.session = i ∧ y.participantId = participantId) ≤ last + 1 - first := by
  rw [List.countP_eq_length_filter]
  set mine := l.filter fun y => y.session = i ∧ y.participantId = participantId with hmine
  have hmem : ∀ y ∈ mine, y ∈ l ∧ y.session = i ∧ y.participantId = participantId := by
    intro y hy
    simpa [hmine] using hy
  have hinj : ∀ y ∈ mine, ∀ z ∈ mine, y.quiz = z.quiz → y = z := by
    rintro ⟨i₁, q₁, p₁⟩ hy ⟨i₂, q₂, p₂⟩ hz (rfl : q₁ = q₂)
    obtain ⟨-, rfl, rfl⟩ := hmem _ hy
    obtain ⟨-, rfl, rfl⟩ := hmem _ hz
    rfl
  have hnodup : (mine.map Scored.quiz).Nodup := List.Nodup.map_on hinj (h.filter _)
  have hsub : (mine.map Scored.quiz).toFinset ⊆ Finset.Icc first last := by
    intro q hq
    obtain ⟨y, hy, rfl⟩ := List.mem_map.mp (List.mem_toFinset.mp hq)
    obtain ⟨hyl, hsession, hpid⟩ := hmem y hy
    exact Finset.mem_Icc.mpr (hquiz y hyl hsession hpid)
  calc mine.length = (mine.map Scored.quiz).length := (List.length_map _).symm
    _ = (mine.map Scored.quiz).toFinset.card := (List.toFinset_card_of_nodup hnodup).symm
    _ ≤ (Finset.Icc first last).card := Finset.card_le_card hsub
    _ = last + 1 - first := Nat.card_Icc first last

/-- With the tally, the bound on the answers follows from scoring them once. -/
lemma Tallied.scoredOnce_iff {x : StudyModeService × History} (h : Tallied x) :
    ScoredOnce x ↔ x.2.scored.Nodup := by
  refine ⟨fun honce => honce.once, fun hnodup => ⟨hnodup, ?_⟩⟩
  intro a ha context participant hcontext hparticipant
  obtain ⟨context', hcontext', hle, hcurrent, hlater⟩ := h.added a ha
  obtain rfl := Option.some.inj (hcontext.symm.trans hcontext')
  have hrange : ∀ y ∈ x.2.scored, y.session = a.session → y.participantId = a.participantId →
      max 1 a.quizCount ≤ y.quiz ∧ y.quiz ≤ context.quizCount := by
    intro y hy hsession hpid
    obtain ⟨x', hx', -, hpos, hlast⟩ := h.scored y hy
    rw [hsession, hcontext] at hx'
    obtain rfl := Option.some.inj hx'
    exact ⟨Nat.max_le.mpr ⟨hpos, hlater y hy hsession hpid⟩, hlast⟩
  have hcount := countP_scored_le hnodup hrange
  rw [h.total _ context _ participant hcontext hparticipant]
  refine hcount.trans ?_
  by_cases hpos : 0 < a.quizCount
  · rw [if_pos (hcurrent.mpr hpos)]
    omega
  · rw [if_neg (fun hc => hpos (hcurrent.mp hc))]
    omega

/-- What a step needs for the answers to be scored once. -/
lemma scored_nodup_step_iff (hg : g.scored.Nodup) :
    (record s e g).scored.Nodup ↔ FirstAnswer (s, g) e := by
  cases e with
  | processAnswer roomId participantId answerIndex =>
    cases hscoring : s.scoring roomId participantId with
    | none => simp [record, FirstAnswer, hscoring, hg]
    | some y => simp [record, FirstAnswer, hscoring, hg]
  | addParticipant roomId participantId name =>
    refine iff_of_true ?_ trivial
    simp only [record]
    split
    · exact hg
    · exact hg
  | _ => exact iff_of_true hg trivial

end Steps

/-- **Scoring once.** In every run, every participant is scored at most once for every quiz, and has
no more answers than quizzes issued since, plus the one that was current then, in every state, if
and only if no participant is scored who has answered the current quiz already. -/
theorem scored_once_iff {es : List Event} {x : StudyModeService × History}
    (h : study.exec study.init es = some x) :
    study.AllStates ScoredOnce study.init es ↔ study.AllSteps FirstAnswer study.init es := by
  have hinit : ScoredOnce study.init := tallied_init.scoredOnce_iff.mpr List.nodup_nil
  refine EventSystem.allStates_iff_of_step_iff (B := Tallied) (fun _ _ _ => tallied_step) ?_
    tallied_init hinit h
  rintro ⟨s, g⟩ e ⟨s', g'⟩ htallied honce hstep
  obtain ⟨-, hg⟩ := EventSystem.withHistory_step.mp hstep
  dsimp only at hg
  subst hg
  rw [(tallied_step htallied hstep).scoredOnce_iff]
  exact scored_nodup_step_iff honce.once

instance decidableFirstAnswer (x : StudyModeService × History) (e : Event) :
    Decidable (FirstAnswer x e) :=
  match e with
  | .processAnswer roomId participantId _ =>
    inferInstanceAs (Decidable (∀ y ∈ x.1.scoring roomId participantId,
      (⟨y.1, y.2.1.quizCount, participantId⟩ : Scored) ∉ x.2.scored))
  | .startStudyMode _ _ _ _ => inferInstanceAs (Decidable True)
  | .endStudyMode _ => inferInstanceAs (Decidable True)
  | .addParticipant _ _ _ => inferInstanceAs (Decidable True)
  | .generateQuizFromConversation _ _ _ => inferInstanceAs (Decidable True)
  | .generateSurpriseQuiz _ _ => inferInstanceAs (Decidable True)
  | .quizReplied _ _ _ => inferInstanceAs (Decidable True)
  | .cleanup _ => inferInstanceAs (Decidable True)

/-- A session with a quiz, whose right answer is the third. -/
def quizIssued : List Event :=
  [.startStudyMode "a" "graphs" 600 0, .addParticipant "a" "p" "Min",
    .generateQuizFromConversation "a" ["a tree has no cycle"] 60000,
    .quizReplied 0 (some { correctIndex := some (.num 2) }) 61000]

/-- One answer to it, another participant, a surprise quiz, and an answer of both to that one. -/
def answeredOnce : List Event :=
  quizIssued ++ [.processAnswer "a" "p" 2, .addParticipant "a" "q" "Jun",
    .generateSurpriseQuiz "a" "forest",
    .quizReplied 1 (some { correctIndex := some (.num 0) }) 65000, .processAnswer "a" "q" 1,
    .processAnswer "a" "p" 0]

/-- The answers are scored once in that run. -/
theorem scored_once_iff_quizzes :
    ∃ x, study.exec study.init answeredOnce = some x ∧
      x.2.scored = [⟨0, 2, "p"⟩, ⟨0, 2, "q"⟩, ⟨0, 1, "p"⟩] ∧
      study.AllStates ScoredOnce study.init answeredOnce := by
  obtain ⟨x, hx, hscored⟩ := Option.map_eq_some_iff.mp (show
    (study.exec study.init answeredOnce).map (·.2.scored) =
      some [⟨0, 2, "p"⟩, ⟨0, 2, "q"⟩, ⟨0, 1, "p"⟩] by decide +kernel)
  exact ⟨x, hx, hscored, (scored_once_iff hx).mpr (by decide +kernel)⟩

/-- Three answers of one participant to the quiz. -/
def answeredThrice : List Event :=
  quizIssued ++ [.processAnswer "a" "p" 2, .processAnswer "a" "p" 2, .processAnswer "a" "p" 2]

/-- **Every answer is scored.** A participant has three answers, and the bonus for a streak of
three, when one quiz has been issued. -/
theorem answered_three_times :
    ∃ x context participant, study.exec study.init answeredThrice = some x ∧
      x.1.sessions.get 0 = some context ∧ context.quizCount = 1 ∧
      context.participants.get "p" = some participant ∧ participant.totalAnswers = 3 ∧
      participant.score = 350 ∧ ⟨0, "p", 0, false⟩ ∈ x.2.added ∧ ¬ ScoredOnce x := by
  obtain ⟨x, hx, hfacts⟩ := (Option.any_eq_true _ _).mp (show
    (study.exec study.init answeredThrice).any (fun x =>
      ⟨0, "p", 0, false⟩ ∈ x.2.added ∧ (x.1.sessions.get 0).any fun context =>
        context.quizCount = 1 ∧ context.participants.get "p" =
          some ⟨"p", "Min", 350, 3, 3, 3, true⟩) = true by decide +kernel)
  obtain ⟨hadded, hsession⟩ := of_decide_eq_true hfacts
  obtain ⟨context, hcontext, hcounts⟩ := (Option.any_eq_true _ _).mp hsession
  obtain ⟨hcount, hparticipant⟩ := of_decide_eq_true hcounts
  refine ⟨x, context, _, hx, hcontext, hcount, hparticipant, rfl, rfl, hadded, fun honce => ?_⟩
  -- three answers, and one quiz since the participant was added
  have hwithin := honce.within _ hadded context _ hcontext hparticipant
  rw [hcount] at hwithin
  exact absurd hwithin (by decide)

end Study
