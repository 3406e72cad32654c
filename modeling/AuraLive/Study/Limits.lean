import AuraLive.Study.Session

set_option relaxedAutoImplicit false
set_option autoImplicit false

/-!
# The limits on quizzes

A session has at most ten quizzes, and a minute lies between two quizzes from the conversation.
`generateQuizFromConversation` tests both limits before it asks the model and counts the quiz when
the reply is there; `generateSurpriseQuiz` counts its quizzes and tests nothing.

## Main definitions

* `Study.Issued`, `Study.Log` — the quizzes that have been issued, with their times.
* `Study.quizzes` — the service with this log and a clock that does not go back.
* `Study.WithinLimits` — both limits hold.
* `Study.StaysWithinLimits` — they hold in whatever order the model replies to the generators that
  wait.
* `Study.LeavesRoom` — a generator that asks the model leaves room for those that wait already.
* `Study.Budget` — the quizzes of a session and the generators that wait for it are within the
  limits together.

## Main results

* `Study.budget_step_iff` — what a step needs to keep the budget.
* `Study.staysWithinLimits_iff` — the budget is what every order of replies needs.
* `Study.limits_hold_iff` — the limits hold in a run, for all replies, exactly when every generator
  that asks leaves room.
* `Study.limits_exceeded` — overlapping calls, and a surprise quiz, that exceed the limits.
-/

namespace Study

open Foundations

/-! ## The log -/

/-- A quiz that has been issued: the session, whether it is from the conversation, and when. -/
structure Issued where
  session : ℕ
  conversation : Bool
  time : ℕ
  deriving DecidableEq

/-- The quizzes that have been issued, the last one first, and the last reading of the clock. -/
structure Log where
  issued : List Issued
  clock : ℕ

/-- The reading of the clock at an event. An event that does not read it happens at the last one. -/
def Event.time (clock : ℕ) : Event → ℕ
  | .startStudyMode _ _ _ now => now
  | .generateQuizFromConversation _ _ now => now
  | .quizReplied _ _ now => now
  | _ => clock

/-- The quiz that an event issues. -/
def StudyModeService.issuing (s : StudyModeService) : Event → Option Issued
  | .quizReplied call (some _) now =>
    (s.calls.get call).map fun generation =>
      ⟨generation.context, generation.generator = .conversation, now⟩
  | _ => none

/-- The log after an event. -/
def Log.after (log : Log) (s : StudyModeService) (e : Event) : Log :=
  ⟨(s.issuing e).toList ++ log.issued, e.time log.clock⟩

/-- The service with its log. -/
def quizzes : EventSystem (StudyModeService × Log) Event where
  init := (studyMode.init, ⟨[], 0⟩)
  step x e :=
    if x.2.clock ≤ e.time x.2.clock then
      (studyMode.step x.1 e).map fun s' => (s', x.2.after x.1 e)
    else none

/-! ## The limits -/

/-- No session has more than `MAX_QUIZZES_PER_SESSION` quizzes, and two quizzes from its
conversation are at least `MIN_QUIZ_INTERVAL_MS` apart. -/
structure WithinLimits (x : StudyModeService × Log) : Prop where
  count : ∀ i context, x.1.sessions.get i = some context →
    context.quizCount ≤ MAX_QUIZZES_PER_SESSION
  apart : x.2.issued.Pairwise fun later earlier => later.session = earlier.session →
    later.conversation = true → earlier.conversation = true →
      earlier.time + MIN_QUIZ_INTERVAL_MS ≤ later.time

/-- The model replies to a generator. -/
def Event.IsReply : Event → Prop
  | .quizReplied _ _ _ => True
  | _ => False

/-- Whatever the model replies to the generators that wait, in whatever order, the limits hold. -/
def StaysWithinLimits (x : StudyModeService × Log) : Prop :=
  ∀ replies x', (∀ e ∈ replies, e.IsReply) → quizzes.exec x replies = some x' → WithinLimits x'

namespace StudyModeService

variable (s : StudyModeService) (i : ℕ)

/-- How many generators wait for a session. -/
def waiting : ℕ := s.calls.count fun generation => generation.context = i

/-- How many of them are for a quiz from the conversation. -/
def conversationsWaiting : ℕ :=
  s.calls.count fun generation => generation.context = i ∧ generation.generator = .conversation

/-- The counters of a session that the limits are about. -/
def counters : Option (ℕ × ℕ) :=
  (s.sessions.get i).map fun context => (context.quizCount, context.lastQuizTime)

end StudyModeService

/-- A generator that asks the model leaves room: the session has fewer quizzes, with those that
wait, than are allowed, and no other quiz from the conversation waits. -/
def LeavesRoom (x : StudyModeService × Log) (e : Event) : Prop :=
  ∀ y ∈ x.1.asking e, y.2.quizCount + x.1.waiting y.1 < MAX_QUIZZES_PER_SESSION ∧
    (e.generator = some .conversation → x.1.conversationsWaiting y.1 = 0)

instance decidableLeavesRoom (x : StudyModeService × Log) (e : Event) :
    Decidable (LeavesRoom x e) :=
  inferInstanceAs (Decidable (∀ y ∈ x.1.asking e,
    y.2.quizCount + x.1.waiting y.1 < MAX_QUIZZES_PER_SESSION ∧
      (e.generator = some .conversation → x.1.conversationsWaiting y.1 = 0)))

/-! ## Steps -/

/-- What a step does to the counters and to the generators that wait. -/
inductive Counts (s : StudyModeService) : Event → StudyModeService → Prop where
  /-- Nothing. -/
  | rests (e : Event) (s' : StudyModeService) (hasking : s.asking e = none)
      (hissuing : s.issuing e = none) (hcounters : s'.counters = s.counters)
      (hcalls : s'.calls = s.calls) : Counts s e s'
  /-- A new session has no quizzes. -/
  | starts (e : Event) (i : ℕ) (s' : StudyModeService) (hasking : s.asking e = none)
      (hissuing : s.issuing e = none) (hnew : s.counters i = none)
      (hcounters : s'.counters = Function.update s.counters i (some (0, 0)))
      (hcalls : s'.calls = s.calls) : Counts s e s'
  /-- A generator asks the model. -/
  | asks (e : Event) (generation : Generation) (context : StudyContext) (s' : StudyModeService)
      (hmay : MayAsk s e generation context) (hissuing : s.issuing e = none)
      (hcounters : s'.counters = s.counters) (hcalls : s'.calls = s.calls.enter generation) :
      Counts s e s'
  /-- The model gives no quiz. -/
  | fails (call : ℕ) (generation : Generation) (now : ℕ) (s' : StudyModeService)
      (hcall : s.calls.get call = some generation) (hcounters : s'.counters = s.counters)
      (hcalls : s'.calls = s.calls.remove call) : Counts s (.quizReplied call none now) s'
  /-- A quiz is issued. -/
  | issues (call : ℕ) (generation : Generation) (quizData : QuizData) (now : ℕ)
      (s' : StudyModeService) (hcall : s.calls.get call = some generation)
      (hcounters : s'.counters = Function.update s.counters generation.context
        ((s.counters generation.context).map fun c => (c.1 + 1, now)))
      (hcalls : s'.calls = s.calls.remove call) :
      Counts s (.quizReplied call (some quizData) now) s'

section Steps

variable {s s' : StudyModeService} {e : Event} {log : Log}

/-- Sessions that are left alone keep their counters. -/
lemma counters_of_leaves (h : Leaves s s') : s'.counters = s.counters := by
  funext j
  simp only [StudyModeService.counters, h.get j]

/-- A session that is replaced has the counters of the new one. -/
lemma counters_of_replaces {i : ℕ} {context : StudyContext} (h : Replaces s s' i context) :
    s'.counters =
      Function.update s.counters i (some (context.quizCount, context.lastQuizTime)) := by
  funext j
  simp only [StudyModeService.counters, h.get j, Function.update_apply]
  by_cases hj : i = j
  · simp [hj]
  · simp [hj, Ne.symm hj]

/-- A session whose counters stay the same. -/
lemma counters_of_kept {i : ℕ} {context context' : StudyContext} (h : Replaces s s' i context')
    (hold : s.sessions.get i = some context) (hcount : context'.quizCount = context.quizCount)
    (htime : context'.lastQuizTime = context.lastQuizTime) : s'.counters = s.counters := by
  rw [counters_of_replaces h, hcount, htime]
  refine Function.update_eq_self_iff.mpr ?_
  simp [StudyModeService.counters, hold]

/-- An idle event issues nothing. -/
lemma issuing_of_idle (h : e.Idle s) : s.issuing e = none := by
  cases e with
  | quizReplied call quizData now => exact h.elim
  | _ => rfl

/-- An event that asks the model issues nothing. -/
lemma issuing_of_asking {y : ℕ × StudyContext} (h : s.asking e = some y) : s.issuing e = none := by
  cases e with
  | quizReplied call quizData now => cases h
  | _ => rfl

/-- What a step does to the counters. -/
lemma counts_of_step (h : studyMode.step s e = some s') : Counts s e s' := by
  cases moves_of_step h with
  | rests e s' hidle hleaves hcalls =>
    exact .rests e s' hidle.asking (issuing_of_idle hidle) (counters_of_leaves hleaves) hcalls
  | starts roomId topic durationSeconds now =>
    refine .starts _ s.sessions.next _ rfl rfl (by simp [StudyModeService.counters]) ?_ rfl
    funext j
    simp only [StudyModeService.counters, StudyModeService.startStudyMode, Ledger.get_enter,
      Function.update_apply]
    by_cases hj : s.sessions.next = j
    · simp [hj, newContext]
    · simp [hj, Ne.symm hj]
  | closes roomId i context s' hold hreplaces hcalls =>
    exact .rests _ s' rfl rfl (counters_of_kept hreplaces hold rfl rfl) hcalls
  | adds roomId participantId name i context s' hadding hold hnew hreplaces hcalls =>
    exact .rests _ s' rfl rfl (counters_of_kept hreplaces hold rfl rfl) hcalls
  | asks e generation context s' hmay hleaves hcalls =>
    exact .asks e generation context s' hmay (issuing_of_asking hmay.asking)
      (counters_of_leaves hleaves) hcalls
  | fails call generation now s' hcall hleaves hcalls =>
    exact .fails call generation now s' hcall (counters_of_leaves hleaves) hcalls
  | issues call generation quizData now s' hcall hsession hnone hcalls =>
    refine .issues call generation quizData now s' hcall ?_ hcalls
    cases hold : s.sessions.get generation.context with
    | none =>
      rw [counters_of_leaves (hnone hold)]
      refine (Function.update_eq_self_iff.mpr ?_).symm
      simp [StudyModeService.counters, hold]
    | some context =>
      rw [counters_of_replaces (hsession context hold)]
      simp [StudyModeService.counters, hold, StudyContext.issue]
  | scores roomId participantId answerIndex i context quiz participant s' hscoring hold hquiz
      hparticipant hreplaces hcalls =>
    exact .rests _ s' rfl rfl (counters_of_kept hreplaces hold rfl rfl) hcalls

/-- A step of the service with its log. -/
lemma quizzes_step {x' : StudyModeService × Log} :
    quizzes.step (s, log) e = some x' ↔
      log.clock ≤ e.time log.clock ∧ studyMode.step s e = some x'.1 ∧ x'.2 = log.after s e :=
  EventSystem.guarded_pair_eq_some

/-! ## The log agrees with the service -/

/-- The log agrees with the counters. -/
structure Logged (x : StudyModeService × Log) : Prop where
  /-- A generator waits for a session. -/
  called : ∀ call generation, x.1.calls.get call = some generation →
    (x.1.counters generation.context).isSome = true
  /-- A quiz is not later than the last one of its session. -/
  issued : ∀ y ∈ x.2.issued, ∃ n t, x.1.counters y.session = some (n, t) ∧ y.time ≤ t
  /-- The last quiz of a session is not in the future. -/
  clock : ∀ i n t, x.1.counters i = some (n, t) → t ≤ x.2.clock

/-- A new session, or another quiz, keeps the sessions there are. -/
lemma isSome_update {i j : ℕ} {c : Option (ℕ × ℕ)} (hc : (s.counters i).isSome → c.isSome)
    (h : (s.counters j).isSome = true) : (Function.update s.counters i c j).isSome = true := by
  rw [Function.update_apply]
  split
  · rename_i hj
    exact hc (hj ▸ h)
  · exact h

/-- Without a change of the counters the log still agrees, if generators wait for sessions. -/
lemma Logged.of_same {clock : ℕ} (h : Logged (s, log)) (hcounters : s'.counters = s.counters)
    (hcalled : ∀ call generation, s'.calls.get call = some generation →
      (s.counters generation.context).isSome = true)
    (hclock : log.clock ≤ clock) : Logged (s', ⟨log.issued, clock⟩) := by
  refine ⟨?_, ?_, ?_⟩
  · intro call generation hcall
    simp only [hcounters]
    exact hcalled call generation hcall
  · intro y hy
    simp only [hcounters]
    exact h.issued y hy
  · intro i n t hi
    exact (h.clock i n t (hcounters ▸ hi)).trans hclock

/-- If the counters of one session change, and not to a time in the future, no session has its last
quiz in the future. -/
lemma Logged.clock_update {clock i n₁ t₁ : ℕ} (h : Logged (s, log))
    (hcounters : s'.counters = Function.update s.counters i (some (n₁, t₁)))
    (hclock : log.clock ≤ clock) (ht₁ : t₁ ≤ clock) {j n t : ℕ}
    (hj : s'.counters j = some (n, t)) : t ≤ clock := by
  rw [hcounters, Function.update_apply] at hj
  split at hj
  · cases hj
    exact ht₁
  · exact (h.clock j n t hj).trans hclock

/-- A new session has no quizzes in the log. -/
lemma Logged.starts {clock i : ℕ} (h : Logged (s, log)) (hnew : s.counters i = none)
    (hcounters : s'.counters = Function.update s.counters i (some (0, 0)))
    (hcalls : s'.calls = s.calls) (hclock : log.clock ≤ clock) :
    Logged (s', ⟨log.issued, clock⟩) := by
  refine ⟨?_, ?_, fun j n t hj => h.clock_update hcounters hclock (Nat.zero_le _) hj⟩
  · intro call generation hcall
    simp only [hcounters]
    exact isSome_update (fun _ => rfl) (h.called call generation (hcalls ▸ hcall))
  · intro y hy
    obtain ⟨n, t, hy', hle⟩ := h.issued y hy
    have hne : y.session ≠ i := by
      rintro rfl
      cases hnew.symm.trans hy'
    refine ⟨n, t, ?_, hle⟩
    simp only [hcounters, Function.update_of_ne hne]
    exact hy'

/-- A quiz that is issued is the last one of its session. -/
lemma Logged.issues {call now : ℕ} {generation : Generation} (h : Logged (s, log))
    (hcall : s.calls.get call = some generation)
    (hcounters : s'.counters = Function.update s.counters generation.context
      ((s.counters generation.context).map fun c => (c.1 + 1, now)))
    (hcalls : s'.calls = s.calls.remove call) (hclock : log.clock ≤ now) :
    Logged (s', ⟨⟨generation.context, generation.generator = .conversation, now⟩ :: log.issued,
      now⟩) := by
  obtain ⟨⟨n₀, t₀⟩, hold⟩ := Option.isSome_iff_exists.mp (h.called call generation hcall)
  have ht₀ : t₀ ≤ now := (h.clock _ n₀ t₀ hold).trans hclock
  rw [hold] at hcounters
  refine ⟨?_, ?_, fun j n t hj => h.clock_update hcounters hclock (le_refl _) hj⟩
  · intro other generation' hother
    simp only [hcalls] at hother
    simp only [hcounters]
    exact isSome_update (fun _ => rfl)
      (h.called other generation' (Ledger.get_of_get_remove _ hother).2)
  · intro y hy
    simp only [hcounters, Function.update_apply]
    rcases List.mem_cons.mp hy with rfl | hy
    · exact ⟨n₀ + 1, now, if_pos rfl, le_refl _⟩
    · obtain ⟨n, t, hy', hle⟩ := h.issued y hy
      split
      · rename_i hsession
        rw [hsession, hold] at hy'
        cases hy'
        exact ⟨n₀ + 1, now, rfl, hle.trans ht₀⟩
      · exact ⟨n, t, hy', hle⟩

/-- An event that issues nothing is not logged. -/
lemma after_of_issuing_eq_none (log : Log) (h : s.issuing e = none) :
    log.after s e = ⟨log.issued, e.time log.clock⟩ := by
  simp only [Log.after, h, Option.toList_none, List.nil_append]

/-- A quiz is logged. -/
lemma after_quizReplied {call : ℕ} {generation : Generation} (log : Log)
    (hcall : s.calls.get call = some generation) (quizData : QuizData) (now : ℕ) :
    log.after s (.quizReplied call (some quizData) now) =
      ⟨⟨generation.context, generation.generator = .conversation, now⟩ :: log.issued, now⟩ := by
  simp [Log.after, StudyModeService.issuing, hcall, Event.time]

/-- The log agrees with the service after every step. -/
lemma logged_step {x x' : StudyModeService × Log} (h : Logged x)
    (hstep : quizzes.step x e = some x') : Logged x' := by
  obtain ⟨s, log⟩ := x
  obtain ⟨s', log'⟩ := x'
  obtain ⟨hclock, hs, hlog⟩ := quizzes_step.mp hstep
  dsimp only at hs hlog
  subst hlog
  cases counts_of_step hs with
  | rests e s' hasking hissuing hcounters hcalls =>
    rw [after_of_issuing_eq_none log hissuing]
    exact h.of_same hcounters (hcalls ▸ h.called) hclock
  | starts e i s' hasking hissuing hnew hcounters hcalls =>
    rw [after_of_issuing_eq_none log hissuing]
    exact h.starts hnew hcounters hcalls hclock
  | asks e generation context s' hmay hissuing hcounters hcalls =>
    rw [after_of_issuing_eq_none log hissuing]
    refine h.of_same hcounters (fun call other hcall => ?_) hclock
    rw [hcalls, Ledger.get_enter] at hcall
    split at hcall
    · cases hcall
      simp [StudyModeService.counters, hmay.session]
    · exact h.called call other hcall
  | fails call generation now s' hcall hcounters hcalls =>
    refine h.of_same hcounters (fun other generation' hother => ?_) hclock
    rw [hcalls] at hother
    exact h.called other generation' (Ledger.get_of_get_remove _ hother).2
  | issues call generation quizData now s' hcall hcounters hcalls =>
    rw [after_quizReplied log hcall]
    exact h.issues hcall hcounters hcalls hclock

/-- Nothing is logged at the start. -/
lemma logged_init : Logged quizzes.init := by
  refine ⟨?_, ?_, ?_⟩
  · intro call generation hcall
    cases hcall
  · intro y hy
    cases hy
  · intro i n t hi
    cases hi

/-! ## The budget -/

/-- The quizzes of a session and the generators that wait for it are within the limits together. -/
structure Budget (x : StudyModeService × Log) : Prop where
  /-- There is room for all quizzes that are being generated. -/
  count : ∀ i n t, x.1.counters i = some (n, t) → n + x.1.waiting i ≤ MAX_QUIZZES_PER_SESSION
  /-- At most one of them is from the conversation. -/
  single : ∀ i, x.1.conversationsWaiting i ≤ 1
  /-- It is due. -/
  due : ∀ call generation, x.1.calls.get call = some generation →
    generation.generator = .conversation → ∀ y ∈ x.2.issued, y.session = generation.context →
      y.conversation = true → y.time + MIN_QUIZ_INTERVAL_MS ≤ x.2.clock
  apart : x.2.issued.Pairwise fun later earlier => later.session = earlier.session →
    later.conversation = true → earlier.conversation = true →
      earlier.time + MIN_QUIZ_INTERVAL_MS ≤ later.time

/-- A budget that is kept keeps the limits. -/
lemma Budget.withinLimits {x : StudyModeService × Log} (h : Budget x) : WithinLimits x := by
  refine ⟨fun i context hcontext => ?_, h.apart⟩
  have hcount := h.count i context.quizCount context.lastQuizTime
    (by simp [StudyModeService.counters, hcontext])
  omega

/-- The budget is kept if the counters and the generators that wait stay the same. -/
lemma Budget.of_same {clock : ℕ} (h : Budget (s, log)) (hcounters : s'.counters = s.counters)
    (hcalls : s'.calls = s.calls) (hclock : log.clock ≤ clock) :
    Budget (s', ⟨log.issued, clock⟩) := by
  refine ⟨?_, ?_, ?_, h.apart⟩
  · intro i n t hi
    have hcount := h.count i n t (hcounters ▸ hi)
    simp only [StudyModeService.waiting, hcalls]
    exact hcount
  · intro i
    simp only [StudyModeService.conversationsWaiting, hcalls]
    exact h.single i
  · intro call generation hcall hgenerator y hy hsession hconversation
    exact (h.due call generation (hcalls ▸ hcall) hgenerator y hy hsession hconversation).trans
      hclock

/-- A new session has room. -/
lemma Budget.starts {clock i : ℕ} (h : Budget (s, log)) (hlogged : Logged (s, log))
    (hnew : s.counters i = none)
    (hcounters : s'.counters = Function.update s.counters i (some (0, 0)))
    (hcalls : s'.calls = s.calls) (hclock : log.clock ≤ clock) :
    Budget (s', ⟨log.issued, clock⟩) := by
  have hsame : Budget ({ s' with sessions := s.sessions }, ⟨log.issued, clock⟩) :=
    h.of_same rfl hcalls hclock
  refine ⟨?_, hsame.single, hsame.due, hsame.apart⟩
  intro j n t hj
  simp only [hcounters, Function.update_apply] at hj
  split at hj
  · rename_i hij
    cases hj
    -- no generator waits for a session that has not started
    have hnone : s'.waiting j = 0 := by
      by_contra hpos
      obtain ⟨call, generation, hcall, hgen⟩ :=
        Ledger.count_pos_iff.mp (Nat.pos_of_ne_zero hpos)
      have hsome := hlogged.called call generation (hcalls ▸ hcall)
      rw [of_decide_eq_true hgen, hij, hnew] at hsome
      cases hsome
    rw [hnone]
    exact Nat.zero_le _
  · exact hsame.count j n t hj

/-- A generator that ends without a quiz gives its room back. -/
lemma Budget.fails {clock call : ℕ} {generation : Generation} (h : Budget (s, log))
    (hcall : s.calls.get call = some generation) (hcounters : s'.counters = s.counters)
    (hcalls : s'.calls = s.calls.remove call) (hclock : log.clock ≤ clock) :
    Budget (s', ⟨log.issued, clock⟩) := by
  refine ⟨?_, ?_, ?_, h.apart⟩
  · intro i n t hi
    have hcount := h.count i n t (hcounters ▸ hi)
    have hremove := Ledger.count_remove hcall fun generation => generation.context = i
    simp only [StudyModeService.waiting, hcalls] at hcount ⊢
    omega
  · intro i
    have hsingle := h.single i
    have hremove := Ledger.count_remove hcall fun generation =>
      generation.context = i ∧ generation.generator = .conversation
    simp only [StudyModeService.conversationsWaiting, hcalls] at hsingle ⊢
    omega
  · intro other generation' hother hgenerator y hy hsession hconversation
    simp only [hcalls] at hother
    exact (h.due other generation' (Ledger.get_of_get_remove _ hother).2 hgenerator y hy hsession
      hconversation).trans hclock

/-- A quiz that is issued takes the room of its generator.

**Proof sketch.** The quiz counts where its generator did. If it is from the conversation, it was
due, and no other one waits for the session. -/
lemma Budget.issues {call now : ℕ} {generation : Generation} (h : Budget (s, log))
    (hcall : s.calls.get call = some generation)
    (hcounters : s'.counters = Function.update s.counters generation.context
      ((s.counters generation.context).map fun c => (c.1 + 1, now)))
    (hcalls : s'.calls = s.calls.remove call) (hclock : log.clock ≤ now) :
    Budget (s', ⟨⟨generation.context, generation.generator = .conversation, now⟩ :: log.issued,
      now⟩) := by
  have hfails : Budget ({ s' with sessions := s.sessions }, ⟨log.issued, now⟩) :=
    h.fails hcall rfl hcalls hclock
  refine ⟨?_, hfails.single, ?_, ?_⟩
  · intro i n t hi
    simp only [hcounters, Function.update_apply] at hi
    split at hi
    · rename_i hij
      obtain ⟨⟨n₀, t₀⟩, hold, heq⟩ := Option.map_eq_some_iff.mp hi
      cases heq
      have hcount := h.count _ n₀ t₀ hold
      have hremove := Ledger.count_remove hcall fun generation => generation.context = i
      rw [if_pos (decide_eq_true hij.symm)] at hremove
      simp only [StudyModeService.waiting, hcalls, hij] at hcount hremove ⊢
      omega
    · exact hfails.count i n t hi
  · intro other generation' hother hgenerator y hy hsession hconversation
    rcases List.mem_cons.mp hy with rfl | hy
    · -- the other generator would be a second one from the conversation
      have hconv : generation.generator = .conversation := of_decide_eq_true hconversation
      have hsingle := h.single generation.context
      have hremove := Ledger.count_remove hcall fun g =>
        g.context = generation.context ∧ g.generator = .conversation
      rw [if_pos (decide_eq_true ⟨rfl, hconv⟩)] at hremove
      have hpos : 0 < (s.calls.remove call).count fun g =>
          g.context = generation.context ∧ g.generator = .conversation :=
        Ledger.count_pos_iff.mpr
          ⟨other, generation', hcalls ▸ hother, decide_eq_true ⟨hsession.symm, hgenerator⟩⟩
      simp only [StudyModeService.conversationsWaiting] at hsingle
      omega
    · exact hfails.due other generation' hother hgenerator y hy hsession hconversation
  · refine List.pairwise_cons.mpr ⟨?_, h.apart⟩
    intro y hy hsession hconversation hconversation'
    exact (h.due call generation hcall (of_decide_eq_true hconversation) y hy hsession.symm
      hconversation').trans hclock

/-- A generator that asks counts as waiting. -/
lemma waiting_enter {generation : Generation} (hcalls : s'.calls = s.calls.enter generation)
    (i : ℕ) : s'.waiting i = s.waiting i + if generation.context = i then 1 else 0 := by
  simp only [StudyModeService.waiting, hcalls, Ledger.count_enter, decide_eq_true_eq]

/-- A generator that asks for a quiz from the conversation counts as waiting for one. -/
lemma conversationsWaiting_enter {generation : Generation}
    (hcalls : s'.calls = s.calls.enter generation) (i : ℕ) :
    s'.conversationsWaiting i = s.conversationsWaiting i +
      if generation.context = i ∧ generation.generator = .conversation then 1 else 0 := by
  simp only [StudyModeService.conversationsWaiting, hcalls, Ledger.count_enter, decide_eq_true_eq]

/-- A generator that asks for a quiz from the conversation has just tested the interval. -/
lemma due_of_mayAsk {generation : Generation} {context : StudyContext}
    (hmay : MayAsk s e generation context) (hconv : generation.generator = .conversation)
    (clock : ℕ) : context.lastQuizTime + MIN_QUIZ_INTERVAL_MS ≤ e.time clock := by
  have hasking := hmay.asking
  have hgenerator := hmay.generator
  rw [hconv] at hgenerator
  cases e with
  | generateQuizFromConversation roomId recentTranscripts now =>
    have hlimits := (Option.filter_eq_some_iff.mp hasking).2
    simp only [Bool.and_eq_true, StudyContext.limitsAllow, decide_eq_true_eq] at hlimits
    exact hlimits.2.1
  | generateSurpriseQuiz roomId keyword => cases hgenerator
  | _ => cases hasking

/-- A generator that asks keeps the budget exactly if it leaves room.

**Proof sketch.** The call that begins is one more that waits, so the bound on quizzes that are
given and waited for leaves room for it before, and a conversation has none that waits. Conversely,
with room for it the bounds hold again; quizzes that were given before are old enough, as the code
has looked at the time of the last one. -/
lemma Budget.asks_iff {generation : Generation} {context : StudyContext} (h : Budget (s, log))
    (hlogged : Logged (s, log)) (hmay : MayAsk s e generation context)
    (hcounters : s'.counters = s.counters) (hcalls : s'.calls = s.calls.enter generation)
    (hclock : log.clock ≤ e.time log.clock) :
    Budget (s', ⟨log.issued, e.time log.clock⟩) ↔ LeavesRoom (s, log) e := by
  have hold : s.counters generation.context = some (context.quizCount, context.lastQuizTime) := by
    simp [StudyModeService.counters, hmay.session]
  have hgenerator : e.generator = some .conversation ↔ generation.generator = .conversation := by
    rw [hmay.generator, Option.some.injEq]
  simp only [LeavesRoom, hmay.asking, Option.mem_def, Option.some.injEq, forall_eq']
  constructor
  · intro h'
    have hcount := h'.count generation.context context.quizCount context.lastQuizTime
      (hcounters ▸ hold)
    have hsingle := h'.single generation.context
    rw [waiting_enter hcalls, if_pos rfl] at hcount
    refine ⟨by omega, fun hconv => ?_⟩
    rw [conversationsWaiting_enter hcalls, if_pos ⟨rfl, hgenerator.mp hconv⟩] at hsingle
    omega
  · rintro ⟨hroom, hnone⟩
    refine ⟨?_, ?_, ?_, h.apart⟩
    · intro i n t hi
      dsimp only at hi ⊢
      rw [hcounters] at hi
      rw [waiting_enter hcalls]
      split
      · rename_i hij
        subst hij
        cases hold.symm.trans hi
        omega
      · exact h.count i n t hi
    · intro i
      dsimp only
      rw [conversationsWaiting_enter hcalls]
      split
      · rename_i hij
        obtain ⟨rfl, hconv⟩ := hij
        rw [hnone (hgenerator.mpr hconv)]
      · exact h.single i
    · intro call other hcall hconv y hy hsession hconversation
      dsimp only at hcall ⊢
      rw [hcalls, Ledger.get_enter] at hcall
      split at hcall
      · cases hcall
        obtain ⟨n, t, hy', hle⟩ := hlogged.issued y hy
        rw [hsession] at hy'
        cases hold.symm.trans hy'
        exact (Nat.add_le_add_right hle _).trans (due_of_mayAsk hmay hconv log.clock)
      · exact (h.due call other hcall hconv y hy hsession hconversation).trans hclock

/-- **Steps and the budget.** A step keeps the budget exactly if it leaves room. -/
lemma budget_step_iff {x x' : StudyModeService × Log} (hlogged : Logged x) (h : Budget x)
    (hstep : quizzes.step x e = some x') : Budget x' ↔ LeavesRoom x e := by
  obtain ⟨s, log⟩ := x
  obtain ⟨s', log'⟩ := x'
  obtain ⟨hclock, hs, hlog⟩ := quizzes_step.mp hstep
  dsimp only at hs hlog
  subst hlog
  have hidle : s.asking e = none → LeavesRoom (s, log) e := by
    intro hnone y hy
    rw [hnone] at hy
    cases hy
  cases counts_of_step hs with
  | rests e s' hasking hissuing hcounters hcalls =>
    rw [after_of_issuing_eq_none log hissuing]
    exact iff_of_true (h.of_same hcounters hcalls hclock) (hidle hasking)
  | starts e i s' hasking hissuing hnew hcounters hcalls =>
    rw [after_of_issuing_eq_none log hissuing]
    exact iff_of_true (h.starts hlogged hnew hcounters hcalls hclock) (hidle hasking)
  | asks e generation context s' hmay hissuing hcounters hcalls =>
    rw [after_of_issuing_eq_none log hissuing]
    exact h.asks_iff hlogged hmay hcounters hcalls hclock
  | fails call generation now s' hcall hcounters hcalls =>
    exact iff_of_true (h.fails hcall hcounters hcalls hclock) (hidle rfl)
  | issues call generation quizData now s' hcall hcounters hcalls =>
    rw [after_quizReplied log hcall]
    exact iff_of_true (h.issues hcall hcounters hcalls hclock) (hidle rfl)

/-- The budget is within the limits at the start. -/
lemma budget_init : Budget quizzes.init := by
  refine ⟨?_, ?_, ?_, List.Pairwise.nil⟩
  · intro i n t hi
    cases hi
  · intro i
    exact Nat.zero_le _
  · intro call generation hcall
    cases hcall

/-! ## Every order of replies -/

/-- What holds for all replies holds after one of them. -/
lemma StaysWithinLimits.step {x x' : StudyModeService × Log} (h : StaysWithinLimits x)
    (hstep : quizzes.step x e = some x') (he : e.IsReply) : StaysWithinLimits x' := by
  intro replies y hreplies hr
  refine h (e :: replies) y ?_ (EventSystem.exec_cons.mpr ⟨x', hstep, hr⟩)
  intro r hmem
  rcases List.mem_cons.mp hmem with rfl | hmem
  · exact he
  · exact hreplies r hmem

/-- The model may reply to a generator at once, with a quiz. -/
lemma exists_reply {call : ℕ} {generation : Generation} (log : Log)
    (hcall : s.calls.get call = some generation) :
    ∃ s', quizzes.step (s, log) (.quizReplied call (some {}) log.clock) =
        some (s', ⟨⟨generation.context, generation.generator = .conversation, log.clock⟩ ::
          log.issued, log.clock⟩) ∧
      s'.calls = s.calls.remove call ∧
      s'.counters = Function.update s.counters generation.context
        ((s.counters generation.context).map fun c => (c.1 + 1, log.clock)) := by
  have hs : studyMode.step s (.quizReplied call (some {}) log.clock) =
      some (s.quizReplied call generation (some {}) log.clock) := by
    simp [studyMode, hcall]
  refine ⟨_, quizzes_step.mpr ⟨le_refl _, hs, ?_⟩, ?_⟩
  · exact (after_quizReplied log hcall _ _).symm
  · cases counts_of_step hs with
    | rests e s' hasking hissuing hcounters hcalls =>
      simp [StudyModeService.issuing, hcall] at hissuing
    | starts e i s' hasking hissuing hnew hcounters hcalls =>
      simp [StudyModeService.issuing, hcall] at hissuing
    | asks e other context s' hmay hissuing hcounters hcalls =>
      simp [StudyModeService.issuing, hcall] at hissuing
    | issues call' other quizData now s' hcall' hcounters hcalls =>
      obtain rfl := Option.some.inj (hcall.symm.trans hcall')
      exact ⟨hcalls, hcounters⟩

/-- If the limits hold for all replies, there is room for all that wait.

**Proof sketch.** Induction on how many wait: each of them may get its quiz. -/
lemma StaysWithinLimits.count {i : ℕ} (k : ℕ) : ∀ {s : StudyModeService} {log : Log} {n t : ℕ},
    StaysWithinLimits (s, log) → s.counters i = some (n, t) → s.waiting i = k →
      n + k ≤ MAX_QUIZZES_PER_SESSION := by
  induction k with
  | zero =>
    intro s log n t h hi _
    obtain ⟨context, hcontext, heq⟩ := Option.map_eq_some_iff.mp hi
    cases heq
    exact (h [] _ (fun _ hmem => absurd hmem List.not_mem_nil) rfl).count i context hcontext
  | succ k ih =>
    intro s log n t h hi hk
    obtain ⟨call, generation, hcall, hgen⟩ :=
      Ledger.count_pos_iff.mp (show 0 < s.waiting i by omega)
    obtain rfl : generation.context = i := of_decide_eq_true hgen
    obtain ⟨s', hstep, hcalls, hcounters⟩ := exists_reply log hcall
    have hremove := Ledger.count_remove hcall fun g => g.context = generation.context
    rw [if_pos (decide_eq_true rfl)] at hremove
    have hk' : s'.waiting generation.context = k := by
      simp only [StudyModeService.waiting, hcalls] at hk ⊢
      omega
    have hi' : s'.counters generation.context = some (n + 1, log.clock) := by
      rw [hcounters, Function.update_self, hi]
      rfl
    have hle := ih (h.step hstep trivial) hi' hk'
    omega

/-- If the limits hold for all replies, a quiz from the conversation that waits is due. -/
lemma StaysWithinLimits.due {call : ℕ} {generation : Generation}
    (h : StaysWithinLimits (s, log)) (hcall : s.calls.get call = some generation)
    (hgenerator : generation.generator = .conversation) {y : Issued} (hy : y ∈ log.issued)
    (hsession : y.session = generation.context) (hconversation : y.conversation = true) :
    y.time + MIN_QUIZ_INTERVAL_MS ≤ log.clock := by
  obtain ⟨s', hstep, -⟩ := exists_reply log hcall
  have happart := (h.step hstep trivial [] _ (fun _ hmem => absurd hmem List.not_mem_nil) rfl).apart
  exact (List.pairwise_cons.mp happart).1 y hy hsession.symm (decide_eq_true hgenerator)
    hconversation

/-- If the limits hold for all replies, one quiz from the conversation waits at most.

**Proof sketch.** If two waited and one of them were issued now, the other one would not be due. -/
lemma StaysWithinLimits.single (h : StaysWithinLimits (s, log)) (i : ℕ) :
    s.conversationsWaiting i ≤ 1 := by
  by_contra htwo
  obtain ⟨call, generation, hcall, hgen⟩ :=
    Ledger.count_pos_iff.mp (show 0 < s.conversationsWaiting i by omega)
  obtain ⟨rfl, hgenerator⟩ := of_decide_eq_true hgen
  obtain ⟨s', hstep, hcalls, -⟩ := exists_reply log hcall
  have hremove := Ledger.count_remove hcall fun g =>
    g.context = generation.context ∧ g.generator = .conversation
  rw [if_pos hgen] at hremove
  have hpos : 0 < s'.conversationsWaiting generation.context := by
    simp only [StudyModeService.conversationsWaiting, hcalls] at htwo ⊢
    omega
  obtain ⟨call', generation', hcall', hgen'⟩ := Ledger.count_pos_iff.mp hpos
  obtain ⟨hsession, hgenerator'⟩ := of_decide_eq_true hgen'
  have hdue := (h.step hstep trivial).due hcall' hgenerator' List.mem_cons_self hsession.symm
    (decide_eq_true hgenerator)
  simp only [MIN_QUIZ_INTERVAL_MS] at hdue
  omega

/-- The limits hold for all replies to the generators that wait exactly if the budget does. -/
lemma staysWithinLimits_iff {x : StudyModeService × Log} (hlogged : Logged x) :
    StaysWithinLimits x ↔ Budget x := by
  constructor
  · intro h
    obtain ⟨s, log⟩ := x
    refine ⟨fun i n t hi => h.count _ hi rfl, h.single, ?_, ?_⟩
    · intro call generation hcall hgenerator y hy hsession hconversation
      exact h.due hcall hgenerator hy hsession hconversation
    · exact (h [] _ (fun _ hmem => absurd hmem List.not_mem_nil) rfl).apart
  · intro h replies x' hreplies hr
    have hkept : Logged x' ∧ Budget x' := by
      refine EventSystem.exec_invariant (I := fun x => Logged x ∧ Budget x)
        (C := fun _ e => e.IsReply) ?_ ⟨hlogged, h⟩ (EventSystem.allSteps_of_forall x hreplies) hr
      rintro y e y' ⟨hl, hb⟩ he hstep
      refine ⟨logged_step hl hstep, (budget_step_iff hl hb hstep).mpr ?_⟩
      cases e with
      | quizReplied call quizData now =>
        intro z hz
        cases hz
      | _ => exact he.elim
    exact hkept.2.withinLimits

end Steps

/-- **The limits under concurrency.** If every generator that asks the model leaves room, both
limits hold in every state of the run. And this is needed: the limits hold for every order of the
replies to the generators that wait exactly then. -/
theorem limits_hold_iff {es : List Event} {x : StudyModeService × Log}
    (h : quizzes.exec quizzes.init es = some x) :
    (quizzes.AllSteps LeavesRoom quizzes.init es →
      quizzes.AllStates WithinLimits quizzes.init es) ∧
    (quizzes.AllStates StaysWithinLimits quizzes.init es ↔
      quizzes.AllSteps LeavesRoom quizzes.init es) := by
  constructor
  · refine EventSystem.allStates_of_invariant (I := fun x => Logged x ∧ Budget x) ?_
      (fun x hx => hx.2.withinLimits) ⟨logged_init, budget_init⟩
    rintro y e y' ⟨hl, hb⟩ hroom hstep
    exact ⟨logged_step hl hstep, (budget_step_iff hl hb hstep).mpr hroom⟩
  · refine EventSystem.allStates_iff_of_step_iff (B := Logged) (fun _ _ _ => logged_step) ?_
      logged_init ((staysWithinLimits_iff logged_init).mpr budget_init) h
    intro y e y' hl hstays hstep
    rw [staysWithinLimits_iff (logged_step hl hstep)]
    exact budget_step_iff hl ((staysWithinLimits_iff hl).mp hstays) hstep

/-- A surprise quiz overtakes a quiz from the conversation, and a later one is lost. -/
def overtaken : List Event :=
  [.startStudyMode "a" "graphs" 600 0, .generateQuizFromConversation "a" ["trees"] 60000,
    .generateSurpriseQuiz "a" "forest", .quizReplied 1 (some {}) 62000,
    .quizReplied 0 (some {}) 63000, .generateQuizFromConversation "a" ["cycles"] 123000,
    .quizReplied 2 none 124000, .generateQuizFromConversation "a" ["cycles"] 125000,
    .quizReplied 3 (some {}) 127000]

/-- The limits hold throughout that run. -/
theorem limits_hold_iff_overtaken :
    ∃ x, quizzes.exec quizzes.init overtaken = some x ∧
      x.2.issued = [⟨0, true, 127000⟩, ⟨0, true, 63000⟩, ⟨0, false, 62000⟩] ∧
      quizzes.AllStates WithinLimits quizzes.init overtaken ∧
      quizzes.AllStates StaysWithinLimits quizzes.init overtaken := by
  obtain ⟨x, hx, hissued⟩ := Option.map_eq_some_iff.mp (show
    (quizzes.exec quizzes.init overtaken).map (·.2.issued) =
      some [⟨0, true, 127000⟩, ⟨0, true, 63000⟩, ⟨0, false, 62000⟩] by decide +kernel)
  have hroom : quizzes.AllSteps LeavesRoom quizzes.init overtaken := by decide +kernel
  exact ⟨x, hx, hissued, (limits_hold_iff hx).1 hroom, (limits_hold_iff hx).2.mpr hroom⟩

/-- Two quizzes from the conversation are asked for before the first one is there. -/
def overlapping : List Event :=
  [.startStudyMode "a" "graphs" 600 0, .generateQuizFromConversation "a" ["trees"] 60000,
    .generateQuizFromConversation "a" ["cycles"] 60500, .quizReplied 1 (some {}) 62000,
    .quizReplied 0 (some {}) 63000]

/-- Eleven surprise quizzes, one after the other. -/
def surprised : List Event :=
  .startStudyMode "a" "graphs" 600 0 :: (List.range 11).flatMap fun call =>
    [.generateSurpriseQuiz "a" "forest", .quizReplied call (some {}) (1000 * call)]

/-- **Both limits are exceeded**, the one by calls that overlap and the other by the generator that
does not test it. -/
theorem limits_exceeded :
    (∃ x, quizzes.exec quizzes.init overlapping = some x ∧
      x.2.issued = [⟨0, true, 63000⟩, ⟨0, true, 62000⟩] ∧ ¬ WithinLimits x) ∧
    (∃ x context, quizzes.exec quizzes.init surprised = some x ∧
      x.1.sessions.get 0 = some context ∧ context.quizCount = 11 ∧ ¬ WithinLimits x) := by
  constructor
  · obtain ⟨x, hx, hissued⟩ := Option.map_eq_some_iff.mp (show
      (quizzes.exec quizzes.init overlapping).map (·.2.issued) =
        some [⟨0, true, 63000⟩, ⟨0, true, 62000⟩] by decide +kernel)
    refine ⟨x, hx, hissued, fun hlimits => ?_⟩
    have happart := hlimits.apart
    rw [hissued] at happart
    have hle := (List.pairwise_cons.mp happart).1 _ List.mem_cons_self rfl rfl rfl
    exact absurd hle (by decide)
  · obtain ⟨x, hx, hsession⟩ := (Option.any_eq_true _ _).mp (show
      (quizzes.exec quizzes.init surprised).any (fun x =>
        (x.1.sessions.get 0).any fun context => context.quizCount = 11) = true by decide +kernel)
    obtain ⟨context, hcontext, hcount⟩ := (Option.any_eq_true _ _).mp hsession
    have hcount := of_decide_eq_true hcount
    refine ⟨x, context, hx, hcontext, hcount, fun hlimits => ?_⟩
    have hle := hlimits.count 0 context hcontext
    rw [hcount] at hle
    exact absurd hle (by decide)

end Study
