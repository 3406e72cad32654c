import AuraLive.Rag.Isolation
import AuraLive.Rag.Promises

set_option relaxedAutoImplicit false
set_option autoImplicit false

/-!
# Questions and their answers

A question and its answer are matched by the text of the question alone: an answer goes to the
request that is registered under its text, one with sources before a plain one. If a second question
with the text of a pending one is asked, the answers can go to the wrong requests.

## Main definitions

* `Rag.Dialogue`, `Rag.dialogue` — the question frames a server has received on a connection and not
  answered, and the answers it has given, as a history variable of the client.
* `Rag.Served` — the connection stays open, and the server answers the frames, each before the timer
  of its request fires.
* `Rag.AsksAnew` — no question is asked whose answer could go to another request.
* `Rag.Talking` — the invariant of the runs that meet these conditions.

## Main results

* `Rag.questions_answered` — in these runs every question is resolved with an answer for its text.
* `Rag.same_question_times_out` — a question asked twice.

## Design

Answers for equal texts are counted for the frames in the order in which these were sent. As all
requests have the same time limit, this is the reading under which the server meets it most often.
-/

namespace Rag

open Foundations

/-! ## Question frames and answers -/

/-- A call of `sendQuestion` or `sendQuestionWithSources`. -/
structure QuestionCall where
  room : RoomId
  kind : QuestionKind
  text : String
  send : CallResult

/-- The question call an action is. -/
def Act.question : Act → Option QuestionCall
  | sendQuestion r text send => some ⟨r, .plain, text, send⟩
  | sendQuestionWithSources r text send => some ⟨r, .withSources, text, send⟩
  | _ => none

/-- The `answer` message an action delivers to the room. -/
def Act.answerTo (a : Act) (r : RoomId) : Option JsVal :=
  match a with
  | wsMessage w (some message) =>
    if w.room = r ∧ JsVal.isStr (message.field "type") "answer" = true then some message else none
  | _ => none

/-- The question a frame sent on `w` carries: the promise of the call and the text. -/
def SentFrame.questionOn (w : Oid) (f : SentFrame) : Option (Oid × String) :=
  match f.origin with
  | .statement _ => none
  | .question q =>
    if f.sock = w then (RagState.questionText f.payload).map fun text => (q, text) else none

/-- The question frames an event sends on `w`. -/
def sentQuestions (w : Oid) (s : RagState) (e : Event) : List (Oid × String) :=
  match step s e with
  | none => []
  | some s' => (s'.frames.drop s.frames.length).filterMap (SentFrame.questionOn w)

/-- What a server knows of a connection: the question frames it has not answered, oldest first, and
the texts and answers it has sent. -/
structure Dialogue where
  unanswered : List (Oid × String)
  answers : List (String × String)

namespace Dialogue

/-- Nothing has been asked. -/
def new : Dialogue := ⟨[], []⟩

/-- The oldest unanswered frame with a text is answered. -/
def answer (d : Dialogue) (text answer : String) : Dialogue :=
  { unanswered := match d.unanswered.find? fun f => f.2 = text with
      | none => d.unanswered
      | some f => d.unanswered.erase f
    answers := d.answers ++ [(text, answer)] }

/-- The dialogue after an event. -/
def next (w : Oid) (s : RagState) (e : Event) (d : Dialogue) : Dialogue :=
  match e.act.answerTo w.room with
  | none => { d with unanswered := d.unanswered ++ sentQuestions w s e }
  | some message =>
    match RagState.questionText message, RagState.answerText message with
    | some text, some a => d.answer text a
    | _, _ => d

end Dialogue

/-- The client with the dialogue on the connection `w`. -/
def dialogue (w : Oid) : EventSystem (RagState × Dialogue) Event :=
  client.withHistory (Dialogue.next w) Dialogue.new

/-! ## The conditions -/

/-- A message answers a frame: it carries the text of one that has not been answered, and its answer
and sources are of the types `handleMessage` expects. -/
def AnswersFrame (message : JsVal) (d : Dialogue) : Prop :=
  (∃ f ∈ d.unanswered, RagState.questionText message = some f.2) ∧
    (RagState.answerText message).isSome = true ∧ (RagState.answerSources message).isSome = true

instance (message : JsVal) (d : Dialogue) : Decidable (AnswersFrame message d) :=
  inferInstanceAs (Decidable ((∃ f ∈ d.unanswered, _) ∧ _ = true ∧ _ = true))

/-- The promise a request timer rejects. -/
def TimerKind.rejects : TimerKind → Option Oid
  | .request _ _ _ q => some q
  | _ => none

/-- An event on the open connection `w` with a server that answers: the connection stays registered
and open, questions are not empty and are sent, every `answer` message answers a frame, and the
timer of a request fires only after its frame was answered. -/
structure Served (w : Oid) (p : RagState × Dialogue) (e : Event) : Prop where
  before : p.1.openSocket w.room = some w
  after : ∀ s' ∈ step p.1 e, s'.openSocket w.room = some w
  asked : ∀ c ∈ e.act.question, c.room = w.room → c.text ≠ "" ∧ c.send = .ok
  answered : ∀ message ∈ e.act.answerTo w.room, AnswersFrame message p.2
  inTime : ∀ tm ∈ firedTimer p.1 e, ∀ f ∈ p.2.unanswered, tm.kind.rejects ≠ some f.1

instance (w : Oid) (p : RagState × Dialogue) (e : Event) : Decidable (Served w p e) :=
  decidable_of_iff (p.1.openSocket w.room = some w ∧
      (∀ s' ∈ step p.1 e, s'.openSocket w.room = some w) ∧
      (∀ c ∈ e.act.question, c.room = w.room → c.text ≠ "" ∧ c.send = .ok) ∧
      (∀ message ∈ e.act.answerTo w.room, AnswersFrame message p.2) ∧
      ∀ tm ∈ firedTimer p.1 e, ∀ f ∈ p.2.unanswered, tm.kind.rejects ≠ some f.1)
    ⟨fun ⟨h₁, h₂, h₃, h₄, h₅⟩ => ⟨h₁, h₂, h₃, h₄, h₅⟩,
      fun ⟨h₁, h₂, h₃, h₄, h₅⟩ => ⟨h₁, h₂, h₃, h₄, h₅⟩⟩

/-- A question is asked only when no request of the same kind is pending under its text, and one
with sources only when no plain one is either. -/
def AsksAnew (w : Oid) (p : RagState × Dialogue) (e : Event) : Prop :=
  ∀ c ∈ e.act.question, c.room = w.room →
    ((p.1.contextOf w).table c.kind).has c.text = false ∧
      (c.kind = .withSources → (p.1.contextOf w).pendingRequests.has c.text = false)

instance (w : Oid) (p : RagState × Dialogue) (e : Event) : Decidable (AsksAnew w p e) :=
  inferInstanceAs (Decidable (∀ c ∈ e.act.question, c.room = w.room →
    ((p.1.contextOf w).table c.kind).has c.text = false ∧
      (c.kind = .withSources → (p.1.contextOf w).pendingRequests.has c.text = false)))

/-- The answer a promise was resolved with. -/
def Settlement.answerText : Settlement → Option String
  | .answer a => some a
  | .answerWithSources a _ => some a
  | _ => none

/-- A promise of the room of `w` that did not exist in the state `base`. -/
def AskedSince (w : Oid) (base : RagState) (q : Oid) : Prop :=
  q.room = w.room ∧ base.promises.get q = none

/-- Every question asked since the state `base` was resolved with an answer for its own text. -/
def AllAnswered (w : Oid) (base s : RagState) (d : Dialogue) : Prop :=
  ∀ q kind text v, AskedSince w base q → s.promises.get q = some ⟨.question kind text, v⟩ →
    ∃ a, v.bind Settlement.answerText = some a ∧ (text, a) ∈ d.answers

/-! ## Registered requests -/

/-- The request of a kind registered on the context of `w` under a text. -/
def RagState.pendingAt (s : RagState) (w : Oid) (kind : QuestionKind) (text : String) :
    Option PendingRequest :=
  ((s.contextOf w).table kind).get text

section PendingAt

variable {s : RagState} {w : Oid}

/-- Writing one table of the context of `w`. -/
lemma setTable_pendingAt (s : RagState) (w : Oid) (kind kind' : QuestionKind)
    (m : JsMap String PendingRequest) (text : String) :
    (s.setContext w ((s.contextOf w).setTable kind m)).pendingAt w kind' text =
      if kind' = kind then m.get text else s.pendingAt w kind' text := by
  have hctx : (s.setContext w ((s.contextOf w).setTable kind m)).contextOf w =
      (s.contextOf w).setTable kind m := by
    simp [RagState.contextOf]
  rw [RagState.pendingAt, RagState.pendingAt, hctx]
  cases kind <;> cases kind' <;> rfl

/-- Registering a request. -/
lemma registerRequest_pendingAt (s : RagState) (w : Oid) (kind kind' : QuestionKind)
    (text text' : String) (p : PendingRequest) :
    (s.registerRequest kind w text p).pendingAt w kind' text' =
      if kind' = kind ∧ text' = text then some p else s.pendingAt w kind' text' := by
  rw [RagState.registerRequest, setTable_pendingAt, JsMap.get_set]
  by_cases hk : kind' = kind
  · subst hk
    by_cases ht : text' = text
    · simp [ht]
    · simp [ht, Ne.symm ht, RagState.pendingAt]
  · simp [hk]

/-- Removing a request. -/
lemma dropRequest_pendingAt (s : RagState) (w : Oid) (kind kind' : QuestionKind)
    (text text' : String) :
    (s.dropRequest kind w text).pendingAt w kind' text' =
      if kind' = kind ∧ text' = text then none else s.pendingAt w kind' text' := by
  rw [RagState.dropRequest, setTable_pendingAt, JsMap.get_delete]
  by_cases hk : kind' = kind
  · subst hk
    by_cases ht : text' = text
    · simp [ht]
    · simp [ht, Ne.symm ht, RagState.pendingAt]
  · simp [hk]

end PendingAt

/-! ## The invariant -/

/-- The requests registered on the connection `w` are those whose frames have not been answered; of
two with the same text, the one with sources was asked first. The timers of the connection belong to
registered requests, those of other connections to older promises. A question asked since `base` has
an unanswered frame or has been resolved. -/
structure Talking (w : Oid) (base s : RagState) (d : Dialogue) : Prop where
  fresh : base.fresh w.room ≤ s.fresh w.room
  nodup : (d.unanswered.map Prod.fst).Nodup
  nonempty : ∀ f ∈ d.unanswered, f.2 ≠ ""
  entry : ∀ f ∈ d.unanswered, ∃ kind p, s.pendingAt w kind f.2 = some p ∧ p.promise = f.1
  pending : ∀ kind text p, s.pendingAt w kind text = some p →
    AskedSince w base p.promise ∧ (p.promise, text) ∈ d.unanswered ∧
      s.questionAt p.promise = some ⟨.question kind text, none⟩
  first : ∀ text p, s.pendingAt w .withSources text = some p →
    d.unanswered.find? (fun f => f.2 = text) = some (p.promise, text)
  timers : ∀ tm ∈ s.timers, tm.id.room = w.room → ∀ kind w' text q,
    tm.kind = .request kind w' text q →
      (w' = w ∧ ∃ p, s.pendingAt w kind text = some p ∧ p.promise = q ∧ p.timer = tm.id) ∨
        (w' ≠ w ∧ base.promises.get q ≠ none)
  settled : ∀ q kind text v, AskedSince w base q → s.questionAt q = some ⟨.question kind text, v⟩ →
    (q, text) ∈ d.unanswered ∨ ∃ a, v.bind Settlement.answerText = some a ∧ (text, a) ∈ d.answers

section Talking

variable {w : Oid} {base s s' : RagState} {d : Dialogue}

/-- The invariant is about the requests of the connection, the request timers of the room and the
questions asked since `base`. -/
lemma Talking.of_parts (h : Talking w base s d) (hfresh : s.fresh w.room ≤ s'.fresh w.room)
    (hctx : s'.contextOf w = s.contextOf w)
    (htm : ∀ tm ∈ s'.timers, tm.id.room = w.room → tm.kind.tag = .armRequest → tm ∈ s.timers)
    (hq : ∀ q, AskedSince w base q → s'.questionAt q = s.questionAt q) : Talking w base s' d := by
  have hpend : ∀ kind text, s'.pendingAt w kind text = s.pendingAt w kind text :=
    fun kind text => by rw [RagState.pendingAt, hctx, RagState.pendingAt]
  refine ⟨h.fresh.trans hfresh, h.nodup, h.nonempty, ?_, ?_, ?_, ?_, ?_⟩
  · simpa only [hpend] using h.entry
  · intro kind text p hp
    obtain ⟨hasked, hmem, hquestion⟩ := h.pending kind text p (hpend kind text ▸ hp)
    exact ⟨hasked, hmem, (hq _ hasked).trans hquestion⟩
  · simpa only [hpend] using h.first
  · intro tm htm' hr kind w' text q hk
    rw [hpend]
    exact h.timers tm (htm tm htm' hr (by rw [hk]; rfl)) hr kind w' text q hk
  · intro q kind text v hasked hget
    exact h.settled q kind text v hasked ((hq q hasked).symm.trans hget)

/-- A promise is registered once: under its own text, in the table of its own kind. -/
lemma Talking.promise_inj (h : Talking w base s d) {kind kind' : QuestionKind} {text text' : String}
    {p p' : PendingRequest} (hp : s.pendingAt w kind text = some p)
    (hp' : s.pendingAt w kind' text' = some p') (heq : p'.promise = p.promise) :
    kind' = kind ∧ text' = text := by
  obtain ⟨-, -, hq⟩ := h.pending kind text p hp
  obtain ⟨-, -, hq'⟩ := h.pending kind' text' p' hp'
  rw [heq, hq] at hq'
  cases hq'
  exact ⟨rfl, rfl⟩

/-- A text under which nothing is pending is not that of an unanswered frame. -/
lemma Talking.find?_eq_none (h : Talking w base s d) {text : String}
    (hn : ∀ kind, s.pendingAt w kind text = none) :
    d.unanswered.find? (fun f => f.2 = text) = none := by
  rw [List.find?_eq_none]
  intro f hf hft
  obtain ⟨kind, p, hp, -⟩ := h.entry f hf
  obtain rfl : f.2 = text := by simpa using hft
  rw [hn kind] at hp
  cases hp

/-! ## Asking -/

/-- The state after a question was asked on the open socket `w` and sent. -/
lemma ask_ok (h : s.openSocket w.room = some w) (kind : QuestionKind) (text : String) (now : ℕ) :
    s.ask kind w.room text .ok now =
      (((s.newPromise w.room (.question kind text)).setTimeout w.room
          (.request kind w text (s.freshId w.room)) (now + requestTimeout)).registerRequest kind w
          text ⟨s.freshId w.room, ⟨w.room, s.fresh w.room + 1⟩⟩).transmit
        w (.question (s.freshId w.room)) (RagState.questionMessage text) := by
  simp only [RagState.ask, h, RagState.askOn, RagState.freshId, RagState.newPromise_fresh,
    Function.update_self]

/-- The requests after a question was asked. -/
lemma ask_pendingAt (h : s.openSocket w.room = some w) (kind kind' : QuestionKind)
    (text text' : String) (now : ℕ) :
    (s.ask kind w.room text .ok now).pendingAt w kind' text' =
      if kind' = kind ∧ text' = text then
        some ⟨s.freshId w.room, ⟨w.room, s.fresh w.room + 1⟩⟩
      else s.pendingAt w kind' text' := by
  rw [ask_ok h]
  exact registerRequest_pendingAt _ w kind kind' text text' _

/-- The questions after a question was asked. -/
lemma ask_questionAt (h : s.openSocket w.room = some w) (kind : QuestionKind) (text : String)
    (now : ℕ) (q : Oid) :
    (s.ask kind w.room text .ok now).questionAt q =
      if q = s.freshId w.room then some ⟨.question kind text, none⟩ else s.questionAt q := by
  have hp : (s.ask kind w.room text .ok now).promises =
      s.promises.set (s.freshId w.room) ⟨.question kind text, none⟩ := by
    rw [ask_ok h]
    rfl
  rw [RagState.questionAt, hp, JsMap.get_set]
  by_cases hq : q = s.freshId w.room
  · subst hq
    simp [PromiseKind.isQuestion]
  · simp [hq, Ne.symm hq, RagState.questionAt]

/-- A request registered on the connection belongs to a promise that exists. -/
lemma Talking.promise_ne_freshId (h : Talking w base s d) (hok : PromisesOk s) {kind : QuestionKind}
    {text : String} {p : PendingRequest} (hp : s.pendingAt w kind text = some p) :
    p.promise ≠ s.freshId w.room := by
  intro heq
  obtain ⟨-, -, hq⟩ := h.pending kind text p hp
  rw [heq, RagState.questionAt, hok.freshId_promises] at hq
  cases hq

/-- **Asking a question** that is not pending keeps the state and the dialogue in step, which then
ends with the question.

**Proof sketch.** The new promise has a fresh id, so it is none of those that are waited for, and
the new entry of the table of its kind replaces none. Each part of the relation is shown for the
entries from before, which are kept, and for the new one. The first entry for its text is the new
one, since no entry of the text was waited for; its timeout names the new promise. -/
lemma Talking.ask (h : Talking w base s d) (hok : PromisesOk s) (hbase : PromisesOk base)
    (hw : s.openSocket w.room = some w) {kind : QuestionKind} {text : String} (now : ℕ)
    (hne : text ≠ "") (hnew : s.pendingAt w kind text = none)
    (hplain : kind = .withSources → s.pendingAt w .plain text = none) :
    Talking w base (s.ask kind w.room text .ok now)
      { d with unanswered := d.unanswered ++ [(s.freshId w.room, text)] } := by
  have hasked : AskedSince w base (s.freshId w.room) := by
    refine ⟨rfl, ?_⟩
    by_contra hsome
    obtain ⟨p, hp⟩ := Option.ne_none_iff_exists'.mp hsome
    exact absurd (hbase.promiseNames _ p hp) (Nat.not_lt.mpr h.fresh)
  -- what was registered stays registered
  have hkept : ∀ {kind' text' p}, s.pendingAt w kind' text' = some p →
      (s.ask kind w.room text .ok now).pendingAt w kind' text' = some p := by
    intro kind' text' p hp
    rw [ask_pendingAt hw, if_neg, hp]
    rintro ⟨rfl, rfl⟩
    rw [hnew] at hp
    cases hp
  refine ⟨?_, ?_, ?_, ?_, ?_, ?_, ?_, ?_⟩
  · exact h.fresh.trans ((ask_effects s w.room kind text .ok now).fresh_le w.room)
  · rw [List.map_append, List.nodup_append]
    refine ⟨h.nodup, by simp, ?_⟩
    intro q hq q' hq'
    obtain ⟨f, hf, rfl⟩ := List.mem_map.mp hq
    obtain ⟨kind', p, hp, hpf⟩ := h.entry f hf
    obtain rfl : q' = s.freshId w.room := by simpa using hq'
    exact hpf ▸ h.promise_ne_freshId hok hp
  · intro f hf
    rcases List.mem_append.mp hf with hf | hf
    · exact h.nonempty f hf
    · rw [List.mem_singleton.mp hf]
      exact hne
  · intro f hf
    rcases List.mem_append.mp hf with hf | hf
    · obtain ⟨kind', p, hp, hpf⟩ := h.entry f hf
      exact ⟨kind', p, hkept hp, hpf⟩
    · rw [List.mem_singleton.mp hf]
      exact ⟨kind, _, by rw [ask_pendingAt hw, if_pos ⟨rfl, rfl⟩], rfl⟩
  · intro kind' text' p hp
    rw [ask_pendingAt hw] at hp
    split at hp
    · rename_i heq
      obtain ⟨rfl, rfl⟩ := heq
      obtain rfl := Option.some.inj hp
      exact ⟨hasked, by simp, by rw [ask_questionAt hw, if_pos rfl]⟩
    · obtain ⟨hp₁, hmem, hq⟩ := h.pending kind' text' p hp
      refine ⟨hp₁, List.mem_append_left _ hmem, ?_⟩
      rw [ask_questionAt hw, if_neg (h.promise_ne_freshId hok hp), hq]
  · intro text' p hp
    rw [ask_pendingAt hw] at hp
    split at hp
    · rename_i heq
      obtain ⟨rfl, rfl⟩ := heq
      obtain rfl := Option.some.inj hp
      have hnone := h.find?_eq_none fun kind => by
        cases kind with
        | plain => exact hplain rfl
        | withSources => exact hnew
      simp [List.find?_append, hnone]
    · simp [List.find?_append, h.first text' p hp]
  · intro tm htm hr kind' w' text' q hk
    rw [ask_ok hw] at htm
    rcases List.mem_append.mp htm with htm | htm
    · rcases h.timers tm htm hr kind' w' text' q hk with ⟨rfl, p, hp, hq, ht⟩ | hold
      · exact .inl ⟨rfl, p, hkept hp, hq, ht⟩
      · exact .inr hold
    · obtain rfl := List.mem_singleton.mp htm
      cases hk
      refine .inl ⟨rfl, _, by rw [ask_pendingAt hw, if_pos ⟨rfl, rfl⟩], rfl, ?_⟩
      simp [RagState.freshId]
  · intro q kind' text' v hq hget
    rw [ask_questionAt hw] at hget
    split at hget
    · rename_i heq
      subst heq
      cases hget
      exact .inl (by simp)
    · rcases h.settled q kind' text' v hq hget with hmem | hans
      · exact .inl (List.mem_append_left _ hmem)
      · exact .inr hans

/-! ## Answering -/

/-- Searching a list from which an element was erased that is not searched for. -/
lemma find?_erase_of_neg {α : Type} [BEq α] [LawfulBEq α] {P : α → Bool} {x : α}
    (h : P x = false) (l : List α) : (l.erase x).find? P = l.find? P := by
  induction l with
  | nil => rfl
  | cons y l ih =>
    by_cases hyx : y = x
    · rw [hyx]
      rw [List.erase_cons_head, List.find?_cons_of_neg (by simp [h])]
    · rw [List.erase_cons_tail (by simpa using hyx)]
      cases hy : P y with
      | true => rw [List.find?_cons_of_pos hy, List.find?_cons_of_pos hy]
      | false =>
        rw [List.find?_cons_of_neg (by simp [hy]), List.find?_cons_of_neg (by simp [hy]), ih]

/-- The request `p`, registered under `text`, is resolved: its timer is cleared, its entry removed
and its promise settled. -/
def RagState.resolveRequest (s : RagState) (kind : QuestionKind) (w : Oid) (text : String)
    (p : PendingRequest) (v : Settlement) : RagState :=
  ((s.clearTimeout p.timer).dropRequest kind w text).settle p.promise v

/-- The requests that are left when one was resolved. -/
lemma resolveRequest_pendingAt (s : RagState) (kind kind' : QuestionKind) (w : Oid)
    (text text' : String) (p : PendingRequest) (v : Settlement) :
    (s.resolveRequest kind w text p v).pendingAt w kind' text' =
      if kind' = kind ∧ text' = text then none else s.pendingAt w kind' text' :=
  dropRequest_pendingAt (s.clearTimeout p.timer) w kind kind' text text'

/-- **Answering a request.** Its frame is the oldest unanswered one with its text; a plain request
is answered only if none with sources is pending under the text.

**Proof sketch.** Requests that stay registered have other promises, so their frames stay and their
promises are not settled. The answered request leaves no timer behind. -/
lemma Talking.answer (h : Talking w base s d) {kind : QuestionKind} {text a : String}
    {p : PendingRequest} {v : Settlement} (hp : s.pendingAt w kind text = some p)
    (hfirst : d.unanswered.find? (fun f => f.2 = text) = some (p.promise, text))
    (hplain : kind = .plain → s.pendingAt w .withSources text = none)
    (hv : v.answerText = some a) :
    Talking w base (s.resolveRequest kind w text p v) (d.answer text a) := by
  obtain ⟨hasked, -, hquestion⟩ := h.pending kind text p hp
  have hpend := fun kind' text' => resolveRequest_pendingAt s kind kind' w text text' p v
  have hnodup : d.unanswered.Nodup := List.Nodup.of_map _ h.nodup
  have hun : (d.answer text a).unanswered = d.unanswered.erase (p.promise, text) := by
    rw [Dialogue.answer, hfirst]
  refine ⟨h.fresh, ?_, ?_, ?_, ?_, ?_, ?_, ?_⟩
  · rw [hun]
    exact h.nodup.sublist (List.erase_sublist.map _)
  · rw [hun]
    exact fun f hf => h.nonempty f (List.mem_of_mem_erase hf)
  · rw [hun]
    intro f hf
    obtain ⟨hne, hmem⟩ := hnodup.mem_erase_iff.mp hf
    obtain ⟨kind', p', hp', hpf⟩ := h.entry f hmem
    refine ⟨kind', p', ?_, hpf⟩
    rw [hpend, if_neg, hp']
    rintro ⟨rfl, ht⟩
    rw [ht, hp] at hp'
    obtain rfl := Option.some.inj hp'
    exact hne (Prod.ext hpf.symm ht)
  · intro kind' text' p' hp'
    rw [hpend] at hp'
    split at hp'
    · cases hp'
    · rename_i hne
      obtain ⟨hasked', hmem, hquestion'⟩ := h.pending kind' text' p' hp'
      have hpne : p'.promise ≠ p.promise := fun heq => hne (h.promise_inj hp hp' heq)
      refine ⟨hasked', ?_, ?_⟩
      · rw [hun]
        exact (List.mem_erase_of_ne (by simp [hpne])).mpr hmem
      · rw [RagState.resolveRequest, settle_questionAt, if_neg (Ne.symm hpne)]
        exact hquestion'
  · intro text' p' hp'
    rw [hpend] at hp'
    split at hp'
    · cases hp'
    · rename_i hne
      have htext : text ≠ text' := by
        rintro rfl
        cases kind with
        | plain => exact Option.some_ne_none _ (hp'.symm.trans (hplain rfl))
        | withSources => exact hne ⟨rfl, rfl⟩
      rw [hun, ← h.first text' p' hp']
      exact find?_erase_of_neg (by simpa using htext) _
  · intro tm htm hr kind' w' text' q hk
    obtain ⟨htm, hid⟩ := List.mem_filter.mp htm
    rcases h.timers tm htm hr kind' w' text' q hk with ⟨rfl, p', hp', hq, ht⟩ | hold
    · refine .inl ⟨rfl, p', ?_, hq, ht⟩
      rw [hpend, if_neg, hp']
      rintro ⟨rfl, rfl⟩
      rw [hp] at hp'
      obtain rfl := Option.some.inj hp'
      simp [ht] at hid
    · exact .inr hold
  · intro q kind' text' v' hq hget
    rw [RagState.resolveRequest, settle_questionAt] at hget
    split at hget
    · rename_i heq
      subst heq
      have hquestion' : ((s.clearTimeout p.timer).dropRequest kind w text).questionAt p.promise =
          some ⟨.question kind text, none⟩ := hquestion
      rw [hquestion'] at hget
      cases hget
      exact .inr ⟨a, hv, by simp [Dialogue.answer]⟩
    · rename_i hne
      rcases h.settled q kind' text' v' hq hget with hmem | ⟨a', ha', hmem⟩
      · refine .inl ?_
        rw [hun]
        exact (List.mem_erase_of_ne (by simp [Ne.symm hne])).mpr hmem
      · exact .inr ⟨a', ha', List.mem_append_left _ hmem⟩

/-- A text that is not empty is the key under which `handleMessage` looks for a plain question. -/
lemma requestKey_of_questionText {message : JsVal} {text : String}
    (h : RagState.questionText message = some text) (hne : text ≠ "") :
    RagState.requestKey message = some text := by
  obtain ⟨v, hv, ht⟩ := Option.bind_eq_some_iff.mp h
  cases v with
  | str t =>
    obtain rfl : t = text := by simpa [JsVal.asStr] using ht
    simp [RagState.requestKey, hv, JsVal.orElse, JsVal.truthy, hne, JsVal.asStr]
  | null | bool | num | arr | obj => cases ht

/-- The `answer` branch resolves the request whose frame is answered. -/
lemma Talking.handleAnswer (h : Talking w base s d) {message : JsVal}
    (hm : AnswersFrame message d) :
    ∃ text a, RagState.questionText message = some text ∧ RagState.answerText message = some a ∧
      Talking w base (s.handleAnswer w message) (d.answer text a) := by
  obtain ⟨⟨f, hf, htext⟩, ha, hsrc⟩ := hm
  obtain ⟨a, ha⟩ := Option.isSome_iff_exists.mp ha
  obtain ⟨sources, hsrc⟩ := Option.isSome_iff_exists.mp hsrc
  refine ⟨f.2, a, htext, ha, ?_⟩
  cases hws : s.pendingAt w .withSources f.2 with
  | some p =>
    have heq : s.handleAnswer w message =
        s.resolveRequest .withSources w f.2 p (.answerWithSources a sources) := by
      have hget : (s.contextOf w).pendingRequestsWithSources.get f.2 = some p := hws
      simp [RagState.handleAnswer, htext, hget, ha, hsrc, RagState.resolveRequest]
    rw [heq]
    exact h.answer hws (h.first f.2 p hws) (fun hk => by cases hk) rfl
  | none =>
    -- the first unanswered frame with the text belongs to the plain request
    obtain ⟨f₁, hf₁⟩ : ∃ f₁, d.unanswered.find? (fun f' => f'.2 = f.2) = some f₁ :=
      Option.isSome_iff_exists.mp (by
        rw [List.find?_isSome]
        exact ⟨f, hf, by simp⟩)
    have htext₁ : f₁.2 = f.2 := by simpa using List.find?_some hf₁
    obtain ⟨kind, p, hp, hpf⟩ := h.entry f₁ (List.mem_of_find?_eq_some hf₁)
    rw [htext₁] at hp
    cases kind with
    | withSources => exact absurd (hp.symm.trans hws) (Option.some_ne_none p)
    | plain =>
      have heq : s.handleAnswer w message = s.resolveRequest .plain w f.2 p (.answer a) := by
        have hget : (s.contextOf w).pendingRequests.get f.2 = some p := hp
        have hnone : (s.contextOf w).pendingRequestsWithSources.get f.2 = none := hws
        have hkey := requestKey_of_questionText htext (h.nonempty f hf)
        simp [RagState.handleAnswer, htext, hnone, hkey, hget, ha, RagState.resolveRequest]
      rw [heq]
      refine h.answer hp ?_ (fun _ => hws) rfl
      rw [hf₁, hpf]
      exact congrArg some (Prod.ext rfl htext₁)

/-! ## Steps -/

/-- The question frames a step sends. -/
lemma sentQuestions_eq {e : Event} (hs : step s e = some s') {l : List SentFrame}
    (hl : s'.frames = s.frames ++ l) :
    sentQuestions w s e = l.filterMap (SentFrame.questionOn w) := by
  simp only [sentQuestions, hs, hl, List.drop_left]

/-- A program without `ws.send` of a question sends no question frame. -/
lemma sentQuestions_of_effects {e : Event} (hs : step s e = some s') {T : List Tag}
    (heff : Effects T s s') (hT : Tag.avoid T [.sendQuestion] = true) :
    sentQuestions w s e = [] := by
  obtain ⟨l, hl, hlq⟩ := heff.frames_append
  rw [sentQuestions_eq hs hl, List.filterMap_eq_nil_iff]
  intro f hf
  have htag := hlq hT f hf
  unfold SentFrame.questionOn
  split
  · rfl
  · rename_i q ho
    rw [ho] at htag
    cases htag

/-- A step that the room does not see sends nothing on its sockets. -/
lemma sentQuestions_of_same {e : Event} (hs : step s e = some s') (hsame : rooms.Same w.room s s') :
    sentQuestions w s e = [] := by
  obtain ⟨l, hl, -⟩ := (step_effects hs).frames_append
  have hframes : s.frames.filter (·.sock.room = w.room) = s'.frames.filter (·.sock.room = w.room) :=
    congrArg RoomView.frames hsame
  rw [hl, List.filter_append, List.self_eq_append_right, List.filter_eq_nil_iff] at hframes
  rw [sentQuestions_eq hs hl, List.filterMap_eq_nil_iff]
  intro f hf
  have hroom : f.sock.room ≠ w.room := by simpa using hframes f hf
  unfold SentFrame.questionOn
  split
  · rfl
  · rw [if_neg]
    rintro rfl
    exact hroom rfl

/-- An event that neither answers nor asks leaves the dialogue as it is. -/
lemma Dialogue.next_of_silent {e : Event} (ha : e.act.answerTo w.room = none)
    (hq : sentQuestions w s e = []) : d.next w s e = d := by
  simp [Dialogue.next, ha, hq]

/-- The kinds of operations that concern questions. -/
def questionTags : List Tag := [.setContext, .armRequest, .sendQuestion]

/-- Code that leaves questions alone keeps the invariant. -/
lemma Talking.effects {T : List Tag} (h : Talking w base s d) (heff : Effects T s s')
    (hT : Tag.avoid T questionTags = true) (hspares : Spares s s') :
    Talking w base s' d := by
  refine h.of_parts (heff.fresh_le _) ?_ (fun tm htm _ hk => ?_) fun q _ => hspares.questions q
  · rw [RagState.contextOf, heff.contexts_eq (Effects.avoids_subset hT rfl), RagState.contextOf]
  · exact heff.timers_of_tag (x := .armRequest) (by decide) (Effects.avoids_subset hT rfl) tm htm hk

/-- An event that leaves questions alone keeps the invariant. -/
lemma Talking.silent {e : Event} {T : List Tag} (h : Talking w base s d) (hs : step s e = some s')
    (ha : e.act.answerTo w.room = none) (heff : Effects T s s')
    (hT : Tag.avoid T questionTags = true) (hspares : Spares s s') :
    Talking w base s' (d.next w s e) := by
  rw [Dialogue.next_of_silent ha
    (sentQuestions_of_effects hs heff (Effects.avoids_subset hT rfl))]
  exact h.effects heff hT hspares

/-- An event of another room keeps the invariant. -/
lemma Talking.outside {e : Event} (h : Talking w base s d) (hs : step s e = some s')
    (hsame : rooms.Same w.room s s') (ha : e.act.answerTo w.room = none) :
    Talking w base s' (d.next w s e) := by
  rw [Dialogue.next_of_silent ha (sentQuestions_of_same hs hsame)]
  refine h.of_parts ((step_effects hs).fresh_le _) (contextOf_of_same hsame rfl).symm ?_ ?_
  · intro tm htm hr _
    have hmem : tm ∈ s'.timers.filter (·.id.room = w.room) := by simp [htm, hr]
    have hview : s.timers.filter (·.id.room = w.room) = s'.timers.filter (·.id.room = w.room) :=
      congrArg RoomView.timers hsame
    exact List.mem_of_mem_filter (hview ▸ hmem)
  · intro q hq
    rw [RagState.questionAt, RagState.questionAt,
      get_of_sameView (congrArg RoomView.promises hsame) hq.1]

/-- A message reaches the rooms it concerns only. -/
lemma Act.answerTo_of_not_concerns {a : Act} {r : RoomId} (h : a.concerns r = false) :
    a.answerTo r = none := by
  unfold Act.answerTo
  split
  · rename_i w' message
    have hr : w'.room ≠ r := by
      rintro rfl
      simp [Act.concerns, Act.room] at h
    simp [hr]
  · rfl

/-- A question call of the room asks on the open connection. -/
lemma Talking.question {e : Event} {c : QuestionCall} (h : Talking w base s d) (hok : PromisesOk s)
    (hbase : PromisesOk base) (hserved : Served w (s, d) e) (hnew : AsksAnew w (s, d) e)
    (hc : e.act.question = some c) (hroom : c.room = w.room) (ha : e.act.answerTo w.room = none)
    (hs : step s e = some (s.ask c.kind c.room c.text c.send e.now)) :
    Talking w base (s.ask c.kind c.room c.text c.send e.now) (d.next w s e) := by
  obtain ⟨hne, hsend⟩ := hserved.asked c hc hroom
  obtain ⟨hnone, hplain⟩ := hnew c hc hroom
  have hw : s.openSocket w.room = some w := hserved.before
  rw [hroom, hsend] at hs ⊢
  have hframes : (s.ask c.kind w.room c.text .ok e.now).frames =
      s.frames ++ [⟨w, .question (s.freshId w.room), RagState.questionMessage c.text⟩] := by
    rw [ask_ok hw]
    rfl
  have hsent : sentQuestions w s e = [(s.freshId w.room, c.text)] := by
    rw [sentQuestions_eq hs hframes]
    simp [SentFrame.questionOn, RagState.questionText, RagState.questionMessage, JsVal.field,
      JsVal.asStr]
  have hnext : d.next w s e =
      { d with unanswered := d.unanswered ++ [(s.freshId w.room, c.text)] } := by
    simp [Dialogue.next, ha, hsent]
  rw [hnext]
  refine h.ask hok hbase hw e.now hne ?_ fun hk => ?_
  · simpa [JsMap.has, RagState.pendingAt] using hnone
  · simpa [JsMap.has, RagState.pendingAt, ConnectionContext.table] using hplain hk

/-- A message to the room.

**Proof sketch.** A message that is no answer leaves the questions alone, and the dialogue is
silent. An answer is one that the dialogue takes up, since the room is served, and `handleAnswer`
settles the first question with its text. -/
lemma Talking.message {e : Event} {w' : Oid} {data : Option JsVal} (h : Talking w base s d)
    (hok : PromisesOk s) (hserved : Served w (s, d) e) (he : e.act = .wsMessage w' data)
    (hroom : w'.room = w.room) (hs : step s e = some (s.handleMessage w.room data)) :
    Talking w base (s.handleMessage w.room data) (d.next w s e) := by
  have hconn : s.connections.get w.room = some w :=
    (RagState.openSocket_eq_some.mp hserved.before).1
  have hquiet : sentQuestions w s e = [] :=
    sentQuestions_of_effects hs (handleMessage_effects s w.room data) rfl
  unfold RagState.handleMessage
  cases data with
  | none =>
    have ha : e.act.answerTo w.room = none := by rw [he]; rfl
    rw [Dialogue.next_of_silent ha hquiet]
    exact h
  | some message =>
    dsimp only
    cases htype : JsVal.isStr (message.field "type") "answer" with
    | false =>
      have ha : e.act.answerTo w.room = none := by simp [he, Act.answerTo, htype]
      rw [Dialogue.next_of_silent ha hquiet]
      split
      · exact h
      · rw [hconn]
        dsimp only
        rw [if_neg (by simp)]
        split
        · exact h.effects (handleMeetingReport_effects s w.room message) rfl
            (handleMeetingReport_spares hok message)
        · exact h
    | true =>
      have ha : e.act.answerTo w.room = some message := by simp [he, Act.answerTo, htype, hroom]
      have hnull : ¬ message.isNull = true := by
        intro hnull
        cases message <;> simp [JsVal.isNull] at hnull
        simp [JsVal.field, JsVal.isStr] at htype
      rw [if_neg hnull, hconn]
      dsimp only
      rw [if_pos rfl]
      obtain ⟨text, a, htext, hans, htalk⟩ := h.handleAnswer (hserved.answered message ha)
      have hnext : d.next w s e = d.answer text a := by
        simp [Dialogue.next, ha, htext, hans]
      rw [hnext]
      exact htalk

/-- The timer of a request asked on another connection. -/
lemma Talking.oldTimeout (h : Talking w base s d) {kind : QuestionKind} {w' : Oid} {text : String}
    {q : Oid} (hw : w' ≠ w) (hq : base.promises.get q ≠ none) :
    Talking w base (s.onRequestTimeout kind w' text q) d := by
  refine h.of_parts le_rfl ?_ (fun tm htm _ _ => htm) fun q' hq' => ?_
  · simp [RagState.onRequestTimeout, RagState.dropRequest, RagState.contextOf, hw]
  · have hne : q ≠ q' := by
      rintro rfl
      exact hq hq'.2
    rw [RagState.onRequestTimeout, settle_questionAt, if_neg hne]
    rfl

/-- **A step under the conditions.**

**Proof sketch.** An event of another room is not seen. Closing the connection, opening another
socket, disconnecting and destroying the module end the run. A request timer of the connection would
have to belong to an unanswered frame. That leaves questions, messages and code that leaves
questions alone. -/
theorem step_talking {e : Event} (hc : ∀ r, rooms.Closed r s) (hok : PromisesOk s)
    (hbase : PromisesOk base) (h : Talking w base s d) (hserved : Served w (s, d) e)
    (hnew : AsksAnew w (s, d) e) (hs : step s e = some s') :
    Talking w base s' (d.next w s e) := by
  have hafter := hserved.after s' hs
  cases hr : e.act.concerns w.room with
  | false => exact h.outside hs (step_outside hr hc hs) (Act.answerTo_of_not_concerns hr)
  | true =>
    have heff := step_effects hs
    obtain ⟨now, act⟩ := e
    cases act with
    | connect r ctor =>
      obtain rfl : r = w.room := by simpa [Act.concerns, Act.room] using hr
      obtain rfl := Option.some.inj hs
      exact h.silent hs rfl heff rfl (connect_spares hok ctor now)
    | disconnect r =>
      obtain rfl : r = w.room := by simpa [Act.concerns, Act.room] using hr
      obtain rfl := Option.some.inj hs
      rw [RagState.openSocket, disconnect_connection] at hafter
      cases hafter
    | sendQuestion r text send =>
      obtain rfl : r = w.room := by simpa [Act.concerns, Act.room] using hr
      obtain rfl := Option.some.inj hs
      exact h.question hok hbase hserved hnew (c := ⟨w.room, .plain, text, send⟩) rfl rfl rfl rfl
    | sendQuestionWithSources r text send =>
      obtain rfl : r = w.room := by simpa [Act.concerns, Act.room] using hr
      obtain rfl := Option.some.inj hs
      exact h.question hok hbase hserved hnew (c := ⟨w.room, .withSources, text, send⟩) rfl rfl rfl
        rfl
    | requestReport r =>
      obtain rfl : r = w.room := by simpa [Act.concerns, Act.room] using hr
      obtain rfl := Option.some.inj hs
      exact h.silent hs rfl heff rfl (requestReport_spares hok now)
    | onModuleDestroy =>
      obtain rfl := Option.some.inj hs
      rw [RagState.openSocket, onModuleDestroy_connection hc] at hafter
      cases hafter
    | wsOpen w' send =>
      obtain hr : w'.room = w.room := by simpa [Act.concerns, Act.room] using hr
      obtain ⟨k, hk, hcon, rfl⟩ := step_wsOpen hs
      -- the registered socket would be the one that opens, but that one is open already
      have hreg := (RagState.openSocket_eq_some.mp hafter).1
      rw [← hr, onOpen_connection] at hreg
      obtain rfl := Option.some.inj hreg
      have hopen := (RagState.openSocket_eq_some.mp hserved.before).2
      simp [RagState.readyState, hk, hcon] at hopen
    | wsMessage w' data =>
      obtain hr : w'.room = w.room := by simpa [Act.concerns, Act.room] using hr
      obtain ⟨k, -, -, -, rfl⟩ := step_wsMessage hs
      rw [hr] at hs ⊢
      exact h.message hok hserved rfl hr hs
    | timer t ext =>
      obtain hr : t.room = w.room := by simpa [Act.concerns, Act.room] using hr
      obtain ⟨tm, htm, rfl⟩ := step_timer hs
      obtain ⟨hmem, rfl⟩ := findTimer_mem htm
      simp only [footprint, htm, Option.map_some, Option.getD_some] at heff
      have hclear : Spares s (s.clearTimeout tm.id) :=
        (Spares.refl hok).effect (a := .clearTimeout tm.id) trivial rfl
      cases hk : tm.kind with
      | request kind w' text q =>
        have hfired : tm ∈ firedTimer s ⟨now, .timer tm.id ext⟩ := htm
        have hquiet : sentQuestions w s ⟨now, .timer tm.id ext⟩ = [] :=
          sentQuestions_of_effects hs heff (by rw [hk]; rfl)
        rw [Dialogue.next_of_silent rfl hquiet, RagState.fire, hk]
        rcases h.timers tm hmem hr kind w' text q hk with ⟨-, p, hp, rfl, -⟩ | ⟨hw, hq⟩
        · have hun := (h.pending kind text p hp).2.1
          exact absurd (by rw [hk]; rfl) (hserved.inTime tm hfired _ hun)
        · have heff' := Effects.one (T := [.clearTimeout]) s (.clearTimeout tm.id) rfl
          exact (h.effects heff' rfl hclear).oldTimeout hw hq
      | connection | reconnect | report | statementRetry | flushNext =>
        have hfire := fire_spares hclear.ok tm (by simp [hk, TimerKind.tag]) ext now
        rw [hk] at heff
        exact h.silent hs rfl heff rfl (hclear.trans hfire)
    | httpResponse call response =>
      obtain ⟨c, hcall, -, rfl⟩ := step_httpResponse hs
      exact h.silent hs rfl heff rfl (httpResponse_spares hok hcall response)
    | _ => exact h.silent hs rfl heff rfl ((Spares.refl hok).effects heff rfl)

/-- Nothing has been asked on a socket that has just opened. -/
lemma talking_of_open {k : Socket} (hok : PromisesOk s) (hok' : PromisesOk s')
    (hk : s.sockets.get w = some k) (hcon : k.readyState = .CONNECTING) {send : CallResult}
    {now : ℕ} (hs : s' = s.onOpen w k send now) : Talking w s' s' Dialogue.new := by
  have hnone : ∀ kind text, s'.pendingAt w kind text = none := by
    intro kind text
    have hctx : s'.contexts = (s.registerOpen w k).contexts := by
      rw [hs, RagState.onOpen, RagState.settle_contexts]
      exact (flushStatementBuffer_effects _ w.room send now).contexts_eq rfl
    have hnew : s'.contextOf w = ConnectionContext.new := by
      rw [RagState.contextOf, hctx]
      simp [RagState.registerOpen]
    rw [RagState.pendingAt, hnew]
    cases kind <;> rfl
  refine ⟨le_rfl, by simp [Dialogue.new], by simp [Dialogue.new], by simp [Dialogue.new], ?_, ?_,
    ?_, ?_⟩
  · intro kind text p hp
    rw [hnone] at hp
    cases hp
  · intro text p hp
    rw [hnone] at hp
    cases hp
  · -- an older timer belongs to a socket that is not connecting
    intro tm htm hr kind w' text q hkind
    have heff : Effects _ s s' := hs ▸ onOpen_effects s w k send now
    have hmem := heff.timers_of_tag (x := .armRequest) (by decide) rfl tm htm (by rw [hkind]; rfl)
    obtain ⟨-, k', hk', hcon'⟩ := hok.timers tm hmem kind w' text q hkind
    obtain ⟨hq, -⟩ := hok'.timers tm htm kind w' text q hkind
    refine .inr ⟨?_, fun hqnone => ?_⟩
    · rintro rfl
      rw [hk] at hk'
      obtain rfl := Option.some.inj hk'
      exact hcon' hcon
    · simp [RagState.promiseKind, hqnone] at hq
  · intro q kind text v hq hget
    simp [RagState.questionAt, hq.2] at hget

/-- When every frame has been answered, so has every question. -/
lemma Talking.allAnswered (h : Talking w base s d) (hdone : d.unanswered = []) :
    AllAnswered w base s d := by
  intro q kind text v hq hget
  have hquestion : s.questionAt q = some ⟨.question kind text, v⟩ := by
    simp [RagState.questionAt, hget, Option.filter, PromiseKind.isQuestion]
  rcases h.settled q kind text v hq hquestion with hmem | hans
  · simp [hdone] at hmem
  · exact hans

end Talking

/-- **Questions are answered.** A socket opens and stays the open connection of its room for a run.
The server answers every question frame with one answer that carries its text, before the timer of
the request fires. If no question is asked under the text of a pending one of the same kind, and
none with sources under the text of a pending plain one, then all questions asked in the run have
been resolved with an answer for their own text.

**Proof sketch.** The invariant is `Rag.Talking`, which holds when the socket opens. -/
theorem questions_answered (es : List Event) {s s₁ t : RagState} {w : Oid} {now : ℕ}
    {send : CallResult} {d : Dialogue} (hreach : client.Reachable s)
    (hopen : step s ⟨now, .wsOpen w send⟩ = some s₁)
    (hserved : (dialogue w).AllSteps (Served w) (s₁, Dialogue.new) es)
    (hnew : (dialogue w).AllSteps (AsksAnew w) (s₁, Dialogue.new) es)
    (hrun : (dialogue w).exec (s₁, Dialogue.new) es = some (t, d)) (hdone : d.unanswered = []) :
    AllAnswered w s₁ t d := by
  have hreach₁ : client.Reachable s₁ := hreach.step (e := ⟨now, .wsOpen w send⟩) hopen
  have hbase := reachable_promisesOk hreach₁
  obtain ⟨k, hk, hcon, hs₁⟩ := step_wsOpen hopen
  have hstart := talking_of_open (reachable_promisesOk hreach) hbase hk hcon hs₁
  refine (EventSystem.exec_invariant
    (I := fun p => (∀ r, rooms.Closed r p.1) ∧ PromisesOk p.1 ∧ Talking w s₁ p.1 p.2)
    (C := fun p e => Served w p e ∧ AsksAnew w p e) ?_
    ⟨fun r => reachable_closed hreach₁ r, hbase, hstart⟩ (hserved.and hnew)
    hrun).2.2.allAnswered hdone
  rintro ⟨u, c⟩ e ⟨u', c'⟩ ⟨hc, hok, htalk⟩ ⟨hsv, hnw⟩ hs
  obtain ⟨hs, hnext⟩ := EventSystem.withHistory_step.mp hs
  obtain rfl : c' = _ := hnext
  exact ⟨step_closed hc hs, step_promisesOk hok hs, step_talking hc hok hbase htalk hsv hnw hs⟩

/-- A question with sources and, while it is pending, a plain one with the same text. -/
theorem questions_answered_both_kinds :
    ∃ s₁ t d,
      client.exec client.init [⟨0, .connect "r" .ok⟩, ⟨10, .wsOpen ⟨"r", 1⟩ .ok⟩] = some s₁ ∧
      (dialogue ⟨"r", 1⟩).exec (s₁, Dialogue.new)
        [⟨20, .sendQuestionWithSources "r" "why" .ok⟩, ⟨30, .sendQuestion "r" "why" .ok⟩,
          ⟨40, .wsMessage ⟨"r", 1⟩ (some (.obj [("type", .str "answer"), ("text", .str "why"),
            ("answer", .str "so")]))⟩,
          ⟨50, .wsMessage ⟨"r", 1⟩ (some (.obj [("type", .str "answer"), ("text", .str "why"),
            ("answer", .str "so")]))⟩] = some (t, d) ∧
      AllAnswered ⟨"r", 1⟩ s₁ t d := by
  have hreach : client.Reachable (RagState.init.connect "r" .ok 0) := ⟨[⟨0, .connect "r" .ok⟩], rfl⟩
  have hopen : step (RagState.init.connect "r" .ok 0) ⟨10, .wsOpen ⟨"r", 1⟩ .ok⟩ = some _ := rfl
  exact ⟨_, _, _, rfl, rfl, questions_answered
    [⟨20, .sendQuestionWithSources "r" "why" .ok⟩, ⟨30, .sendQuestion "r" "why" .ok⟩,
      ⟨40, .wsMessage ⟨"r", 1⟩ (some (.obj [("type", .str "answer"), ("text", .str "why"),
        ("answer", .str "so")]))⟩,
      ⟨50, .wsMessage ⟨"r", 1⟩ (some (.obj [("type", .str "answer"), ("text", .str "why"),
        ("answer", .str "so")]))⟩] hreach hopen (by decide) (by decide) rfl rfl⟩

/-- The same question is asked twice, and answered twice before the first one times out. -/
def askedTwice : List Event :=
  [⟨20, .sendQuestion "r" "why" .ok⟩, ⟨30, .sendQuestion "r" "why" .ok⟩,
    ⟨40, .wsMessage ⟨"r", 1⟩ (some (.obj [("type", .str "answer"), ("text", .str "why"),
      ("answer", .str "so")]))⟩,
    ⟨50, .wsMessage ⟨"r", 1⟩ (some (.obj [("type", .str "answer"), ("text", .str "why"),
      ("answer", .str "so")]))⟩,
    ⟨30020, .timer ⟨"r", 4⟩ .ok⟩]

/-- **A question asked twice times out.** The second request takes the place of the first one in the
table. The first answer resolves it and the second one finds no request; the first promise is
rejected when its timer fires. -/
theorem same_question_times_out : ∃ s s₁ t d,
    Timely (⟨0, .connect "r" .ok⟩ :: ⟨10, .wsOpen ⟨"r", 1⟩ .ok⟩ :: askedTwice) ∧
    client.exec client.init [⟨0, .connect "r" .ok⟩] = some s ∧
    step s ⟨10, .wsOpen ⟨"r", 1⟩ .ok⟩ = some s₁ ∧
    (dialogue ⟨"r", 1⟩).AllSteps (Served ⟨"r", 1⟩) (s₁, Dialogue.new) askedTwice ∧
    (dialogue ⟨"r", 1⟩).exec (s₁, Dialogue.new) askedTwice = some (t, d) ∧ d.unanswered = [] ∧
    ¬ AllAnswered ⟨"r", 1⟩ s₁ t d := by
  refine ⟨_, _, _, _, by decide, rfl, rfl, by decide, rfl, rfl, fun h => ?_⟩
  obtain ⟨a, ha, -⟩ := h ⟨"r", 3⟩ .plain "why" (some (.rejected "RAG request timeout"))
    ⟨rfl, rfl⟩ rfl
  cases ha

end Rag
