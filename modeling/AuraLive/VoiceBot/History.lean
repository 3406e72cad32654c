import AuraLive.Foundations.Ledger
import AuraLive.Foundations.EventSystem
import AuraLive.VoiceBot.Flows

set_option relaxedAutoImplicit false
set_option autoImplicit false

/-!
# The conversation memory of a room

Two flows write `conversationHistory`. `updateConversationHistory` drops the turns that are older
than five minutes, appends what was said and answered, and keeps the last sixty turns.
`processHostQuery` waits for an answer to the host's question and for the text card to be sent, and
then appends the question without removing anything.

## Main definitions

* `ConversationMemory.State`, `Event`, `system` — the contexts of the rooms, the host queries in
  progress, and what happens to them.
* `ConversationMemory.Bounded`, `Chronological` — at most `2 * MAX_CONVERSATION_TURNS` turns, in the
  order of their timestamps.
* `ConversationMemory.HasRoom` — a host query is recorded only where there is room for one turn.

## Main results

* `ConversationMemory.chronological_of_exec` — the timestamps are in order in every run.
* `ConversationMemory.memory_bound` — the bound holds throughout a run exactly when host queries
  always find room.
* `ConversationMemory.memory_unbounded` — host queries alone exceed it.
-/

namespace ConversationMemory

open Foundations VoiceBot

/-- `MAX_CONVERSATION_TURNS`. -/
def MAX_CONVERSATION_TURNS : ℕ := 30

/-! ## The state -/

/-- The part of a `RoomContext` that host queries use. -/
structure Context where
  hostOnlyMode : Bool
  hostIdentities : List String
  conversationHistory : List ConversationTurn

/-- What a host query waits for. -/
inductive Await where
  /-- `ragClient.sendQuestion`. -/
  | ragAnswer
  /-- `llmService.sendMessagePure`. -/
  | llmResponse
  /-- `sendTextCardToHost` with the answer; without hosts nothing is published. -/
  | textCard (published : Bool)
  /-- `sendTextCardToHost` with the apology, after an exception. -/
  | apology
  deriving DecidableEq

/-- A run of `processHostQuery` that waits. -/
structure HostQuery where
  /-- The context that was active when the query came. -/
  context : ℕ
  query : String
  hostIdentity : String
  awaits : Await

/-- The contexts that were created, those that are active, and the host queries in progress. -/
structure State where
  contexts : Ledger Context
  activeRooms : JsMap String ℕ
  queries : Ledger HostQuery
  now : ℕ

/-- What can happen. Runs hold on to their context after the room was left. -/
inductive Event where
  | startBot (roomId : String)
  | stopBot (roomId : String)
  /-- The messages that set the host mode and the hosts. -/
  | hostsChanged (roomId : String) (hostOnlyMode : Bool) (hostIdentities : List String)
  /-- A `HOST_AI_QUERY` message. -/
  | hostQuery (roomId query identity : String)
  /-- What a host query waits for comes, or is an exception. -/
  | replied (id : ℕ) (answer : Option String)
  /-- A run of `processWithAgent` calls `updateConversationHistory`. -/
  | agentAnswered (context : ℕ) (userMessage botResponse userId : String)

/-! ## The steps -/

/-- `context.conversationHistory.push` of the query, at its end. -/
def Context.recordQuery (c : Context) (now : ℕ) (q : HostQuery) : Context :=
  { c with conversationHistory :=
      c.conversationHistory ++ [⟨q.query, now, some q.hostIdentity⟩] }

/-- `updateConversationHistory`. -/
def Context.recordAnswer (env : Env) (c : Context) (now : ℕ)
    (userMessage botResponse userId : String) : Context :=
  { c with conversationHistory :=
      updateConversationHistory env now c.conversationHistory userMessage botResponse userId }

/-- The call of `sendTextCardToHost`: there is something to publish if the room has hosts. -/
def Context.sendTextCardToHost (c : Context) : Await := .textCard (c.hostIdentities ≠ [])

/-- Whether the message handler passes the query on. -/
def Context.accepts (c : Context) (identity : String) : Bool :=
  c.hostOnlyMode && identity ≠ "" && c.hostIdentities.contains identity

/-- The query waits for something else. -/
def State.awaiting (s : State) (id : ℕ) (q : HostQuery) (a : Await) : State :=
  { s with queries := s.queries.amend id { q with awaits := a } }

/-- `processHostQuery` goes on with what it waited for. -/
def State.resume (s : State) (id : ℕ) (q : HostQuery) (c : Context) :
    Await → Option String → Option State
  | .ragAnswer, some answer =>
    some (s.awaiting id q (if answer ≠ "" then c.sendTextCardToHost else .llmResponse))
  | .llmResponse, some _ => some (s.awaiting id q c.sendTextCardToHost)
  | .textCard _, some _ =>
    some { s with
      contexts := s.contexts.modify q.context (·.recordQuery s.now q)
      queries := s.queries.remove id }
  | .apology, _ => some { s with queries := s.queries.remove id }
  | .textCard false, none => none
  | _, none => some (s.awaiting id q .apology)

/-- The handlers, at the time in the state. -/
def State.handle (env : Env) (s : State) : Event → Option State
  | .startBot roomId =>
    some { s with
      contexts := s.contexts.enter ⟨false, [], []⟩
      activeRooms := s.activeRooms.set roomId s.contexts.next }
  | .stopBot roomId => some { s with activeRooms := s.activeRooms.delete roomId }
  | .hostsChanged roomId hostOnlyMode hostIdentities =>
    match s.activeRooms.get roomId with
    | none => some s
    | some i =>
      some { s with contexts := s.contexts.modify i fun c =>
        { c with hostOnlyMode := hostOnlyMode, hostIdentities := hostIdentities } }
  | .hostQuery roomId query identity =>
    match s.activeRooms.get roomId with
    | none => some s
    | some i =>
      if (s.contexts.get i).any (·.accepts identity) then
        some { s with queries := s.queries.enter ⟨i, query, identity, .ragAnswer⟩ }
      else some s
  | .replied id answer =>
    match s.queries.get id with
    | none => none
    | some q =>
      match s.contexts.get q.context with
      | none => none
      | some c => s.resume id q c q.awaits answer
  | .agentAnswered i userMessage botResponse userId =>
    if (s.contexts.get i).isSome then
      some { s with
        contexts := s.contexts.modify i (·.recordAnswer env s.now userMessage botResponse userId) }
    else none

/-- The rooms of the voice bot. Every event comes with the time at which it is handled, and the
clock does not run backwards. -/
def system (env : Env) : EventSystem State (ℕ × Event) where
  init := ⟨.empty, ∅, .empty, 0⟩
  step s e := if s.now ≤ e.1 then ({ s with now := e.1 } : State).handle env e.2 else none

/-! ## The property -/

/-- Every context remembers at most `2 * MAX_CONVERSATION_TURNS` turns. -/
def Bounded (s : State) : Prop :=
  ∀ i c, s.contexts.get i = some c → c.conversationHistory.length ≤ 2 * MAX_CONVERSATION_TURNS

/-- The turns are in the order of their timestamps. -/
def InOrder (history : List ConversationTurn) : Prop :=
  history.Pairwise fun a b => a.timestamp ≤ b.timestamp

/-- The timestamps of every context are non-decreasing. -/
def Chronological (s : State) : Prop :=
  ∀ i c, s.contexts.get i = some c → InOrder c.conversationHistory

/-- The context to which an event appends a host query: the query waited for its text card, and the
card was sent. -/
def State.recordedIn (s : State) : Event → Option Context
  | .replied id (some _) =>
    match s.queries.get id with
    | none => none
    | some q =>
      match q.awaits with
      | .textCard _ => s.contexts.get q.context
      | _ => none
  | _ => none

/-- A host query that is recorded finds fewer than `2 * MAX_CONVERSATION_TURNS` turns. -/
def HasRoom (s : State) (e : ℕ × Event) : Prop :=
  ∀ c ∈ s.recordedIn e.2, c.conversationHistory.length < 2 * MAX_CONVERSATION_TURNS

/-! ## What a step writes -/

/-- The event ends a host query about the given context with success. -/
def Records (s : State) (e : ℕ × Event) (i : ℕ) : Prop :=
  ∃ id answer q p, e.2 = .replied id (some answer) ∧ s.queries.get id = some q ∧
    q.awaits = .textCard p ∧ q.context = i

/-- An event that appends a host query to a context. -/
lemma recordedIn_eq_some_iff {s : State} {e : Event} {c : Context} :
    s.recordedIn e = some c ↔ ∃ id answer q p, e = .replied id (some answer) ∧
      s.queries.get id = some q ∧ q.awaits = .textCard p ∧ s.contexts.get q.context = some c := by
  constructor
  · intro h
    unfold State.recordedIn at h
    split at h
    case h_2 => cases h
    rename_i id answer
    split at h
    · cases h
    rename_i q hq
    split at h
    case h_2 => cases h
    rename_i p hp
    exact ⟨id, answer, q, p, rfl, hq, hp, h⟩
  · rintro ⟨id, answer, q, p, rfl, hq, hp, hc⟩
    simp only [State.recordedIn, hq, hp, hc]

/-- What a step at the time `now` can make of a history. -/
inductive Writes (env : Env) (now : ℕ) (records : Prop) (history : List ConversationTurn) :
    List ConversationTurn → Prop
  | keep : Writes env now records history history
  | answer (userMessage botResponse userId : String) :
    Writes env now records history
      (updateConversationHistory env now history userMessage botResponse userId)
  | query (h : records) (query identity : String) :
    Writes env now records history (history ++ [⟨query, now, some identity⟩])

/-- A context after a change of one context that writes its history. -/
lemma writes_of_modify {env : Env} {now : ℕ} (records : ℕ → Prop) {contexts : Ledger Context}
    {i j : ℕ} {f : Context → Context} {c' : Context}
    (hf : ∀ c, Writes env now (records i) c.conversationHistory (f c).conversationHistory)
    (h : (contexts.modify i f).get j = some c') :
    ∃ c, contexts.get j = some c ∧
      Writes env now (records j) c.conversationHistory c'.conversationHistory := by
  rw [Ledger.get_modify] at h
  split at h
  · rename_i hij
    obtain ⟨c, hc, rfl⟩ := Option.map_eq_some_iff.mp h
    exact ⟨c, hc, hij ▸ hf c⟩
  · exact ⟨c', h, .keep⟩

/-- A step starts a new history, or writes one that was there; only the end of a host query appends
a turn without removing anything.

**Proof sketch.** By cases on the event. All handlers but `startBot` keep the contexts or change one
of them. -/
lemma handle_writes {env : Env} {s s' : State} {e : ℕ × Event} (hnow : s.now = e.1)
    (h : s.handle env e.2 = some s') {i : ℕ} {c' : Context}
    (hc : s'.contexts.get i = some c') :
    c'.conversationHistory = [] ∨ ∃ c, s.contexts.get i = some c ∧
      Writes env e.1 (Records s e i) c.conversationHistory c'.conversationHistory := by
  rcases e with ⟨now, e⟩
  have same : s'.contexts = s.contexts → ∃ c, s.contexts.get i = some c ∧
      Writes env now (Records s (now, e) i) c.conversationHistory c'.conversationHistory :=
    fun hs => ⟨c', hs ▸ hc, .keep⟩
  cases e with
  | startBot roomId =>
    obtain rfl := Option.some.inj h
    rw [Ledger.get_enter] at hc
    split at hc
    · obtain rfl := Option.some.inj hc
      exact .inl rfl
    · exact .inr ⟨c', hc, .keep⟩
  | stopBot roomId =>
    obtain rfl := Option.some.inj h
    exact .inr (same rfl)
  | hostsChanged roomId hostOnlyMode hostIdentities =>
    simp only [State.handle] at h
    split at h
    · obtain rfl := Option.some.inj h
      exact .inr (same rfl)
    · obtain rfl := Option.some.inj h
      exact .inr (writes_of_modify (Records s _) (fun _ => by exact .keep) hc)
  | hostQuery roomId query identity =>
    simp only [State.handle] at h
    split at h
    · obtain rfl := Option.some.inj h
      exact .inr (same rfl)
    · split at h <;> obtain rfl := Option.some.inj h <;> exact .inr (same rfl)
  | replied id answer =>
    simp only [State.handle] at h
    split at h
    · cases h
    rename_i q hq
    split at h
    · cases h
    unfold State.resume at h
    split at h
    case h_3 _ _ p text hp =>
      obtain rfl := Option.some.inj h
      refine .inr (writes_of_modify (Records s _) (fun c => ?_) hc)
      rw [Context.recordQuery, hnow]
      exact .query ⟨id, text, q, p, rfl, hq, hp, rfl⟩ _ _
    case h_5 => cases h
    all_goals
      obtain rfl := Option.some.inj h
      exact .inr (same rfl)
  | agentAnswered j userMessage botResponse userId =>
    simp only [State.handle] at h
    split at h
    · obtain rfl := Option.some.inj h
      refine .inr (writes_of_modify (Records s _) (fun c => ?_) hc)
      rw [Context.recordAnswer, hnow]
      exact .answer _ _ _
    · cases h

/-- A step of the system writes only what its event says to the history of a context. -/
lemma step_writes {env : Env} {s s' : State} {e : ℕ × Event}
    (h : (system env).step s e = some s') {i : ℕ} {c' : Context}
    (hc : s'.contexts.get i = some c') :
    c'.conversationHistory = [] ∨ ∃ c, s.contexts.get i = some c ∧
      Writes env e.1 (Records s e i) c.conversationHistory c'.conversationHistory := by
  simp only [system] at h
  split at h
  · exact handle_writes rfl h hc
  · cases h

/-- The handlers do not set the clock. -/
lemma handle_now {env : Env} {s s' : State} {e : Event} (h : s.handle env e = some s') :
    s'.now = s.now := by
  cases e with
  | startBot roomId => exact Option.some.inj h ▸ rfl
  | stopBot roomId => exact Option.some.inj h ▸ rfl
  | hostsChanged roomId hostOnlyMode hostIdentities =>
    simp only [State.handle] at h
    split at h <;> exact Option.some.inj h ▸ rfl
  | hostQuery roomId query identity =>
    simp only [State.handle] at h
    split at h
    · exact Option.some.inj h ▸ rfl
    · split at h <;> exact Option.some.inj h ▸ rfl
  | replied id answer =>
    simp only [State.handle] at h
    split at h
    · cases h
    split at h
    · cases h
    unfold State.resume at h
    split at h
    case h_5 => cases h
    all_goals exact Option.some.inj h ▸ rfl
  | agentAnswered i userMessage botResponse userId =>
    simp only [State.handle] at h
    split at h
    · exact Option.some.inj h ▸ rfl
    · cases h

/-- A step is taken at the time of its event, not before the one of the step before. -/
lemma step_now {env : Env} {s s' : State} {e : ℕ × Event}
    (h : (system env).step s e = some s') : s.now ≤ e.1 ∧ s'.now = e.1 := by
  simp only [system] at h
  split at h
  · rename_i hle
    exact ⟨hle, handle_now h⟩
  · cases h

/-! ## The timestamps -/

/-- The turns are in order and none is from the future. -/
def UpTo (now : ℕ) (history : List ConversationTurn) : Prop :=
  InOrder history ∧ ∀ turn ∈ history, turn.timestamp ≤ now

/-- The clock may go on. -/
lemma UpTo.mono {now now' : ℕ} {history : List ConversationTurn} (h : UpTo now history)
    (hle : now ≤ now') : UpTo now' history :=
  ⟨h.1, fun turn ht => (h.2 turn ht).trans hle⟩

/-- Turns may be removed. -/
lemma UpTo.sublist {now : ℕ} {history history' : List ConversationTurn} (h : UpTo now history)
    (hsub : history'.Sublist history) : UpTo now history' :=
  ⟨h.1.sublist hsub, fun turn ht => h.2 turn (hsub.subset ht)⟩

/-- Turns of the present may be appended. -/
lemma UpTo.append {now : ℕ} {history turns : List ConversationTurn} (h : UpTo now history)
    (hnow : ∀ turn ∈ turns, turn.timestamp = now) : UpTo now (history ++ turns) := by
  refine ⟨List.pairwise_append.mpr ⟨h.1, ?_, ?_⟩, ?_⟩
  · exact List.pairwise_of_forall_mem_list fun a ha b hb => by rw [hnow a ha, hnow b hb]
  · intro a ha b hb
    rw [hnow b hb]
    exact h.2 a ha
  · intro turn ht
    rcases List.mem_append.mp ht with ht | ht
    · exact h.2 turn ht
    · exact (hnow turn ht).le

/-- The turns of a conversation that are worth keeping: at least three characters. -/
def newTurns (env : Env) (now : ℕ) (userMessage botResponse userId : String) :
    List ConversationTurn :=
  (if 3 ≤ jsLength (env.cleanForHistory userMessage) then
    [⟨env.cleanForHistory userMessage, now, some userId⟩] else []) ++
  (if 3 ≤ jsLength (env.cleanForHistory botResponse) then
    [⟨env.cleanForHistory botResponse, now, none⟩] else [])

/-- New turns are of the present. -/
lemma timestamp_of_mem_newTurns {env : Env} {now : ℕ} {userMessage botResponse userId : String}
    {turn : ConversationTurn} (h : turn ∈ newTurns env now userMessage botResponse userId) :
    turn.timestamp = now := by
  rcases List.mem_append.mp h with h | h
  · split at h
    · rw [List.mem_singleton.mp h]
    · cases h
  · split at h
    · rw [List.mem_singleton.mp h]
    · cases h

/-- The last turns, as many as are kept. -/
def lastTurns (turns : List ConversationTurn) : List ConversationTurn :=
  if 2 * MAX_CONVERSATION_TURNS < turns.length then
    turns.drop (turns.length - 2 * MAX_CONVERSATION_TURNS)
  else turns

/-- Some turns are removed. -/
lemma lastTurns_sublist (turns : List ConversationTurn) : (lastTurns turns).Sublist turns := by
  unfold lastTurns
  split
  · exact List.drop_sublist _ _
  · exact List.Sublist.refl _

/-- What is left is within the bound. -/
lemma length_lastTurns_le (turns : List ConversationTurn) :
    (lastTurns turns).length ≤ 2 * MAX_CONVERSATION_TURNS := by
  unfold lastTurns
  split
  · rw [List.length_drop]
    omega
  · omega

/-- `updateConversationHistory` drops old turns, appends the new ones and keeps the last ones. -/
lemma updateConversationHistory_eq (env : Env) (now : ℕ) (history : List ConversationTurn)
    (userMessage botResponse userId : String) :
    updateConversationHistory env now history userMessage botResponse userId =
      lastTurns ((history.filter fun turn => now - turn.timestamp < 300000) ++
        newTurns env now userMessage botResponse userId) := by
  rw [newTurns, ← List.append_assoc]
  rfl

/-- Whatever `updateConversationHistory` makes of a history. -/
lemma UpTo.update {env : Env} {now : ℕ} {history : List ConversationTurn} (h : UpTo now history)
    (userMessage botResponse userId : String) :
    UpTo now (updateConversationHistory env now history userMessage botResponse userId) := by
  rw [updateConversationHistory_eq]
  exact ((h.sublist List.filter_sublist).append fun _ => timestamp_of_mem_newTurns).sublist
    (lastTurns_sublist _)

/-- Whatever a step writes. -/
lemma UpTo.writes {env : Env} {now : ℕ} {records : Prop} {history history' : List ConversationTurn}
    (h : UpTo now history) (hw : Writes env now records history history') :
    UpTo now history' := by
  cases hw with
  | keep => exact h
  | answer userMessage botResponse userId => exact h.update userMessage botResponse userId
  | query _ query identity => exact h.append (by simp)

/-- Every history is in order and none is from the future. -/
def Dated (s : State) : Prop :=
  ∀ i c, s.contexts.get i = some c → UpTo s.now c.conversationHistory

/-- Every step keeps that. -/
lemma Dated.step {env : Env} {s s' : State} {e : ℕ × Event} (hs : Dated s)
    (h : (system env).step s e = some s') : Dated s' := by
  intro i c' hc'
  obtain ⟨hle, hnow⟩ := step_now h
  rw [hnow]
  rcases step_writes h hc' with hnil | ⟨c, hc, hw⟩
  · rw [hnil]
    exact ⟨.nil, by simp⟩
  · exact ((hs i c hc).mono hle).writes hw

/-- Nothing is remembered at first. -/
lemma dated_init (env : Env) : Dated (system env).init :=
  fun _ _ h => by cases h

/-- **The timestamps are non-decreasing** in every context and every state of every run. -/
theorem chronological_of_exec {env : Env} (es : List (ℕ × Event)) :
    (system env).AllStates Chronological (system env).init es :=
  EventSystem.allStates_of_invariant (C := fun _ _ => True) (fun _ _ _ hs _ => hs.step)
    (fun _ hs i c hc => (hs i c hc).1) (dated_init env) (EventSystem.allSteps_true _ _)

/-! ## The bound -/

/-- A step keeps the bound exactly when a host query that ends with it finds room.

**Proof sketch.** An answer of the agent is cut to the bound, and a host query adds one turn. If
it finds no room, the history it is appended to is too long afterwards. -/
lemma bounded_step_iff {env : Env} {s s' : State} {e : ℕ × Event} (hs : Bounded s)
    (h : (system env).step s e = some s') : Bounded s' ↔ HasRoom s e := by
  constructor
  · intro hs' c hrec
    rcases e with ⟨now, e⟩
    obtain ⟨id, answer, q, p, he, hq, hp, hc⟩ := recordedIn_eq_some_iff.mp hrec
    obtain rfl : e = .replied id (some answer) := he
    simp only [system] at h
    split at h
    case isFalse => cases h
    simp only [State.handle, hq, hc, hp, State.resume, Option.some.injEq] at h
    subst h
    have hlen := hs' q.context (c.recordQuery now q) (by simp [Ledger.get_modify, hc])
    simp only [Context.recordQuery, List.length_append, List.length_singleton] at hlen
    omega
  · intro hroom i c' hc'
    rcases step_writes h hc' with hnil | ⟨c, hc, hw⟩
    · simp [hnil]
    · generalize c'.conversationHistory = history' at hw
      cases hw with
      | keep => exact hs i c hc
      | answer userMessage botResponse userId =>
        rw [updateConversationHistory_eq]
        exact length_lastTurns_le _
      | query hrec query identity =>
        obtain ⟨id, answer, q, p, he, hq, hp, rfl⟩ := hrec
        have hlt := hroom c (recordedIn_eq_some_iff.mpr ⟨id, answer, q, p, he, hq, hp, hc⟩)
        rw [List.length_append, List.length_singleton]
        omega

/-- **The memory bound.** In every run every context has at most `2 * MAX_CONVERSATION_TURNS` turns
with non-decreasing timestamps in every state, exactly when every host query finds fewer turns than
that when it is recorded. -/
theorem memory_bound (env : Env) (es : List (ℕ × Event)) (s : State)
    (h : (system env).exec (system env).init es = some s) :
    (system env).AllStates (fun s => Bounded s ∧ Chronological s) (system env).init es ↔
      (system env).AllSteps HasRoom (system env).init es := by
  refine EventSystem.allStates_iff_of_step_iff (B := Dated) (fun _ _ _ hs => hs.step) ?_
    (dated_init env) ⟨fun i c hc => ?_, fun i c hc => ?_⟩ h
  rotate_left
  · cases hc
  · cases hc
  intro s e s' hd hs hstep
  rw [← bounded_step_iff hs.1 hstep]
  exact and_iff_left fun i c hc => (hd.step hstep i c hc).1

instance decidableHasRoom (s : State) (e : ℕ × Event) : Decidable (HasRoom s e) :=
  inferInstanceAs (Decidable
    (∀ c ∈ s.recordedIn e.2, c.conversationHistory.length < 2 * MAX_CONVERSATION_TURNS))

/-- A meeting in which the host asks `n` questions, which the RAG server answers; the agent answers
a participant in between. -/
def meeting (n : ℕ) : List (ℕ × Event) :=
  [(0, .startBot "a"), (0, .hostsChanged "a" true ["host"])] ++
    (List.range n).flatMap fun i =>
      [(i, .hostQuery "a" "질문" "host"), (i, .agentAnswered 0 "안녕하세요" "네, 반갑습니다" "user"),
        (i, .replied i (some "답")), (i, .replied i (some ""))]

/-- A meeting in which only the host asks. -/
def questions (n : ℕ) : List (ℕ × Event) :=
  [(0, .startBot "a"), (0, .hostsChanged "a" true ["host"])] ++
    (List.range n).flatMap fun i =>
      [(i, .hostQuery "a" "질문" "host"), (i, .replied i (some "답")), (i, .replied i (some ""))]

/-- The services of these meetings. -/
def services : Env := Env.simple IntentAnalysis.call

/-- Twenty questions with answers in between fill the memory exactly. -/
theorem memory_bound_meeting :
    ((system services).exec (system services).init (meeting 20)).map
      (fun s => (s.contexts.get 0).map (·.conversationHistory.length)) = some (some 60) ∧
    (system services).AllStates (fun s => Bounded s ∧ Chronological s) (system services).init
      (meeting 20) := by
  have hlen : ((system services).exec (system services).init (meeting 20)).map
      (fun s => (s.contexts.get 0).map (·.conversationHistory.length)) = some (some 60) := by
    decide +kernel
  obtain ⟨s, hs, -⟩ := Option.map_eq_some_iff.mp hlen
  exact ⟨hlen, (memory_bound services (meeting 20) s hs).mpr (by decide +kernel)⟩

/-- **The bound is exceeded.** Sixty-one questions of the host are all remembered. -/
theorem memory_unbounded : ¬ (system services).AllStates (fun s => Bounded s ∧ Chronological s)
    (system services).init (questions 61) := by
  intro h
  obtain ⟨s, hs, hlen⟩ := Option.map_eq_some_iff.mp (show
    ((system services).exec (system services).init (questions 61)).map
      (fun s => (s.contexts.get 0).map (·.conversationHistory.length)) = some (some 61) by
    decide +kernel)
  obtain ⟨c, hc, hlen⟩ := Option.map_eq_some_iff.mp hlen
  have hbound := (h.last hs).1 0 c hc
  rw [hlen] at hbound
  exact absurd hbound (by decide)

end ConversationMemory
