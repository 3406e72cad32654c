import AuraLive.Rag.Effects
import AuraLive.Rag.Rooms

set_option relaxedAutoImplicit false
set_option autoImplicit false

/-!
# Rooms are isolated

Every handler is local to a room (`AuraLive.Rag.Rooms`); `onModuleDestroy` works room by room.
Hence an event is not seen by the rooms it does not concern, and the client satisfies
noninterference between rooms.

## Main results

* `Rag.step_outside`, `Rag.step_inside` — an event is not seen by the rooms it does not concern,
  and is seen by those it concerns as a function of what the room saw before.
* `Rag.reachable_closed` — references never leave their room.
* `Rag.rooms_isolated` — two runs with the same events of a room leave that room in the same
  state, with the same frames sent and the same promises settled.
-/

namespace Rag

open Foundations

/-! ## Destroying the module -/

/-- The clearing of the reconnect timer of one room by `onModuleDestroy`. -/
def clearReconnect (r : RoomId) (s : RagState) : RagState :=
  match s.reconnectTimers.get r with
  | none => s
  | some t => s.clearTimeout t

/-- Clearing the reconnect timer of a room is local to the room. -/
lemma clearReconnect_local (r : RoomId) : rooms.LocalTo r (clearReconnect r) :=
  .lookup (fun s => s.reconnectTimers.get r) (·.room = r)
    (fun _ h => congrArg RoomView.reconnectTimer h)
    (fun hc h => RoomView.Closed.reconnectTimer hc _ h) (.id _ _)
    (fun _ ht => clearTimeout_local ht) (fun s h => by simp only [clearReconnect, h])
    (fun s t h => by simp only [clearReconnect, h])

/-- The loop of `onModuleDestroy` over the reconnect timers, room by room. -/
lemma clearTimers_eq (s : RagState) :
    s.reconnectTimers.entries.foldl (fun s e => s.clearTimeout e.2) s =
      s.reconnectTimers.keys.foldl (fun s r => clearReconnect r s) s := by
  have key : ∀ (l : List (RoomId × Oid)) (u : RagState),
      (∀ e ∈ l, u.reconnectTimers.get e.1 = some e.2) →
      l.foldl (fun s e => s.clearTimeout e.2) u =
        (l.map Prod.fst).foldl (fun s r => clearReconnect r s) u := by
    intro l
    induction l with
    | nil => intro u _; rfl
    | cons e l ih =>
      intro u hu
      have he : clearReconnect e.1 u = u.clearTimeout e.2 := by
        simp only [clearReconnect, hu e List.mem_cons_self]
      simp only [List.foldl_cons, List.map_cons, he]
      exact ih _ fun e' he' => hu e' (List.mem_cons_of_mem e he')
  exact key _ s fun e he => s.reconnectTimers.get_of_mem_entries he

/-- What clearing the tables does to the view of a room. -/
lemma clearTables_view (s : RagState) (r : RoomId) :
    s.clearTables.roomView r =
      { s.roomView r with reconnectTimer := none, attempts := none, buffer := none } := by
  simp [RagState.roomView]

/-- `onModuleDestroy` before it disconnects the rooms. -/
def clearAll (s : RagState) : RagState :=
  (s.reconnectTimers.entries.foldl (fun s e => s.clearTimeout e.2) s).clearTables

/-- References stay inside their rooms. -/
lemma clearAll_closed {s : RagState} (h : ∀ r, rooms.Closed r s) (r : RoomId) :
    rooms.Closed r (clearAll s) := by
  have h₁ := (Compartments.foldl_keys clearReconnect_local r s.reconnectTimers.nodup h).1 r
  change ((clearAll s).roomView r).Closed r
  rw [clearAll, clearTimers_eq, clearTables_view]
  exact { h₁ with reconnectTimer := nofun }

/-- What a room sees afterwards depends only on what it saw before. -/
lemma clearAll_same {s t : RagState} {r : RoomId} (hs : ∀ r, rooms.Closed r s)
    (ht : ∀ r, rooms.Closed r t) (h : rooms.Same r s t) :
    rooms.Same r (clearAll s) (clearAll t) := by
  have hget : s.reconnectTimers.get r = t.reconnectTimers.get r :=
    congrArg RoomView.reconnectTimer h
  have hkeys : r ∈ s.reconnectTimers.keys ↔ r ∈ t.reconnectTimers.keys := by
    rw [JsMap.mem_keys_iff, JsMap.mem_keys_iff, hget]
  have h₁ : RagState.roomView _ r = RagState.roomView _ r :=
    Compartments.foldl_keys_same clearReconnect_local s.reconnectTimers.nodup
      t.reconnectTimers.nodup hkeys hs ht h
  change (clearAll s).roomView r = (clearAll t).roomView r
  rw [clearAll, clearAll, clearTimers_eq, clearTimers_eq, clearTables_view, clearTables_view,
    JsMap.keys, JsMap.keys, h₁]

/-- `onModuleDestroy` keeps references inside their rooms. -/
lemma onModuleDestroy_closed {s : RagState} (h : ∀ r, rooms.Closed r s) (r : RoomId) :
    rooms.Closed r s.onModuleDestroy :=
  (Compartments.foldl_keys (fun r => disconnect_local (r := r)) r (JsMap.nodup _)
    (clearAll_closed h)).1 r

/-- What a room sees of `onModuleDestroy` depends only on what it saw before. -/
lemma onModuleDestroy_same {s t : RagState} {r : RoomId} (hs : ∀ r, rooms.Closed r s)
    (ht : ∀ r, rooms.Closed r t) (h : rooms.Same r s t) :
    rooms.Same r s.onModuleDestroy t.onModuleDestroy := by
  have h₁ := clearAll_same hs ht h
  have hget : (clearAll s).connections.get r = (clearAll t).connections.get r :=
    congrArg RoomView.connection h₁
  have hkeys : r ∈ (clearAll s).connections.keys ↔ r ∈ (clearAll t).connections.keys := by
    rw [JsMap.mem_keys_iff, JsMap.mem_keys_iff, hget]
  exact Compartments.foldl_keys_same (fun r => disconnect_local (r := r)) (JsMap.nodup _)
    (JsMap.nodup _) hkeys (clearAll_closed hs) (clearAll_closed ht) h₁

/-- After `onModuleDestroy` nothing is registered for any room. -/
lemma onModuleDestroy_connection {s : RagState} (h : ∀ r, rooms.Closed r s) (r : RoomId) :
    s.onModuleDestroy.connections.get r = none := by
  have hsame := (Compartments.foldl_keys (fun r => disconnect_local (r := r)) r
    (clearAll s).connections.nodup (clearAll_closed h)).2
  have hconn : _ = s.onModuleDestroy.connections.get r := congrArg RoomView.connection hsame
  rw [← hconn]
  split
  · exact disconnect_connection (clearAll s) r
  · rename_i hkeys
    have hnone := mt ((clearAll s).connections.mem_keys_iff r).mpr hkeys
    exact Option.not_isSome_iff_eq_none.mp hnone

/-! ## Steps and runs -/

/-- Whether an action concerns the room: it runs code of the room, or it is `onModuleDestroy`. -/
def Act.concerns (a : Act) (r : RoomId) : Bool := a.room = none ∨ a.room = some r

/-- An `open` concerns the room of the socket. -/
lemma Act.concerns_of_opens {a : Act} {w : Oid} (h : a.opens = some w) :
    a.concerns w.room = true := by
  cases a <;> simp_all [Act.opens, Act.concerns, Act.room]

/-- A `disconnect` concerns its room. -/
lemma Act.concerns_of_disconnects {a : Act} {r : RoomId} (h : a.disconnects = some r) :
    a.concerns r = true := by
  cases a <;> simp_all [Act.disconnects, Act.concerns, Act.room]

/-- **A step of a room is a local program.** The program depends on the state only through what
the room sees.

**Proof sketch.** One case per action. The objects the guards look up, a socket, a timer or a
report call, belong to the room of the event, so they are the same in states that look the same
through the room. -/
lemma step_local {e : Event} {r : RoomId} (hr : e.act.room = some r) {s s' : RagState}
    (hc : rooms.Closed r s) (hs : step s e = some s') :
    ∃ f, rooms.LocalTo r f ∧ s' = f s ∧
      ∀ t t', rooms.Same r s t → step t e = some t' → t' = f t := by
  obtain ⟨now, act⟩ := e
  cases act with
  | onModuleDestroy => simp [Act.room] at hr
  | connect r' ctor =>
    obtain rfl : r' = r := by simpa [Act.room] using hr
    simp only [step, Option.some.injEq] at hs ⊢
    exact ⟨_, connect_local ctor now, hs.symm, fun t t' _ ht => ht.symm⟩
  | disconnect r' =>
    obtain rfl : r' = r := by simpa [Act.room] using hr
    simp only [step, Option.some.injEq] at hs ⊢
    exact ⟨_, disconnect_local, hs.symm, fun t t' _ ht => ht.symm⟩
  | sendStatement r' text speaker startTime endTime send =>
    obtain rfl : r' = r := by simpa [Act.room] using hr
    simp only [step, Option.some.injEq] at hs ⊢
    exact ⟨_, clientStatement_local text speaker startTime endTime send now, hs.symm,
      fun t t' _ ht => ht.symm⟩
  | sendQuestion r' text send =>
    obtain rfl : r' = r := by simpa [Act.room] using hr
    simp only [step, Option.some.injEq] at hs ⊢
    exact ⟨_, ask_local .plain text send now, hs.symm, fun t t' _ ht => ht.symm⟩
  | sendQuestionWithSources r' text send =>
    obtain rfl : r' = r := by simpa [Act.room] using hr
    simp only [step, Option.some.injEq] at hs ⊢
    exact ⟨_, ask_local .withSources text send now, hs.symm, fun t t' _ ht => ht.symm⟩
  | requestReport r' =>
    obtain rfl : r' = r := by simpa [Act.room] using hr
    simp only [step, Option.some.injEq] at hs ⊢
    exact ⟨_, requestReport_local now, hs.symm, fun t t' _ ht => ht.symm⟩
  | injectMockStatements r' utterances =>
    obtain rfl : r' = r := by simpa [Act.room] using hr
    simp only [step, Option.some.injEq] at hs ⊢
    exact ⟨_, injectMockStatements_local utterances now, hs.symm, fun t t' _ ht => ht.symm⟩
  | clearBuffer r' =>
    obtain rfl : r' = r := by simpa [Act.room] using hr
    simp only [step, Option.some.injEq] at hs ⊢
    exact ⟨_, deleteBuffer_local, hs.symm, fun t t' _ ht => ht.symm⟩
  | wsOpen w send =>
    obtain rfl : w.room = r := by simpa [Act.room] using hr
    obtain ⟨k, hk, -, rfl⟩ := step_wsOpen hs
    have hv : (s.roomView w.room).sockets.get w = some k := by
      simp [RagState.roomView, JsMap.get_restrict, hk]
    obtain ⟨hp, ht⟩ := RoomView.Closed.sockets hc w k hv
    refine ⟨_, onOpen_local rfl hp ht send now, rfl, fun t t' hst htt => ?_⟩
    obtain ⟨k', hk', -, rfl⟩ := step_wsOpen htt
    rw [← sockets_get_of_same hst rfl, hk] at hk'
    rw [Option.some.inj hk']
  | wsMessage w data =>
    obtain rfl : w.room = r := by simpa [Act.room] using hr
    obtain ⟨-, -, -, -, rfl⟩ := step_wsMessage hs
    refine ⟨_, handleMessage_local data, rfl, fun t t' _ htt => ?_⟩
    obtain ⟨-, -, -, -, rfl⟩ := step_wsMessage htt
    rfl
  | wsClosing w =>
    obtain rfl : w.room = r := by simpa [Act.room] using hr
    obtain ⟨-, -, -, rfl⟩ := step_wsClosing hs
    refine ⟨_, closeSocket_local rfl, rfl, fun t t' _ htt => ?_⟩
    obtain ⟨-, -, -, rfl⟩ := step_wsClosing htt
    rfl
  | wsClose w code =>
    obtain rfl : w.room = r := by simpa [Act.room] using hr
    obtain ⟨-, -, -, -, rfl⟩ := step_wsClose hs
    refine ⟨_, onClose_local rfl code now, rfl, fun t t' _ htt => ?_⟩
    obtain ⟨-, -, -, -, rfl⟩ := step_wsClose htt
    rfl
  | timer i ext =>
    obtain rfl : i.room = r := by simpa [Act.room] using hr
    obtain ⟨tm, htm, rfl⟩ := step_timer hs
    obtain ⟨hmem, rfl⟩ := findTimer_mem htm
    have hv : tm ∈ (s.roomView tm.id.room).timers := by simp [RagState.roomView, hmem]
    refine ⟨_, (clearTimeout_local rfl).comp
      (fire_local rfl (RoomView.Closed.timers hc tm hv) ext now), rfl, fun t t' hst htt => ?_⟩
    obtain ⟨tm', htm', rfl⟩ := step_timer htt
    rw [← findTimer_of_same hst rfl, htm] at htm'
    rw [Option.some.inj htm']
  | httpResponse call response =>
    obtain rfl : call.room = r := by simpa [Act.room] using hr
    obtain ⟨c, hcall, -, rfl⟩ := step_httpResponse hs
    refine ⟨_, httpResponse_local rfl c response, rfl, fun t t' hst htt => ?_⟩
    obtain ⟨c', hcall', -, rfl⟩ := step_httpResponse htt
    rw [← reportCalls_get_of_same hst rfl, hcall] at hcall'
    rw [Option.some.inj hcall']

/-- Nothing refers to anything in the initial state. -/
lemma init_closed (r : RoomId) : rooms.Closed r client.init where
  connection := by simp [client, RagState.init, RagState.roomView]
  contexts := by simp [client, RagState.init, RagState.roomView, JsMap.get_restrict]
  sockets := by simp [client, RagState.init, RagState.roomView, JsMap.get_restrict]
  report := by simp [client, RagState.init, RagState.roomView]
  reconnectTimer := by simp [client, RagState.init, RagState.roomView]
  timers := by simp [client, RagState.init, RagState.roomView]

/-- A step keeps references inside their rooms. -/
lemma step_closed {e : Event} {s s' : RagState} (hc : ∀ r, rooms.Closed r s)
    (hs : step s e = some s') (r : RoomId) : rooms.Closed r s' := by
  cases hr : e.act.room with
  | some r' =>
    obtain ⟨f, hf, rfl, -⟩ := step_local hr (hc r') hs
    exact hf.closed_all hc r
  | none =>
    obtain ⟨now, act⟩ := e
    cases act <;> simp only [Act.room, reduceCtorEq] at hr
    obtain rfl : s.onModuleDestroy = s' := by simpa [step] using hs
    exact onModuleDestroy_closed hc r

/-- **References never leave their room.** -/
theorem reachable_closed {s : RagState} (h : client.Reachable s) (r : RoomId) :
    rooms.Closed r s :=
  EventSystem.reachable_invariant (I := fun s => ∀ r, rooms.Closed r s) init_closed
    (fun _ _ _ hc hs => step_closed hc hs) h r

/-- An event is not seen by the rooms it does not concern. -/
lemma step_outside {e : Event} {r : RoomId} (hr : e.act.concerns r = false) {s s' : RagState}
    (hc : ∀ r, rooms.Closed r s) (hs : step s e = some s') : s.roomView r = s'.roomView r := by
  cases hr' : e.act.room with
  | none => simp [Act.concerns, hr'] at hr
  | some r' =>
    have hne : r ≠ r' := by
      rintro rfl
      simp [Act.concerns, hr'] at hr
    obtain ⟨f, hf, rfl, -⟩ := step_local hr' (hc r') hs
    exact hf.outside hne (hc r')

/-- An event is seen by a room it concerns as a function of what the room saw before. -/
lemma step_inside {e : Event} {r : RoomId} (hr : e.act.concerns r = true)
    {s t s' t' : RagState} (hs : ∀ r, rooms.Closed r s) (ht : ∀ r, rooms.Closed r t)
    (h : s.roomView r = t.roomView r) (hs' : step s e = some s') (ht' : step t e = some t') :
    s'.roomView r = t'.roomView r := by
  cases hr' : e.act.room with
  | none =>
    obtain ⟨now, act⟩ := e
    cases act <;> simp only [Act.room, reduceCtorEq] at hr'
    obtain rfl : s.onModuleDestroy = s' := by simpa [step] using hs'
    obtain rfl : t.onModuleDestroy = t' := by simpa [step] using ht'
    exact onModuleDestroy_same hs ht h
  | some r' =>
    obtain rfl : r' = r := by simpa [Act.concerns, hr'] using hr
    obtain ⟨f, hf, rfl, hf'⟩ := step_local hr' (hs r') hs'
    rw [hf' t t' h ht']
    exact hf.inside (hs r') h

/-- **Rooms are isolated.** Two runs from the start that agree on the events of a room, clock
readings and outcomes of foreign calls included, and have arbitrary events of other rooms in
between, leave the room with the same connection, pending questions and reports, reconnect timer,
attempt count and statement buffer; the same frames were sent on its sockets and the same promises
were settled with the same values.

**Proof sketch.** `Rag.step_outside` and `Rag.step_inside` are the two conditions of
`Foundations.EventSystem.Unwinding`, with `Rag.step_closed` as the invariant. -/
theorem rooms_isolated (r : RoomId) {es₁ es₂ : List Event} {s t : RagState}
    (h₁ : client.exec client.init es₁ = some s) (h₂ : client.exec client.init es₂ = some t)
    (h : es₁.filter (fun e => e.act.concerns r) = es₂.filter fun e => e.act.concerns r) :
    s.roomView r = t.roomView r := by
  have U : client.Unwinding (fun s => ∀ r, rooms.Closed r s)
      (fun s t => s.roomView r = t.roomView r) fun e => e.act.concerns r :=
    { symm := fun h => h.symm
      trans := fun h h' => h.trans h'
      inv := fun hc hs => step_closed hc hs
      silent := fun hc hv hs => step_outside hv hc hs
      visible := fun hs ht hv h hs' ht' => step_inside hv hs ht h hs' ht' }
  exact U.exec_rel init_closed init_closed rfl h h₁ h₂

/-- Two rooms, one of which is also connected and disconnected while the other one sends a
statement. -/
theorem rooms_isolated_two_rooms :
    ∃ s t,
      client.exec client.init [⟨0, .connect "a" .ok⟩, ⟨5, .connect "b" .ok⟩, ⟨6, .disconnect "a"⟩,
        ⟨9, .wsOpen ⟨"b", 1⟩ .ok⟩, ⟨20, .sendStatement "b" "hi" "kim" none none .ok⟩] = some s ∧
      client.exec client.init [⟨5, .connect "b" .ok⟩, ⟨9, .wsOpen ⟨"b", 1⟩ .ok⟩,
        ⟨20, .sendStatement "b" "hi" "kim" none none .ok⟩] = some t ∧
      s.roomView "b" = t.roomView "b" := by
  have hs : (client.exec client.init [⟨0, .connect "a" .ok⟩, ⟨5, .connect "b" .ok⟩,
      ⟨6, .disconnect "a"⟩, ⟨9, .wsOpen ⟨"b", 1⟩ .ok⟩,
      ⟨20, .sendStatement "b" "hi" "kim" none none .ok⟩]).isSome = true := by decide
  have ht : (client.exec client.init [⟨5, .connect "b" .ok⟩, ⟨9, .wsOpen ⟨"b", 1⟩ .ok⟩,
      ⟨20, .sendStatement "b" "hi" "kim" none none .ok⟩]).isSome = true := by decide
  obtain ⟨s, hs⟩ := Option.isSome_iff_exists.mp hs
  obtain ⟨t, ht⟩ := Option.isSome_iff_exists.mp ht
  exact ⟨s, t, hs, ht, rooms_isolated "b" hs ht rfl⟩

end Rag
