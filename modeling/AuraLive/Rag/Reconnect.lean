import AuraLive.Rag.Effects
import AuraLive.Rag.Isolation

set_option relaxedAutoImplicit false
set_option autoImplicit false

/-!
# Reconnecting

A socket that closes with a code other than 1000 arms the reconnect timer of its room, unless one
is armed already or three attempts have failed. The attempt count is reset when the client gives
up, so it does not bound the attempts by itself. What does is a budget: every explicit `connect`
pays for one socket, and a socket pays for three attempts when it closes.

The close handler works by room id. Several sockets of a room can be alive at the same time, after
overlapping `connect` calls or a `disconnect` followed by a `connect`, and the close of one of them
can remove the registered connection of another.

## Main definitions

* `Rag.RagState.reconnects` — the armed reconnect timers of a room.
* `Rag.ReconnectOk` — there is at most one, and it is the one in `reconnectTimers`.
* `Rag.Budget` — the budget of reconnect attempts.
* `Rag.reconnectRuns` — the client with the numbers of explicit connects and automatic attempts of
  a room.

## Main results

* `Rag.step_reconnectOk` — the invariant of reconnect timers.
* `Rag.reconnects_bounded` — at most three automatic attempts for each explicit `connect`.
* `Rag.close_keeps_connection_iff` — when the close of another socket keeps the connection.
-/

namespace Rag

open Foundations

/-! ## Reconnect timers -/

/-- Whether a timer is a reconnect timer. -/
def TimerKind.isReconnect : TimerKind → Bool
  | .reconnect => true
  | _ => false

/-- The armed reconnect timers of a room. -/
def RagState.reconnects (s : RagState) (r : RoomId) : List Timer :=
  s.timers.filter fun tm => tm.id.room = r && tm.kind.isReconnect

/-- At most one reconnect timer of the room is armed, and it is the one in `reconnectTimers`. -/
def ReconnectOk (r : RoomId) (s : RagState) : Prop :=
  s.reconnects r = [] ∨ ∃ tm, s.reconnects r = [tm] ∧ s.reconnectTimers.get r = some tm.id

section ReconnectTimers

variable {r : RoomId} {s s' : RagState}

/-- At most one reconnect timer. -/
lemma ReconnectOk.length_le (h : ReconnectOk r s) : (s.reconnects r).length ≤ 1 := by
  rcases h with h | ⟨tm, h, -⟩ <;> simp [h]

/-- No reconnect timer is armed without an entry. -/
lemma ReconnectOk.nil_of_none (h : ReconnectOk r s) (hn : s.reconnectTimers.get r = none) :
    s.reconnects r = [] := by
  rcases h with h | ⟨tm, -, ht⟩
  · exact h
  · rw [hn] at ht
    cases ht

/-- The timers may be disarmed. -/
lemma ReconnectOk.sublist (h : ReconnectOk r s) (hsub : (s'.reconnects r).Sublist (s.reconnects r))
    (hget : s'.reconnectTimers.get r = s.reconnectTimers.get r) : ReconnectOk r s' := by
  rcases h with h | ⟨tm, h, ht⟩
  · exact .inl (List.sublist_nil.mp (h ▸ hsub))
  · rw [h] at hsub
    rcases List.sublist_cons_iff.mp hsub with h' | ⟨l, h', hl⟩
    · exact .inl (List.sublist_nil.mp h')
    · rw [List.sublist_nil.mp hl] at h'
      exact .inr ⟨tm, h', hget.trans ht⟩

/-- Reconnect timers are only disarmed by a program that does not arm one. -/
lemma Effects.reconnects_sublist {T : List Tag} (h : Effects T s s')
    (hT : Tag.avoid T [.armReconnect] = true) (r : RoomId) :
    (s'.reconnects r).Sublist (s.reconnects r) := by
  refine Footprint.rel (R := fun s s' => (s'.reconnects r).Sublist (s.reconnects r))
    (fun _ => .refl _) (fun h₁ h₂ => h₂.trans h₁) (fun a s ha => ?_) h
  have := avoids hT ha
  cases a with
  | setTimeout r' kind due =>
    have hk : kind.isReconnect = false := by cases kind <;> first | rfl | cases this
    simp [Effect.apply, RagState.reconnects, hk]
  | newSocket r' promise due => simp [Effect.apply, RagState.reconnects, TimerKind.isReconnect]
  | clearTimeout t => exact List.filter_sublist.filter _
  | _ => exact .refl _

/-- A program that leaves the reconnect timers of all rooms alone keeps the invariant. -/
lemma ReconnectOk.effects {T : List Tag} (h : ReconnectOk r s) (heff : Effects T s s')
    (hT : Tag.avoid T [.armReconnect] = true)
    (hT' : Tag.avoid T [.setReconnectTimer, .deleteReconnectTimer, .clearTables] = true) :
    ReconnectOk r s' :=
  h.sublist (heff.reconnects_sublist hT r) (by rw [heff.reconnectTimers_eq hT'])

/-- The reconnect timers of a room are part of what belongs to it. -/
lemma reconnects_of_same (h : rooms.Same r s s') : s.reconnects r = s'.reconnects r := by
  have htm : s.timers.filter (·.id.room = r) = s'.timers.filter (·.id.room = r) :=
    congrArg RoomView.timers h
  have key : ∀ u : RagState, u.reconnects r =
      (u.timers.filter (·.id.room = r)).filter (·.kind.isReconnect) :=
    fun u => by simp only [RagState.reconnects, List.filter_filter, Bool.and_comm]
  rw [key, key, htm]

/-- What `scheduleReconnect` does: nothing, give up, or arm the timer of the room. -/
lemma scheduleReconnect_cases (s : RagState) (r : RoomId) (now : ℕ) :
    (s.reconnectTimers.has r = true ∧ s.scheduleReconnect r now = s) ∨
    (s.reconnectTimers.has r = false ∧
      maxReconnectAttempts ≤ (s.reconnectAttemptCounts.get r).getD 0 ∧
      s.scheduleReconnect r now = (s.deleteConnection r).deleteAttempts r) ∨
    (s.reconnectTimers.has r = false ∧
      (s.reconnectAttemptCounts.get r).getD 0 < maxReconnectAttempts ∧
      s.scheduleReconnect r now =
        ((s.setAttempts r ((s.reconnectAttemptCounts.get r).getD 0 + 1)).setTimeout r .reconnect
          (now + reconnectDelay)).setReconnectTimer r (s.freshId r)) := by
  unfold RagState.scheduleReconnect
  cases hhas : s.reconnectTimers.has r with
  | true => exact .inl ⟨rfl, if_pos rfl⟩
  | false =>
    by_cases hn : maxReconnectAttempts ≤ (s.reconnectAttemptCounts.get r).getD 0
    · exact .inr (.inl ⟨rfl, hn, by simp [hn]⟩)
    · exact .inr (.inr ⟨rfl, by omega, by simp [hn]⟩)

/-- Arming the timer of the room. -/
lemma armReconnect_reconnects (s : RagState) (r : RoomId) (n due : ℕ) (t : Oid) :
    (((s.setAttempts r n).setTimeout r .reconnect due).setReconnectTimer r t).reconnects r =
      s.reconnects r ++ [⟨s.freshId r, .reconnect, due⟩] := by
  simp [RagState.reconnects, TimerKind.isReconnect, RagState.freshId]

/-- `scheduleReconnect` keeps the invariant. -/
lemma scheduleReconnect_ok (h : ReconnectOk r s) (now : ℕ) :
    ReconnectOk r (s.scheduleReconnect r now) := by
  rcases scheduleReconnect_cases s r now with ⟨-, he⟩ | ⟨-, -, he⟩ | ⟨hhas, -, he⟩
  · rw [he]
    exact h
  · rw [he]
    exact h
  · have hnil : s.reconnects r = [] := h.nil_of_none (by simpa [JsMap.has] using hhas)
    rw [he]
    exact .inr ⟨_, by rw [armReconnect_reconnects, hnil]; rfl, by simp⟩

/-- A reconnect timer that fires is the only one of its room. -/
lemma fired_reconnects {t : Oid} {tm : Timer} (h : ReconnectOk t.room s)
    (htm : s.findTimer t = some tm) (hk : tm.kind = .reconnect) :
    s.reconnects t.room = [tm] ∧ (s.clearTimeout t).reconnects t.room = [] := by
  obtain ⟨hmem, hid⟩ := findTimer_mem htm
  have hin : tm ∈ s.reconnects t.room :=
    List.mem_filter.mpr ⟨hmem, by simp [hid, hk, TimerKind.isReconnect]⟩
  rcases h with h | ⟨tm', h, -⟩
  · rw [h] at hin
    cases hin
  · rw [h, List.mem_singleton] at hin
    subst hin
    refine ⟨h, ?_⟩
    have : (s.clearTimeout t).reconnects t.room =
        (s.reconnects t.room).filter fun tm => tm.id ≠ t := by
      simp only [RagState.reconnects, RagState.clearTimeout_timers, List.filter_filter,
        Bool.and_comm]
    rw [this, h]
    simp [hid]

/-- `disconnect` disarms the reconnect timer and forgets it. -/
lemma cancelReconnect_reconnects (h : ReconnectOk r s) :
    (s.cancelReconnect r).reconnects r = [] ∧
      (s.cancelReconnect r).reconnectTimers.get r = none := by
  unfold RagState.cancelReconnect
  cases hget : s.reconnectTimers.get r with
  | none => exact ⟨h.nil_of_none hget, hget⟩
  | some t =>
    refine ⟨?_, by simp⟩
    have hclear : (((s.clearTimeout t).deleteReconnectTimer r).deleteAttempts r).reconnects r =
        (s.reconnects r).filter fun tm => tm.id ≠ t := by
      simp only [RagState.reconnects, RagState.deleteAttempts_timers,
        RagState.deleteReconnectTimer_timers, RagState.clearTimeout_timers, List.filter_filter,
        Bool.and_comm]
    rw [hclear]
    rcases h with h | ⟨tm, h, ht⟩
    · simp [h]
    · rw [hget] at ht
      simp [h, Option.some.inj ht]

/-- `disconnect` disarms the reconnect timer. -/
lemma disconnect_reconnects (h : ReconnectOk r s) :
    (s.disconnect r).reconnects r = [] ∧ (s.disconnect r).reconnectTimers.get r = none := by
  obtain ⟨hnil, hget⟩ := cancelReconnect_reconnects h
  rw [disconnect_eq]
  cases s.connections.get r with
  | none => exact ⟨hnil, hget⟩
  | some w =>
    have heff := dropConnection_effects (s.cancelReconnect r) r w
    refine ⟨List.sublist_nil.mp (hnil ▸ heff.reconnects_sublist rfl r), ?_⟩
    dsimp only
    rw [heff.reconnectTimers_eq rfl, hget]

/-- Disarming the timers of a list of entries. -/
lemma foldl_clearTimeout_timers (l : List (RoomId × Oid)) (s : RagState) :
    (l.foldl (fun s e => s.clearTimeout e.2) s).timers =
      s.timers.filter fun tm => tm.id ∉ l.map Prod.snd := by
  induction l generalizing s with
  | nil => simp
  | cons e l ih =>
    rw [List.foldl_cons, ih, RagState.clearTimeout_timers, List.filter_filter]
    refine List.filter_congr fun tm _ => ?_
    by_cases hid : tm.id = e.2 <;> simp [hid]

/-- `onModuleDestroy` disarms the reconnect timer of every room. -/
lemma onModuleDestroy_reconnects (h : ReconnectOk r s) : s.onModuleDestroy.reconnects r = [] := by
  have hclear : (clearAll s).reconnects r = [] := by
    have hfilter : (clearAll s).reconnects r =
        (s.reconnects r).filter fun tm => tm.id ∉ s.reconnectTimers.entries.map Prod.snd := by
      simp only [clearAll, RagState.reconnects, RagState.clearTables_timers,
        foldl_clearTimeout_timers, List.filter_filter, Bool.and_comm]
    rcases h with h | ⟨tm, h, ht⟩
    · simp [hfilter, h]
    · have hmem : tm.id ∈ s.reconnectTimers.entries.map Prod.snd :=
        List.mem_map.mpr ⟨_, s.reconnectTimers.mem_entries_of_get ht, rfl⟩
      simp only [hfilter, h, List.filter_cons, hmem, not_true_eq_false, decide_false,
        Bool.false_eq_true, if_false, List.filter_nil]
  have heff : Effects _ (clearAll s) s.onModuleDestroy :=
    .foldl (fun s r => disconnect_effects s r) _ _
  exact List.sublist_nil.mp (hclear ▸ heff.reconnects_sublist rfl r)

/-- **At most one reconnect timer.** A step keeps the invariant.

**Proof sketch.** An event of another room changes nothing of this one. Of those of the room, one
that disconnects clears the timer, a close schedules one after it has cleared the old one, and the
timer that fires removes itself. All others have no operation on reconnect timers in their
footprint. -/
theorem step_reconnectOk {e : Event} (hc : ∀ r, rooms.Closed r s) (h : ReconnectOk r s)
    (hs : step s e = some s') : ReconnectOk r s' := by
  by_cases hr : e.act.concerns r = true
  swap
  · have hsame : rooms.Same r s s' := step_outside (by simpa using hr) hc hs
    have hget : s'.reconnectTimers.get r = s.reconnectTimers.get r :=
      (congrArg RoomView.reconnectTimer hsame).symm
    exact h.sublist (reconnects_of_same hsame ▸ .refl _) hget
  have heff := step_effects hs
  obtain ⟨now, act⟩ := e
  cases act with
  | disconnect r' =>
    obtain rfl : r' = r := by simpa [Act.concerns, Act.room] using hr
    obtain rfl := Option.some.inj hs
    exact .inl (disconnect_reconnects h).1
  | onModuleDestroy =>
    obtain rfl := Option.some.inj hs
    exact .inl (onModuleDestroy_reconnects h)
  | wsClose w code =>
    obtain rfl : w.room = r := by simpa [Act.concerns, Act.room] using hr
    obtain ⟨k, -, -, -, rfl⟩ := step_wsClose hs
    have h' : ReconnectOk w.room (s.markClosed w) := h
    unfold RagState.onClose
    dsimp only
    split
    · exact scheduleReconnect_ok h' now
    · exact h'
  | timer t ext =>
    obtain rfl : t.room = r := by simpa [Act.concerns, Act.room] using hr
    obtain ⟨tm, htm, rfl⟩ := step_timer hs
    simp only [footprint, htm, Option.map_some, Option.getD_some] at heff
    cases hk : tm.kind with
    | reconnect =>
      have hnil := (fired_reconnects h htm hk).2
      have hfire := fire_effects (s.clearTimeout t) tm ext now
      rw [hk] at hfire
      exact .inl (List.sublist_nil.mp (hnil ▸ hfire.reconnects_sublist rfl t.room))
    | connection w | request kind w text q | report call | statementRetry st n | flushNext rest =>
      rw [hk] at heff
      exact h.effects heff rfl rfl
  | _ => exact h.effects heff rfl rfl

end ReconnectTimers

/-! ## The budget of reconnect attempts -/

/-- The number of sockets of a room that have not closed. -/
def RagState.live (s : RagState) (r : RoomId) : ℕ :=
  s.sockets.total fun w k => if w.room = r ∧ k.readyState ≠ .CLOSED then 1 else 0

/-- The failed attempts counted for a room. -/
def RagState.attempts (s : RagState) (r : RoomId) : ℕ := (s.reconnectAttemptCounts.get r).getD 0

/-- The budget of a room after `k` explicit connects and `a` automatic attempts. A live socket is
worth three attempts, an armed timer the attempt it will make and the socket this creates; `lost`
counts the sockets and timers that were lost without use. What is spent exceeds what was paid by at
most the failed attempts counted, and these are covered by something live, armed or lost. -/
def Budget (r : RoomId) (s : RagState) (k a : ℕ) : Prop :=
  ∃ lost, a + 4 * (s.reconnects r).length + 3 * s.live r + 3 * lost ≤ 3 * k + s.attempts r ∧
    s.attempts r ≤ 3 ∧ (s.attempts r = 0 ∨ 1 ≤ s.live r + (s.reconnects r).length + lost)

section Budget

variable {r : RoomId} {s s' : RagState} {k a : ℕ}

/-- The budget bounds the attempts made and due. -/
lemma Budget.le (h : Budget r s k a) : a + (s.reconnects r).length ≤ 3 * k := by
  obtain ⟨lost, hle, hcount, hcover⟩ := h
  omega

/-- Losing timers and sockets keeps within the budget. -/
lemma Budget.lose (h : Budget r s k a) (hr : (s'.reconnects r).length ≤ (s.reconnects r).length)
    (hl : s'.live r ≤ s.live r) (hn : s'.attempts r = s.attempts r) : Budget r s' k a := by
  obtain ⟨lost, hle, hcount, hcover⟩ := h
  refine ⟨lost + ((s.reconnects r).length - (s'.reconnects r).length) + (s.live r - s'.live r), ?_⟩
  rw [hn]
  omega

/-- An explicit `connect` creates at most one socket. -/
lemma Budget.connect (h : Budget r s k a) (hr : s'.reconnects r = s.reconnects r)
    (hl : s'.live r ≤ s.live r + 1) (hn : s'.attempts r = s.attempts r) :
    Budget r s' (k + 1) a := by
  obtain ⟨lost, hle, hcount, hcover⟩ := h
  refine ⟨lost + (s.live r + 1 - s'.live r), ?_⟩
  rw [hn, hr]
  omega

/-- An armed timer pays for the attempt it makes and the socket this creates. -/
lemma Budget.attempt (h : Budget r s k a) (hr : (s.reconnects r).length = 1)
    (hr' : (s'.reconnects r).length = 0) (hl : s'.live r ≤ s.live r + 1)
    (hn : s'.attempts r = s.attempts r) : Budget r s' k (a + 1) := by
  obtain ⟨lost, hle, hcount, hcover⟩ := h
  refine ⟨lost + (s.live r + 1 - s'.live r), ?_⟩
  rw [hn]
  omega

/-- A socket that closes pays for arming a timer. -/
lemma Budget.arm (h : Budget r s k a) (hr : (s.reconnects r).length = 0)
    (hr' : (s'.reconnects r).length = 1) (hl : s'.live r + 1 = s.live r) (hlt : s.attempts r < 3)
    (hn : s'.attempts r = s.attempts r + 1) : Budget r s' k a := by
  obtain ⟨lost, hle, hcount, hcover⟩ := h
  refine ⟨lost, ?_⟩
  omega

/-- A socket that closes pays for the attempts forgotten when the client gives up. -/
lemma Budget.giveUp (h : Budget r s k a) (hr : s'.reconnects r = s.reconnects r)
    (hl : s'.live r + 1 = s.live r) (hge : 3 ≤ s.attempts r) (hn : s'.attempts r = 0) :
    Budget r s' k a := by
  obtain ⟨lost, hle, hcount, hcover⟩ := h
  refine ⟨lost, ?_⟩
  rw [hr]
  omega

/-- Changing a socket without reviving it creates no live socket. -/
lemma live_update_le (s : RagState) (w : Oid) {f : Socket → Socket}
    (hf : ∀ k, (f k).readyState ≠ .CLOSED → k.readyState ≠ .CLOSED) :
    RagState.live { s with sockets := s.sockets.update w f } r ≤ s.live r := by
  unfold RagState.live
  cases hk : s.sockets.get w with
  | none => exact (s.sockets.total_update_of_none hk _ f).le
  | some k =>
    have h := s.sockets.total_update hk
      (fun w k => if w.room = r ∧ k.readyState ≠ .CLOSED then 1 else 0) f
    have hw : (if w.room = r ∧ (f k).readyState ≠ .CLOSED then 1 else 0) ≤
        if w.room = r ∧ k.readyState ≠ .CLOSED then 1 else 0 := by
      split_ifs with h₁ h₂
      · exact le_rfl
      · exact absurd ⟨h₁.1, hf k h₁.2⟩ h₂
      · exact Nat.zero_le _
      · exact le_rfl
    dsimp only at h ⊢
    omega

/-- A program that creates no socket creates no live one. -/
lemma Effects.live_le {T : List Tag} (h : Effects T s s')
    (hT : Tag.avoid T [.newSocket, .markOpen] = true) (r : RoomId) :
    s'.live r ≤ s.live r := by
  refine Footprint.rel (R := fun s s' => s'.live r ≤ s.live r) (fun _ => le_rfl)
    (fun h₁ h₂ => h₂.trans h₁) (fun a s ha => ?_) h
  have := avoids hT ha
  cases a with
  | newSocket r' promise due => cases this
  | markOpen w => cases this
  | markClosed w => exact live_update_le s w fun _ h => absurd rfl h
  | closeSocket w =>
    refine live_update_le s w fun k h => ?_
    unfold Socket.close at h
    cases hk : k.readyState <;> simp_all
  | _ => exact le_rfl

/-- A socket that closes is no longer live. -/
lemma markClosed_live {w : Oid} {c : Socket} (hc : s.sockets.get w = some c)
    (hlive : c.readyState ≠ .CLOSED) : (s.markClosed w).live w.room + 1 = s.live w.room := by
  have h := s.sockets.total_update hc
    (fun w' k => if w'.room = w.room ∧ k.readyState ≠ .CLOSED then 1 else 0)
    (fun k => { k with readyState := .CLOSED })
  simpa [hlive, RagState.live] using h

/-- `connect` creates at most one socket. -/
lemma connect_live (s : RagState) (ctor : CallResult) (now : ℕ) :
    (s.connect r ctor now).live r ≤ s.live r + 1 := by
  unfold RagState.connect
  cases s.openSocket r with
  | some w => exact Nat.le_succ _
  | none =>
    cases ctor with
    | threw message => exact Nat.le_succ _
    | ok =>
      have h := (s.newPromise r .connect).sockets.total_set_le ((s.newPromise r .connect).freshId r)
        (fun w k => if w.room = r ∧ k.readyState ≠ .CLOSED then 1 else 0)
        ⟨.CONNECTING, false, s.freshId r, ⟨r, (s.newPromise r .connect).fresh r + 1⟩⟩
      simpa [RagState.freshId, RagState.live] using h

/-- `connect` leaves the reconnect timers alone. -/
lemma connect_reconnects (s : RagState) (r' : RoomId) (ctor : CallResult) (now : ℕ) :
    (s.connect r' ctor now).reconnects r = s.reconnects r := by
  unfold RagState.connect
  cases s.openSocket r' with
  | some w => rfl
  | none =>
    cases ctor with
    | threw message => rfl
    | ok => simp [RagState.reconnects, TimerKind.isReconnect]

/-- The budget of a room is about what belongs to it. -/
lemma Budget.of_same (h : Budget r s k a) (hs : rooms.Same r s s') : Budget r s' k a := by
  have hn : s'.attempts r = s.attempts r := by
    have : s.reconnectAttemptCounts.get r = s'.reconnectAttemptCounts.get r :=
      congrArg RoomView.attempts hs
    simp only [RagState.attempts, this]
  have hl : s'.live r = s.live r := by
    have hview : s.sockets.restrict (·.room = r) = s'.sockets.restrict (·.room = r) :=
      congrArg RoomView.sockets hs
    have key : ∀ u : RagState, u.live r = (u.sockets.restrict (·.room = r)).total
        fun w k => if w.room = r ∧ k.readyState ≠ .CLOSED then 1 else 0 :=
      fun u => u.sockets.total_eq_restrict _ _ fun w k hw => by simp_all
    rw [key, key, hview]
  exact h.lose (by rw [reconnects_of_same hs]) hl.le hn

/-- A program that neither arms a reconnect timer nor creates a socket nor counts attempts. -/
lemma Budget.effects {T : List Tag} (h : Budget r s k a) (heff : Effects T s s')
    (hT : Tag.avoid T [.armReconnect] = true)
    (hT' : Tag.avoid T [.newSocket, .markOpen] = true)
    (hT'' : Tag.avoid T [.setAttempts, .deleteAttempts, .clearTables] = true) :
    Budget r s' k a :=
  h.lose (heff.reconnects_sublist hT r).length_le (heff.live_le hT' r)
    (by simp only [RagState.attempts, heff.attempts_eq hT''])

/-- The close of a socket keeps within the budget. -/
lemma onClose_budget {w : Oid} {c : Socket} (hc : s.sockets.get w = some c)
    (hlive : c.readyState ≠ .CLOSED) (hok : ReconnectOk w.room s) (h : Budget w.room s k a)
    (code now : ℕ) : Budget w.room (s.onClose w code now) k a := by
  have hl : (s.markClosed w).live w.room + 1 = s.live w.room := markClosed_live hc hlive
  unfold RagState.onClose
  dsimp only
  split
  · rcases scheduleReconnect_cases (s.markClosed w) w.room now with
      ⟨-, he⟩ | ⟨-, hge, he⟩ | ⟨hhas, hlt, he⟩
    · rw [he]
      exact h.lose le_rfl (by omega) rfl
    · rw [he]
      exact h.giveUp rfl hl hge (by simp [RagState.attempts])
    · have hnil : s.reconnects w.room = [] := hok.nil_of_none (by simpa [JsMap.has] using hhas)
      rw [he]
      refine h.arm (by rw [hnil]; rfl) ?_ hl hlt (by simp [RagState.attempts])
      have hnil' : (s.markClosed w).reconnects w.room = [] := hnil
      rw [armReconnect_reconnects, hnil']
      rfl
  · exact h.lose le_rfl (by change (s.markClosed w).live w.room ≤ _; omega) rfl

end Budget

/-! ## Bounded reconnection -/

/-- The numbers of explicit `connect` calls and of automatic reconnect attempts of a room. -/
def reconnectCounts (r : RoomId) (s : RagState) (e : Event) (c : ℕ × ℕ) : ℕ × ℕ :=
  match e.act with
  | .connect r' _ => if r' = r then (c.1 + 1, c.2) else c
  | .timer t _ =>
    if t.room = r ∧ (s.findTimer t).any (fun tm => tm.kind.isReconnect) = true then
      (c.1, c.2 + 1)
    else c
  | _ => c

/-- The client with these numbers as a history variable. -/
def reconnectRuns (r : RoomId) : EventSystem (RagState × (ℕ × ℕ)) Event :=
  client.withHistory (reconnectCounts r) (0, 0)

/-- The event is not the opening of a socket of the room, nor a `disconnect` of the room, nor the
destruction of the module. -/
def NeverOpens (r : RoomId) (e : Event) : Prop :=
  (∀ w ∈ e.act.opens, w.room ≠ r) ∧ e.act.disconnects ≠ some r ∧ e.act.room ≠ none

instance (r : RoomId) (e : Event) : Decidable (NeverOpens r e) :=
  inferInstanceAs (Decidable ((∀ w ∈ e.act.opens, w.room ≠ r) ∧ e.act.disconnects ≠ some r ∧
    e.act.room ≠ none))

/-- A step keeps within the budget.

**Proof sketch.** As for the invariant of the reconnect timers: events of other rooms change
nothing, a call of `connect` and a timer that fires are counted, a close takes an attempt from the
budget or gives up, and the other events neither connect nor schedule. -/
lemma step_budget {r : RoomId} {s s' : RagState} {e : Event} {c : ℕ × ℕ}
    (hc : ∀ r, rooms.Closed r s) (hok : ReconnectOk r s) (h : Budget r s c.1 c.2)
    (hn : NeverOpens r e) (hs : step s e = some s') :
    Budget r s' (reconnectCounts r s e c).1 (reconnectCounts r s e c).2 := by
  by_cases hr : e.act.concerns r = true
  swap
  · have hsame : rooms.Same r s s' := step_outside (by simpa using hr) hc hs
    have hcounts : reconnectCounts r s e c = c := by
      obtain ⟨now, act⟩ := e
      cases act <;> simp_all [reconnectCounts, Act.concerns, Act.room]
    rw [hcounts]
    exact h.of_same hsame
  have heff := step_effects hs
  obtain ⟨now, act⟩ := e
  cases act with
  | connect r' ctor =>
    obtain rfl : r' = r := by simpa [Act.concerns, Act.room] using hr
    obtain rfl := Option.some.inj hs
    have hn : (s.connect r' ctor now).attempts r' = s.attempts r' := by
      simp only [RagState.attempts, (connect_effects s r' ctor now).attempts_eq rfl]
    simp only [reconnectCounts, if_true]
    exact h.connect (connect_reconnects s r' ctor now) (connect_live s ctor now) hn
  | disconnect r' =>
    exact absurd (by simpa [Act.concerns, Act.room, Act.disconnects] using hr) hn.2.1
  | onModuleDestroy => exact absurd rfl hn.2.2
  | wsOpen w send =>
    exact absurd (by simpa [Act.concerns, Act.room] using hr) (hn.1 w rfl)
  | wsClose w code =>
    obtain rfl : w.room = r := by simpa [Act.concerns, Act.room] using hr
    obtain ⟨k, hk, hlive, -, rfl⟩ := step_wsClose hs
    exact onClose_budget hk hlive hok h code now
  | timer t ext =>
    obtain rfl : t.room = r := by simpa [Act.concerns, Act.room] using hr
    obtain ⟨tm, htm, rfl⟩ := step_timer hs
    simp only [footprint, htm, Option.map_some, Option.getD_some] at heff
    simp only [reconnectCounts, htm, Option.any_some, true_and]
    cases hk : tm.kind with
    | reconnect =>
      obtain ⟨hone, hnil⟩ := fired_reconnects hok htm hk
      have hid : tm.id = t := (findTimer_mem htm).2
      simp only [TimerKind.isReconnect, if_true, RagState.fire, hk, hid]
      refine h.attempt (by rw [hone]; rfl) ?_ ?_ ?_
      · rw [connect_reconnects]
        exact congrArg List.length hnil
      · exact connect_live ((s.clearTimeout t).deleteReconnectTimer t.room) ext now
      · simp only [RagState.attempts, (connect_effects _ t.room ext now).attempts_eq rfl]
        rfl
    | connection w | request kind w text q | report call | statementRetry st n | flushNext rest =>
      rw [hk] at heff
      exact h.effects heff rfl rfl rfl
  | _ => exact h.effects heff rfl rfl rfl

/-- **Bounded reconnection.** In every run in which no socket of the room opens and the room is not
disconnected, at most three automatic reconnect attempts are made for each explicit `connect` of
the room, and at most one reconnect timer of the room is armed, in every state of the run.

**Proof sketch.** The invariant is `Rag.Budget`. Only `connect`, a close and a reconnect timer of
the room change what it counts. -/
theorem reconnects_bounded (r : RoomId) {es : List Event} (h : ∀ e ∈ es, NeverOpens r e) :
    (reconnectRuns r).AllStates
      (fun p => p.2.2 ≤ maxReconnectAttempts * p.2.1 ∧ (p.1.reconnects r).length ≤ 1)
      (reconnectRuns r).init es := by
  refine EventSystem.allStates_of_invariant
    (I := fun p => (∀ r, rooms.Closed r p.1) ∧ ReconnectOk r p.1 ∧ Budget r p.1 p.2.1 p.2.2)
    ?_ ?_ ⟨init_closed, .inl rfl, 0, le_rfl, Nat.zero_le _, .inl rfl⟩
    (EventSystem.allSteps_of_forall _ h)
  · rintro ⟨s, c⟩ e ⟨s', c'⟩ ⟨hc, hok, hb⟩ hn hs
    obtain ⟨hs, hcounts⟩ := EventSystem.withHistory_step.mp hs
    obtain rfl : c' = _ := hcounts
    exact ⟨step_closed hc hs, step_reconnectOk hc hok hs, step_budget hc hok hb hn hs⟩
  · rintro ⟨s, c⟩ ⟨-, hok, hb⟩
    have hle : c.2 + (s.reconnects r).length ≤ 3 * c.1 := hb.le
    exact ⟨by simp only [maxReconnectAttempts]; omega, hok.length_le⟩

/-- One explicit `connect` whose socket fails, and the first automatic attempt. -/
theorem reconnects_bounded_refused :
    (reconnectRuns "r").AllStates
        (fun p => p.2.2 ≤ maxReconnectAttempts * p.2.1 ∧ (p.1.reconnects "r").length ≤ 1)
        (reconnectRuns "r").init
        [⟨0, .connect "r" .ok⟩, ⟨20, .wsClose ⟨"r", 1⟩ 1006⟩, ⟨10020, .timer ⟨"r", 3⟩ .ok⟩] ∧
      ((reconnectRuns "r").exec (reconnectRuns "r").init
        [⟨0, .connect "r" .ok⟩, ⟨20, .wsClose ⟨"r", 1⟩ 1006⟩, ⟨10020, .timer ⟨"r", 3⟩ .ok⟩]).map
        Prod.snd = some (1, 1) :=
  ⟨reconnects_bounded "r" (by decide), by decide⟩

/-! ## The close of another socket -/

/-- **When the close of another socket keeps the connection.** Let the open socket `w` be registered
for a room and let another socket of the room close. Then `w` stays registered if and only if the
close code is not 1000 and either a reconnect timer of the room is pending or the room has failed
attempts left. -/
theorem close_keeps_connection_iff {s s' : RagState} {w w' : Oid} {code now : ℕ}
    (hw : s.connections.get w'.room = some w) (hs : step s ⟨now, .wsClose w' code⟩ = some s') :
    s'.connections.get w'.room = some w ↔ code ≠ 1000 ∧
      (s.reconnectTimers.has w'.room = true ∨ s.attempts w'.room < maxReconnectAttempts) := by
  obtain ⟨k, -, -, -, rfl⟩ := step_wsClose hs
  unfold RagState.onClose
  by_cases hcode : code = 1000
  · simp [hcode]
  · dsimp only
    rw [if_pos hcode]
    rcases scheduleReconnect_cases (s.markClosed w') w'.room now with
      ⟨hhas, he⟩ | ⟨hhas, hge, he⟩ | ⟨hhas, hlt, he⟩
    · rw [he]
      exact ⟨fun _ => ⟨hcode, .inl hhas⟩, fun _ => hw⟩
    · rw [he]
      refine ⟨fun h => by simp at h, fun h => ?_⟩
      rcases h.2 with h | h
      · exact absurd (h.symm.trans hhas) (by decide)
      · exact absurd hge (Nat.not_le.mpr h)
    · rw [he]
      exact ⟨fun _ => ⟨hcode, .inr hlt⟩, fun _ => hw⟩

/-- Two overlapping `connect` calls: the second socket opens, then the first one fails, and the
second one stays registered. -/
theorem close_keeps_connection_iff_overlapping :
    ∃ s s', client.exec client.init [⟨0, .connect "r" .ok⟩, ⟨5, .connect "r" .ok⟩,
        ⟨10, .wsOpen ⟨"r", 4⟩ .ok⟩] = some s ∧
      step s ⟨20, .wsClose ⟨"r", 1⟩ 1006⟩ = some s' ∧
      s'.connections.get "r" = some ⟨"r", 4⟩ := by
  have hrun : (client.exec client.init [⟨0, .connect "r" .ok⟩, ⟨5, .connect "r" .ok⟩,
      ⟨10, .wsOpen ⟨"r", 4⟩ .ok⟩]).map (fun s => (s.connections.get "r", s.attempts "r",
        (step s ⟨20, .wsClose ⟨"r", 1⟩ 1006⟩).isSome)) = some (some ⟨"r", 4⟩, 0, true) := by
    decide
  obtain ⟨s, hs, hobs⟩ := Option.map_eq_some_iff.mp hrun
  simp only [Prod.mk.injEq] at hobs
  obtain ⟨hconn, hatt, hstep⟩ := hobs
  obtain ⟨s', hs'⟩ := Option.isSome_iff_exists.mp hstep
  have hlt : s.attempts "r" < maxReconnectAttempts := by
    rw [hatt]
    decide
  exact ⟨s, s', hs, hs', (close_keeps_connection_iff hconn hs').mpr ⟨by decide, .inr hlt⟩⟩

/-- A room is disconnected and connected again, and the new socket opens before the old one has
closed. -/
def reconnected : List Event :=
  [⟨0, .connect "r" .ok⟩, ⟨10, .wsOpen ⟨"r", 1⟩ .ok⟩, ⟨20, .disconnect "r"⟩,
    ⟨30, .connect "r" .ok⟩, ⟨40, .wsOpen ⟨"r", 4⟩ .ok⟩]

/-- **The close of an old socket removes a new connection.** Its close, with code 1000, removes the
registered connection although the new socket is open. -/
theorem old_close_removes_connection :
    Timely (reconnected ++ [⟨50, .wsClose ⟨"r", 1⟩ 1000⟩]) ∧
    (client.exec client.init reconnected).map
      (fun s => (s.connections.get "r", s.readyState ⟨"r", 4⟩,
        (step s ⟨50, .wsClose ⟨"r", 1⟩ 1000⟩).map fun s' => s'.connections.get "r")) =
      some (some ⟨"r", 4⟩, some .OPEN, some none) :=
  ⟨by decide, by decide⟩

end Rag
