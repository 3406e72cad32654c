import AuraLive.Lifecycle.Moves

set_option relaxedAutoImplicit false
set_option autoImplicit false

/-!
# Teardown of an earlier session

`cleanupRoom`, the rest of `stopBot` after `room.disconnect()` and the shutdown timeout find the
context by the room id at the time they run. When a later session of the room has registered its
context in the meantime, they tear down that session.

## Main definitions

* `Lifecycle.Act.teardownOf` — the session whose teardown an act is.
* `Lifecycle.Foreign` — the teardown of a session other than the one whose context is registered.
* `Lifecycle.Undisturbed` — the registered context, the timeline buffer and the RAG connection of
  the room are left alone.
* `Lifecycle.Spared` — the foreign teardowns that do no harm.
* `Lifecycle.RegistersAlone` — a session registers its context after the teardown of the others.

## Main results

* `Lifecycle.teardown_isolated_iff` — the steps of a run are isolated exactly when they are spared;
  it is enough that its sessions register alone.
* `Lifecycle.stop_removes_successor` — a `stopBot` call that returns late removes the context of
  the next session.
-/

namespace Lifecycle

open Foundations EventSystem

/-- The session whose teardown an act is: its `Disconnected` event, the continuation of its
`stopBot` after `room.disconnect()`, or its shutdown timeout. -/
def Act.teardownOf : Act → Option ℕ
  | .disconnected n => some n
  | .resume (.roomDisconnect n _) _ => some n
  | .timeout timer => some timer.session
  | _ => none

/-- The act is the teardown of another session than the one whose context is registered. -/
def Foreign (s : Server) (a : Act) : Prop := ∃ c ∈ s.active, ∃ n ∈ a.teardownOf, n ≠ c

/-- The step keeps the registered context, the timeline buffer and the RAG connection. -/
structure Undisturbed (s s' : Server) : Prop where
  active : s'.active = s.active
  buffer : Effect.clearBuffer ∉ s'.effects
  rag : Effect.ragDisconnect ∉ s'.effects

/-- A foreign teardown, if the event is one, disturbs nothing. -/
def Isolated (s : Server) (e : Event) : Prop :=
  ∀ s', lifecycle.step s e = some s' → Foreign s e.act → Undisturbed s s'

/-- A foreign teardown, if the event is one, is a `room.disconnect()` that fails, or a shutdown
timeout whose own `Room` still lists a human. -/
def Spared (s : Server) (e : Event) : Prop :=
  Foreign s e.act →
    match e.act with
    | .resume _ ok => ok = false
    | .timeout timer => humans (s.sessions timer.session).remoteParticipants ≠ []
    | _ => False

variable {s s' : Server} {e : Event}

/-- **A foreign teardown disturbs nothing exactly when it is spared.**

**Proof sketch.** By the act. A `Disconnected` event and a `stopBot` that has disconnected its
`Room` drop the registered context. A shutdown timeout stops the registered session, or resets its
field, by what its own `Room` lists. -/
lemma isolated_iff_spared (h : lifecycle.step s e = some s') : Isolated s e ↔ Spared s e := by
  have hiso : Isolated s e ↔ (Foreign s e.act → Undisturbed s s') :=
    ⟨fun hi => hi s' h, fun hi t ht => Option.some.inj (h.symm.trans ht) ▸ hi⟩
  rw [hiso]
  refine forall_congr' fun hF => ?_
  obtain ⟨c, hc, n, hn, -⟩ := hF
  obtain ⟨-, hh⟩ := step_eq h
  cases ha : e.act with
  | disconnected m =>
    simp only [iff_false]
    intro hU
    have hnone : s'.active = none := by
      simp only [ha, Server.handle, Option.ite_none_right_eq_some, Option.some.injEq] at hh
      rw [← hh.2]
      exact (Server.disconnected_shift _ m).2.2
    simp [← hU.active, hnone] at hc
  | resume call ok =>
    cases call with
    | roomDisconnect m after =>
      simp only [ha, Server.handle, Option.ite_none_right_eq_some, Option.some.injEq] at hh
      obtain ⟨-, rfl⟩ := hh
      cases ok with
      | true =>
        simp only [Bool.true_eq_false, iff_false]
        intro hU
        have hnone := (Server.finishStop_shift
          { s.turn e.now with calls := (s.turn e.now).calls.erase (.roomDisconnect m after) }
          m after).2.2
        simp only [Server.resume, if_true] at hU
        simp [← hU.active, hnone] at hc
      | false =>
        simp only [iff_true]
        exact ⟨rfl, by simp [Server.resume, Server.turn], by simp [Server.resume, Server.turn]⟩
    | _ => simp [ha, Act.teardownOf] at hn
  | timeout timer =>
    simp only [ha, Server.handle, Option.ite_none_right_eq_some, Option.some.injEq] at hh
    obtain ⟨-, rfl⟩ := hh
    have hc' : s.active = some c := hc
    by_cases hum : humans (s.sessions timer.session).remoteParticipants = []
    · simp only [hum, ne_eq, not_true_eq_false, iff_false]
      intro hU
      have hrag := hU.rag
      simp [Server.shutdown, Server.turn, hc', hum, Server.stopBotWithCleanup, Server.stopBot,
        Server.suspend, Server.emit] at hrag
    · simp only [ne_eq, hum, not_false_eq_true, iff_true]
      constructor <;> simp [Server.shutdown, Server.turn, hc', hum, Server.setShutdown,
        Server.modify]
  | _ => simp [ha, Act.teardownOf] at hn

/-! ## Sessions that register alone -/

/-- The session that a suspended `stopBot` call stops. -/
def Call.stops : Call → Option ℕ
  | .ragDisconnect n _ => some n
  | .roomDisconnect n _ => some n
  | _ => none

/-- Nothing is left of the sessions other than `c`: their `startBot` calls are over, their `Room`s
have emitted `Disconnected`, no `stopBot` call stops them and no timeout was armed for them. -/
structure Only (s : Server) (c : ℕ) : Prop where
  sessions : ∀ i < s.count, i ≠ c →
    (s.sessions i).phase = .finished ∧ (s.sessions i).notified = true
  calls : ∀ call ∈ s.calls, ∀ n ∈ call.stops, n = c
  timers : ∀ timer ∈ s.timers, timer.session = c

/-- A session registers its context when nothing is left of the other sessions. -/
def RegistersAlone (s : Server) (e : Event) : Prop :=
  match e.act with
  | .published n true => Only s n
  | _ => True

instance (s : Server) (c : ℕ) : Decidable (Only s c) :=
  decidable_of_iff
    ((∀ i < s.count, i ≠ c → (s.sessions i).phase = .finished ∧ (s.sessions i).notified = true) ∧
      (∀ call ∈ s.calls, ∀ n ∈ call.stops, n = c) ∧ ∀ timer ∈ s.timers, timer.session = c)
    ⟨fun h => ⟨h.1, h.2.1, h.2.2⟩, fun h => ⟨h.sessions, h.calls, h.timers⟩⟩

instance (s : Server) (e : Event) : Decidable (RegistersAlone s e) := by
  rcases e with ⟨now, act⟩
  cases act with
  | published n ok =>
    cases ok with
    | true => exact inferInstanceAs (Decidable (Only s n))
    | false => exact inferInstanceAs (Decidable True)
  | _ => exact inferInstanceAs (Decidable True)

/-- No `startBot` call is started again, and no `Disconnected` event is emitted. -/
def Server.SameProgress (s s' : Server) : Prop :=
  ∀ i, ((s.sessions i).phase = .finished → (s'.sessions i).phase = .finished) ∧
    (s'.sessions i).notified = (s.sessions i).notified

/-- Nothing is left of the other sessions after a change that adds nothing for them. -/
lemma Only.mono {c : ℕ} (h : Only s c) (hc : s'.count = s.count)
    (hs : s.SameProgress s')
    (hcalls : ∀ call ∈ s'.calls, call ∈ s.calls ∨ ∀ n ∈ call.stops, n = c)
    (htimers : ∀ timer ∈ s'.timers, timer ∈ s.timers ∨ timer.session = c) : Only s' c := by
  refine ⟨fun i hi hne => ?_, fun call hcall => ?_, fun timer htimer => ?_⟩
  · obtain ⟨hp, hn⟩ := h.sessions i (hc ▸ hi) hne
    exact ⟨(hs i).1 hp, (hs i).2.trans hn⟩
  · exact (hcalls call hcall).elim (h.calls call) id
  · exact (htimers timer htimer).elim (h.timers timer) id

namespace Server

variable (s : Server)

lemma modify_sameProgress (n : ℕ) {f : Session → Session}
    (hf : ∀ x, (x.phase = .finished → (f x).phase = .finished) ∧ (f x).notified = x.notified) :
    SameProgress s (s.modify n f) := by
  intro i
  by_cases h : i = n
  · subst h
    simpa [modify] using hf (s.sessions i)
  · simp [modify, h]

lemma setShutdown_sameProgress (n : ℕ) (timer : Option ℕ) :
    SameProgress s (s.setShutdown n timer) :=
  s.modify_sameProgress (f := ({ · with shutdownTimeout := timer })) n fun _ => ⟨id, rfl⟩

lemma observe_sameProgress (f : List String → List String) : SameProgress s (s.observe f) := by
  intro i
  simp only [observe]
  split <;> exact ⟨id, rfl⟩

lemma stopBot_calls {c : ℕ} (hc : s.active = some c) (after : After) :
    (s.stopBot after).calls = s.calls ++ [.ragDisconnect c after] := by
  simp [stopBot, hc, suspend, emit]

end Server

/-- Stopping the only session adds a call for it. -/
lemma Only.stopBot {c : ℕ} (h : Only s c) (hact : s.active = some c) (after : After) :
    Only (s.stopBot after) c := by
  have ha := s.stopBot_alike after
  refine h.mono ha.count (fun i => by simp [ha.sessions]) (fun call hcall => ?_) fun timer ht => ?_
  · rw [s.stopBot_calls hact, List.mem_append, List.mem_singleton] at hcall
    rcases hcall with hcall | rfl
    · exact .inl hcall
    · exact .inr fun n hn => by simpa [Call.stops, eq_comm] using hn
  · exact .inl (ha.timers ▸ ht)

/-- Only the session itself goes on when a call is resumed that ends no session. -/
lemma Only.resume {c : ℕ} {call : Call} {ok : Bool} (h : Only s c) (hact : s.active = some c)
    (hmem : call ∈ s.calls) (ht : (Act.resume call ok).target = none) :
    Only (({ s with calls := s.calls.erase call }).resume ok call) c := by
  have herase : ∀ x ∈ s.calls.erase call, x ∈ s.calls ∨ ∀ n ∈ x.stops, n = c :=
    fun x hx => .inl (List.mem_of_mem_erase hx)
  have happend : ∀ {y : Call}, (∀ n ∈ y.stops, n = c) → ∀ x ∈ s.calls.erase call ++ [y],
      x ∈ s.calls ∨ ∀ n ∈ x.stops, n = c := by
    intro y hy x hx
    rcases List.mem_append.mp hx with hx | hx
    · exact herase x hx
    · exact .inr (List.mem_singleton.mp hx ▸ hy)
  cases call with
  | ragDisconnect n after =>
    have hn : n = c := h.calls _ hmem n rfl
    refine h.mono rfl (fun i => ⟨id, rfl⟩) (happend ?_) fun timer ht => .inl ht
    intro m hm
    simpa [Call.stops, hn, eq_comm] using hm
  | roomDisconnect n after =>
    cases ok with
    | true => simp [Act.target] at ht
    | false => exact h.mono rfl (fun i => ⟨id, rfl⟩) herase fun timer ht => .inl ht
  | removeBots =>
    exact h.mono rfl (fun i => ⟨id, rfl⟩) (happend (by simp [Call.stops])) fun timer ht => .inl ht
  | generateToken =>
    cases ok with
    | true =>
      simp only [Server.resume, if_true, Server.startBot, hact, Option.isSome_some]
      exact h.mono rfl (fun i => ⟨id, rfl⟩) herase fun timer ht => .inl ht
    | false => exact h.mono rfl (fun i => ⟨id, rfl⟩) herase fun timer ht => .inl ht
  | deleteRoom =>
    exact h.mono rfl (fun i => ⟨id, rfl⟩) (happend (by simp [Call.stops])) fun timer ht => .inl ht
  | importAxios =>
    cases ok <;> exact h.mono rfl (fun i => ⟨id, rfl⟩) herase fun timer ht => .inl ht

/-- Cancelling the shutdown adds nothing. -/
lemma Only.cancelShutdown {c : ℕ} (h : Only s c) : Only s.cancelShutdown c := by
  unfold Server.cancelShutdown
  split
  · exact h
  split
  · exact h
  · refine h.mono rfl (Server.setShutdown_sameProgress (s.clearTimeout _) _ _)
      (fun call hc => .inl hc) fun timer ht => .inl ?_
    exact List.mem_of_mem_filter ht

/-- Scheduling a shutdown adds a timeout for the registered context. -/
lemma Only.scheduleShutdown {c : ℕ} (h : Only s c) (hact : s.active = some c) :
    Only s.scheduleShutdown c := by
  simp only [Server.scheduleShutdown, hact]
  split
  · exact h
  · refine h.mono rfl (Server.setShutdown_sameProgress (s.setTimeout c) _ _)
      (fun call hc => .inl hc) fun timer ht => ?_
    simp only [Server.setShutdown, Server.modify, Server.setTimeout, List.mem_append,
      List.mem_singleton] at ht
    exact ht.imp id fun ht => by rw [ht]

/-- The callback of a shutdown timeout stops the registered session or resets its field. -/
lemma Only.shutdown {c : ℕ} (h : Only s c) (hact : s.active = some c) (timer : Timeout) :
    Only (s.shutdown timer) c := by
  unfold Server.shutdown
  split
  · exact h
  split
  · exact h.stopBot hact .cleansUp
  · exact h.mono rfl (s.setShutdown_sameProgress _ _) (fun call hc => .inl hc)
      fun timer ht => .inl ht

/-- **Nothing is added for the other sessions** by an act that neither ends a session nor continues
its `startBot` call.

**Proof sketch.** One case for each kind of event. As the session `c` is registered, stopping and
starting go to it or return; a timeout and the calls that go on are of `c` already. Who joins or
leaves changes the lists of the `Room`s only, and may arm the timer of `c` or clear it. -/
lemma Only.handle {c : ℕ} {a : Act} (h : Only s c) (hact : s.active = some c)
    (ht : a.target = none) (hh : s.handle a = some s') : Only s' c := by
  cases a with
  | startBotForRoom =>
    obtain rfl : s.startBotForRoom = s' := by simpa [Server.handle] using hh
    rw [Server.startBotForRoom, if_pos (by simp [hact])]
    exact h.stopBot hact .restarts
  | stopBotForRoom =>
    obtain rfl : s.stopBotForRoom = s' := by simpa [Server.handle] using hh
    exact h.stopBot hact .returns
  | startBot =>
    obtain rfl : s.startBot = s' := by simpa [Server.handle] using hh
    rw [Server.startBot, if_pos (by simp [hact])]
    exact h
  | resume call ok =>
    simp only [Server.handle, Option.ite_none_right_eq_some, Option.some.injEq] at hh
    obtain ⟨hmem, rfl⟩ := hh
    exact h.resume hact hmem ht
  | join p =>
    simp only [Server.handle, Option.ite_none_left_eq_some, Option.some.injEq] at hh
    obtain ⟨-, rfl⟩ := hh
    have hadm : Only (s.admitted p) c := h.mono rfl
      (Server.observe_sameProgress { s with members := s.members ++ [p] } _)
      (fun call hc => .inl hc) fun timer ht => .inl ht
    unfold Server.participantConnected
    dsimp only
    split
    · exact hadm.cancelShutdown
    · exact hadm
  | leave p =>
    simp only [Server.handle, Option.ite_none_right_eq_some, Option.some.injEq] at hh
    obtain ⟨-, rfl⟩ := hh
    have hdep : Only (s.departed p) c := h.mono rfl
      (Server.observe_sameProgress { s with
        members := s.members.erase p
        lastLeft := if isHuman p then some s.now else s.lastLeft } _)
      (fun call hc => .inl hc) fun timer ht => .inl ht
    unfold Server.participantDisconnected
    dsimp only
    split
    · exact hdep.scheduleShutdown hact
    · exact hdep
  | timeout timer =>
    simp only [Server.handle, Option.ite_none_right_eq_some, Option.some.injEq] at hh
    obtain ⟨-, rfl⟩ := hh
    have herase : Only { s with timers := s.timers.erase timer } c :=
      h.mono rfl (fun i => ⟨id, rfl⟩) (fun call hc => .inl hc)
        fun t ht => .inl (List.mem_of_mem_erase ht)
    exact herase.shutdown hact timer
  | forget n =>
    simp only [Server.handle, Option.ite_none_right_eq_some, Option.some.injEq] at hh
    obtain ⟨-, rfl⟩ := hh
    refine h.mono rfl ?_ (fun call hc => .inl hc) fun timer ht => .inl ht
    exact s.modify_sameProgress (f := ({ · with remoteParticipants := [] })) n fun _ => ⟨id, rfl⟩
  | connected n ok => simp [Act.target] at ht
  | published n ok => simp [Act.target] at ht
  | disconnected n => simp [Act.target] at ht

/-- When sessions register alone, nothing is left of the sessions other than the one whose context
is registered. -/
lemma only_step (hs : Sound s) (hI : ∀ c, s.active = some c → Only s c)
    (hC : RegistersAlone s e) (h : lifecycle.step s e = some s') :
    ∀ c, s'.active = some c → Only s' c := by
  intro c hc
  obtain ⟨-, hh⟩ := step_eq h
  -- a running `startBot` call would be one of another session
  have hrun : ∀ n, s.active = some c → n < s.count → (s.stage n).2 = .finished := by
    intro n hact hn
    by_cases hne : n = c
    · exact hne ▸ (hs.active c hact).2
    · exact ((hI c hact).sessions n hn hne).1
  cases shift h with
  | keeps ha hst hk =>
    have hact : s.active = some c := hk.active ▸ hc
    have honly : Only (s.turn e.now) c := (hI c hact).mono rfl (fun i => ⟨id, rfl⟩)
      (fun call hc => .inl hc) fun timer ht => .inl ht
    exact honly.handle hact ha hh
  | creates ha hn hst hcount hact => simp [hact] at hc
  | connects ha hn hp hst hcount hact => simp [hrun _ (hact ▸ hc) hn] at hp
  | refused ha hn hp hst hcount hact => simp [hrun _ (hact ▸ hc) hn] at hp
  | @registers n ha hn hp hst hcount hact =>
    obtain rfl : n = c := Option.some.inj (hact ▸ hc)
    simp only [RegistersAlone, ha] at hC
    simp only [ha, Server.handle, Option.ite_none_right_eq_some, Option.some.injEq] at hh
    obtain ⟨-, rfl⟩ := hh
    refine hC.mono rfl ?_ (fun call hc => .inl hc) fun timer ht => .inl ht
    exact s.modify_sameProgress (f := ({ · with phase := .finished })) n fun _ =>
      ⟨fun _ => rfl, rfl⟩
  | unpublished ha hn hp hst hcount hact => simp [hrun _ (hact ▸ hc) hn] at hp
  | drops ha hst hcount hact => simp [hact] at hc

/-- Where nothing is left of the other sessions there is no foreign teardown. -/
lemma not_foreign (hI : ∀ c, s.active = some c → Only s c) (h : lifecycle.step s e = some s') :
    ¬ Foreign s e.act := by
  rintro ⟨c, hc, n, hn, hne⟩
  have honly := hI c hc
  obtain ⟨-, hh⟩ := step_eq h
  cases ha : e.act with
  | disconnected m =>
    obtain rfl : m = n := by simpa [ha, Act.teardownOf] using hn
    simp only [ha, Server.handle, Option.ite_none_right_eq_some, Option.some.injEq] at hh
    obtain ⟨⟨hlt, -, hnot⟩, -⟩ := hh
    have := (honly.sessions m hlt hne).2
    simp_all [Server.turn]
  | resume call ok =>
    cases call with
    | roomDisconnect m after =>
      obtain rfl : m = n := by simpa [ha, Act.teardownOf] using hn
      simp only [ha, Server.handle, Option.ite_none_right_eq_some, Option.some.injEq] at hh
      exact hne (honly.calls _ hh.1 m rfl)
    | _ => simp [ha, Act.teardownOf] at hn
  | timeout timer =>
    obtain rfl : timer.session = n := by simpa [ha, Act.teardownOf] using hn
    simp only [ha, Server.handle, Option.ite_none_right_eq_some, Option.some.injEq] at hh
    exact hne (honly.timers timer hh.1.1)
  | _ => simp [ha, Act.teardownOf] at hn

/-! ## Runs -/

/-- **Isolation on teardown.** In every run, the steps that are the teardown of another session
leave a registered context, the timeline buffer and the RAG connection alone exactly when those
teardowns are spared; it is enough that the sessions of the run register alone. -/
theorem teardown_isolated_iff {es : List Event} {t : Server}
    (hr : lifecycle.exec lifecycle.init es = some t) :
    (lifecycle.AllSteps Isolated lifecycle.init es ↔
      lifecycle.AllSteps Spared lifecycle.init es) ∧
    (lifecycle.AllSteps RegistersAlone lifecycle.init es →
      lifecycle.AllSteps Isolated lifecycle.init es) := by
  refine ⟨allSteps_congr (fun s e s' h => isolated_iff_spared h) hr, fun hC => ?_⟩
  refine allSteps_of_invariant (I := fun s => Sound s ∧ ∀ c, s.active = some c → Only s c)
    (fun s e s' hI hC h => ⟨hI.1.step h, only_step hI.1 hI.2 hC h⟩) (fun s e hI _ s' h hF => ?_)
    ⟨sound_init, by simp [lifecycle]⟩ hC
  exact absurd hF (not_foreign hI.2 h)

/-- A restart after the first session has been torn down. -/
def orderly : List Event :=
  [⟨0, .startBot⟩, ⟨1, .connected 0 true⟩, ⟨2, .published 0 true⟩,
    ⟨3, .stopBotForRoom⟩, ⟨4, .resume (.ragDisconnect 0 .returns) true⟩, ⟨5, .disconnected 0⟩,
    ⟨6, .resume (.roomDisconnect 0 .returns) true⟩,
    ⟨7, .startBot⟩, ⟨8, .connected 1 true⟩, ⟨9, .published 1 true⟩]

/-- The orderly restart is isolated. -/
theorem teardown_isolated_iff_orderly : lifecycle.AllSteps Isolated lifecycle.init orderly := by
  obtain ⟨t, ht⟩ := Option.isSome_iff_exists.mp
    (show (lifecycle.exec lifecycle.init orderly).isSome by decide +kernel)
  exact (teardown_isolated_iff ht).2 (by decide +kernel)

/-- A `stopBot` call for session 0 is still at `room.disconnect()` when its `Room` has emitted
`Disconnected` and session 1 has registered its context. -/
def lateStop : List Event :=
  [⟨0, .startBot⟩, ⟨1, .connected 0 true⟩, ⟨2, .published 0 true⟩,
    ⟨3, .stopBotForRoom⟩, ⟨4, .resume (.ragDisconnect 0 .returns) true⟩, ⟨5, .disconnected 0⟩,
    ⟨6, .startBot⟩, ⟨7, .connected 1 true⟩, ⟨8, .published 1 true⟩]

/-- The late `stopBot` call drops the context of session 1 and clears the buffer of the room. -/
theorem stop_removes_successor :
    ∃ s ∈ lifecycle.exec lifecycle.init lateStop, s.active = some 1 ∧
      ∃ s' ∈ lifecycle.step s ⟨9, .resume (.roomDisconnect 0 .returns) true⟩,
        s'.active = none ∧ Effect.clearBuffer ∈ s'.effects := by
  decide +kernel

end Lifecycle
