import AuraLive.Lifecycle.Bot

set_option relaxedAutoImplicit false
set_option autoImplicit false

/-!
# What a step can do to the sessions

The proofs about the sessions do not unfold the functions of the server. They use one relation,
which says all that a step can do to the connections, to the running `startBot` calls and to the
registered context, and the invariants that follow from it.

## Main definitions

* `Lifecycle.Server.stage` — the connection and the `startBot` call of every session.
* `Lifecycle.Shift` — all that a step can do to the stages and to the registered context.
* `Lifecycle.Sound` — what holds of the sessions in every reachable state.

## Main results

* `Lifecycle.shift` — every step is a shift.
* `Lifecycle.members_step` — participants come and go only by joining and leaving.
* `Lifecycle.sound_reachable` — every reachable state is sound.
* `Lifecycle.registers_or_not` — what a step does to the registered context.
* `Lifecycle.faithful_reachable` — a connected `Room` lists the participants of the room.
-/

namespace Lifecycle

open Foundations EventSystem

/-! ## The parts of the state that the functions leave alone -/

namespace Server

/-- The connection of every session and how far its `startBot` call has come. -/
def stage (s : Server) (n : ℕ) : Link × Phase := ((s.sessions n).link, (s.sessions n).phase)

/-- Two states with the same sessions, the same registered context, the same participants and the
same timers. -/
structure Alike (s s' : Server) : Prop where
  sessions : s'.sessions = s.sessions
  count : s'.count = s.count
  active : s'.active = s.active
  members : s'.members = s.members
  lastLeft : s'.lastLeft = s.lastLeft
  timers : s'.timers = s.timers
  nextTimer : s'.nextTimer = s.nextTimer
  now : s'.now = s.now

/-- Two states with the same stages and the same registered context. -/
structure SameStages (s s' : Server) : Prop where
  stage : s'.stage = s.stage
  count : s'.count = s.count
  active : s'.active = s.active

lemma Alike.sameStages {s s' : Server} (h : Alike s s') : SameStages s s' :=
  ⟨by funext n; simp only [Server.stage, h.sessions], h.count, h.active⟩

variable (s : Server)

lemma proceed_alike (after : After) : Alike s (s.proceed after) := by
  cases after <;> constructor <;> rfl

lemma stopBot_alike (after : After) : Alike s (s.stopBot after) := by
  unfold stopBot
  split
  · exact s.proceed_alike after
  · constructor <;> rfl

lemma startBotForRoom_alike : Alike s s.startBotForRoom := by
  unfold startBotForRoom
  split
  · exact s.stopBot_alike .restarts
  · constructor <;> rfl

/-- The stages after one session has changed. -/
lemma stage_modify (n : ℕ) (f : Session → Session) :
    (s.modify n f).stage =
      Function.update s.stage n ((f (s.sessions n)).link, (f (s.sessions n)).phase) := by
  funext m
  by_cases h : m = n
  · subst h
    simp [stage, modify]
  · simp [stage, modify, h]

/-- A change of a session that keeps its stage. -/
lemma modify_sameStages (n : ℕ) {f : Session → Session}
    (hf : ∀ x, (f x).link = x.link ∧ (f x).phase = x.phase) : SameStages s (s.modify n f) := by
  refine ⟨?_, rfl, rfl⟩
  rw [stage_modify, (hf _).1, (hf _).2]
  exact Function.update_eq_self n s.stage

lemma stage_observe (f : List String → List String) : (s.observe f).stage = s.stage := by
  funext n
  simp only [stage, observe]
  split <;> rfl

lemma setShutdown_sameStages (n : ℕ) (timer : Option ℕ) :
    SameStages s (s.setShutdown n timer) :=
  s.modify_sameStages (f := ({ · with shutdownTimeout := timer })) n fun _ => ⟨rfl, rfl⟩

lemma SameStages.trans {s t u : Server} (h : SameStages s t) (h' : SameStages t u) :
    SameStages s u :=
  ⟨h'.stage.trans h.stage, h'.count.trans h.count, h'.active.trans h.active⟩

lemma cancelShutdown_sameStages : SameStages s s.cancelShutdown := by
  unfold cancelShutdown
  split
  · exact ⟨rfl, rfl, rfl⟩
  split
  · exact ⟨rfl, rfl, rfl⟩
  · exact SameStages.trans (t := s.clearTimeout _) ⟨rfl, rfl, rfl⟩
      (setShutdown_sameStages _ _ _)

lemma scheduleShutdown_sameStages : SameStages s s.scheduleShutdown := by
  unfold scheduleShutdown
  split
  · exact ⟨rfl, rfl, rfl⟩
  split
  · exact ⟨rfl, rfl, rfl⟩
  · exact SameStages.trans (t := s.setTimeout _) ⟨rfl, rfl, rfl⟩
      (setShutdown_sameStages _ _ _)

lemma admitted_sameStages (identity : String) : SameStages s (s.admitted identity) :=
  ⟨stage_observe { s with members := s.members ++ [identity] } (· ++ [identity]), rfl, rfl⟩

lemma departed_sameStages (identity : String) : SameStages s (s.departed identity) :=
  ⟨stage_observe { s with
    members := s.members.erase identity
    lastLeft := if isHuman identity then some s.now else s.lastLeft } (·.erase identity), rfl, rfl⟩

lemma participantConnected_sameStages (identity : String) :
    SameStages s (s.participantConnected identity) := by
  unfold participantConnected
  dsimp only
  split
  · exact (s.admitted_sameStages identity).trans (cancelShutdown_sameStages _)
  · exact s.admitted_sameStages identity

lemma participantDisconnected_sameStages (identity : String) :
    SameStages s (s.participantDisconnected identity) := by
  unfold participantDisconnected
  dsimp only
  split
  · exact (s.departed_sameStages identity).trans (scheduleShutdown_sameStages _)
  · exact s.departed_sameStages identity

lemma shutdown_sameStages (timer : Timeout) : SameStages s (s.shutdown timer) := by
  unfold shutdown
  split
  · exact ⟨rfl, rfl, rfl⟩
  split
  · exact (s.stopBot_alike .cleansUp).sameStages
  · exact s.setShutdown_sameStages _ _

/-- `cleanupRoom` touches the timers and the registered context only. -/
lemma cleanupRoom_stage : s.cleanupRoom.stage = s.stage ∧ s.cleanupRoom.count = s.count ∧
    s.cleanupRoom.active = none := by
  unfold cleanupRoom
  dsimp only
  split
  · exact ⟨rfl, rfl, rfl⟩
  split <;> exact ⟨rfl, rfl, rfl⟩

end Server

/-! ## Shifts -/

/-- The session whose connection or `startBot` call an act changes. -/
def Act.target : Act → Option ℕ
  | .connected n _ => some n
  | .published n _ => some n
  | .disconnected n => some n
  | .resume (.roomDisconnect n _) true => some n
  | _ => none

/-- The acts that run `startBot` up to `room.connect`. -/
def Act.starts (a : Act) : Prop := a = .startBot ∨ a = .resume .generateToken true

/-- The acts that end the session of a `Room` and drop the registered context. -/
def Act.Drops (a : Act) (n : ℕ) : Prop :=
  a = .disconnected n ∨ ∃ after, a = .resume (.roomDisconnect n after) true

/-- All that a step can do to the stages of the sessions and to the registered context. -/
inductive Shift (s s' : Server) : Act → Prop where
  /-- Nothing. -/
  | keeps {a : Act} (ha : a.target = none) (hs : ¬ (a.starts ∧ s.active = none))
      (h : s.SameStages s') : Shift s s' a
  /-- `startBot` passes its check and makes a `Room`. -/
  | creates {a : Act} (ha : a.starts) (hn : s.active = none)
      (hst : s'.stage = Function.update s.stage s.count (.connecting, .connecting))
      (hc : s'.count = s.count + 1) (hact : s'.active = none) : Shift s s' a
  /-- `room.connect` returns. -/
  | connects {a : Act} {n : ℕ} (ha : a = .connected n true) (hn : n < s.count)
      (hp : (s.stage n).2 = .connecting)
      (hst : s'.stage = Function.update s.stage n (.connected, .publishing))
      (hc : s'.count = s.count) (hact : s'.active = s.active) : Shift s s' a
  /-- `room.connect` fails. -/
  | refused {a : Act} {n : ℕ} (ha : a = .connected n false) (hn : n < s.count)
      (hp : (s.stage n).2 = .connecting)
      (hst : s'.stage = Function.update s.stage n (.closed, .finished))
      (hc : s'.count = s.count) (hact : s'.active = s.active) : Shift s s' a
  /-- `publishTrack` returns and the context is registered. -/
  | registers {a : Act} {n : ℕ} (ha : a = .published n true) (hn : n < s.count)
      (hp : (s.stage n).2 = .publishing)
      (hst : s'.stage = Function.update s.stage n ((s.stage n).1, .finished))
      (hc : s'.count = s.count) (hact : s'.active = some n) : Shift s s' a
  /-- `publishTrack` fails. -/
  | unpublished {a : Act} {n : ℕ} (ha : a = .published n false) (hn : n < s.count)
      (hp : (s.stage n).2 = .publishing)
      (hst : s'.stage = Function.update s.stage n ((s.stage n).1, .finished))
      (hc : s'.count = s.count) (hact : s'.active = s.active) : Shift s s' a
  /-- A session ends and whatever context is registered is dropped. -/
  | drops {a : Act} {n : ℕ} (ha : a.Drops n)
      (hst : s'.stage = Function.update s.stage n (.closed, (s.stage n).2))
      (hc : s'.count = s.count) (hact : s'.active = none) : Shift s s' a

namespace Server

variable (s : Server)

/-- `startBot` either returns at once or makes a `Room`. -/
lemma startBot_shift {a : Act} (ha : a.starts) : Shift s s.startBot a := by
  have ht : a.target = none := by
    rcases ha with rfl | rfl <;> rfl
  cases hact : s.active with
  | none =>
    refine .creates ha hact ?_ ?_ ?_
    · funext m
      by_cases h : m = s.count
      · subst h
        simp [startBot, hact, stage]
      · simp [startBot, hact, stage, h]
    · simp [startBot, hact]
    · simp [startBot, hact]
  | some c =>
    refine .keeps ht (by simp [hact]) ?_
    rw [startBot, if_pos (by simp [hact])]
    exact ⟨rfl, rfl, rfl⟩

lemma finishStop_shift (n : ℕ) (after : After) :
    (s.finishStop n after).stage = Function.update s.stage n (.closed, (s.stage n).2) ∧
      (s.finishStop n after).count = s.count ∧ (s.finishStop n after).active = none := by
  have h := proceed_alike
    (({ s.modify n ({ · with link := .closed }) with active := none }).emit .clearBuffer) after
  refine ⟨?_, h.count, h.active⟩
  rw [finishStop, h.sameStages.stage]
  exact s.stage_modify n ({ · with link := .closed })

lemma disconnected_shift (n : ℕ) :
    (s.disconnected n).stage = Function.update s.stage n (.closed, (s.stage n).2) ∧
      (s.disconnected n).count = s.count ∧ (s.disconnected n).active = none := by
  obtain ⟨hst, hc, hact⟩ :=
    cleanupRoom_stage (s.modify n ({ · with link := .closed, notified := true }))
  refine ⟨?_, hc, hact⟩
  rw [disconnected, hst]
  exact s.stage_modify n ({ · with link := .closed, notified := true })

end Server

variable {s s' : Server} {e : Event}

/-- A step is a turn of the event loop at a later time. -/
lemma step_eq (h : lifecycle.step s e = some s') :
    s.now ≤ e.now ∧ (s.turn e.now).handle e.act = some s' := by
  simp only [lifecycle] at h
  split at h
  · exact ⟨‹_›, h⟩
  · simp at h

/-- A shift depends on the stages and the registered context only. -/
lemma Shift.of_sameStages {t : Server} {a : Act} (ht : s.SameStages t) (h : Shift t s' a) :
    Shift s s' a := by
  obtain ⟨hst', hc', hact'⟩ := ht
  cases h with
  | keeps ha hs h =>
    rw [hact'] at hs
    exact .keeps ha hs (Server.SameStages.trans ⟨hst', hc', hact'⟩ h)
  | creates ha hn hst hc hact =>
    rw [hst', hc'] at hst
    exact .creates ha (hact' ▸ hn) hst (hc' ▸ hc) hact
  | connects ha hn hp hst hc hact =>
    rw [hst'] at hp hst
    exact .connects ha (hc' ▸ hn) hp hst (hc.trans hc') (hact.trans hact')
  | refused ha hn hp hst hc hact =>
    rw [hst'] at hp hst
    exact .refused ha (hc' ▸ hn) hp hst (hc.trans hc') (hact.trans hact')
  | registers ha hn hp hst hc hact =>
    rw [hst'] at hp hst
    exact .registers ha (hc' ▸ hn) hp hst (hc.trans hc') hact
  | unpublished ha hn hp hst hc hact =>
    rw [hst'] at hp hst
    exact .unpublished ha (hc' ▸ hn) hp hst (hc.trans hc') (hact.trans hact')
  | drops ha hst hc hact =>
    rw [hst'] at hst
    exact .drops ha hst (hc.trans hc') hact

/-- The shift of a resumed call. -/
lemma resume_shift (s : Server) (call : Call) (ok : Bool) :
    Shift s (({ s with calls := s.calls.erase call }).resume ok call) (.resume call ok) := by
  have hstarts : ∀ c, c ≠ Call.generateToken ∨ ok = false →
      ¬ ((Act.resume c ok).starts ∧ s.active = none) := by
    rintro c hc ⟨h | h, -⟩
    · cases h
    · cases h
      simp at hc
  cases call with
  | ragDisconnect n after =>
    exact .keeps rfl (hstarts _ (by simp)) ⟨rfl, rfl, rfl⟩
  | roomDisconnect n after =>
    cases ok with
    | true =>
      obtain ⟨hst, hc, hact⟩ := Server.finishStop_shift
        { s with calls := s.calls.erase (.roomDisconnect n after) } n after
      exact .drops (.inr ⟨after, rfl⟩) hst hc hact
    | false => exact .keeps rfl (hstarts _ (by simp)) ⟨rfl, rfl, rfl⟩
  | removeBots => exact .keeps rfl (hstarts _ (by simp)) ⟨rfl, rfl, rfl⟩
  | generateToken =>
    cases ok with
    | true =>
      exact Shift.of_sameStages (t := { s with calls := s.calls.erase .generateToken })
        ⟨rfl, rfl, rfl⟩ (Server.startBot_shift _ (.inr rfl))
    | false => exact .keeps rfl (hstarts _ (by simp)) ⟨rfl, rfl, rfl⟩
  | deleteRoom => exact .keeps rfl (hstarts _ (by simp)) ⟨rfl, rfl, rfl⟩
  | importAxios =>
    cases ok with
    | true => exact .keeps rfl (hstarts _ (by simp)) ⟨rfl, rfl, rfl⟩
    | false => exact .keeps rfl (hstarts _ (by simp)) ⟨rfl, rfl, rfl⟩

/-- **Every step is a shift.**

**Proof sketch.** One case for each kind of event. What starts, connects, publishes or drops a
session is the shift of that name; all other events keep the stages of the sessions and the
registered one. -/
theorem shift (h : lifecycle.step s e = some s') : Shift s s' e.act := by
  obtain ⟨-, h⟩ := step_eq h
  refine Shift.of_sameStages (t := s.turn e.now) ⟨rfl, rfl, rfl⟩ ?_
  generalize s.turn e.now = t at h
  have hstarts : ∀ a : Act, a ≠ .startBot → (∀ c ok, a ≠ .resume c ok) →
      ¬ (a.starts ∧ t.active = none) := by
    rintro a h₁ h₂ ⟨rfl | rfl, -⟩
    · exact h₁ rfl
    · exact h₂ _ _ rfl
  cases ha : e.act with
  | startBotForRoom =>
    obtain rfl : t.startBotForRoom = s' := by simpa [Server.handle, ha] using h
    exact .keeps rfl (hstarts _ (by simp) (by simp)) t.startBotForRoom_alike.sameStages
  | stopBotForRoom =>
    obtain rfl : t.stopBotForRoom = s' := by simpa [Server.handle, ha] using h
    exact .keeps rfl (hstarts _ (by simp) (by simp)) (t.stopBot_alike .returns).sameStages
  | startBot =>
    obtain rfl : t.startBot = s' := by simpa [Server.handle, ha] using h
    exact t.startBot_shift (.inl rfl)
  | resume call ok =>
    simp only [ha, Server.handle, Option.ite_none_right_eq_some, Option.some.injEq] at h
    obtain ⟨-, rfl⟩ := h
    exact resume_shift t call ok
  | connected n ok =>
    simp only [ha, Server.handle, Option.ite_none_right_eq_some, Option.some.injEq] at h
    obtain ⟨⟨hn, hp⟩, rfl⟩ := h
    cases ok with
    | true =>
      exact .connects rfl hn hp (t.stage_modify n ({ · with
        link := .connected, phase := .publishing, remoteParticipants := t.members })) rfl rfl
    | false =>
      exact .refused rfl hn hp
        (t.stage_modify n ({ · with link := .closed, phase := .finished })) rfl
        rfl
  | published n ok =>
    simp only [ha, Server.handle, Option.ite_none_right_eq_some, Option.some.injEq] at h
    obtain ⟨⟨hn, hp⟩, rfl⟩ := h
    cases ok with
    | true => exact .registers rfl hn hp (t.stage_modify n ({ · with phase := .finished })) rfl rfl
    | false =>
      exact .unpublished rfl hn hp (t.stage_modify n ({ · with phase := .finished })) rfl rfl
  | disconnected n =>
    simp only [ha, Server.handle, Option.ite_none_right_eq_some, Option.some.injEq] at h
    obtain ⟨-, rfl⟩ := h
    obtain ⟨hst, hc, hact⟩ := t.disconnected_shift n
    exact .drops (.inl rfl) hst hc hact
  | join p =>
    simp only [ha, Server.handle, Option.ite_none_left_eq_some, Option.some.injEq] at h
    obtain ⟨-, rfl⟩ := h
    exact .keeps rfl (hstarts _ (by simp) (by simp)) (t.participantConnected_sameStages p)
  | leave p =>
    simp only [ha, Server.handle, Option.ite_none_right_eq_some, Option.some.injEq] at h
    obtain ⟨-, rfl⟩ := h
    exact .keeps rfl (hstarts _ (by simp) (by simp)) (t.participantDisconnected_sameStages p)
  | timeout timer =>
    simp only [ha, Server.handle, Option.ite_none_right_eq_some, Option.some.injEq] at h
    obtain ⟨-, rfl⟩ := h
    refine .keeps rfl (hstarts _ (by simp) (by simp)) ?_
    exact Server.SameStages.trans (t := { t with timers := t.timers.erase timer }) ⟨rfl, rfl, rfl⟩
      (Server.shutdown_sameStages _ timer)
  | forget n =>
    simp only [ha, Server.handle, Option.ite_none_right_eq_some, Option.some.injEq] at h
    obtain ⟨-, rfl⟩ := h
    exact .keeps rfl (hstarts _ (by simp) (by simp))
      (t.modify_sameStages (f := ({ · with remoteParticipants := [] })) n fun _ => ⟨rfl, rfl⟩)

/-! ## Sound states -/

/-- What holds of the sessions in every reachable state. -/
structure Sound (s : Server) : Prop where
  /-- The session of the registered context exists and its `startBot` call is over. -/
  active : ∀ a, s.active = some a → a < s.count ∧ (s.stage a).2 = .finished
  /-- Nothing is known of sessions that have not been made. -/
  rest : ∀ n, s.count ≤ n → s.stage n = (.closed, .finished)

/-- The sessions that have not been made stay as they are when one session changes. -/
lemma rest_update {n : ℕ} {x : Link × Phase}
    (hrest : ∀ n, s.count ≤ n → s.stage n = (.closed, .finished))
    (hst : s'.stage = Function.update s.stage n x) (hc : s'.count = s.count)
    (hn : n < s.count ∨ x = (.closed, (s.stage n).2)) :
    ∀ n, s'.count ≤ n → s'.stage n = (.closed, .finished) := by
  intro m hm
  rw [hst, Function.update_apply]
  split
  · subst m
    rcases hn with hn | rfl
    · omega
    · rw [hrest n (hc ▸ hm)]
  · exact hrest m (hc ▸ hm)

/-- A `startBot` call that is over stays over, once its session has been made. -/
lemma finished_step {n : ℕ} (hn : n < s.count) (h : lifecycle.step s e = some s')
    (hf : (s.stage n).2 = .finished) : n < s'.count ∧ (s'.stage n).2 = .finished := by
  have key : ∀ {m : ℕ} {x : Link × Phase}, s'.stage = Function.update s.stage m x →
      ((s.stage m).2 ≠ .finished ∨ x.2 = .finished) → (s'.stage n).2 = .finished := by
    intro m x hst hx
    rw [hst, Function.update_apply]
    split
    · subst m
      exact hx.resolve_left (not_not_intro hf)
    · exact hf
  cases shift h with
  | keeps ha hs hk =>
    rw [hk.count, hk.stage]
    exact ⟨hn, hf⟩
  | creates ha hnone hst hc hact =>
    rw [hst, hc, Function.update_of_ne (by omega)]
    exact ⟨by omega, hf⟩
  | connects ha hm hp hst hc hact => exact ⟨hc ▸ hn, key hst (.inl (by simp [hp]))⟩
  | refused ha hm hp hst hc hact => exact ⟨hc ▸ hn, key hst (.inr rfl)⟩
  | registers ha hm hp hst hc hact => exact ⟨hc ▸ hn, key hst (.inr rfl)⟩
  | unpublished ha hm hp hst hc hact => exact ⟨hc ▸ hn, key hst (.inr rfl)⟩
  | @drops m ha hst hc hact =>
    refine ⟨hc ▸ hn, ?_⟩
    rw [hst, Function.update_apply]
    split
    · subst m
      exact hf
    · exact hf

/-- **A step keeps states sound.**

**Proof sketch.** By the kind of shift. A new session is the first that did not exist; a context is
registered when the `startBot` call of its session ends, and no shift starts a call again. -/
lemma Sound.step (hs : Sound s) (h : lifecycle.step s e = some s') : Sound s' := by
  obtain ⟨hactive, hrest⟩ := hs
  have hkeep : s'.active = s.active →
      ∀ a, s'.active = some a → a < s'.count ∧ (s'.stage a).2 = .finished := by
    intro hact a ha
    obtain ⟨hlt, hf⟩ := hactive a (hact ▸ ha)
    exact finished_step hlt h hf
  cases shift h with
  | keeps ha hs hk =>
    refine ⟨hkeep hk.active, ?_⟩
    rw [hk.count, hk.stage]
    exact hrest
  | creates ha hn hst hc hact =>
    refine ⟨by simp [hact], fun m hm => ?_⟩
    rw [hst, Function.update_apply, if_neg (by omega)]
    exact hrest m (by omega)
  | connects ha hn hp hst hc hact => exact ⟨hkeep hact, rest_update hrest hst hc (.inl hn)⟩
  | refused ha hn hp hst hc hact => exact ⟨hkeep hact, rest_update hrest hst hc (.inl hn)⟩
  | @registers n ha hn hp hst hc hact =>
    refine ⟨fun a ha => ?_, rest_update hrest hst hc (.inl hn)⟩
    obtain rfl : n = a := Option.some.inj (hact ▸ ha)
    rw [hst, hc]
    exact ⟨hn, by simp⟩
  | unpublished ha hn hp hst hc hact => exact ⟨hkeep hact, rest_update hrest hst hc (.inl hn)⟩
  | drops ha hst hc hact => exact ⟨by simp [hact], rest_update hrest hst hc (.inr rfl)⟩

/-- The initial state is sound. -/
lemma sound_init : Sound lifecycle.init := ⟨by simp [lifecycle], fun _ _ => rfl⟩

/-- **Every reachable state is sound.** -/
theorem sound_reachable (hs : lifecycle.Reachable s) : Sound s :=
  reachable_invariant sound_init (fun _ _ _ hI h => hI.step h) hs

/-! ## Registrations -/

/-- **What happens to the registration.** A step registers the context of a session whose `startBot`
call was suspended at `publishTrack`, or it keeps or drops the registered context. -/
lemma registers_or_not (h : lifecycle.step s e = some s') :
    (∃ n, e.act = .published n true ∧ (s.stage n).2 = .publishing ∧ s'.active = some n) ∨
      (∀ n, e.act ≠ .published n true) ∧ (s'.active = s.active ∨ s'.active = none) := by
  cases shift h with
  | keeps ha hst hk =>
    refine .inr ⟨fun n hn => ?_, .inl hk.active⟩
    simp [hn, Act.target] at ha
  | creates ha hn hst hc hact =>
    refine .inr ⟨fun n hn => ?_, .inr hact⟩
    simp [hn, Act.starts] at ha
  | connects ha hn hp hst hc hact => exact .inr ⟨by simp [ha], .inl hact⟩
  | refused ha hn hp hst hc hact => exact .inr ⟨by simp [ha], .inl hact⟩
  | unpublished ha hn hp hst hc hact => exact .inr ⟨by simp [ha], .inl hact⟩
  | drops ha hst hc hact =>
    refine .inr ⟨fun n hn => ?_, .inr hact⟩
    simp [hn, Act.Drops] at ha
  | @registers n ha hn hp hst hc hact => exact .inl ⟨n, ha, hp, hact⟩

/-- A flag of the contexts is on for contexts that have been registered only. -/
def OnlyRegistered (s : Server) (flag : ℕ → Bool) : Prop :=
  ∀ n, flag n = true → n < s.count ∧ (s.stage n).2 = .finished

namespace OnlyRegistered

variable {flag : ℕ → Bool}

/-- A step of the sessions does not undo a registration. -/
lemma step (hf : OnlyRegistered s flag) (h : lifecycle.step s e = some s') :
    OnlyRegistered s' flag := by
  intro n hn
  obtain ⟨hlt, hfin⟩ := hf n hn
  exact finished_step hlt h hfin

/-- The flag of the registered context may be changed. -/
lemma update (hf : OnlyRegistered s flag) (hs : Sound s) {c : ℕ} (hc : s.active = some c)
    (on : Bool) : OnlyRegistered s (Function.update flag c on) := by
  intro n hn
  rw [Function.update_apply] at hn
  split at hn
  · subst n
    exact hs.active c hc
  · exact hf n hn

/-- The flag of a context that is about to be registered is off. -/
lemma eq_false (hf : OnlyRegistered s flag) {n : ℕ} (hp : (s.stage n).2 = .publishing) :
    flag n = false := by
  by_contra hne
  have := (hf n (by simpa using hne)).2
  simp [hp] at this

end OnlyRegistered

/-! ## Participants -/

/-- The participants after an act. -/
def Act.membersAfter (members : List String) : Act → List String
  | .join p => members ++ [p]
  | .leave p => members.erase p
  | _ => members

/-- Every connected `Room` lists the participants of the room. -/
def Server.Faithful (s : Server) : Prop :=
  ∀ n, (s.sessions n).link = .connected → (s.sessions n).remoteParticipants = s.members

namespace Server

variable (s : Server)

/-- A change of a session that neither connects it nor changes its list. -/
lemma Faithful.modify {s : Server} (hs : s.Faithful) (n : ℕ) {f : Session → Session}
    (hf : ∀ x, ((f x).link = .connected → x.link = .connected) ∧
      (f x).remoteParticipants = x.remoteParticipants) : (s.modify n f).Faithful := by
  intro m hm
  by_cases h : m = n
  · subst h
    simp only [Server.modify, Function.update_self] at hm ⊢
    rw [(hf _).2]
    exact hs m ((hf _).1 hm)
  · simp only [Server.modify, Function.update_of_ne h] at hm ⊢
    exact hs m hm

/-- States that are alike are faithful together. -/
lemma Faithful.of_alike {s s' : Server} (hs : s.Faithful) (h : Alike s s') : s'.Faithful := by
  unfold Faithful
  rw [h.sessions, h.members]
  exact hs

/-- The participants and what the `Room`s list of them, as the auto-shutdown leaves them. -/
lemma cancelShutdown_members : s.cancelShutdown.members = s.members ∧
    (s.Faithful → s.cancelShutdown.Faithful) := by
  unfold cancelShutdown
  split
  · exact ⟨rfl, id⟩
  split
  · exact ⟨rfl, id⟩
  · exact ⟨rfl, fun h => Faithful.modify (s := s.clearTimeout _) h _ fun _ => ⟨id, rfl⟩⟩

lemma scheduleShutdown_members : s.scheduleShutdown.members = s.members ∧
    (s.Faithful → s.scheduleShutdown.Faithful) := by
  unfold scheduleShutdown
  split
  · exact ⟨rfl, id⟩
  split
  · exact ⟨rfl, id⟩
  · exact ⟨rfl, fun h => Faithful.modify (s := s.setTimeout _) h _ fun _ => ⟨id, rfl⟩⟩

/-- Every connected `Room` is shown a change of the participants. -/
lemma observe_faithful {f : List String → List String} {t : Server} (hs : s.Faithful)
    (ht : t.sessions = s.sessions) (hf : t.members = f s.members) : (t.observe f).Faithful := by
  intro n hn
  simp only [observe, ht] at hn ⊢
  split at hn
  · rename_i hl
    rw [if_pos hl]
    exact (congrArg f (hs n hl)).trans hf.symm
  · exact absurd hn ‹_›

lemma participantConnected_members (p : String) :
    (s.participantConnected p).members = s.members ++ [p] ∧
      (s.Faithful → (s.participantConnected p).Faithful) := by
  have h : s.Faithful → (s.admitted p).Faithful := fun hs => s.observe_faithful hs rfl rfl
  obtain ⟨hm, hf⟩ := (s.admitted p).cancelShutdown_members
  unfold participantConnected
  dsimp only
  split
  · exact ⟨hm, fun hs => hf (h hs)⟩
  · exact ⟨rfl, h⟩

lemma participantDisconnected_members (p : String) :
    (s.participantDisconnected p).members = s.members.erase p ∧
      (s.Faithful → (s.participantDisconnected p).Faithful) := by
  have h : s.Faithful → (s.departed p).Faithful := fun hs => s.observe_faithful hs rfl rfl
  obtain ⟨hm, hf⟩ := (s.departed p).scheduleShutdown_members
  unfold participantDisconnected
  dsimp only
  split
  · exact ⟨hm, fun hs => hf (h hs)⟩
  · exact ⟨rfl, h⟩

lemma cleanupRoom_members : s.cleanupRoom.members = s.members ∧
    (s.Faithful → s.cleanupRoom.Faithful) := by
  unfold cleanupRoom
  dsimp only
  split
  · exact ⟨rfl, id⟩
  split <;> exact ⟨rfl, id⟩

lemma shutdown_members (timer : Timeout) : (s.shutdown timer).members = s.members ∧
    (s.Faithful → (s.shutdown timer).Faithful) := by
  unfold shutdown
  split
  · exact ⟨rfl, id⟩
  split
  · have h := s.stopBot_alike .cleansUp
    exact ⟨h.members, fun hs => hs.of_alike h⟩
  · exact ⟨rfl, fun hs => hs.modify _ fun _ => ⟨id, rfl⟩⟩

lemma startBot_members : s.startBot.members = s.members ∧
    (s.Faithful → s.startBot.Faithful) := by
  unfold startBot
  split
  · exact ⟨rfl, id⟩
  · refine ⟨rfl, fun hs n hn => ?_⟩
    by_cases h : n = s.count
    · subst h
      simp at hn
    · simp only [Function.update_of_ne h] at hn ⊢
      exact hs n hn

lemma resume_members (call : Call) (ok : Bool) : (s.resume ok call).members = s.members ∧
    (s.Faithful → (s.resume ok call).Faithful) := by
  cases call with
  | roomDisconnect n after =>
    cases ok with
    | true =>
      have h := proceed_alike
        (({ s.modify n ({ · with link := .closed }) with active := none }).emit .clearBuffer) after
      refine ⟨h.members, fun hs => Faithful.of_alike ?_ h⟩
      exact Faithful.modify (s := s) hs n (f := ({ · with link := .closed }))
        fun _ => ⟨by simp, rfl⟩
    | false => exact ⟨rfl, id⟩
  | generateToken =>
    cases ok with
    | true => exact s.startBot_members
    | false => exact ⟨rfl, id⟩
  | ragDisconnect n after => exact ⟨rfl, id⟩
  | removeBots => exact ⟨rfl, id⟩
  | deleteRoom => exact ⟨rfl, id⟩
  | importAxios => cases ok <;> exact ⟨rfl, id⟩

end Server

/-- What an act does to the participants and to the lists of the connected `Room`s.

**Proof sketch.** One case for each kind of event. Only those who join or leave change the
participants. A `Room` that connects takes the list of that time, a connected one is told of each
change, and the list of one that is not connected does not matter. -/
lemma handle_members {a : Act} (h : s.handle a = some s') :
    s'.members = a.membersAfter s.members ∧ (s.Faithful → s'.Faithful) := by
  cases a with
  | startBotForRoom =>
    obtain rfl : s.startBotForRoom = s' := by simpa [Server.handle] using h
    have ha := s.startBotForRoom_alike
    exact ⟨ha.members, fun hs => hs.of_alike ha⟩
  | stopBotForRoom =>
    obtain rfl : s.stopBotForRoom = s' := by simpa [Server.handle] using h
    have ha := s.stopBot_alike .returns
    exact ⟨ha.members, fun hs => hs.of_alike ha⟩
  | startBot =>
    obtain rfl : s.startBot = s' := by simpa [Server.handle] using h
    exact s.startBot_members
  | resume call ok =>
    simp only [Server.handle, Option.ite_none_right_eq_some, Option.some.injEq] at h
    obtain ⟨-, rfl⟩ := h
    exact Server.resume_members { s with calls := s.calls.erase call } call ok
  | connected n ok =>
    simp only [Server.handle, Option.ite_none_right_eq_some, Option.some.injEq] at h
    obtain ⟨-, rfl⟩ := h
    cases ok with
    | true =>
      refine ⟨rfl, fun hs m hm => ?_⟩
      by_cases hmn : m = n
      · subst hmn
        simp [Server.afterConnect, Server.modify, Server.emit]
      · simp only [Server.afterConnect, if_true, Server.modify, Server.emit,
          Function.update_of_ne hmn] at hm ⊢
        exact hs m hm
    | false =>
      exact ⟨rfl, fun hs => hs.modify (f := ({ · with link := .closed, phase := .finished })) n
        fun _ => ⟨by simp, rfl⟩⟩
  | published n ok =>
    simp only [Server.handle, Option.ite_none_right_eq_some, Option.some.injEq] at h
    obtain ⟨-, rfl⟩ := h
    have hf : s.Faithful → (s.modify n ({ · with phase := .finished })).Faithful :=
      fun hs => hs.modify n fun _ => ⟨id, rfl⟩
    cases ok <;> exact ⟨rfl, hf⟩
  | disconnected n =>
    simp only [Server.handle, Option.ite_none_right_eq_some, Option.some.injEq] at h
    obtain ⟨-, rfl⟩ := h
    obtain ⟨hm, hf⟩ :=
      (s.modify n ({ · with link := .closed, notified := true })).cleanupRoom_members
    exact ⟨hm, fun hs => hf (hs.modify n fun _ => ⟨by simp, rfl⟩)⟩
  | join p =>
    simp only [Server.handle, Option.ite_none_left_eq_some, Option.some.injEq] at h
    obtain ⟨-, rfl⟩ := h
    exact s.participantConnected_members p
  | leave p =>
    simp only [Server.handle, Option.ite_none_right_eq_some, Option.some.injEq] at h
    obtain ⟨-, rfl⟩ := h
    exact s.participantDisconnected_members p
  | timeout timer =>
    simp only [Server.handle, Option.ite_none_right_eq_some, Option.some.injEq] at h
    obtain ⟨-, rfl⟩ := h
    exact Server.shutdown_members { s with timers := s.timers.erase timer } timer
  | forget n =>
    simp only [Server.handle, Option.ite_none_right_eq_some, Option.some.injEq] at h
    obtain ⟨⟨-, hl⟩, rfl⟩ := h
    refine ⟨rfl, fun hs m hm => ?_⟩
    by_cases hmn : m = n
    · subst hmn
      simp [Server.modify, hl] at hm
    · simp only [Server.modify, Function.update_of_ne hmn] at hm ⊢
      exact hs m hm

/-- **Participants** come and go only by joining and leaving. -/
lemma members_step (h : lifecycle.step s e = some s') :
    s'.members = e.act.membersAfter s.members :=
  (handle_members (step_eq h).2).1

/-- A step keeps the lists of the connected `Room`s right. -/
lemma Server.Faithful.step (hs : s.Faithful) (h : lifecycle.step s e = some s') : s'.Faithful :=
  (handle_members (step_eq h).2).2 hs

/-- Initially no `Room` is connected. -/
lemma faithful_init : lifecycle.init.Faithful := fun n hn => by simp [lifecycle] at hn

/-- **A connected `Room` lists the participants of the room** in every reachable state. -/
theorem faithful_reachable (hs : lifecycle.Reachable s) : s.Faithful :=
  reachable_invariant faithful_init (fun _ _ _ hI h => hI.step h) hs

end Lifecycle
