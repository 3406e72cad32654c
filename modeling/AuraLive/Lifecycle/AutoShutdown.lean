import AuraLive.Lifecycle.Moves
import Mathlib.Order.Nat

set_option relaxedAutoImplicit false
set_option autoImplicit false

/-!
# The automatic shutdown

When the last human leaves, a timeout of 30 s is armed; it is cancelled when a human joins. When it
fires, the bot leaves the room, deletes it and asks the backend to delete its data. The timeout
checks the room once, and the bot does not see who joins after it has left.

## Main definitions

* `Lifecycle.Deserted` — no human is in the room or has been in it for the grace period.
* `Lifecycle.SafeShutdown` — the room is deserted when the auto-shutdown deletes it or its data.
* `Lifecycle.Guarded` — no human joins during a cleanup, and a timeout that finds a context was
  armed for it and reads a connected `Room`.
* `Lifecycle.Watched` — the invariant: a timeout of the registered, connected session is pending
  only while the room is empty, and a cleanup is under way only in a deserted room.

## Main results

* `Lifecycle.Watched.step` — a guarded step keeps the invariant.
* `Lifecycle.shutdown_safe` — in a guarded run the auto-shutdown never destroys an occupied room.
* `Lifecycle.shutdown_destroys_occupied` — a human who joins while the bot is leaving loses the
  room.
-/

namespace Lifecycle

open Foundations EventSystem

/-- By the time `t`, no human is in the room and none has been in it for the grace period. -/
def Deserted (s : Server) (t : ℕ) : Prop :=
  humans s.members = [] ∧ ∀ l ∈ s.lastLeft, l + SHUTDOWN_DELAY_MS ≤ t

instance (s : Server) (t : ℕ) : Decidable (Deserted s t) := by
  delta Deserted
  infer_instance

/-- When the auto-shutdown deletes the room or its data, the room is deserted. -/
def SafeShutdown (s : Server) : Prop :=
  Effect.deleteRoom ∈ s.effects ∨ Effect.roomCleanup ∈ s.effects → Deserted s s.now

instance : DecidablePred SafeShutdown := fun s => by
  delta SafeShutdown
  infer_instance

/-- The calls of an auto-shutdown that is under way. -/
def Call.cleansUp : Call → Bool
  | .ragDisconnect _ after => after = .cleansUp
  | .roomDisconnect _ after => after = .cleansUp
  | .deleteRoom => true
  | .importAxios => true
  | _ => false

/-- No human joins while an auto-shutdown is under way, and a shutdown timeout that finds a
registered context was armed for that context, whose `Room` is connected. -/
def Guarded (s : Server) (e : Event) : Prop :=
  match e.act with
  | .join p => isHuman p → ∀ call ∈ s.calls, call.cleansUp = false
  | .timeout timer => ∀ c ∈ s.active, timer.session = c ∧ (s.sessions c).link = .connected
  | _ => True

instance (s : Server) (e : Event) : Decidable (Guarded s e) := by
  delta Guarded
  split <;> infer_instance

/-- What a guarded run keeps. -/
structure Watched (s : Server) : Prop where
  /-- A human leaves in the past. -/
  left : ∀ l ∈ s.lastLeft, l ≤ s.now
  /-- A timeout is armed for a session whose `startBot` call is over. -/
  finished : ∀ t ∈ s.timers, t.session < s.count ∧ (s.stage t.session).2 = .finished
  /-- A timeout of the registered session can be cancelled, and the room is empty, as long as the
  `Room` is connected. -/
  armed : ∀ t ∈ s.timers, s.active = some t.session → (s.sessions t.session).link = .connected →
    (s.sessions t.session).shutdownTimeout = some t.id ∧ Deserted s t.due
  /-- An auto-shutdown is under way in a deserted room only. -/
  cleaning : ∀ call ∈ s.calls, call.cleansUp = true → Deserted s s.now

variable {s s' : Server} {e : Event}

/-- A deserted room stays deserted with time. -/
lemma Deserted.mono {t t' : ℕ} (h : Deserted s t) (hm : s'.members = s.members)
    (hl : s'.lastLeft = s.lastLeft) (ht : t ≤ t') : Deserted s' t' :=
  ⟨hm ▸ h.1, fun l hl' => (h.2 l (hl ▸ hl')).trans ht⟩

/-- **The frame of the invariant.** It is kept by a change that leaves the participants alone, arms
no timeout, starts no cleanup in an occupied room and keeps the handle of the registered session. -/
lemma Watched.frame (h : Watched s) (hnow : s.now ≤ s'.now) (hm : s'.members = s.members)
    (hl : s'.lastLeft = s.lastLeft) (ht : ∀ t ∈ s'.timers, t ∈ s.timers)
    (hf : ∀ n < s.count, (s.stage n).2 = .finished → n < s'.count ∧ (s'.stage n).2 = .finished)
    (ha : ∀ n, s'.active = some n → (s'.sessions n).link = .connected →
      (s.active = some n ∧ (s.sessions n).link = .connected ∧
        (s'.sessions n).shutdownTimeout = (s.sessions n).shutdownTimeout) ∨
      ∀ t ∈ s'.timers, t.session ≠ n)
    (hc : ∀ call ∈ s'.calls, call.cleansUp = true →
      (∃ call ∈ s.calls, call.cleansUp = true) ∨ Deserted s s.now) : Watched s' := by
  refine ⟨fun l hl' => (h.left l (hl ▸ hl')).trans hnow, fun t htm => ?_,
    fun t htm hact hlink => ?_,
    fun call hcall hcl => ?_⟩
  · obtain ⟨hlt, hfin⟩ := h.finished t (ht t htm)
    exact hf _ hlt hfin
  · rcases ha _ hact hlink with ⟨hact', hlink', htimeout⟩ | hne
    · obtain ⟨hid, hdes⟩ := h.armed t (ht t htm) hact' hlink'
      exact ⟨htimeout.trans hid, hdes.mono hm hl le_rfl⟩
    · exact absurd rfl (hne t htm)
  · rcases hc call hcall hcl with ⟨call', hcall', hcl'⟩ | hdes
    · exact (h.cleaning call' hcall' hcl').mono hm hl hnow
    · exact hdes.mono hm hl hnow

/-- The invariant does not depend on the clock or on past calls of other services. -/
lemma Watched.turn (h : Watched s) {now : ℕ} (hnow : s.now ≤ now) : Watched (s.turn now) :=
  h.frame hnow rfl rfl (fun _ ht => ht) (fun _ hn hf => ⟨hn, hf⟩)
    (fun _ hact hlink => .inl ⟨hact, hlink, rfl⟩) fun call hc hcl => .inl ⟨call, hc, hcl⟩

/-- Stopping the bot, with a cleanup only in a deserted room. -/
lemma Watched.stopBot (h : Watched s) (after : After)
    (hd : after = .cleansUp → Deserted s s.now) : Watched (s.stopBot after) := by
  have ha := s.stopBot_alike after
  refine h.frame ha.now.ge ha.members ha.lastLeft (fun t ht => ha.timers ▸ ht) (fun n hn hf => ?_)
    (fun n hact hlink => .inl ⟨ha.active ▸ hact, ha.sessions ▸ hlink, by rw [ha.sessions]⟩)
    fun call hcall hcl => ?_
  · rw [ha.count, ha.sameStages.stage]
    exact ⟨hn, hf⟩
  · unfold Server.stopBot at hcall
    split at hcall
    · cases after with
      | cleansUp => exact .inr (hd rfl)
      | returns => exact .inl ⟨call, hcall, hcl⟩
      | restarts =>
        rcases List.mem_append.mp hcall with hcall | hcall
        · exact .inl ⟨call, hcall, hcl⟩
        · simp [List.mem_singleton.mp hcall, Call.cleansUp] at hcl
    · rcases List.mem_append.mp hcall with hcall | hcall
      · exact .inl ⟨call, hcall, hcl⟩
      · rw [List.mem_singleton.mp hcall] at hcl
        exact .inr (hd (by simpa [Call.cleansUp] using hcl))

/-- A new session, made while no context is registered. -/
lemma Watched.startBot (h : Watched s) : Watched s.startBot := by
  unfold Server.startBot
  split
  · exact h
  rename_i hnone
  have hact : s.active = none := by simpa using hnone
  refine h.frame le_rfl rfl rfl (fun _ ht => ht) (fun n hn hf => ?_) (fun n hn => ?_)
    fun call hc hcl => .inl ⟨call, hc, hcl⟩
  · have hne : n ≠ s.count := by omega
    refine ⟨by simp only; omega, ?_⟩
    simpa [Server.stage, hne] using hf
  · simp [hact] at hn

/-- A stopped session, with a cleanup that goes on only in a deserted room. -/
lemma Watched.finishStop (h : Watched s) (n : ℕ) (after : After)
    (hd : after = .cleansUp → Deserted s s.now) : Watched (s.finishStop n after) := by
  obtain ⟨hst, hcount, hact⟩ := s.finishStop_shift n after
  have ha := Server.proceed_alike
    (({ s.modify n ({ · with link := .closed }) with active := none }).emit .clearBuffer) after
  refine h.frame ha.now.ge ha.members ha.lastLeft (fun t ht => ha.timers ▸ ht)
    (fun m hm hf => ?_) (fun m hm => ?_) fun call hcall hcl => ?_
  · rw [hcount, hst, Function.update_apply]
    refine ⟨hm, ?_⟩
    split
    · subst m
      exact hf
    · exact hf
  · simp [hact] at hm
  · cases after with
    | returns => exact .inl ⟨call, hcall, hcl⟩
    | restarts =>
      rcases List.mem_append.mp hcall with hcall | hcall
      · exact .inl ⟨call, hcall, hcl⟩
      · simp [List.mem_singleton.mp hcall, Call.cleansUp] at hcl
    | cleansUp => exact .inr (hd rfl)

/-- A suspended call goes on; a cleanup that goes on was under way before. -/
lemma Watched.resume {call : Call} {ok : Bool} (h : Watched s) (hmem : call ∈ s.calls) :
    Watched (({ s with calls := s.calls.erase call }).resume ok call) := by
  -- what is left of the calls, with the next call of the one that was resumed
  have herase : ∀ x ∈ s.calls.erase call, x.cleansUp = true →
      (∃ y ∈ s.calls, y.cleansUp = true) ∨ Deserted s s.now :=
    fun x hx hcl => .inl ⟨x, List.mem_of_mem_erase hx, hcl⟩
  have hnext : ∀ {y : Call}, (y.cleansUp = true → call.cleansUp = true) →
      ∀ x ∈ s.calls.erase call ++ [y], x.cleansUp = true →
        (∃ y ∈ s.calls, y.cleansUp = true) ∨ Deserted s s.now := by
    intro y hy x hx hcl
    rcases List.mem_append.mp hx with hx | hx
    · exact herase x hx hcl
    · exact .inl ⟨call, hmem, hy (List.mem_singleton.mp hx ▸ hcl)⟩
  have hframe : ∀ {calls : List Call} {effects : List Effect},
      (∀ x ∈ calls, x.cleansUp = true → (∃ y ∈ s.calls, y.cleansUp = true) ∨ Deserted s s.now) →
      Watched { s with calls := calls, effects := effects } :=
    fun hc => h.frame le_rfl rfl rfl (fun _ ht => ht) (fun _ hn hf => ⟨hn, hf⟩)
      (fun _ hact hlink => .inl ⟨hact, hlink, rfl⟩) hc
  cases call with
  | ragDisconnect n after => exact hframe (hnext id)
  | removeBots => exact hframe (hnext (by simp [Call.cleansUp]))
  | deleteRoom => exact hframe (hnext fun _ => rfl)
  | importAxios => cases ok <;> exact hframe herase
  | generateToken =>
    cases ok with
    | true => exact Watched.startBot (hframe herase)
    | false => exact hframe herase
  | roomDisconnect n after =>
    cases ok with
    | false => exact hframe herase
    | true =>
      refine Watched.finishStop (hframe herase) n after fun hafter => ?_
      exact h.cleaning _ hmem (by simp [Call.cleansUp, hafter])

/-! ## Participants -/

/-- In a deserted room there is no human to leave. -/
lemma Deserted.not_mem {t : ℕ} {p : String} (h : Deserted s t) (hp : p ∈ s.members) :
    isHuman p = false := by
  by_contra hne
  have hmem : p ∈ humans s.members := List.mem_filter.mpr ⟨hp, by simpa using hne⟩
  simp [h.1] at hmem

/-- A participant leaves a room that is deserted: it was a bot. -/
lemma Deserted.departed {t : ℕ} {p : String} (h : Deserted s t) (hp : p ∈ s.members) :
    Deserted (s.departed p) t := by
  refine ⟨?_, fun l hl => h.2 l ?_⟩
  · refine List.filter_eq_nil_iff.mpr fun q hq => ?_
    have hq' : q ∈ s.members := List.mem_of_mem_erase hq
    simp [h.not_mem hq']
  · simpa [Server.departed, Server.observe, h.not_mem hp] using hl

/-- A bot joins a deserted room. -/
lemma Deserted.admitted {t : ℕ} {p : String} (h : Deserted s t) (hp : isHuman p = false) :
    Deserted (s.admitted p) t := by
  refine ⟨?_, h.2⟩
  have hm : (s.admitted p).members = s.members ++ [p] := rfl
  rw [hm, humans, List.filter_append]
  simpa [humans, hp] using h.1

/-- What the connected `Room`s list does not matter for the sessions' fields. -/
lemma observe_fields (f : List String → List String) (n : ℕ) :
    ((s.observe f).sessions n).link = (s.sessions n).link ∧
      ((s.observe f).sessions n).phase = (s.sessions n).phase ∧
      ((s.observe f).sessions n).shutdownTimeout = (s.sessions n).shutdownTimeout := by
  simp only [Server.observe]
  split <;> exact ⟨rfl, rfl, rfl⟩

/-- The invariant after a participant has left, before the handlers run. -/
lemma Watched.departed {p : String} (h : Watched s) (hp : p ∈ s.members) :
    Watched (s.departed p) := by
  have hf := fun n => observe_fields
    (s := { s with
      members := s.members.erase p
      lastLeft := if isHuman p then some s.now else s.lastLeft }) (·.erase p) n
  refine ⟨fun l hl => ?_, fun t ht => ?_, fun t ht hact hlink => ?_, fun call hc hcl => ?_⟩
  · change l ∈ (if isHuman p then some s.now else s.lastLeft) at hl
    split at hl
    · exact (Option.some.inj hl).ge
    · exact h.left l hl
  · obtain ⟨hlt, hfin⟩ := h.finished t ht
    exact ⟨hlt, (hf t.session).2.1.trans hfin⟩
  · obtain ⟨hid, hdes⟩ := h.armed t ht hact ((hf t.session).1 ▸ hlink)
    exact ⟨(hf t.session).2.2.trans hid, hdes.departed hp⟩
  · exact (h.cleaning call hc hcl).departed hp

/-- The invariant after a bot has joined. -/
lemma Watched.admitted {p : String} (h : Watched s) (hp : isHuman p = false) :
    Watched (s.admitted p) := by
  have hf := fun n => observe_fields (s := { s with members := s.members ++ [p] }) (· ++ [p]) n
  refine ⟨h.left, fun t ht => ?_, fun t ht hact hlink => ?_, fun call hc hcl => ?_⟩
  · obtain ⟨hlt, hfin⟩ := h.finished t ht
    exact ⟨hlt, (hf t.session).2.1.trans hfin⟩
  · obtain ⟨hid, hdes⟩ := h.armed t ht hact ((hf t.session).1 ▸ hlink)
    exact ⟨(hf t.session).2.2.trans hid, hdes.admitted hp⟩
  · exact (h.cleaning call hc hcl).admitted hp

/-- What cancelling a shutdown leaves alone. -/
lemma cancelShutdown_frame (s : Server) : s.cancelShutdown.now = s.now ∧
    s.cancelShutdown.lastLeft = s.lastLeft ∧ s.cancelShutdown.calls = s.calls ∧
    ∀ t ∈ s.cancelShutdown.timers, t ∈ s.timers := by
  unfold Server.cancelShutdown
  split
  · exact ⟨rfl, rfl, rfl, fun _ ht => ht⟩
  split
  · exact ⟨rfl, rfl, rfl, fun _ ht => ht⟩
  · exact ⟨rfl, rfl, rfl, fun _ ht => List.mem_of_mem_filter ht⟩

/-- A cancelled timeout is not pending any more. -/
lemma not_mem_cancelShutdown {c : ℕ} {timer : Timeout} (hact : s.active = some c)
    (hid : (s.sessions c).shutdownTimeout = some timer.id) : timer ∉ s.cancelShutdown.timers := by
  simp [Server.cancelShutdown, hact, hid, Server.setShutdown, Server.modify, Server.clearTimeout]

/-- **A human joins.** If the registered `Room` is connected, the pending timeout of its context is
cancelled.

**Proof sketch.** A timeout that is left, of the registered and connected session, would carry the
handle of its context, and the handler has cleared the timeout with that handle. -/
lemma Watched.participantConnected {p : String} (h : Watched s) (hp : isHuman p = true)
    (hc : ∀ call ∈ s.calls, call.cleansUp = false) : Watched (s.participantConnected p) := by
  have hf := fun n => observe_fields (s := { s with members := s.members ++ [p] }) (· ++ [p]) n
  have hst := s.participantConnected_sameStages p
  -- the handler of a connected `Room` runs
  have hrun : ∀ n, n < s.count → (s.sessions n).link = .connected →
      s.participantConnected p = (s.admitted p).cancelShutdown := by
    intro n hn hlink
    have hconn : (s.admitted p).Connected n := ⟨hn, (hf n).1.trans hlink⟩
    rw [Server.participantConnected, if_pos ⟨hp, n, hn, hconn⟩]
  obtain ⟨hnow, hleft, hcalls, htimers⟩ : (s.participantConnected p).now = s.now ∧
      (s.participantConnected p).lastLeft = s.lastLeft ∧
      (s.participantConnected p).calls = s.calls ∧
      ∀ t ∈ (s.participantConnected p).timers, t ∈ s.timers := by
    unfold Server.participantConnected
    dsimp only
    split
    · exact cancelShutdown_frame (s.admitted p)
    · exact ⟨rfl, rfl, rfl, fun _ ht => ht⟩
  refine ⟨fun l hl => ?_, fun t ht => ?_, fun t ht hact hlink => ?_, fun call hcall hcl => ?_⟩
  · rw [hnow]
    exact h.left l (hleft ▸ hl)
  · rw [hst.count, hst.stage]
    exact h.finished t (htimers t ht)
  · have hlt := (h.finished t (htimers t ht)).1
    have hact' : s.active = some t.session := hst.active ▸ hact
    have hlink' : (s.sessions t.session).link = .connected :=
      (congrArg Prod.fst (congrFun hst.stage t.session)).symm.trans hlink
    obtain ⟨hid, -⟩ := h.armed t (htimers t ht) hact' hlink'
    rw [hrun t.session hlt hlink'] at ht
    exact absurd ht (not_mem_cancelShutdown hact' ((hf t.session).2.2.trans hid))
  · simp [hc call (hcalls ▸ hcall)] at hcl

/-- **A shutdown is scheduled** in a room that is empty.

**Proof sketch.** An earlier timeout of the registered and connected session would have left its
handle in the context, and then no timeout is armed. -/
lemma Watched.scheduleShutdown (h : Watched s) (hs : Sound s) (hempty : humans s.members = []) :
    Watched s.scheduleShutdown := by
  unfold Server.scheduleShutdown
  split
  · exact h
  rename_i c hact
  split
  · exact h
  rename_i hnone
  have hdes : ∀ t, Deserted s t → Deserted ((s.setTimeout c).setShutdown c (some s.nextTimer)) t :=
    fun t ht => ht.mono rfl rfl le_rfl
  have hst := (s.setTimeout c).setShutdown_sameStages c (some s.nextTimer)
  refine ⟨h.left, fun t ht => ?_, fun t ht hact' hlink => ?_, fun call hc hcl => ?_⟩
  · rw [hst.stage]
    rcases List.mem_append.mp ht with ht | ht
    · exact h.finished t ht
    · obtain rfl := List.mem_singleton.mp ht
      exact hs.active c hact
  · have hc : c = t.session := Option.some.inj (hact.symm.trans hact')
    have hlink' : (s.sessions t.session).link = .connected :=
      (congrArg Prod.fst (congrFun hst.stage t.session)).symm.trans hlink
    rcases List.mem_append.mp ht with ht | ht
    · obtain ⟨hid, -⟩ := h.armed t ht hact' hlink'
      simp [← hc, hnone] at hid
    · obtain rfl := List.mem_singleton.mp ht
      refine ⟨by simp [Server.setShutdown, Server.modify], hdes _ ⟨hempty, fun l hl => ?_⟩⟩
      exact Nat.add_le_add_right (h.left l hl) _
  · exact hdes _ (h.cleaning call hc hcl)

/-- **A participant leaves.** If a connected `Room` lists no human, the room is empty. -/
lemma Watched.participantDisconnected {p : String} (h : Watched s) (hs : Sound s)
    (hfaith : s.Faithful) (hp : p ∈ s.members) : Watched (s.participantDisconnected p) := by
  have hdep := h.departed hp
  unfold Server.participantDisconnected
  dsimp only
  split
  · rename_i hn
    obtain ⟨n, -, hconn, hempty⟩ := hn
    have hfaith' : (s.departed p).Faithful := s.observe_faithful hfaith rfl rfl
    have hst := s.departed_sameStages p
    refine hdep.scheduleShutdown ⟨?_, ?_⟩ ?_
    · rw [hst.active, hst.count, hst.stage]
      exact hs.active
    · rw [hst.count, hst.stage]
      exact hs.rest
    · rw [← hfaith' n hconn.2]
      exact hempty
  · exact hdep

/-- **The timeout fires.** Armed for the registered session, whose `Room` is connected, it finds a
deserted room and stops the bot.

**Proof sketch.** The timeout is still pending, so the room has been empty since it was armed; the
`Room` lists the participants of the room, so the callback sees that it is empty. -/
lemma Watched.shutdown {timer : Timeout} (h : Watched s) (hfaith : s.Faithful)
    (hmem : timer ∈ s.timers) (hdue : timer.due ≤ s.now)
    (hC : ∀ c ∈ s.active, timer.session = c ∧ (s.sessions c).link = .connected) :
    Watched (({ s with timers := s.timers.erase timer }).shutdown timer) := by
  have herase : Watched { s with timers := s.timers.erase timer } :=
    h.frame le_rfl rfl rfl (fun t ht => List.mem_of_mem_erase ht) (fun _ hn hf => ⟨hn, hf⟩)
      (fun _ hact hlink => .inl ⟨hact, hlink, rfl⟩) fun call hc hcl => .inl ⟨call, hc, hcl⟩
  unfold Server.shutdown
  split
  · exact herase
  rename_i c hact
  have hact' : s.active = some c := hact
  obtain ⟨rfl, hlink⟩ := hC c hact'
  obtain ⟨-, hdes⟩ := h.armed timer hmem hact' hlink
  have hempty : humans (s.sessions timer.session).remoteParticipants = [] := by
    rw [hfaith timer.session hlink]
    exact hdes.1
  rw [if_pos hempty]
  exact herase.stopBot .cleansUp fun _ => hdes.mono rfl rfl hdue

/-! ## Steps and runs -/

/-- A session that goes on with its `startBot` call is not the registered one. -/
lemma Watched.modify (h : Watched s) (hs : Sound s) {n : ℕ} (hn : (s.stage n).2 ≠ .finished)
    (f : Session → Session) : Watched (s.modify n f) := by
  refine h.frame le_rfl rfl rfl (fun _ htm => htm) (fun m hm hf => ?_) (fun m hact hlink => ?_)
    fun call hc hcl => .inl ⟨call, hc, hcl⟩
  · refine ⟨hm, ?_⟩
    rw [s.stage_modify, Function.update_of_ne]
    · exact hf
    · rintro rfl
      exact hn hf
  · have hne : m ≠ n := by
      rintro rfl
      exact hn (hs.active m hact).2
    have hsame : (s.modify n f).sessions m = s.sessions m := Function.update_of_ne hne _ _
    rw [hsame] at hlink ⊢
    exact .inl ⟨hact, hlink, rfl⟩

/-- What `cleanupRoom` leaves alone. -/
lemma cleanupRoom_frame (s : Server) : s.cleanupRoom.now = s.now ∧
    s.cleanupRoom.lastLeft = s.lastLeft ∧ s.cleanupRoom.calls = s.calls ∧
    ∀ t ∈ s.cleanupRoom.timers, t ∈ s.timers := by
  unfold Server.cleanupRoom
  dsimp only
  split
  · exact ⟨rfl, rfl, rfl, fun _ ht => ht⟩
  split
  · exact ⟨rfl, rfl, rfl, fun _ ht => ht⟩
  · exact ⟨rfl, rfl, rfl, fun _ ht => List.mem_of_mem_filter ht⟩

/-- A `Room` that is disconnected leaves no context registered. -/
lemma Watched.disconnected (h : Watched s) (n : ℕ) : Watched (s.disconnected n) := by
  obtain ⟨hst, hcount, hact⟩ := s.disconnected_shift n
  have hm := (s.modify n ({ · with link := .closed, notified := true })).cleanupRoom_members.1
  obtain ⟨hnow, hleft, hcalls, htimers⟩ :=
    cleanupRoom_frame (s.modify n ({ · with link := .closed, notified := true }))
  refine h.frame hnow.ge hm hleft htimers (fun m hlt hf => ?_) (fun m hm => ?_)
    fun call hc hcl => .inl ⟨call, hcalls ▸ hc, hcl⟩
  · rw [hcount, hst, Function.update_apply]
    refine ⟨hlt, ?_⟩
    split
    · subst m
      exact hf
    · exact hf
  · simp [hact] at hm

/-- **A guarded step keeps the invariant.**

**Proof sketch.** One case for each kind of event. Most steps neither arm a timeout nor begin a call
of an auto-shutdown, and keep the registered session or register one for which no timeout has been
armed; `Watched.frame` covers them. A human who joins cancels the pending timeout, and by the guard
no cleanup is under way. The last human who leaves arms a timeout in an empty room. A timeout that
is due has waited for the grace period in an empty room, so the cleanup begins in a deserted one,
and it goes on there, as nobody has joined since. -/
lemma Watched.step (h : Watched s) (hs : Sound s) (hfaith : s.Faithful) (hC : Guarded s e)
    (hstep : lifecycle.step s e = some s') : Watched s' := by
  obtain ⟨hnow, hh⟩ := step_eq hstep
  have ht : Watched (s.turn e.now) := h.turn hnow
  have hst : Sound (s.turn e.now) := ⟨hs.active, hs.rest⟩
  have hft : (s.turn e.now).Faithful := hfaith
  have hCt : Guarded (s.turn e.now) e := hC
  generalize s.turn e.now = t at hh ht hst hft hCt
  cases ha : e.act with
  | startBotForRoom =>
    obtain rfl : t.startBotForRoom = s' := by simpa [Server.handle, ha] using hh
    unfold Server.startBotForRoom
    split
    · exact ht.stopBot .restarts (by simp)
    · refine ht.frame le_rfl rfl rfl (fun _ h => h) (fun _ hn hf => ⟨hn, hf⟩)
        (fun _ hact hlink => .inl ⟨hact, hlink, rfl⟩) fun call hc hcl => ?_
      rcases List.mem_append.mp hc with hc | hc
      · exact .inl ⟨call, hc, hcl⟩
      · simp [List.mem_singleton.mp hc, Call.cleansUp] at hcl
  | stopBotForRoom =>
    obtain rfl : t.stopBotForRoom = s' := by simpa [Server.handle, ha] using hh
    exact ht.stopBot .returns (by simp)
  | startBot =>
    obtain rfl : t.startBot = s' := by simpa [Server.handle, ha] using hh
    exact ht.startBot
  | resume call ok =>
    simp only [ha, Server.handle, Option.ite_none_right_eq_some, Option.some.injEq] at hh
    obtain ⟨hmem, rfl⟩ := hh
    exact ht.resume hmem
  | connected n ok =>
    simp only [ha, Server.handle, Option.ite_none_right_eq_some, Option.some.injEq] at hh
    obtain ⟨⟨-, hp⟩, rfl⟩ := hh
    have hn : (t.stage n).2 ≠ .finished := by simp [Server.stage, hp]
    cases ok with
    | true =>
      have hm := ht.modify hst hn ({ · with
        link := .connected, phase := .publishing, remoteParticipants := t.members })
      exact hm.frame le_rfl rfl rfl (fun _ h => h) (fun _ hn hf => ⟨hn, hf⟩)
        (fun _ hact hlink => .inl ⟨hact, hlink, rfl⟩) fun call hc hcl => .inl ⟨call, hc, hcl⟩
    | false => exact ht.modify hst hn ({ · with link := .closed, phase := .finished })
  | published n ok =>
    simp only [ha, Server.handle, Option.ite_none_right_eq_some, Option.some.injEq] at hh
    obtain ⟨⟨-, hp⟩, rfl⟩ := hh
    have hn : (t.stage n).2 ≠ .finished := by simp [Server.stage, hp]
    have hm := ht.modify hst hn ({ · with phase := .finished })
    cases ok with
    | false => exact hm
    | true =>
      refine hm.frame le_rfl rfl rfl (fun _ h => h) (fun _ hn hf => ⟨hn, hf⟩) (fun m hact _ => ?_)
        fun call hc hcl => .inl ⟨call, hc, hcl⟩
      -- no timeout has been armed for a session before it was registered
      obtain rfl : n = m := Option.some.inj hact
      refine .inr fun timer htm hne => hn ?_
      exact hne ▸ (ht.finished timer htm).2
  | disconnected n =>
    simp only [ha, Server.handle, Option.ite_none_right_eq_some, Option.some.injEq] at hh
    obtain ⟨-, rfl⟩ := hh
    exact ht.disconnected n
  | join p =>
    simp only [ha, Server.handle, Option.ite_none_left_eq_some, Option.some.injEq] at hh
    obtain ⟨-, rfl⟩ := hh
    cases hp : isHuman p with
    | true =>
      simp only [Guarded, ha] at hCt
      exact ht.participantConnected hp (hCt hp)
    | false =>
      rw [Server.participantConnected, if_neg (by simp [hp])]
      exact ht.admitted hp
  | leave p =>
    simp only [ha, Server.handle, Option.ite_none_right_eq_some, Option.some.injEq] at hh
    obtain ⟨hp, rfl⟩ := hh
    exact ht.participantDisconnected hst hft hp
  | timeout timer =>
    simp only [ha, Server.handle, Option.ite_none_right_eq_some, Option.some.injEq] at hh
    obtain ⟨⟨hmem, hdue⟩, rfl⟩ := hh
    simp only [Guarded, ha] at hCt
    exact ht.shutdown hft hmem hdue hCt
  | forget n =>
    simp only [ha, Server.handle, Option.ite_none_right_eq_some, Option.some.injEq] at hh
    obtain ⟨-, rfl⟩ := hh
    have hss := t.modify_sameStages (f := ({ · with remoteParticipants := [] })) n
      fun _ => ⟨rfl, rfl⟩
    refine ht.frame le_rfl rfl rfl (fun _ h => h) (fun m hm hf => ?_) (fun m hact hlink => ?_)
      fun call hc hcl => .inl ⟨call, hc, hcl⟩
    · rw [hss.stage]
      exact ⟨hm, hf⟩
    · refine .inl ⟨hact, (congrArg Prod.fst (congrFun hss.stage m)).symm.trans hlink, ?_⟩
      by_cases hne : m = n
      · subst hne
        simp [Server.modify]
      · simp [Server.modify, hne]

/-- The calls of other services that the auto-shutdown makes to destroy the room. -/
def Effect.destroys : Effect → Bool
  | .deleteRoom => true
  | .roomCleanup => true
  | _ => false

/-- A step that destroys nothing. -/
def Harmless (s : Server) : Prop := ∀ x ∈ s.effects, x.destroys = false

/-- Another call that destroys nothing. -/
lemma Harmless.emit (h : Harmless s) {x : Effect} (hx : x.destroys = false) :
    Harmless (s.emit x) := by
  intro y hy
  rcases List.mem_append.mp hy with hy | hy
  · exact h y hy
  · rw [List.mem_singleton.mp hy]
    exact hx

/-- Stopping a registered bot destroys nothing yet. -/
lemma Harmless.stopBot (h : Harmless s) {after : After} (ha : after = .cleansUp → s.active ≠ none) :
    Harmless (s.stopBot after) := by
  unfold Server.stopBot
  split
  · rename_i hnone
    cases after with
    | returns => exact h
    | restarts => exact h
    | cleansUp => exact absurd hnone (ha rfl)
  · exact h.emit rfl

/-- A call that goes on destroys nothing, if it is not one of the auto-shutdown. -/
lemma Harmless.resume (h : Harmless s) {call : Call} (hcl : call.cleansUp = false) (ok : Bool) :
    Harmless (s.resume ok call) := by
  cases call with
  | ragDisconnect n after => exact h
  | removeBots => exact h
  | deleteRoom => cases hcl
  | importAxios => cases hcl
  | generateToken =>
    cases ok with
    | false => exact h
    | true =>
      simp only [Server.resume, if_true, Server.startBot]
      split <;> exact h
  | roomDisconnect n after =>
    cases ok with
    | false => exact h
    | true =>
      have hclear : Harmless (s.emit .clearBuffer) := h.emit rfl
      cases after with
      | returns => exact hclear
      | restarts => exact hclear
      | cleansUp => cases hcl

/-- **The auto-shutdown destroys the room** only when one of its calls goes on.

**Proof sketch.** A step begins without effects, so it is harmless as long as it does nothing but
stop a bot, clear a buffer or connect the RAG. One case for each kind of event shows this of all of
them except a call that goes on, and of that one by `Harmless.resume` unless the call is one of the
auto-shutdown. -/
lemma destroys_resume (h : lifecycle.step s e = some s') (he : ¬ Harmless s') :
    ∃ call ∈ s.calls, call.cleansUp = true ∧ ∃ ok, e.act = .resume call ok := by
  obtain ⟨-, hh⟩ := step_eq h
  have hnil : Harmless (s.turn e.now) := fun x hx => by simp [Server.turn] at hx
  have hcalls : (s.turn e.now).calls = s.calls := rfl
  generalize s.turn e.now = t at hh hnil hcalls
  cases ha : e.act with
  | resume call ok =>
    simp only [ha, Server.handle, Option.ite_none_right_eq_some, Option.some.injEq] at hh
    obtain ⟨hmem, rfl⟩ := hh
    refine ⟨call, hcalls ▸ hmem, ?_, ok, rfl⟩
    by_contra hcl
    have hbegun : Harmless { t with calls := t.calls.erase call } := hnil
    exact he (hbegun.resume (by simpa using hcl) ok)
  | startBotForRoom =>
    obtain rfl : t.startBotForRoom = s' := by simpa [Server.handle, ha] using hh
    refine absurd ?_ he
    unfold Server.startBotForRoom
    split
    · exact hnil.stopBot (by simp)
    · exact hnil
  | stopBotForRoom =>
    obtain rfl : t.stopBotForRoom = s' := by simpa [Server.handle, ha] using hh
    exact absurd (hnil.stopBot (by simp)) he
  | startBot =>
    obtain rfl : t.startBot = s' := by simpa [Server.handle, ha] using hh
    refine absurd ?_ he
    unfold Server.startBot
    split <;> exact hnil
  | connected n ok =>
    simp only [ha, Server.handle, Option.ite_none_right_eq_some, Option.some.injEq] at hh
    obtain ⟨-, rfl⟩ := hh
    refine absurd ?_ he
    cases ok with
    | false => exact hnil
    | true => exact hnil.emit (x := .ragConnect) rfl
  | published n ok =>
    simp only [ha, Server.handle, Option.ite_none_right_eq_some, Option.some.injEq] at hh
    obtain ⟨-, rfl⟩ := hh
    refine absurd ?_ he
    cases ok <;> exact hnil
  | disconnected n =>
    simp only [ha, Server.handle, Option.ite_none_right_eq_some, Option.some.injEq] at hh
    obtain ⟨-, rfl⟩ := hh
    refine absurd ?_ he
    have hclear : Harmless (t.emit .clearBuffer) := hnil.emit rfl
    unfold Server.disconnected Server.cleanupRoom
    dsimp only
    split
    · exact hclear
    split <;> exact hclear
  | join p =>
    simp only [ha, Server.handle, Option.ite_none_left_eq_some, Option.some.injEq] at hh
    obtain ⟨-, rfl⟩ := hh
    refine absurd ?_ he
    unfold Server.participantConnected Server.cancelShutdown
    dsimp only
    split
    · split
      · exact hnil
      split <;> exact hnil
    · exact hnil
  | leave p =>
    simp only [ha, Server.handle, Option.ite_none_right_eq_some, Option.some.injEq] at hh
    obtain ⟨-, rfl⟩ := hh
    refine absurd ?_ he
    unfold Server.participantDisconnected Server.scheduleShutdown
    dsimp only
    split
    · split
      · exact hnil
      split <;> exact hnil
    · exact hnil
  | timeout timer =>
    simp only [ha, Server.handle, Option.ite_none_right_eq_some, Option.some.injEq] at hh
    obtain ⟨-, rfl⟩ := hh
    refine absurd ?_ he
    unfold Server.shutdown
    split
    · exact hnil
    rename_i c hact
    split
    · exact Harmless.stopBot (s := { t with timers := t.timers.erase timer }) hnil
        fun _ hnone => Option.some_ne_none c (hact.symm.trans hnone)
    · exact hnil
  | forget n =>
    simp only [ha, Server.handle, Option.ite_none_right_eq_some, Option.some.injEq] at hh
    obtain ⟨-, rfl⟩ := hh
    exact absurd hnil he

/-- A resumed call leaves the clock and the departures of humans alone. -/
lemma resume_frame (s : Server) (call : Call) (ok : Bool) :
    (s.resume ok call).now = s.now ∧ (s.resume ok call).lastLeft = s.lastLeft := by
  cases call with
  | roomDisconnect n after =>
    cases ok with
    | false => exact ⟨rfl, rfl⟩
    | true => cases after <;> exact ⟨rfl, rfl⟩
  | generateToken =>
    cases ok with
    | false => exact ⟨rfl, rfl⟩
    | true =>
      simp only [Server.resume, if_true, Server.startBot]
      split <;> exact ⟨rfl, rfl⟩
  | importAxios => cases ok <;> exact ⟨rfl, rfl⟩
  | _ => exact ⟨rfl, rfl⟩

/-- **What is destroyed is deserted**, when cleanups are under way in deserted rooms only. -/
lemma Watched.safe (h : Watched s) (hstep : lifecycle.step s e = some s') : SafeShutdown s' := by
  intro he
  have hharm : ¬ Harmless s' := by
    intro hh
    rcases he with he | he
    · simpa [Effect.destroys] using hh _ he
    · simpa [Effect.destroys] using hh _ he
  obtain ⟨call, hmem, hcl, ok, hact⟩ := destroys_resume hstep hharm
  have hm : s'.members = s.members := by
    rw [members_step hstep, hact]
    rfl
  obtain ⟨hnow, hh⟩ := step_eq hstep
  simp only [hact, Server.handle, Option.ite_none_right_eq_some, Option.some.injEq] at hh
  obtain ⟨-, rfl⟩ := hh
  obtain ⟨hnow', hleft⟩ := resume_frame
    { s.turn e.now with calls := (s.turn e.now).calls.erase call } call ok
  exact (h.cleaning call hmem hcl).mono hm hleft (hnow'.symm ▸ hnow)

/-- **The auto-shutdown never destroys an occupied room** in a guarded run: whenever it deletes the
room or its data, no human is in the room and none has been in it for 30 s. -/
theorem shutdown_safe {es : List Event} (hC : lifecycle.AllSteps Guarded lifecycle.init es) :
    lifecycle.AllStates SafeShutdown lifecycle.init es := by
  have hinit : Watched lifecycle.init := by
    constructor <;> simp [lifecycle]
  refine allStates_of_invariant
    (I := fun s => Sound s ∧ s.Faithful ∧ Watched s ∧ SafeShutdown s)
    (fun s e s' hI hC h => ?_) (fun s hI => hI.2.2.2)
    ⟨sound_init, faithful_init, hinit, by simp [SafeShutdown, lifecycle]⟩ hC
  obtain ⟨hs, hf, hw, -⟩ := hI
  exact ⟨hs.step h, hf.step h, hw.step hs hf hC h, hw.safe h⟩

/-- The bot is started in a room with one human, who leaves; the timeout fires after 30 s. -/
def deserting : List Event :=
  [⟨0, .join "kim"⟩, ⟨1, .startBot⟩, ⟨2, .connected 0 true⟩, ⟨3, .published 0 true⟩,
    ⟨1000, .leave "kim"⟩, ⟨31000, .timeout ⟨0, 0, 31000⟩⟩]

/-- The rest of the cleanup, in a room that stays empty. -/
def cleaningUp : List Event :=
  [⟨31001, .resume (.ragDisconnect 0 .cleansUp) true⟩,
    ⟨31002, .resume (.roomDisconnect 0 .cleansUp) true⟩, ⟨31003, .resume .deleteRoom true⟩,
    ⟨31004, .resume .importAxios true⟩]

/-- A room that stays empty is deleted, and its data too. -/
theorem shutdown_safe_deserted :
    (∃ s ∈ lifecycle.exec lifecycle.init (deserting ++ cleaningUp),
      s.effects = [.roomCleanup]) ∧
    lifecycle.AllStates SafeShutdown lifecycle.init (deserting ++ cleaningUp) :=
  ⟨by decide +kernel, shutdown_safe (by decide +kernel)⟩

/-- A human joins while the bot is leaving; the room is deleted under her. -/
theorem shutdown_destroys_occupied :
    (lifecycle.exec lifecycle.init
      (deserting ++ ⟨31001, .join "lee"⟩ :: cleaningUp)).isSome ∧
    ¬ lifecycle.AllStates SafeShutdown lifecycle.init
      (deserting ++ ⟨31001, .join "lee"⟩ :: cleaningUp) := by
  decide +kernel

end Lifecycle
