import AuraLive.Lifecycle.Moves

set_option relaxedAutoImplicit false
set_option autoImplicit false

/-!
# One bot per room

`startBot` returns when `activeRooms` has the room, but it enters the room there only after two
awaits, and `startBotForRoom` makes its own check before that. Calls that overlap all pass the
check and every one of them connects a `Room`.

## Main definitions

* `Lifecycle.OneBot` — one `Room` is connected at most, and the registered context is its own.
* `Lifecycle.ConnectsAlone` — `room.connect` and `publishTrack` return to a room without another
  bot.
* `Lifecycle.StartsAlone` — a `startBot` call passes its check after the earlier sessions are over.

## Main results

* `Lifecycle.one_bot_iff` — a room has one bot throughout a run exactly when the calls of the run
  connect alone; it is enough that they start alone.
* `Lifecycle.overlapping_starts` — two overlapping `startBotForRoom` calls connect two `Room`s.
-/

namespace Lifecycle

open Foundations EventSystem

/-- At most one `Room` is connected, and if a context is registered it is that `Room`'s. -/
def OneBot (s : Server) : Prop :=
  (∀ i < s.count, ∀ j < s.count, s.Connected i → s.Connected j → i = j) ∧
    ∀ j < s.count, s.Connected j → ∀ a ∈ s.active, j = a

instance : DecidablePred OneBot := fun s => by
  delta OneBot
  infer_instance

/-- When `room.connect` of a session returns, no other `Room` is connected and no context is
registered; when its `publishTrack` returns, no other `Room` is connected. -/
def ConnectsAlone (s : Server) (e : Event) : Prop :=
  match e.act with
  | .connected n true => s.active = none ∧ ∀ m < s.count, s.Connected m → m = n
  | .published n true => ∀ m < s.count, s.Connected m → m = n
  | _ => True

/-- When a `startBot` call passes its check, no `Room` is connected and the `startBot` calls of all
earlier sessions are over. -/
def StartsAlone (s : Server) (e : Event) : Prop :=
  e.act.starts → s.active = none →
    ∀ m < s.count, ¬ s.Connected m ∧ (s.sessions m).phase = .finished

instance (a : Act) : Decidable a.starts := by
  delta Act.starts
  infer_instance

instance (s : Server) (e : Event) : Decidable (StartsAlone s e) := by
  delta StartsAlone
  infer_instance

variable {s s' : Server} {e : Event}

/-- With fewer connected `Room`s and contexts there is still one bot. -/
lemma OneBot.mono (h : OneBot s) (hc : ∀ m, s'.Connected m → s.Connected m)
    (ha : ∀ a, s'.active = some a → s.active = some a) : OneBot s' := by
  obtain ⟨hone, hreg⟩ := h
  refine ⟨fun i _ j _ hi hj => ?_, fun j _ hj a hact => ?_⟩
  · exact hone i (hc i hi).1 j (hc j hj).1 (hc i hi) (hc j hj)
  · exact hreg j (hc j hj).1 (hc j hj) a (ha a hact)

/-- The connected `Room`s after the stage of one session has changed. -/
lemma connected_update {n : ℕ} {x : Link × Phase}
    (hst : s'.stage = Function.update s.stage n x) (hc : s'.count = s.count) (m : ℕ) :
    s'.Connected m ↔ m < s.count ∧ if m = n then x.1 = .connected else s.Connected m := by
  have hm : (s'.sessions m).link = (Function.update s.stage n x m).1 :=
    congrArg Prod.fst (congrFun hst m)
  rw [Server.Connected, hc, hm, Function.update_apply]
  split
  · rfl
  · exact ⟨fun h => ⟨h.1, h⟩, fun h => h.2⟩

/-- A stage that is not newly connected adds no connected `Room`. -/
lemma connected_of_update {n : ℕ} {x : Link × Phase}
    (hst : s'.stage = Function.update s.stage n x) (hc : s'.count = s.count)
    (hx : x.1 = .connected → (s.stage n).1 = .connected) {m : ℕ} (hm : s'.Connected m) :
    s.Connected m := by
  obtain ⟨hlt, hif⟩ := (connected_update hst hc m).mp hm
  split at hif
  · subst m
    exact ⟨hlt, hx hif⟩
  · exact hif

/-- **A step that connects alone keeps one bot.** -/
lemma OneBot.step (hs : OneBot s) (hC : ConnectsAlone s e) (h : lifecycle.step s e = some s') :
    OneBot s' := by
  cases shift h with
  | keeps ha hst h =>
    refine hs.mono (fun m hm => ?_) fun a ha => h.active ▸ ha
    have hlink : (s'.sessions m).link = (s.sessions m).link :=
      congrArg Prod.fst (congrFun h.stage m)
    exact ⟨h.count ▸ hm.1, hlink ▸ hm.2⟩
  | creates ha hn hst hc hact =>
    refine hs.mono (fun m hm => ?_) fun a ha => by simp [hact] at ha
    have hlink : (s'.sessions m).link = _ := congrArg Prod.fst (congrFun hst m)
    obtain ⟨hlt, hm⟩ := hm
    rw [hlink, Function.update_apply] at hm
    split at hm
    · simp at hm
    · exact ⟨by omega, hm⟩
  | @connects n ha hn hp hst hc hact =>
    simp only [ConnectsAlone, ha] at hC
    have hall : ∀ m, s'.Connected m → m = n := by
      intro m hm
      obtain ⟨hlt, hm⟩ := (connected_update hst hc m).mp hm
      split at hm
      · assumption
      · exact hC.2 m hlt hm
    refine ⟨fun i _ j _ hi hj => (hall i hi).trans (hall j hj).symm, fun j _ _ a ha => ?_⟩
    simp [hact, hC.1] at ha
  | refused ha hn hp hst hc hact =>
    exact hs.mono (fun m => connected_of_update hst hc (by simp)) fun a ha => hact ▸ ha
  | @registers n ha hn hp hst hc hact =>
    simp only [ConnectsAlone, ha] at hC
    have hall : ∀ m, s'.Connected m → m = n := fun m hm =>
      hC m (hc ▸ hm.1) (connected_of_update hst hc id hm)
    refine ⟨fun i _ j _ hi hj => (hall i hi).trans (hall j hj).symm, fun j _ hj a ha => ?_⟩
    obtain rfl : n = a := Option.some.inj (hact ▸ ha)
    exact hall j hj
  | unpublished ha hn hp hst hc hact =>
    exact hs.mono (fun m => connected_of_update hst hc id) fun a ha => hact ▸ ha
  | drops ha hst hc hact =>
    exact hs.mono (fun m => connected_of_update hst hc (by simp)) fun a ha => by simp [hact] at ha

/-- An act that neither connects nor registers a session. -/
lemma connectsAlone_of_ne (hc : ∀ n, e.act ≠ .connected n true)
    (hp : ∀ n, e.act ≠ .published n true) : ConnectsAlone s e := by
  unfold ConnectsAlone
  split
  · exact absurd ‹_› (hc _)
  · exact absurd ‹_› (hp _)
  · trivial

/-- **A step that does not connect alone** leaves a room with two bots, or with a bot whose context
is not the registered one. -/
lemma not_oneBot_of_overlap (hsound : Sound s) (hC : ¬ ConnectsAlone s e)
    (h : lifecycle.step s e = some s') : ¬ OneBot s' := by
  rintro ⟨hone, hreg⟩
  cases shift h with
  | keeps ha hst h =>
    refine hC (connectsAlone_of_ne (fun n hn => ?_) fun n hn => ?_)
    · simp [hn, Act.target] at ha
    · simp [hn, Act.target] at ha
  | creates ha hn hst hc hact =>
    refine hC (connectsAlone_of_ne (fun n hn => ?_) fun n hn => ?_)
    · simp [hn, Act.starts] at ha
    · simp [hn, Act.starts] at ha
  | @connects n ha hn hp hst hc hact =>
    have hn' : s'.Connected n := (connected_update hst hc n).mpr ⟨hn, by simp⟩
    refine hC ?_
    simp only [ConnectsAlone, ha]
    refine ⟨?_, fun m hm hmc => ?_⟩
    · -- a registered context would have to be the one of the session that is just connecting
      by_contra hne
      obtain ⟨a, ha⟩ := Option.ne_none_iff_exists'.mp hne
      have := hreg n (hc ▸ hn) hn' a (hact ▸ ha)
      subst this
      simp [(hsound.active n ha).2] at hp
    · by_contra hmn
      refine hmn (hone m (hc ▸ hm) n (hc ▸ hn) ?_ hn')
      exact (connected_update hst hc m).mpr ⟨hm, by simpa [hmn] using hmc⟩
  | refused ha hn hp hst hc hact => exact hC (by simp [ConnectsAlone, ha])
  | @registers n ha hn hp hst hc hact =>
    refine hC ?_
    simp only [ConnectsAlone, ha]
    intro m hm hmc
    by_contra hmn
    refine hmn (hreg m (hc ▸ hm) ?_ n hact)
    exact (connected_update hst hc m).mpr ⟨hm, by simpa [hmn] using hmc⟩
  | unpublished ha hn hp hst hc hact => exact hC (by simp [ConnectsAlone, ha])
  | drops ha hst hc hact =>
    refine hC (connectsAlone_of_ne (fun n hn => ?_) fun n hn => ?_)
    · simp [hn, Act.Drops] at ha
    · simp [hn, Act.Drops] at ha

/-! ## Sessions that start one after the other -/

/-- Every session but the last is over, and the registered context is the last one's. -/
structure Successive (s : Server) : Prop where
  ended : ∀ m, m + 1 < s.count → (s.stage m).1 ≠ .connected ∧ (s.stage m).2 = .finished
  last : ∀ a, s.active = some a → a + 1 = s.count

/-- Only the last of successive sessions can be connected. -/
lemma Successive.oneBot (hs : Successive s) : OneBot s := by
  have hlast : ∀ m, s.Connected m → m + 1 = s.count := by
    intro m hm
    by_contra hne
    have hlt : m + 1 < s.count := by
      have := hm.1
      omega
    exact (hs.ended m hlt).1 hm.2
  refine ⟨fun i _ j _ hi hj => ?_, fun j _ hj a ha => ?_⟩
  · have := hlast i hi
    have := hlast j hj
    omega
  · have := hlast j hj
    have := hs.last a ha
    omega

/-- **Sessions that start alone are successive.**

**Proof sketch.** A session that is connecting or publishing is the last one, since the others are
over; so the shifts of a running `startBot` call are shifts of the last session. -/
lemma Successive.step (hs : Successive s) (hC : StartsAlone s e)
    (h : lifecycle.step s e = some s') : Successive s' := by
  obtain ⟨hover, hlast⟩ := hs
  -- a session that is not over is the last one
  have hrun : ∀ n, n < s.count → (s.stage n).2 ≠ .finished → n + 1 = s.count := by
    intro n hn hp
    by_contra hne
    exact hp (hover n (by omega)).2
  have key : ∀ {n : ℕ} {x : Link × Phase}, s'.stage = Function.update s.stage n x →
      s'.count = s.count → (n + 1 = s.count ∨ x = (.closed, (s.stage n).2)) →
      ∀ m, m + 1 < s'.count → (s'.stage m).1 ≠ .connected ∧ (s'.stage m).2 = .finished := by
    intro n x hst hc hx m hm
    rw [hc] at hm
    rw [hst, Function.update_apply]
    split
    · subst m
      rcases hx with hx | rfl
      · omega
      · exact ⟨by simp, (hover n hm).2⟩
    · exact hover m hm
  cases shift h with
  | keeps ha hst h =>
    refine ⟨?_, ?_⟩
    · rw [h.count, h.stage]
      exact hover
    · rw [h.active, h.count]
      exact hlast
  | creates ha hn hst hc hact =>
    refine ⟨fun m hm => ?_, by simp [hact]⟩
    have hlt : m < s.count := by omega
    obtain ⟨hlink, hphase⟩ := hC ha hn m hlt
    rw [hst, Function.update_apply, if_neg (by omega)]
    exact ⟨fun hl => hlink ⟨hlt, hl⟩, hphase⟩
  | connects ha hn hp hst hc hact =>
    refine ⟨key hst hc (.inl (hrun _ hn (by simp [hp]))), ?_⟩
    rw [hact, hc]
    exact hlast
  | refused ha hn hp hst hc hact =>
    refine ⟨key hst hc (.inl (hrun _ hn (by simp [hp]))), ?_⟩
    rw [hact, hc]
    exact hlast
  | @registers n ha hn hp hst hc hact =>
    have hn' : n + 1 = s.count := hrun n hn (by simp [hp])
    refine ⟨key hst hc (.inl hn'), fun a ha => ?_⟩
    obtain rfl : n = a := Option.some.inj (hact ▸ ha)
    rw [hc]
    exact hn'
  | unpublished ha hn hp hst hc hact =>
    refine ⟨key hst hc (.inl (hrun _ hn (by simp [hp]))), ?_⟩
    rw [hact, hc]
    exact hlast
  | drops ha hst hc hact =>
    exact ⟨key hst hc (.inr rfl), by simp [hact]⟩

/-! ## Runs -/

/-- **One bot per room.** In every run, the room has one bot in every state exactly when every
`room.connect` and every `publishTrack` returns to a room without another bot. That is the case
when every `startBot` call passes its check only after the earlier sessions are over. -/
theorem one_bot_iff {es : List Event} {t : Server}
    (hr : lifecycle.exec lifecycle.init es = some t) :
    (lifecycle.AllStates OneBot lifecycle.init es ↔
      lifecycle.AllSteps ConnectsAlone lifecycle.init es) ∧
    (lifecycle.AllSteps StartsAlone lifecycle.init es →
      lifecycle.AllStates OneBot lifecycle.init es) := by
  have hinit : Successive lifecycle.init := ⟨by simp [lifecycle], by simp [lifecycle]⟩
  refine ⟨?_, fun hC => ?_⟩
  · refine allStates_iff_allSteps (I := fun s => Sound s ∧ OneBot s) (fun s hI => hI.2)
      (fun s e s' hI hC h => ⟨hI.1.step h, hI.2.step hC h⟩)
      (fun s e s' hI hC h => not_oneBot_of_overlap hI.1 hC h) ⟨sound_init, hinit.oneBot⟩ hr
  · exact allStates_of_invariant (I := Successive) (fun s e s' hI hC h => hI.step hC h)
      (fun s hI => hI.oneBot) hinit hC

/-- Two `startBotForRoom` calls, the second before the first has registered its context. -/
def overlapping : List Event :=
  [⟨0, .startBotForRoom⟩, ⟨1, .startBotForRoom⟩,
    ⟨2, .resume .removeBots true⟩, ⟨3, .resume .removeBots true⟩,
    ⟨4, .resume .generateToken true⟩, ⟨5, .resume .generateToken true⟩,
    ⟨6, .connected 0 true⟩, ⟨7, .published 0 true⟩,
    ⟨8, .connected 1 true⟩, ⟨9, .published 1 true⟩]

/-- The overlapping calls connect two `Room`s. -/
theorem overlapping_starts : (lifecycle.exec lifecycle.init overlapping).isSome ∧
    ¬ lifecycle.AllStates OneBot lifecycle.init overlapping := by
  decide +kernel

/-- A restart that waits for the first session to be over. -/
def restart : List Event :=
  [⟨0, .startBotForRoom⟩, ⟨1, .resume .removeBots true⟩, ⟨2, .resume .generateToken true⟩,
    ⟨3, .connected 0 true⟩, ⟨4, .published 0 true⟩,
    ⟨5, .startBotForRoom⟩, ⟨6, .resume (.ragDisconnect 0 .restarts) true⟩,
    ⟨7, .resume (.roomDisconnect 0 .restarts) true⟩, ⟨8, .resume .removeBots true⟩,
    ⟨9, .resume .generateToken true⟩, ⟨10, .connected 1 true⟩, ⟨11, .published 1 true⟩]

/-- The restart keeps one bot per room. -/
theorem one_bot_iff_restart : lifecycle.AllStates OneBot lifecycle.init restart := by
  obtain ⟨t, ht⟩ := Option.isSome_iff_exists.mp
    (show (lifecycle.exec lifecycle.init restart).isSome by decide +kernel)
  exact (one_bot_iff ht).2 (by decide +kernel)

end Lifecycle
