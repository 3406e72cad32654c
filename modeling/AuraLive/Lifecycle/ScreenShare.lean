import AuraLive.Foundations.Extension
import AuraLive.Lifecycle.Moves

set_option relaxedAutoImplicit false
set_option autoImplicit false

/-!
# The screen-share flag

`context.hasActiveScreenShare` is set by the `TrackSubscribed` handler of a screen-share track and
reset by the `TrackUnsubscribed` handler. The handlers of every `Room` write the flag of the context
that is registered when they run. The tracks are carried along with the sessions of the room.

## Main definitions

* `Lifecycle.Shares` — the subscribed screen-share tracks of every `Room` and the flags of every
  context.
* `Lifecycle.shares` — the sessions with their screen shares.
* `Lifecycle.FlagAccurate` — the flag of the registered context says whether its `Room` has a
  screen share.
* `Lifecycle.SharesOneByOne` — what a step must find for the flag to stay accurate.

## Main results

* `Lifecycle.share_flag_iff` — the flag is accurate throughout a run exactly when every step of the
  run finds what it must find.
* `Lifecycle.share_flag_wrong` — a share before the registration and the first end of two shares
  make it wrong.

## Design

A track with the source `SOURCE_SCREENSHARE` is a video track, so its handler does not wait for an
audio stream first. `TrackUnsubscribed` also ends the vision mode of the context; that the other
functions of the service enter and leave it is an event of its own.
-/

namespace Lifecycle

open Foundations EventSystem

/-- The screen-share tracks of every `Room`, and the fields of every context that depend on them. -/
structure Shares where
  /-- The screen-share tracks that the `Room` of a session has subscribed to. -/
  tracks : ℕ → List ℕ
  hasActiveScreenShare : ℕ → Bool
  isVisionMode : ℕ → Bool

/-- What can happen to screen shares. -/
inductive ShareEvent where
  /-- `TrackSubscribed` of the `Room` of a session, for a screen-share track. -/
  | subscribed (session track : ℕ)
  /-- `TrackUnsubscribed` of the `Room` of a session, for a screen-share track. -/
  | unsubscribed (session track : ℕ)
  /-- The vision mode of the registered context is entered or left. -/
  | visionMode (on : Bool)
  deriving DecidableEq, Repr

namespace Shares

variable (x : Shares)

/-- The `TrackSubscribed` handler, with the registered context. -/
def trackSubscribed (context : Option ℕ) (n track : ℕ) : Shares :=
  let x := { x with tracks := Function.update x.tracks n (x.tracks n ++ [track]) }
  match context with
  | none => x
  | some c => { x with hasActiveScreenShare := Function.update x.hasActiveScreenShare c true }

/-- The `TrackUnsubscribed` handler, with the registered context. -/
def trackUnsubscribed (context : Option ℕ) (n track : ℕ) : Shares :=
  let x := { x with tracks := Function.update x.tracks n ((x.tracks n).erase track) }
  match context with
  | none => x
  | some c =>
    { x with
      hasActiveScreenShare := Function.update x.hasActiveScreenShare c false
      isVisionMode := Function.update x.isVisionMode c false }

/-- The shares after an event, if it can happen. -/
def handle (s : Server) : ShareEvent → Option Shares
  | .subscribed n track =>
    if n < s.count ∧ (s.sessions n).link ≠ .closed ∧ track ∉ x.tracks n then
      some (x.trackSubscribed s.active n track)
    else none
  | .unsubscribed n track =>
    if track ∈ x.tracks n then some (x.trackUnsubscribed s.active n track) else none
  | .visionMode on =>
    s.active.map fun c => { x with isVisionMode := Function.update x.isVisionMode c on }

end Shares

/-- The sessions of a room with their screen shares. A context is created with its flags off. -/
def shares : EventSystem (Server × Shares) (Event ⊕ ShareEvent) :=
  lifecycle.extend (fun _ _ _ x => x) (fun s x e => x.handle s e)
    ⟨fun _ => [], fun _ => false, fun _ => false⟩

/-- The flag of the registered context is on exactly when its `Room` has a screen share. -/
def FlagAccurate (p : Server × Shares) : Prop :=
  ∀ c ∈ p.1.active, p.2.hasActiveScreenShare c = true ↔ p.2.tracks c ≠ []

instance : DecidablePred FlagAccurate := fun p => by
  delta FlagAccurate
  infer_instance

/-- What a step must find. A session is registered with no screen share subscribed. A screen share
that starts in another `Room` finds one in the registered one. A screen share that ends is the last
one of the registered `Room`, or one of another `Room` while that one has none. -/
def SharesOneByOne (p : Server × Shares) : Event ⊕ ShareEvent → Prop
  | .inl ⟨_, .published n true⟩ => p.2.tracks n = []
  | .inr (.subscribed n _) => ∀ c ∈ p.1.active, n = c ∨ p.2.tracks c ≠ []
  | .inr (.unsubscribed n track) =>
    ∀ c ∈ p.1.active, (if n = c then (p.2.tracks c).erase track else p.2.tracks c) = []
  | _ => True

instance (p : Server × Shares) (e : Event ⊕ ShareEvent) : Decidable (SharesOneByOne p e) := by
  delta SharesOneByOne
  split <;> infer_instance

variable {p p' : Server × Shares} {e : Event ⊕ ShareEvent}

/-- The flag after a registration is right exactly when the `Room` has no screen share. -/
lemma flagAccurate_lifecycle {e : Event} (hf : OnlyRegistered p.1 p.2.hasActiveScreenShare)
    (hacc : FlagAccurate p) (h : shares.step p (.inl e) = some p') :
    FlagAccurate p' ↔ SharesOneByOne p (.inl e) := by
  obtain ⟨hstep, hx⟩ := extend_step_inl.mp h
  obtain ⟨now, act⟩ := e
  rcases registers_or_not hstep with ⟨n, rfl, hp, hact⟩ | ⟨hne, hact⟩
  · simp [FlagAccurate, SharesOneByOne, hact, hx, hf.eq_false hp]
  · refine iff_of_true (fun c hc => ?_) ?_
    · rw [hx]
      rcases hact with hact | hact
      · exact hacc c (hact ▸ hc)
      · simp [hact] at hc
    · unfold SharesOneByOne
      split
      · rename_i n heq
        cases heq
        exact absurd rfl (hne n)
      · simp at *
      · simp at *
      · trivial

/-- The flag after an event of a screen share is right exactly when the event found what it must
find. -/
lemma flagAccurate_share {e : ShareEvent} (hacc : FlagAccurate p)
    (h : shares.step p (.inr e) = some p') : FlagAccurate p' ↔ SharesOneByOne p (.inr e) := by
  obtain ⟨hbase, hown⟩ := extend_step_inr.mp h
  cases e with
  | subscribed n track =>
    simp only [Shares.handle, Option.ite_none_right_eq_some, Option.some.injEq] at hown
    obtain ⟨-, hx⟩ := hown
    simp only [FlagAccurate, SharesOneByOne, hbase, ← hx]
    refine forall₂_congr fun c hc => ?_
    simp only [Shares.trackSubscribed, Option.mem_def.mp hc, Function.update_self, true_iff]
    by_cases hn : n = c
    · subst hn
      simp
    · simp [hn, Function.update_of_ne (Ne.symm hn)]
  | unsubscribed n track =>
    simp only [Shares.handle, Option.ite_none_right_eq_some, Option.some.injEq] at hown
    obtain ⟨-, hx⟩ := hown
    simp only [FlagAccurate, SharesOneByOne, hbase, ← hx]
    refine forall₂_congr fun c hc => ?_
    simp only [Shares.trackUnsubscribed, Option.mem_def.mp hc, Function.update_self,
      Bool.false_eq_true, false_iff, ne_eq, not_not]
    by_cases hn : n = c
    · subst hn
      simp only [Function.update_self, if_true]
    · simp only [Function.update_of_ne (Ne.symm hn), if_neg hn]
  | visionMode on =>
    simp only [Shares.handle, Option.map_eq_some_iff] at hown
    obtain ⟨c, -, hx⟩ := hown
    refine iff_of_true ?_ trivial
    intro d hd
    rw [← hx]
    exact hacc d (hbase ▸ hd)

/-- A flag is switched on only for a context that is registered. -/
lemma onlyRegistered_shares (hf : OnlyRegistered p.1 p.2.hasActiveScreenShare) (hs : Sound p.1)
    (h : shares.step p e = some p') : OnlyRegistered p'.1 p'.2.hasActiveScreenShare := by
  cases e with
  | inl e =>
    obtain ⟨hstep, hx⟩ := extend_step_inl.mp h
    rw [hx]
    exact hf.step hstep
  | inr e =>
    obtain ⟨hbase, hown⟩ := extend_step_inr.mp h
    rw [hbase]
    cases e with
    | subscribed m track =>
      simp only [Shares.handle, Option.ite_none_right_eq_some, Option.some.injEq] at hown
      rw [← hown.2]
      unfold Shares.trackSubscribed
      split
      · exact hf
      · exact hf.update hs ‹_› true
    | unsubscribed m track =>
      simp only [Shares.handle, Option.ite_none_right_eq_some, Option.some.injEq] at hown
      rw [← hown.2]
      unfold Shares.trackUnsubscribed
      split
      · exact hf
      · exact hf.update hs ‹_› false
    | visionMode on =>
      simp only [Shares.handle, Option.map_eq_some_iff] at hown
      obtain ⟨c, -, hx⟩ := hown
      rw [← hx]
      exact hf

/-- **The screen-share flag is accurate** in every state of a run exactly when in every step a
session is registered with no screen share subscribed, a screen share ends as the last one of the
registered `Room`, and the screen shares of other `Room`s agree with it.

**Proof sketch.** The flag after a step is right exactly when the step found what it must find; that
gives the run by induction. A context is created with the flag off, and no handler switches on the
flag of a context that is not registered. -/
theorem share_flag_iff {es : List (Event ⊕ ShareEvent)} {p : Server × Shares}
    (hr : shares.exec shares.init es = some p) :
    shares.AllStates FlagAccurate shares.init es ↔
      shares.AllSteps SharesOneByOne shares.init es := by
  refine allStates_iff_of_step_iff (M := shares)
    (B := fun p => Sound p.1 ∧ OnlyRegistered p.1 p.2.hasActiveScreenShare) ?_ ?_
    ⟨sound_init, fun n hn => ?_⟩ (fun c hc => ?_) hr
  · intro p e p' hB h
    exact ⟨extend_base (I := Sound) (fun _ _ _ hs h => hs.step h) hB.1 h,
      onlyRegistered_shares hB.2 hB.1 h⟩
  · rintro p (e | e) p' hB hacc h
    · exact flagAccurate_lifecycle hB.2 hacc h
    · exact flagAccurate_share hacc h
  · simp [shares] at hn
  · simp [shares, lifecycle] at hc

/-- A bot is started and registered. -/
def started : List (Event ⊕ ShareEvent) :=
  [.inl ⟨0, .startBot⟩, .inl ⟨1, .connected 0 true⟩, .inl ⟨2, .published 0 true⟩]

/-- One share after the other. -/
theorem share_flag_iff_one_by_one :
    shares.AllStates FlagAccurate shares.init
      (started ++ [.inr (.subscribed 0 1), .inr (.unsubscribed 0 1), .inr (.subscribed 0 2)]) := by
  obtain ⟨p, hp⟩ := Option.isSome_iff_exists.mp (show (shares.exec shares.init
    (started ++ [.inr (.subscribed 0 1), .inr (.unsubscribed 0 1),
      .inr (.subscribed 0 2)])).isSome by decide +kernel)
  refine (share_flag_iff hp).mpr ?_
  decide +kernel

/-- A share that is subscribed before the context is registered is not seen, and the end of one of
two shares switches the flag off. -/
theorem share_flag_wrong :
    ¬ shares.AllStates FlagAccurate shares.init
        [.inl ⟨0, .startBot⟩, .inl ⟨1, .connected 0 true⟩, .inr (.subscribed 0 1),
          .inl ⟨2, .published 0 true⟩] ∧
      ¬ shares.AllStates FlagAccurate shares.init
        (started ++ [.inr (.subscribed 0 1), .inr (.subscribed 0 2),
          .inr (.unsubscribed 0 1)]) := by
  decide +kernel

end Lifecycle
