import AuraLive.Foundations.Extension
import AuraLive.Lifecycle.Moves
import Mathlib.Data.List.Nodup

set_option relaxedAutoImplicit false
set_option autoImplicit false

/-!
# Consumers of microphone tracks

`handleAudioTrack` consumes an audio track until the track ends, for the context that is registered
when it is called. It is called by the `TrackSubscribed` handler of every `Room`, and by the loop at
the end of `startBot`, which goes through the tracks that are there already and awaits each
consumer before it goes on.

## Main definitions

* `Lifecycle.Track` — a track of a `Room`, with its place in the maps that the loop goes through.
* `Lifecycle.Microphones` — the live tracks, the consumers and the loops of the sessions.
* `Lifecycle.microphones` — the sessions of a room with their consumers.
* `Lifecycle.HeardOnce` — every live human microphone of the registered `Room` has exactly one
  consumer for the registered context.
* `Lifecycle.LoopsPast` — what a step must find for that to stay so.

## Main results

* `Lifecycle.heard_once_iff` — every microphone is heard once throughout a run exactly when every
  step finds what it must find.
* `Lifecycle.microphones_misheard` — one microphone is not heard, another one is heard twice.

## Design

The loop iterates over `room.remoteParticipants` and, inside, over `trackPublications`. Both are
maps that change while the loop is suspended; a JavaScript iterator goes on with the entries behind
the one it has returned last, in the order of insertion. So a track has a place, the positions of
its participant and of its publication in the two maps, and the loop goes on with the first live
human audio track behind the place of the one it awaited.
-/

namespace Lifecycle

open Foundations EventSystem

/-- `TrackKind`. -/
inductive TrackKind where
  | audio
  | video
  deriving DecidableEq, Repr

/-- `TrackSource`. -/
inductive TrackSource where
  | unknown
  | camera
  | microphone
  | screenshare
  | screenshareAudio
  deriving DecidableEq, Repr

/-- A track that a `Room` has subscribed to. -/
structure Track where
  /-- The position of the participant in `room.remoteParticipants`. -/
  participant : ℕ
  /-- The position of the publication in `participant.trackPublications`. -/
  publication : ℕ
  identity : String
  kind : TrackKind
  source : TrackSource
  deriving DecidableEq, Repr

namespace Track

variable (t u : Track)

/-- The microphone of a human. -/
def microphone : Bool := t.kind = .audio && isHuman t.identity && t.source = .microphone

/-- What the `TrackSubscribed` handler consumes: the audio of a human, but not of a screen share. -/
def subscribes : Bool :=
  t.kind = .audio && isHuman t.identity && t.source ≠ .screenshareAudio

/-- What the loop of `startBot` consumes: the audio of a human. -/
def existing : Bool := isHuman t.identity && t.kind = .audio

/-- Where the loop comes across the track. -/
def place : ℕ × ℕ := (t.participant, t.publication)

/-- The loop comes to `t` before `u`. -/
def before : Bool :=
  t.participant < u.participant || (t.participant = u.participant && t.publication < u.publication)

end Track

/-- The track with which the loop goes on behind the track `cursor`. -/
def nextTrack (cursor : Option Track) (tracks : List Track) : Option Track :=
  let ahead := tracks.filter fun t => t.existing && cursor.all (·.before t)
  ahead.find? fun t => ahead.all fun u => !u.before t

/-- A running `handleAudioTrack`. -/
structure Consumer where
  /-- The session whose `Room` has the track. -/
  session : ℕ
  track : Track
  /-- The context that was registered when it was called. -/
  context : Option ℕ
  deriving DecidableEq, Repr

/-- The loop at the end of a `startBot` call. -/
inductive Loop where
  /-- Not begun, or over. -/
  | idle
  /-- Suspended until the consumer of a track ends. -/
  | awaiting (track : Track)
  /-- That consumer has ended. -/
  | ready (track : Track)
  deriving DecidableEq, Repr

/-- The live tracks of every `Room`, the consumers and the loops. -/
structure Microphones where
  tracks : ℕ → List Track
  consumers : List Consumer
  loop : ℕ → Loop

/-- What can happen to tracks. -/
inductive TrackEvent where
  /-- `TrackSubscribed` of the `Room` of a session. -/
  | subscribed (session : ℕ) (track : Track)
  /-- The track ends, and with it its audio stream. -/
  | ended (session : ℕ) (track : Track)
  /-- The loop of a session goes on. -/
  | loopResumes (session : ℕ)
  deriving DecidableEq, Repr

namespace Microphones

variable (x : Microphones)

/-- `handleAudioTrack`, with the registered context. -/
def handleAudioTrack (context : Option ℕ) (n : ℕ) (track : Track) : Microphones :=
  { x with consumers := x.consumers ++ [⟨n, track, context⟩] }

/-- The `TrackSubscribed` handler, with the registered context. -/
def trackSubscribed (context : Option ℕ) (n : ℕ) (track : Track) : Microphones :=
  let x := { x with tracks := Function.update x.tracks n (x.tracks n ++ [track]) }
  if track.subscribes then x.handleAudioTrack context n track else x

/-- A track has ended. -/
def trackEnded (n : ℕ) (track : Track) : Microphones :=
  { tracks := Function.update x.tracks n ((x.tracks n).erase track)
    consumers := x.consumers.filter fun k => !(k.session = n && k.track = track)
    loop := if x.loop n = .awaiting track then Function.update x.loop n (.ready track) else x.loop }

/-- The loop of a session goes on behind the track `cursor`, with the registered context. -/
def continueLoop (context : Option ℕ) (n : ℕ) (cursor : Option Track) : Microphones :=
  match nextTrack cursor (x.tracks n) with
  | none => { x with loop := Function.update x.loop n .idle }
  | some track =>
    { x.handleAudioTrack context n track with loop := Function.update x.loop n (.awaiting track) }

/-- What a step of the sessions does: a registration begins the loop. -/
def react (e : Event) (s' : Server) : Microphones :=
  match e.act with
  | .published n true => x.continueLoop s'.active n none
  | _ => x

/-- The consumers after an event, if it can happen. -/
def handle (s : Server) : TrackEvent → Option Microphones
  | .subscribed n track =>
    if n < s.count ∧ (s.sessions n).link ≠ .closed ∧ ∀ u ∈ x.tracks n, u.place ≠ track.place then
      some (x.trackSubscribed s.active n track)
    else none
  | .ended n track => if track ∈ x.tracks n then some (x.trackEnded n track) else none
  | .loopResumes n =>
    match x.loop n with
    | .ready track => some (x.continueLoop s.active n (some track))
    | _ => none

end Microphones

/-- The sessions of a room with their consumers. -/
def microphones : EventSystem (Server × Microphones) (Event ⊕ TrackEvent) :=
  lifecycle.extend (fun _ e s' x => x.react e s') (fun s x e => x.handle s e)
    ⟨fun _ => [], [], fun _ => .idle⟩

/-- Every live human microphone of the registered `Room` has exactly one consumer for the registered
context. -/
def HeardOnce (p : Server × Microphones) : Prop :=
  ∀ c ∈ p.1.active, ∀ t ∈ p.2.tracks c, t.microphone = true →
    p.2.consumers.count ⟨c, t, some c⟩ = 1

instance : DecidablePred HeardOnce := fun p => by
  delta HeardOnce
  infer_instance

/-- What a step must find. When a session is registered, its `Room` has no human microphone, or one
that is the first track of the loop. When the loop of the registered session goes on, the next
track is not a microphone. -/
def LoopsPast (p : Server × Microphones) : Event ⊕ TrackEvent → Prop
  | .inl ⟨_, .published n true⟩ =>
    ∀ t ∈ p.2.tracks n, t.microphone = true → nextTrack none (p.2.tracks n) = some t
  | .inr (.loopResumes n) =>
    p.1.active = some n →
      match p.2.loop n with
      | .ready t => ∀ u ∈ nextTrack (some t) (p.2.tracks n), u.microphone = false
      | _ => True
  | _ => True

instance (p : Server × Microphones) (e : Event ⊕ TrackEvent) : Decidable (LoopsPast p e) := by
  delta LoopsPast
  split
  · infer_instance
  · refine @instDecidableForall _ _ _ ?_
    split <;> infer_instance
  · infer_instance

/-! ## Counting consumers -/

/-- The loop goes on with a live track. -/
lemma mem_of_nextTrack {cursor : Option Track} {tracks : List Track} {t : Track}
    (h : nextTrack cursor tracks = some t) : t ∈ tracks :=
  List.mem_of_mem_filter (List.mem_of_find?_eq_some h)

/-- A microphone is consumed when it is subscribed. -/
lemma subscribes_of_microphone {t : Track} (h : t.microphone = true) : t.subscribes = true := by
  simp only [Track.microphone, Bool.and_eq_true, decide_eq_true_eq] at h
  simp [Track.subscribes, h.1.1, h.1.2, h.2]

namespace Microphones

variable (x : Microphones) (context : Option ℕ) (n c : ℕ) (t : Track)

/-- One more consumer. -/
lemma count_handleAudioTrack (u : Track) :
    (x.handleAudioTrack context n u).consumers.count ⟨c, t, some c⟩ =
      x.consumers.count ⟨c, t, some c⟩ + if n = c ∧ context = some c ∧ u = t then 1 else 0 := by
  simp only [handleAudioTrack, List.count_append, List.count_singleton, beq_iff_eq,
    Consumer.mk.injEq]
  congr 2
  simp only [eq_iff_iff]
  tauto

/-- The loop adds one consumer of the next track. -/
lemma count_continueLoop (cursor : Option Track) :
    (x.continueLoop context n cursor).consumers.count ⟨c, t, some c⟩ =
      x.consumers.count ⟨c, t, some c⟩ +
        if n = c ∧ context = some c ∧ nextTrack cursor (x.tracks n) = some t then 1 else 0 := by
  unfold continueLoop
  split
  · rename_i hnext
    simp [hnext]
  · rename_i u hnext
    rw [hnext]
    simpa using x.count_handleAudioTrack context n c t u

lemma tracks_continueLoop (cursor : Option Track) :
    (x.continueLoop context n cursor).tracks = x.tracks := by
  unfold continueLoop
  split <;> rfl

end Microphones

/-! ## Steps -/

/-- What every step keeps: a consumer has a live track and a context that has been registered. -/
structure Tidy (p : Server × Microphones) : Prop where
  context : ∀ k ∈ p.2.consumers, ∀ c ∈ k.context, c < p.1.count ∧ (p.1.stage c).2 = .finished
  live : ∀ k ∈ p.2.consumers, k.track ∈ p.2.tracks k.session
  nodup : ∀ n, (p.2.tracks n).Nodup

variable {p p' : Server × Microphones}

/-- A context that has not been registered has no consumers. -/
lemma Tidy.count_eq_zero (h : Tidy p) {n : ℕ} (hp : (p.1.stage n).2 = .publishing) (t : Track) :
    p.2.consumers.count ⟨n, t, some n⟩ = 0 := by
  refine List.count_eq_zero.mpr fun hmem => ?_
  have := (h.context _ hmem n rfl).2
  simp [hp] at this

/-- **A step of the sessions**: only a registration matters, and it gives a consumer to the first
track of its loop alone. -/
lemma heardOnce_lifecycle {e : Event} (ht : Tidy p) (hH : HeardOnce p)
    (h : microphones.step p (.inl e) = some p') :
    HeardOnce p' ↔ LoopsPast p (.inl e) := by
  obtain ⟨hstep, hx⟩ := extend_step_inl.mp h
  obtain ⟨now, act⟩ := e
  rcases registers_or_not hstep with ⟨n, rfl, hp, hact⟩ | ⟨hne, hact⟩
  · have hx' : p'.2 = p.2.continueLoop (some n) n none := by
      rw [hx, ← hact]
      rfl
    simp only [HeardOnce, LoopsPast, hact, hx', Option.mem_def, Option.some.injEq, forall_eq',
      Microphones.tracks_continueLoop, Microphones.count_continueLoop, ht.count_eq_zero hp,
      true_and]
    refine forall₂_congr fun t _ => imp_congr_right fun _ => ?_
    simp
  · have hx' : p'.2 = p.2 := by
      rw [hx, Microphones.react]
      split
      · exact absurd ‹_› (hne _)
      · rfl
    refine iff_of_true (fun c hc => ?_) ?_
    · rw [hx']
      rcases hact with hact | hact
      · exact hH c (hact ▸ hc)
      · simp [hact] at hc
    · unfold LoopsPast
      split
      · rename_i heq
        simp only [Sum.inl.injEq, Event.mk.injEq] at heq
        exact absurd heq.2 (hne _)
      · simp at *
      · trivial

/-- A subscription is consumed once, whichever context is registered. -/
lemma HeardOnce.subscribed {n : ℕ} {t : Track} (hH : HeardOnce p) (ht : Tidy p)
    (hnew : ∀ u ∈ p.2.tracks n, u.place ≠ t.place) (hbase : p'.1 = p.1)
    (hx : p'.2 = p.2.trackSubscribed p.1.active n t) : HeardOnce p' := by
  intro c hc u hu hmic
  rw [hbase] at hc
  have hact : p.1.active = some c := hc
  have htracks : p'.2.tracks = Function.update p.2.tracks n (p.2.tracks n ++ [t]) := by
    rw [hx, Microphones.trackSubscribed]
    split <;> rfl
  have hcount : p'.2.consumers.count ⟨c, u, some c⟩ = p.2.consumers.count ⟨c, u, some c⟩ +
      if t.subscribes = true ∧ n = c ∧ t = u then 1 else 0 := by
    rw [hx, Microphones.trackSubscribed]
    cases hsub : t.subscribes with
    | false => simp
    | true =>
      simp only [if_true]
      rw [Microphones.count_handleAudioTrack]
      simp [hact]
  rw [hcount]
  rw [htracks, Function.update_apply] at hu
  by_cases hn : c = n
  · subst hn
    rw [if_pos rfl, List.mem_append, List.mem_singleton] at hu
    rcases hu with hu | rfl
    · have hne : t ≠ u := fun htu => hnew u hu (by rw [htu])
      simp [hne, hH c hact u hu hmic]
    · have hzero : p.2.consumers.count ⟨c, u, some c⟩ = 0 :=
        List.count_eq_zero.mpr fun hmem => hnew u (ht.live _ hmem) rfl
      simp [hzero, subscribes_of_microphone hmic]
  · rw [if_neg hn] at hu
    simp [Ne.symm hn, hH c hact u hu hmic]

/-- The end of a track takes its own consumers away only. -/
lemma HeardOnce.ended {n : ℕ} {t : Track} (hH : HeardOnce p) (ht : Tidy p) (hbase : p'.1 = p.1)
    (hx : p'.2 = p.2.trackEnded n t) : HeardOnce p' := by
  intro c hc u hu hmic
  rw [hbase] at hc
  have hkeep : u ∈ p.2.tracks c ∧ ¬ (c = n ∧ u = t) := by
    have htracks : p'.2.tracks = Function.update p.2.tracks n ((p.2.tracks n).erase t) := by
      rw [hx, Microphones.trackEnded]
    rw [htracks, Function.update_apply] at hu
    by_cases hn : c = n
    · subst hn
      rw [if_pos rfl] at hu
      obtain ⟨hne, hmem⟩ := (ht.nodup c).mem_erase_iff.mp hu
      exact ⟨hmem, fun h => hne h.2⟩
    · rw [if_neg hn] at hu
      exact ⟨hu, fun h => hn h.1⟩
  rw [hx, Microphones.trackEnded, List.count_filter]
  · exact hH c hc u hkeep.1 hmic
  · have hne := hkeep.2
    simp only [Bool.not_eq_true', Bool.and_eq_false_iff, decide_eq_false_iff_not]
    tauto

/-- **An event of a track** keeps every microphone heard once exactly when the loop, if it goes on,
passes no microphone. -/
lemma heardOnce_track {e : TrackEvent} (ht : Tidy p) (hH : HeardOnce p)
    (h : microphones.step p (.inr e) = some p') : HeardOnce p' ↔ LoopsPast p (.inr e) := by
  obtain ⟨hbase, hown⟩ := extend_step_inr.mp h
  cases e with
  | subscribed n t =>
    simp only [Microphones.handle, Option.ite_none_right_eq_some, Option.some.injEq] at hown
    exact iff_of_true (hH.subscribed ht hown.1.2.2 hbase hown.2.symm) trivial
  | ended n t =>
    simp only [Microphones.handle, Option.ite_none_right_eq_some, Option.some.injEq] at hown
    exact iff_of_true (hH.ended ht hbase hown.2.symm) trivial
  | loopResumes n =>
    simp only [Microphones.handle] at hown
    split at hown
    · rename_i cursor hloop
      simp only [Option.some.injEq] at hown
      simp only [HeardOnce, LoopsPast, hbase, ← hown, Microphones.tracks_continueLoop,
        Microphones.count_continueLoop, hloop]
      constructor
      · intro hheard hact u hu
        -- a microphone that is live already has a consumer
        by_contra hmic
        have hmic' : u.microphone = true := by simpa using hmic
        have hmem := mem_of_nextTrack hu
        have hone := hH n hact u hmem hmic'
        have htwo := hheard n hact u hmem hmic'
        rw [if_pos ⟨rfl, hact, hu⟩, hone] at htwo
        simp at htwo
      · intro hpast c hact u hmem hmic
        have hone := hH c hact u hmem hmic
        rw [if_neg, hone]
        rintro ⟨rfl, -, hu⟩
        simp [hpast hact u hu] at hmic
    · simp at hown

/-- One more consumer, of a live track and for the registered context. -/
lemma Tidy.handleAudioTrack {s : Server} {x : Microphones} (ht : Tidy (s, x)) (hs : Sound s)
    {n : ℕ} {t : Track} (hmem : t ∈ x.tracks n) :
    Tidy (s, x.handleAudioTrack s.active n t) := by
  refine ⟨fun k hk c hc => ?_, fun k hk => ?_, ht.nodup⟩
  · rcases List.mem_append.mp hk with hk | hk
    · exact ht.context k hk c hc
    · rw [List.mem_singleton.mp hk] at hc
      exact hs.active c hc
  · rcases List.mem_append.mp hk with hk | hk
    · exact ht.live k hk
    · rw [List.mem_singleton.mp hk]
      exact hmem

/-- The loop goes on. -/
lemma Tidy.continueLoop {s : Server} {x : Microphones} (ht : Tidy (s, x)) (hs : Sound s) (n : ℕ)
    (cursor : Option Track) : Tidy (s, x.continueLoop s.active n cursor) := by
  unfold Microphones.continueLoop
  split
  · exact ⟨ht.context, ht.live, ht.nodup⟩
  · rename_i u hnext
    have hu := ht.handleAudioTrack hs (mem_of_nextTrack hnext)
    exact ⟨hu.context, hu.live, hu.nodup⟩

/-- A track is subscribed. -/
lemma Tidy.trackSubscribed {s : Server} {x : Microphones} (ht : Tidy (s, x)) (hs : Sound s)
    {n : ℕ} {t : Track} (hnew : t ∉ x.tracks n) : Tidy (s, x.trackSubscribed s.active n t) := by
  have hadd : Tidy (s, { x with tracks := Function.update x.tracks n (x.tracks n ++ [t]) }) := by
    refine ⟨ht.context, fun k hk => ?_, fun m => ?_⟩
    · show k.track ∈ Function.update x.tracks n (x.tracks n ++ [t]) k.session
      rw [Function.update_apply]
      split
      · rename_i hn
        exact List.mem_append_left _ (hn ▸ ht.live k hk)
      · exact ht.live k hk
    · show (Function.update x.tracks n (x.tracks n ++ [t]) m).Nodup
      rw [Function.update_apply]
      split
      · simpa [List.concat_eq_append] using List.Nodup.concat hnew (ht.nodup n)
      · exact ht.nodup m
  unfold Microphones.trackSubscribed
  dsimp only
  split
  · exact hadd.handleAudioTrack hs (by simp)
  · exact hadd

/-- A track ends. -/
lemma Tidy.trackEnded {s : Server} {x : Microphones} (ht : Tidy (s, x)) (n : ℕ) (t : Track) :
    Tidy (s, x.trackEnded n t) := by
  refine ⟨fun k hk => ht.context k (List.mem_of_mem_filter hk), fun k hk => ?_, fun m => ?_⟩
  · obtain ⟨hk, hne⟩ := List.mem_filter.mp hk
    show k.track ∈ Function.update x.tracks n ((x.tracks n).erase t) k.session
    rw [Function.update_apply]
    split
    · rename_i hn
      refine (List.mem_erase_of_ne ?_).mpr (hn ▸ ht.live k hk)
      rintro rfl
      simp [hn] at hne
    · exact ht.live k hk
  · show (Function.update x.tracks n ((x.tracks n).erase t) m).Nodup
    rw [Function.update_apply]
    split
    · exact (ht.nodup n).erase t
    · exact ht.nodup m

/-- **What every step keeps.** -/
lemma Tidy.step {e : Event ⊕ TrackEvent} (ht : Tidy p) (hs : Sound p.1)
    (h : microphones.step p e = some p') : Tidy p' := by
  obtain ⟨s', x'⟩ := p'
  cases e with
  | inl e =>
    obtain ⟨hstep, hx⟩ := extend_step_inl.mp h
    obtain rfl : x' = p.2.react e s' := hx
    have hs' : Sound s' := hs.step hstep
    have ht' : Tidy (s', p.2) := by
      refine ⟨fun k hk c hc => ?_, ht.live, ht.nodup⟩
      obtain ⟨hlt, hf⟩ := ht.context k hk c hc
      exact finished_step hlt hstep hf
    show Tidy (s', p.2.react e s')
    unfold Microphones.react
    split
    · exact ht'.continueLoop hs' _ none
    · exact ht'
  | inr e =>
    obtain ⟨rfl, hown⟩ := extend_step_inr.mp h
    cases e with
    | subscribed n t =>
      simp only [Microphones.handle, Option.ite_none_right_eq_some, Option.some.injEq] at hown
      obtain ⟨⟨-, -, hnew⟩, rfl⟩ := hown
      exact ht.trackSubscribed hs fun hmem => hnew t hmem rfl
    | ended n t =>
      simp only [Microphones.handle, Option.ite_none_right_eq_some, Option.some.injEq] at hown
      obtain ⟨-, rfl⟩ := hown
      exact ht.trackEnded n t
    | loopResumes n =>
      simp only [Microphones.handle] at hown
      split at hown
      · simp only [Option.some.injEq] at hown
        subst hown
        exact ht.continueLoop hs n _
      · simp at hown

/-! ## Runs -/

/-- **Every microphone is heard exactly once** in every state of a run exactly when every session is
registered with no human microphone in its `Room`, or one that is the first track of its loop, and
no loop goes on with a microphone while its session is registered. -/
theorem heard_once_iff {es : List (Event ⊕ TrackEvent)} {p : Server × Microphones}
    (hr : microphones.exec microphones.init es = some p) :
    microphones.AllStates HeardOnce microphones.init es ↔
      microphones.AllSteps LoopsPast microphones.init es := by
  refine allStates_iff_of_step_iff (M := microphones) (B := fun p => Sound p.1 ∧ Tidy p) ?_ ?_
    ⟨sound_init, ?_, ?_, ?_⟩ (fun c hc => ?_) hr
  · intro p e p' hB h
    exact ⟨extend_base (I := Sound) (fun _ _ _ hs h => hs.step h) hB.1 h, hB.2.step hB.1 h⟩
  · rintro p (e | e) p' hB hH h
    · exact heardOnce_lifecycle hB.2 hH h
    · exact heardOnce_track hB.2 hH h
  · simp [microphones]
  · simp [microphones]
  · simp [microphones]
  · simp [microphones, lifecycle] at hc

/-- The microphone of a human, the `n`-th participant of the `Room`. -/
def microphoneOf (n : ℕ) (identity : String) : Track := ⟨n, 0, identity, .audio, .microphone⟩

/-- One microphone before the registration and one after it. -/
def listening : List (Event ⊕ TrackEvent) :=
  [.inl ⟨0, .startBot⟩, .inl ⟨1, .connected 0 true⟩, .inr (.subscribed 0 (microphoneOf 0 "kim")),
    .inl ⟨2, .published 0 true⟩, .inr (.subscribed 0 (microphoneOf 1 "lee"))]

/-- Both microphones are heard once, and still after the second one has ended. -/
theorem heard_once_iff_listening :
    microphones.AllStates HeardOnce microphones.init
      (listening ++ [.inr (.ended 0 (microphoneOf 1 "lee"))]) := by
  obtain ⟨p, hp⟩ := Option.isSome_iff_exists.mp
    (show (microphones.exec microphones.init
      (listening ++ [.inr (.ended 0 (microphoneOf 1 "lee"))])).isSome by decide +kernel)
  refine (heard_once_iff hp).mpr ?_
  decide +kernel

/-- Of two microphones that are subscribed before the registration one is not heard. When the track
that the loop awaits ends, the loop consumes a second time what has been subscribed since. -/
theorem microphones_misheard :
    ¬ microphones.AllStates HeardOnce microphones.init
        [.inl ⟨0, .startBot⟩, .inl ⟨1, .connected 0 true⟩,
          .inr (.subscribed 0 (microphoneOf 0 "kim")), .inr (.subscribed 0 (microphoneOf 1 "lee")),
          .inl ⟨2, .published 0 true⟩] ∧
      ¬ microphones.AllStates HeardOnce microphones.init
        (listening ++ [.inr (.ended 0 (microphoneOf 0 "kim")), .inr (.loopResumes 0)]) := by
  decide +kernel

end Lifecycle
