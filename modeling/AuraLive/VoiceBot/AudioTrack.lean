import AuraLive.Foundations.EventSystem
import AuraLive.Foundations.JsMap
import AuraLive.VoiceBot.State

set_option relaxedAutoImplicit false
set_option autoImplicit false

/-!
# Voice activity detection

The loop of `handleAudioTrack` in `livekit/voice-bot.service.ts`. Frames of a microphone go to the
audio buffer, or, before recording has started, to a short pre-buffer that is poured into the audio
buffer when it starts. A segment that is long enough and followed by silence, or too long, is handed
to `processAndRespond`.

## Main definitions

* `AudioTrack.Loop` — the variables of the loop.
* `AudioTrack.Loop.record`, `AudioTrack.Listener.flush` — where a frame goes, and when a segment
  ends.
* `AudioTrack.audioTrack` — the loop as an event system.
* `AudioTrack.Bounded` — the bounds of the buffers and of the segments.

## Main results

* `AudioTrack.buffers_bounded` — the bounds hold in every run.

## Design

The level of a frame, the thresholds it is compared with and what the loop learns about the speaker
are floating-point numbers. What the loop does with them is a classification of the frame, which is
an arbitrary part of the event, as is the level of a whole segment. A frame has the number of its
arrival, which the source does not keep.
-/

namespace AudioTrack

open Foundations VoiceBot

/-! ## Frames -/

/-- A frame, with the number of its arrival. -/
structure Frame where
  arrival : ℕ
  data : List UInt8
  deriving DecidableEq

/-- How a frame sounds: a voice (above `STRONG_VOICE_THRESHOLD`, above
`BARGE_IN_DECIBEL_THRESHOLD`), a weak voice, or silence. -/
inductive Sound where
  | voice (strong loud : Bool)
  | weak
  | silent
  deriving DecidableEq

/-- `audioBuffer.reduce((sum, b) => sum + b.length, 0)`. -/
def totalLength (frames : List Frame) : ℕ := (frames.map (·.data.length)).sum

/-- `PRE_BUFFER_FRAMES`. -/
def PRE_BUFFER_FRAMES : ℕ := 15

/-- `SILENCE_THRESHOLD`. -/
def SILENCE_THRESHOLD : ℕ := 50

/-- `MIN_AUDIO_LENGTH`. -/
def MIN_AUDIO_LENGTH : ℕ := 16000

/-- `MAX_AUDIO_LENGTH`. -/
def MAX_AUDIO_LENGTH : ℕ := 192000

/-- `MIN_VOICE_FRAMES`. -/
def MIN_VOICE_FRAMES : ℕ := 8

/-- `STT_COOLDOWN_MS`. -/
def STT_COOLDOWN_MS : ℕ := 1200

/-- `CALIBRATION_DURATION`. -/
def CALIBRATION_DURATION : ℕ := 3000

/-! ## The loop -/

/-- The variables of the loop. -/
structure Loop where
  isCalibrating : Bool := true
  audioBuffer : List Frame := []
  silenceCount : ℕ := 0
  voiceCount : ℕ := 0
  preBuffer : List Frame := []
  isRecording : Bool := false
  speechStartTime : Option ℕ := none

namespace Loop

variable (l : Loop)

/-- A frame before recording goes to the pre-buffer, which drops its first one if it has too many.
-/
def keep (frame : Frame) : Loop :=
  let preBuffer := l.preBuffer ++ [frame]
  { l with
    preBuffer := if PRE_BUFFER_FRAMES < preBuffer.length then preBuffer.drop 1 else preBuffer }

/-- Recording starts with the second voice frame. -/
def starts : Bool := !l.isRecording && 2 ≤ l.voiceCount + 1

/-- The start of recording pours the pre-buffer into the audio buffer. -/
def start (now : ℕ) : Loop :=
  { l with
    isRecording := true
    speechStartTime := some now
    audioBuffer := l.audioBuffer ++ l.preBuffer
    preBuffer := [] }

/-- Where a frame goes. -/
def record (frame : Frame) (sound : Sound) (now : ℕ) : Loop :=
  match sound with
  | .voice strong _ =>
    let started := if l.starts then l.start now else l
    { started with
      voiceCount := l.voiceCount + 1
      silenceCount := if strong then 0 else l.silenceCount
      audioBuffer := started.audioBuffer ++ [frame] }
  | .weak =>
    let kept := if l.isRecording then { l with audioBuffer := l.audioBuffer ++ [frame] }
      else l.keep frame
    { kept with silenceCount := l.silenceCount + 1 }
  | .silent =>
    let kept := if l.isRecording then l else l.keep frame
    { kept with silenceCount := l.silenceCount + 1, voiceCount := 0 }

/-- `shouldProcess && totalLength > MIN_AUDIO_LENGTH`. -/
def endsSegment : Bool :=
  let triggeredBySilence :=
    SILENCE_THRESHOLD < l.silenceCount && MIN_AUDIO_LENGTH < totalLength l.audioBuffer
  let triggeredByMaxLength : Bool := MAX_AUDIO_LENGTH < totalLength l.audioBuffer
  (triggeredBySilence || triggeredByMaxLength) && MIN_AUDIO_LENGTH < totalLength l.audioBuffer

/-- The variables after a segment. -/
def reset : Loop :=
  { l with
    audioBuffer := []
    silenceCount := 0
    voiceCount := 0
    isRecording := false
    speechStartTime := none
    preBuffer := [] }

end Loop

/-! ## The room -/

/-- The fields of the room's context that the loop uses. -/
structure Context where
  isPublishing : Bool := false
  publishingStartTime : ℕ := 0
  botState : BotState := .sleep
  speakingStartTime : ℕ := 0
  shouldInterrupt : Bool := false
  activeUserId : Option String := none
  lastInteractionTime : ℕ := 0
  lastSttTimeByUser : JsMap String ℕ := ∅

namespace Context

variable (c : Context)

/-- Publishing that has not ended after a minute is reset. -/
def checkPublishing (now : ℕ) : Context :=
  if c.isPublishing && 0 < c.publishingStartTime && 60000 < now - c.publishingStartTime then
    { c with isPublishing := false, publishingStartTime := 0 }
  else c

/-- Barge-in: a loud voice interrupts the bot. -/
def bargeIn (userId : String) (voiceCount : ℕ) (sound : Sound) (now : ℕ) : Context :=
  if c.botState = .speaking && 500 ≤ now - c.speakingStartTime &&
      (match sound with
        | .voice _ loud => loud
        | _ => false) &&
      MIN_VOICE_FRAMES ≤ voiceCount && !c.shouldInterrupt &&
      (c.activeUserId = none || c.activeUserId = some userId) then
    { c with shouldInterrupt := true }
  else c

/-- A voice that goes on is an interaction. -/
def interaction (voiceCount : ℕ) (sound : Sound) (now : ℕ) : Context :=
  match sound with
  | .voice _ _ =>
    if MIN_VOICE_FRAMES ≤ voiceCount + 1 then { c with lastInteractionTime := now } else c
  | _ => c

end Context

/-- What `processAndRespond` is called with. -/
structure Segment where
  frames : List Frame
  startTime : Option ℕ

/-- A call of `handleAudioTrack`: its loop, the context it found, how many frames have arrived and
the segments it has handed over, the last one first. -/
structure Listener where
  loop : Loop := {}
  context : Option Context
  arrived : ℕ := 0
  segments : List Segment := []

namespace Listener

variable (s : Listener)

/-- The end of a segment: the buffers are emptied, and the segment is handed over if it is loud
enough, there is a context and the last one of the user is not too recent. -/
def flush (userId : String) (loud : Bool) (now : ℕ) : Listener :=
  if !s.loop.endsSegment then s
  else if !loud then { s with loop := s.loop.reset }
  else
    match s.context with
    | none => { s with loop := s.loop.reset }
    | some c =>
      if now - (c.lastSttTimeByUser.get userId).getD 0 < STT_COOLDOWN_MS then
        { s with loop := s.loop.reset }
      else
        { s with
          loop := s.loop.reset
          context := some { c with lastSttTimeByUser := c.lastSttTimeByUser.set userId now }
          segments := ⟨s.loop.audioBuffer, s.loop.speechStartTime⟩ :: s.segments }

/-- A frame that is not skipped. -/
def listen (userId : String) (frame : Frame) (sound : Sound) (loud : Bool) (now : ℕ) : Listener :=
  flush
    { s with
      loop := s.loop.record frame sound now
      context := s.context.map fun c => c.interaction s.loop.voiceCount sound now }
    userId loud now

/-- A frame after the calibration: one that arrives while the bot publishes is skipped. -/
def hear (userId : String) (frame : Frame) (sound : Sound) (loud : Bool) (now : ℕ) : Listener :=
  match s.context with
  | some c =>
    if c.isPublishing then
      { s with context := some (c.bargeIn userId s.loop.voiceCount sound now) }
    else s.listen userId frame sound loud now
  | none => s.listen userId frame sound loud now

/-- The body of the loop: calibration, the check of `isPublishing`, the bot's own speech, and the
frame itself. -/
def frame (userId : String) (calibrationStartTime : ℕ) (data : List UInt8) (sound : Sound)
    (loud : Bool) (now : ℕ) : Listener :=
  if s.loop.isCalibrating && now - calibrationStartTime < CALIBRATION_DURATION then
    { s with arrived := s.arrived + 1 }
  else
    hear
      { s with
        arrived := s.arrived + 1
        loop := { s.loop with isCalibrating := false }
        context := s.context.map fun c => c.checkPublishing now }
      userId ⟨s.arrived, data⟩ sound loud now

end Listener

/-- What happens to a listener. -/
inductive Event where
  /-- A frame arrives. `loud` is the comparison of the level of the segment, if one ends. -/
  | frame (data : List UInt8) (sound : Sound) (loud : Bool) (now : ℕ)
  /-- Others change the context, if there is one. -/
  | contextChanged (context : Context)

/-- A call of `handleAudioTrack` for a user, that starts at a time and finds a context or none. -/
def audioTrack (userId : String) (calibrationStartTime : ℕ) (context : Option Context) :
    EventSystem Listener Event where
  init := { context := context }
  step s e :=
    match e with
    | .frame data sound loud now => some (s.frame userId calibrationStartTime data sound loud now)
    | .contextChanged c => some { s with context := s.context.map fun _ => c }

/-! ## Steps -/

/-- The loop after a frame has been put into a buffer. -/
def Listener.recorded (s : Listener) (data : List UInt8) (sound : Sound) (now : ℕ) : Loop :=
  { s.loop with isCalibrating := false }.record ⟨s.arrived, data⟩ sound now

/-- A frame is not skipped: the calibration is over and the bot does not publish. -/
def Listener.hears (s : Listener) (calibrationStartTime now : ℕ) : Bool :=
  !(s.loop.isCalibrating && now - calibrationStartTime < CALIBRATION_DURATION) &&
    !s.context.any fun c => (c.checkPublishing now).isPublishing

/-- What an event does to the buffers and the segments. -/
inductive Hears (calibrationStartTime : ℕ) (s : Listener) : Event → Listener → Prop where
  /-- The buffers stay as they are. -/
  | skips (e : Event) (s' : Listener) (calibrating : Bool)
      (hloop : s'.loop = { s.loop with isCalibrating := calibrating })
      (hsegments : s'.segments = s.segments) (harrived : s.arrived ≤ s'.arrived) :
      Hears calibrationStartTime s e s'
  /-- A frame is put into a buffer. -/
  | records (data : List UInt8) (sound : Sound) (loud : Bool) (now : ℕ) (s' : Listener)
      (hhears : s.hears calibrationStartTime now = true)
      (hgoes : (s.recorded data sound now).endsSegment = false)
      (hloop : s'.loop = s.recorded data sound now) (hsegments : s'.segments = s.segments)
      (harrived : s'.arrived = s.arrived + 1) :
      Hears calibrationStartTime s (.frame data sound loud now) s'
  /-- A frame ends a segment, which is handed over or dropped. -/
  | ends (data : List UInt8) (sound : Sound) (loud : Bool) (now : ℕ) (s' : Listener)
      (hhears : s.hears calibrationStartTime now = true)
      (hends : (s.recorded data sound now).endsSegment = true)
      (hloop : s'.loop = (s.recorded data sound now).reset)
      (hsegments : s'.segments = s.segments ∨ ∃ startTime,
        s'.segments = ⟨(s.recorded data sound now).audioBuffer, startTime⟩ :: s.segments)
      (harrived : s'.arrived = s.arrived + 1) :
      Hears calibrationStartTime s (.frame data sound loud now) s'

section Steps

variable {userId : String} {calibrationStartTime : ℕ} {context : Option Context}
  {s s' : Listener} {e : Event}

/-- What the end of a segment does. -/
lemma flush_cases (s : Listener) (userId : String) (loud : Bool) (now : ℕ) :
    (s.loop.endsSegment = false ∧ s.flush userId loud now = s) ∨
    (s.loop.endsSegment = true ∧ (s.flush userId loud now).loop = s.loop.reset ∧
      (s.flush userId loud now).arrived = s.arrived ∧
      ((s.flush userId loud now).segments = s.segments ∨ ∃ startTime,
        (s.flush userId loud now).segments = ⟨s.loop.audioBuffer, startTime⟩ :: s.segments)) := by
  cases hends : s.loop.endsSegment with
  | false =>
    refine .inl ⟨rfl, ?_⟩
    rw [Listener.flush, hends]
    rfl
  | true =>
    refine .inr ⟨rfl, ?_⟩
    rw [Listener.flush, hends, Bool.not_true, if_neg Bool.false_ne_true]
    split
    · exact ⟨rfl, rfl, .inl rfl⟩
    · split
      · exact ⟨rfl, rfl, .inl rfl⟩
      · split
        · exact ⟨rfl, rfl, .inl rfl⟩
        · exact ⟨rfl, rfl, .inr ⟨_, rfl⟩⟩

/-- What a frame does that is not skipped. -/
lemma hears_listen {t : Listener} {data : List UInt8} {sound : Sound} {loud : Bool} {now : ℕ}
    (hhears : s.hears calibrationStartTime now = true)
    (hloop : t.loop = { s.loop with isCalibrating := false }) (hsegments : t.segments = s.segments)
    (harrived : t.arrived = s.arrived + 1) :
    Hears calibrationStartTime s (.frame data sound loud now)
      (t.listen userId ⟨s.arrived, data⟩ sound loud now) := by
  have hrecorded : t.loop.record ⟨s.arrived, data⟩ sound now = s.recorded data sound now := by
    rw [hloop]
    rfl
  unfold Listener.listen
  rw [hrecorded]
  rcases flush_cases
    { t with
      loop := s.recorded data sound now
      context := t.context.map fun c => c.interaction t.loop.voiceCount sound now }
    userId loud now with ⟨hgoes, heq⟩ | ⟨hends, hl, ha, hseg⟩
  · rw [heq]
    exact .records data sound loud now _ hhears hgoes rfl hsegments harrived
  · refine .ends data sound loud now _ hhears hends hl ?_ (ha.trans harrived)
    rw [← hsegments]
    exact hseg

/-- **Steps of the loop.** -/
lemma hears_of_step (h : (audioTrack userId calibrationStartTime context).step s e = some s') :
    Hears calibrationStartTime s e s' := by
  cases e with
  | contextChanged c =>
    obtain rfl := Option.some.inj h
    exact .skips _ _ s.loop.isCalibrating rfl rfl (le_refl _)
  | frame data sound loud now =>
    obtain rfl := Option.some.inj h
    unfold Listener.frame
    split
    · exact .skips _ _ s.loop.isCalibrating rfl rfl (Nat.le_succ _)
    · rename_i hcalibrated
      unfold Listener.hear
      cases hcontext : s.context with
      | none =>
        refine hears_listen ?_ rfl rfl rfl
        rw [Listener.hears, Bool.eq_false_iff.mpr hcalibrated, hcontext]
        rfl
      | some c =>
        rw [Option.map_some]
        dsimp only
        split
        · exact .skips _ _ false rfl rfl (Nat.le_succ _)
        · rename_i hpublishing
          refine hears_listen ?_ rfl rfl rfl
          rw [Listener.hears, Bool.eq_false_iff.mpr hcalibrated, hcontext, Option.any_some,
            Bool.eq_false_iff.mpr hpublishing]
          rfl

/-! ## Bounds -/

/-- The bounds of the buffers and of the segments, for frames of at most `F` bytes. -/
structure Bounded (F : ℕ) (s : Listener) : Prop where
  preBuffer : s.loop.preBuffer.length ≤ 15
  recording : s.loop.isRecording = true → s.loop.preBuffer = []
  audioBuffer : totalLength s.loop.audioBuffer ≤ 192000
  segments : ∀ segment ∈ s.segments,
    16000 < totalLength segment.frames ∧ totalLength segment.frames ≤ 192000 + 16 * F

/-- A frame has at most `F` bytes. -/
def Event.AtMost (F : ℕ) : Event → Prop
  | .frame data _ _ _ => data.length ≤ F
  | .contextChanged _ => True

@[simp] lemma totalLength_append (frames frames' : List Frame) :
    totalLength (frames ++ frames') = totalLength frames + totalLength frames' := by
  simp [totalLength]

/-- Frames of at most `F` bytes are together at most so often `F` bytes. -/
lemma totalLength_le {F : ℕ} {frames : List Frame} (h : ∀ frame ∈ frames, frame.data.length ≤ F) :
    totalLength frames ≤ frames.length * F := by
  induction frames with
  | nil => exact Nat.zero_le _
  | cons frame frames ih =>
    have hfirst := h frame List.mem_cons_self
    have hrest := ih fun f hf => h f (List.mem_cons_of_mem frame hf)
    rw [List.length_cons, Nat.succ_mul]
    rw [totalLength, List.map_cons, List.sum_cons, ← totalLength]
    omega

/-- The bounds of the buffers, with the sizes of the frames in the pre-buffer. -/
structure Loop.Bounded (F : ℕ) (l : Loop) : Prop where
  preBuffer : l.preBuffer.length ≤ 15
  recording : l.isRecording = true → l.preBuffer = []
  frames : ∀ frame ∈ l.preBuffer, frame.data.length ≤ F

/-- A frame that is kept. -/
lemma Loop.Bounded.keep {F : ℕ} {l : Loop} (h : l.Bounded F) (hrecording : l.isRecording = false)
    {frame : Frame} (hframe : frame.data.length ≤ F) : (l.keep frame).Bounded F := by
  have hsub : ∀ f ∈ (l.keep frame).preBuffer, f ∈ l.preBuffer ++ [frame] := by
    intro f hf
    unfold Loop.keep at hf
    dsimp only at hf
    split at hf
    · exact List.mem_of_mem_drop hf
    · exact hf
  refine ⟨?_, fun hrec => absurd (hrecording.symm.trans hrec) Bool.false_ne_true, ?_⟩
  · have hpre := h.preBuffer
    unfold Loop.keep
    dsimp only
    split
    · simp only [List.length_drop, List.length_append, List.length_singleton]
      omega
    · rename_i hshort
      simpa [PRE_BUFFER_FRAMES] using hshort
  · intro f hf
    rcases List.mem_append.mp (hsub f hf) with hf | hf
    · exact h.frames f hf
    · obtain rfl := List.mem_singleton.mp hf
      exact hframe

/-- A frame adds itself and the pre-buffer to the audio buffer, at most. -/
lemma Loop.Bounded.record {F : ℕ} {l : Loop} (h : l.Bounded F) (frame : Frame)
    (hframe : frame.data.length ≤ F) (sound : Sound) (now : ℕ) :
    (l.record frame sound now).Bounded F ∧
      totalLength (l.record frame sound now).audioBuffer ≤ totalLength l.audioBuffer + 16 * F := by
  have hone : totalLength [frame] ≤ F := by simpa [totalLength] using hframe
  have hpre : totalLength l.preBuffer ≤ 15 * F :=
    (totalLength_le h.frames).trans (Nat.mul_le_mul_right F h.preBuffer)
  cases sound with
  | voice strong loud =>
    unfold Loop.record
    dsimp only
    split
    · refine ⟨⟨by simp [Loop.start], fun _ => rfl, by simp [Loop.start]⟩, ?_⟩
      simp only [Loop.start, totalLength_append]
      omega
    · refine ⟨⟨h.preBuffer, h.recording, h.frames⟩, ?_⟩
      simp only [totalLength_append]
      omega
  | weak =>
    unfold Loop.record
    dsimp only
    split
    · refine ⟨⟨h.preBuffer, h.recording, h.frames⟩, ?_⟩
      simp only [totalLength_append]
      omega
    · rename_i hrecording
      have hkept := h.keep (Bool.eq_false_iff.mpr hrecording) hframe
      exact ⟨⟨hkept.preBuffer, hkept.recording, hkept.frames⟩, Nat.le_add_right _ _⟩
  | silent =>
    unfold Loop.record
    dsimp only
    split
    · exact ⟨⟨h.preBuffer, h.recording, h.frames⟩, Nat.le_add_right _ _⟩
    · rename_i hrecording
      have hkept := h.keep (Bool.eq_false_iff.mpr hrecording) hframe
      exact ⟨⟨hkept.preBuffer, hkept.recording, hkept.frames⟩, Nat.le_add_right _ _⟩

/-- A segment that goes on is not too long, and one that ends is long enough. -/
lemma totalLength_of_endsSegment (l : Loop) :
    (l.endsSegment = false → totalLength l.audioBuffer ≤ 192000) ∧
      (l.endsSegment = true → 16000 < totalLength l.audioBuffer) := by
  unfold Loop.endsSegment SILENCE_THRESHOLD MIN_AUDIO_LENGTH MAX_AUDIO_LENGTH
  constructor
  · intro hgoes
    simp only [Bool.and_eq_false_iff, Bool.or_eq_false_iff, decide_eq_false_iff_not] at hgoes
    omega
  · intro hends
    simp only [Bool.and_eq_true, decide_eq_true_eq] at hends
    exact hends.2

/-- **The bounds are kept** by every step. -/
lemma bounded_step {F : ℕ} (h : Bounded F s ∧ s.loop.Bounded F) (he : e.AtMost F)
    (hstep : (audioTrack userId calibrationStartTime context).step s e = some s') :
    Bounded F s' ∧ s'.loop.Bounded F := by
  obtain ⟨hs, hl⟩ := h
  have hfalse : ({ s.loop with isCalibrating := false } : Loop).Bounded F :=
    ⟨hl.preBuffer, hl.recording, hl.frames⟩
  cases hears_of_step hstep with
  | skips e s' calibrating hloop hsegments harrived =>
    rw [hloop]
    refine ⟨⟨?_, ?_, ?_, hsegments ▸ hs.segments⟩, hl.preBuffer, hl.recording, hl.frames⟩
    · rw [hloop]
      exact hs.preBuffer
    · rw [hloop]
      exact hs.recording
    · rw [hloop]
      exact hs.audioBuffer
  | records data sound loud now s' hhears hgoes hloop hsegments harrived =>
    obtain ⟨hbounded, hlength⟩ := hfalse.record ⟨s.arrived, data⟩ he sound now
    rw [← Listener.recorded, ← hloop] at hbounded hlength
    refine ⟨⟨hbounded.preBuffer, hbounded.recording, ?_, hsegments ▸ hs.segments⟩, hbounded⟩
    rw [hloop]
    exact (totalLength_of_endsSegment _).1 hgoes
  | ends data sound loud now s' hhears hends hloop hsegments harrived =>
    obtain ⟨-, hlength⟩ := hfalse.record ⟨s.arrived, data⟩ he sound now
    rw [← Listener.recorded] at hlength
    have hlong : totalLength (s.recorded data sound now).audioBuffer ≤ 192000 + 16 * F :=
      hlength.trans (Nat.add_le_add_right hs.audioBuffer _)
    have hempty : s'.loop.Bounded F := by
      rw [hloop]
      exact ⟨by simp [Loop.reset], by simp [Loop.reset], by simp [Loop.reset]⟩
    refine ⟨⟨hempty.preBuffer, hempty.recording, ?_, fun segment hmem => ?_⟩, hempty⟩
    · rw [hloop]
      exact Nat.zero_le _
    · rcases hsegments with hsame | ⟨startTime, hnew⟩
      · exact hs.segments segment (hsame ▸ hmem)
      · rw [hnew] at hmem
        rcases List.mem_cons.mp hmem with rfl | hmem
        · exact ⟨(totalLength_of_endsSegment _).2 hends, hlong⟩
        · exact hs.segments segment hmem

end Steps

/-- **The bounds of the buffers.** If no frame has more than `F` bytes, then after every frame the
pre-buffer has at most 15 frames, and none while recording, the audio buffer has at most 192000
bytes, and every segment that was handed over has more than 16000 and at most
`192000 + 16 * F`. -/
theorem buffers_bounded {F : ℕ} {es : List Event} (hes : ∀ e ∈ es, e.AtMost F) (userId : String)
    (calibrationStartTime : ℕ) (context : Option Context) :
    (audioTrack userId calibrationStartTime context).AllStates (Bounded F)
      (audioTrack userId calibrationStartTime context).init es := by
  refine EventSystem.allStates_of_invariant (I := fun s => Bounded F s ∧ s.loop.Bounded F)
    (C := fun _ e => e.AtMost F) (fun s e s' h he hstep => bounded_step h he hstep)
    (fun s h => h.1) ?_ (EventSystem.allSteps_of_forall _ hes)
  refine ⟨⟨Nat.zero_le _, fun _ => rfl, Nat.zero_le _, ?_⟩, Nat.zero_le _, fun _ => rfl, ?_⟩
  · intro segment hmem
    cases hmem
  · intro frame hmem
    cases hmem

/-- Some bytes of a frame. -/
def bytes (n : ℕ) : List UInt8 := List.replicate n 0

/-- Two voice frames in a room with a context, and silence. -/
def speech : List Event :=
  [.frame (bytes 9000) (.voice true false) true 3000,
    .frame (bytes 9000) (.voice true false) true 3010] ++
    List.replicate 51 (.frame [] .silent true 3020)

/-- The speech of this run is handed over. -/
theorem buffers_bounded_speech :
    ((audioTrack "u" 0 (some {})).exec (audioTrack "u" 0 (some {})).init speech).map
      (fun s => s.segments.map fun segment => totalLength segment.frames) = some [18000] ∧
    (audioTrack "u" 0 (some {})).AllStates (Bounded 9000) (audioTrack "u" 0 (some {})).init
      speech := by
  refine ⟨by decide +kernel, buffers_bounded (fun e he => ?_) "u" 0 (some {})⟩
  simp only [speech, List.cons_append, List.nil_append, List.mem_cons, List.mem_replicate] at he
  have hbytes : (bytes 9000).length ≤ 9000 := List.length_replicate.le
  rcases he with rfl | rfl | ⟨-, rfl⟩
  · exact hbytes
  · exact hbytes
  · exact Nat.zero_le _

end AudioTrack
