import AuraLive.VoiceBot.Flows
import Mathlib.Data.Int.Order.Basic
import Mathlib.Data.List.Basic

set_option relaxedAutoImplicit false
set_option autoImplicit false

/-!
# Playing a buffer

`publishAudio` of `livekit/voice-bot.service.ts` cuts a PCM buffer into frames of 480 samples and
sends them one by one, each from a timer that the one before has set.

## Main definitions

* `Playback.readInt16LE`, `Playback.decode` — a sample of a buffer, and all of them.
* `Playback.prepareFrames` — the frames of a buffer.
* `Playback.sendFrame`, `Playback.playback` — the sending loop as an event system.

## Main results

* `Playback.framesFrom_spec` — the frames from an offset on.
* `Playback.prepareFrames_eq_toFrames` — the frames are those that the flows of the bot send.
* `Playback.progress_step` — what has been sent is always a beginning of the frames.
* `Playback.publishAudio_lossless` — no sample is lost or read out of bounds, and all frames are
  sent unless the playback is interrupted.

## Design

A read that is out of bounds throws, and so does the function then; it is `none` here. The flag of
the room may change, and the room may go, between any two calls of `sendFrame`. The clock is read at
every frame and may give anything.
-/

namespace Playback

open Foundations

/-! ## The frames -/

/-- `SAMPLE_RATE`. -/
def SAMPLE_RATE : ℕ := 16000

/-- `FRAME_SIZE`. -/
def FRAME_SIZE : ℕ := 480

/-- `BYTES_PER_SAMPLE`. -/
def BYTES_PER_SAMPLE : ℕ := 2

/-- `FRAME_BYTES`. -/
def FRAME_BYTES : ℕ := FRAME_SIZE * BYTES_PER_SAMPLE

/-- `FRAME_DURATION_MS`. -/
def FRAME_DURATION_MS : ℕ := 30

/-- `AudioFrame`. -/
structure AudioFrame where
  data : List Int16
  sampleRate : ℕ
  channels : ℕ
  samplesPerChannel : ℕ
  deriving DecidableEq

/-- The sample of two bytes, the low one first. -/
def sampleOf (low high : UInt8) : Int16 := Int16.ofNat (low.toNat + 256 * high.toNat)

/-- `pcmBuffer.readInt16LE(offset)`; it throws if a byte is out of bounds. -/
def readInt16LE (pcmBuffer : List UInt8) (offset : ℕ) : Option Int16 :=
  match pcmBuffer[offset]?, pcmBuffer[offset + 1]? with
  | some low, some high => some (sampleOf low high)
  | _, _ => none

/-- The samples of a frame: the array of zeros, after the loop that reads into it. -/
def readSamples (pcmBuffer : List UInt8) (offset numSamples : ℕ) : Option (List Int16) :=
  (List.range (min numSamples FRAME_SIZE)).foldlM
    (fun samples j =>
      (readInt16LE pcmBuffer (offset + j * BYTES_PER_SAMPLE)).map (samples.set j))
    (List.replicate FRAME_SIZE 0)

/-- The loop over the buffer, from an offset on. -/
def framesFrom (pcmBuffer : List UInt8) (offset : ℕ) : Option (List AudioFrame) :=
  if offset < pcmBuffer.length then
    let chunkEnd := min (offset + FRAME_BYTES) pcmBuffer.length
    let numSamples := (chunkEnd - offset) / BYTES_PER_SAMPLE
    (readSamples pcmBuffer offset numSamples).bind fun samples =>
      (framesFrom pcmBuffer (offset + FRAME_BYTES)).map fun frames =>
        ⟨samples, SAMPLE_RATE, 1, FRAME_SIZE⟩ :: frames
  else some []
termination_by pcmBuffer.length - offset
decreasing_by simp only [FRAME_BYTES, FRAME_SIZE, BYTES_PER_SAMPLE]; omega

/-- The frames of a buffer. -/
def prepareFrames (pcmBuffer : List UInt8) : Option (List AudioFrame) := framesFrom pcmBuffer 0

/-- The little-endian decoding of a buffer; a last odd byte is dropped. -/
def decode : List UInt8 → List Int16
  | low :: high :: rest => sampleOf low high :: decode rest
  | _ => []

/-- Two bytes make a sample. -/
lemma length_decode : ∀ bytes : List UInt8, (decode bytes).length = bytes.length / 2
  | [] => rfl
  | [low] => by simp [decode]
  | _ :: _ :: rest => by
    rw [decode, List.length_cons, length_decode rest, List.length_cons, List.length_cons]
    omega

/-- A read at an even offset gives a sample of the decoding. -/
lemma readInt16LE_two_mul : ∀ (bytes : List UInt8) (k : ℕ),
    readInt16LE bytes (2 * k) = (decode bytes)[k]?
  | [], k => by simp [readInt16LE, decode]
  | [low], k => by
    cases k with
    | zero => rfl
    | succ k => simp [readInt16LE, decode, Nat.mul_add]
  | low :: high :: rest, k => by
    cases k with
    | zero => rfl
    | succ k =>
      rw [decode, List.getElem?_cons_succ, ← readInt16LE_two_mul rest k]
      rfl

/-- Writing the next sample into an array of zeros. -/
lemma set_append_replicate (xs : List Int16) (x : Int16) {n : ℕ} (h : xs.length < n) :
    (xs ++ List.replicate (n - xs.length) 0).set xs.length x =
      xs ++ [x] ++ List.replicate (n - (xs.length + 1)) 0 := by
  obtain ⟨m, hm⟩ : ∃ m, n - xs.length = m + 1 := ⟨n - xs.length - 1, by omega⟩
  rw [List.set_append_right _ _ (Nat.le_refl _), Nat.sub_self, hm,
    show n - (xs.length + 1) = m by omega]
  simp [List.replicate_succ]

/-- The samples that have been read after some rounds of the loop, and the zeros behind them.

**Proof sketch.** Induction on the rounds; every round reads the next sample of the decoding, which
is there, and writes it over the first zero. -/
lemma readSamples_rounds (pcmBuffer : List UInt8) (k : ℕ) : ∀ n, n ≤ FRAME_SIZE →
    n ≤ (decode pcmBuffer).length - k →
    (List.range n).foldlM
        (fun samples j =>
          (readInt16LE pcmBuffer (2 * k + j * BYTES_PER_SAMPLE)).map (samples.set j))
        (List.replicate FRAME_SIZE 0) =
      some (((decode pcmBuffer).drop k).take n ++ List.replicate (FRAME_SIZE - n) 0)
  | 0, _, _ => by simp
  | n + 1, hn, hk => by
    have hlt : k + n < (decode pcmBuffer).length := by omega
    have hread : readInt16LE pcmBuffer (2 * k + n * BYTES_PER_SAMPLE) =
        some (decode pcmBuffer)[k + n] := by
      rw [BYTES_PER_SAMPLE, show 2 * k + n * 2 = 2 * (k + n) by omega, readInt16LE_two_mul,
        List.getElem?_eq_getElem hlt]
    have hlength : (((decode pcmBuffer).drop k).take n).length = n := by
      rw [List.length_take, List.length_drop]
      omega
    have htake : ((decode pcmBuffer).drop k).take (n + 1) =
        ((decode pcmBuffer).drop k).take n ++ [(decode pcmBuffer)[k + n]] := by
      rw [List.take_add_one, List.getElem?_drop, List.getElem?_eq_getElem hlt]
      rfl
    have hset := set_append_replicate (((decode pcmBuffer).drop k).take n)
      (decode pcmBuffer)[k + n] (n := FRAME_SIZE) (by omega)
    rw [hlength] at hset
    rw [List.range_succ, List.foldlM_append,
      readSamples_rounds pcmBuffer k n (by omega) (by omega), htake]
    simp [hread, hset]

/-- The samples in the chunk at an offset. -/
def chunkSamples (pcmBuffer : List UInt8) (offset : ℕ) : ℕ :=
  (min (offset + FRAME_BYTES) pcmBuffer.length - offset) / BYTES_PER_SAMPLE

/-- A chunk has 480 samples, or all that are left. -/
lemma chunkSamples_two_mul (pcmBuffer : List UInt8) (k : ℕ) :
    chunkSamples pcmBuffer (2 * k) = min 480 ((decode pcmBuffer).length - k) := by
  have hdecode := length_decode pcmBuffer
  simp only [chunkSamples, FRAME_BYTES, FRAME_SIZE, BYTES_PER_SAMPLE]
  omega

/-- The samples of a frame are those of its chunk, and zeros. -/
lemma readSamples_two_mul (pcmBuffer : List UInt8) (k : ℕ) :
    readSamples pcmBuffer (2 * k) (chunkSamples pcmBuffer (2 * k)) =
      some (((decode pcmBuffer).drop k).take 480 ++
        List.replicate (480 - ((decode pcmBuffer).length - k)) 0) := by
  have hchunk := chunkSamples_two_mul pcmBuffer k
  have hsize : FRAME_SIZE = 480 := rfl
  unfold readSamples
  rw [show min (chunkSamples pcmBuffer (2 * k)) FRAME_SIZE = chunkSamples pcmBuffer (2 * k) by
    omega, readSamples_rounds pcmBuffer k _ (by omega) (by omega), hchunk, hsize]
  by_cases hfull : 480 ≤ (decode pcmBuffer).length - k
  · rw [Nat.min_eq_left hfull, Nat.sub_self, Nat.sub_eq_zero_of_le hfull]
  · have hall : (decode pcmBuffer).length - k ≤ 480 := by omega
    rw [Nat.min_eq_right hall, List.take_of_length_le (Nat.le_of_eq List.length_drop),
      List.take_of_length_le (by rw [List.length_drop]; omega)]

/-- The zeros behind the samples of so many bytes. -/
def padding (bytes : ℕ) : ℕ := if bytes % 960 = 0 then 0 else 480 - bytes % 960 / 2

/-- **The frames** from an offset on: every frame is full, and together they are the samples from
there on and the padding.

**Proof sketch.** Induction on the bytes that are left. One round takes the next 480 samples, or the
last ones and zeros, and leaves the padding of the rest as it is. -/
lemma framesFrom_spec (pcmBuffer : List UInt8) (rounds : ℕ) :
    ∀ k, pcmBuffer.length ≤ 2 * k + 960 * rounds →
      ∃ frames, framesFrom pcmBuffer (2 * k) = some frames ∧
      (∀ frame ∈ frames, frame.data.length = 480 ∧ frame.samplesPerChannel = 480) ∧
      (frames.map AudioFrame.data).flatten =
        (decode pcmBuffer).drop k ++ List.replicate (padding (pcmBuffer.length - 2 * k)) 0 := by
  have hdecode := length_decode pcmBuffer
  induction rounds with
  | zero =>
    intro k hk
    rw [framesFrom, if_neg (by omega)]
    refine ⟨[], rfl, by simp, ?_⟩
    rw [List.drop_eq_nil_of_le (by omega), show pcmBuffer.length - 2 * k = 0 by omega]
    rfl
  | succ rounds ih =>
    intro k hk
    by_cases hoffset : 2 * k < pcmBuffer.length
    · obtain ⟨frames, hframes, hfull, hflatten⟩ := ih (k + 480) (by omega)
      have hnext : 2 * k + FRAME_BYTES = 2 * (k + 480) := by
        simp only [FRAME_BYTES, FRAME_SIZE, BYTES_PER_SAMPLE]
        omega
      have hread := readSamples_two_mul pcmBuffer k
      unfold chunkSamples at hread
      rw [framesFrom, if_pos hoffset]
      dsimp only
      rw [hread, Option.bind_some, hnext, hframes]
      refine ⟨_, rfl, ?_, ?_⟩
      · intro frame hframe
        rcases List.mem_cons.mp hframe with rfl | hframe
        · refine ⟨?_, rfl⟩
          simp only [List.length_append, List.length_take, List.length_drop,
            List.length_replicate]
          omega
        · exact hfull frame hframe
      · rw [List.map_cons, List.flatten_cons, hflatten]
        dsimp only
        by_cases hlast : pcmBuffer.length ≤ 2 * k + 960
        · -- the last frame: nothing is left behind it, and its zeros are the padding
          have htake : ((decode pcmBuffer).drop k).take 480 = (decode pcmBuffer).drop k :=
            List.take_of_length_le (by rw [List.length_drop]; omega)
          have hdrop : (decode pcmBuffer).drop (k + 480) = [] :=
            List.drop_eq_nil_of_le (by omega)
          have hend : pcmBuffer.length - 2 * (k + 480) = 0 := by omega
          have hzeros : 480 - ((decode pcmBuffer).length - k) =
              padding (pcmBuffer.length - 2 * k) := by
            unfold padding
            split
            · omega
            · omega
          rw [htake, hdrop, hend, hzeros]
          simp [padding]
        · have hzeros : 480 - ((decode pcmBuffer).length - k) = 0 := by omega
          have hsame : padding (pcmBuffer.length - 2 * (k + 480)) =
              padding (pcmBuffer.length - 2 * k) := by
            unfold padding
            rw [show (pcmBuffer.length - 2 * k) % 960 =
              (pcmBuffer.length - 2 * (k + 480)) % 960 by omega]
          rw [hzeros, hsame, List.replicate_zero, List.append_nil, ← List.append_assoc,
            ← List.drop_drop, List.take_append_drop]
    · exact ih k (by omega)

/-! ## The frames of the flows -/

/-- A sample is a signed number of sixteen bits. -/
lemma toInt_sampleOf (low high : UInt8) :
    (sampleOf low high).toInt = VoiceBot.readInt16LE low high := by
  have hlow := low.toNat_lt
  have hhigh := high.toNat_lt
  rw [sampleOf, Int16.toInt_ofNat', VoiceBot.readInt16LE, Int16.size, Int.bmod_eq_emod]
  split <;> split <;> omega

/-- The samples of a chunk are those of its decoding. -/
lemma samples_eq : ∀ bytes : List UInt8, VoiceBot.samples bytes = (decode bytes).map Int16.toInt
  | [] => rfl
  | [low] => rfl
  | low :: high :: rest => by
    rw [VoiceBot.samples, decode, List.map_cons, toInt_sampleOf, samples_eq rest]

/-- An even number of bytes at the front are half as many samples. -/
lemma decode_take : ∀ (bytes : List UInt8) (k : ℕ),
    decode (bytes.take (2 * k)) = (decode bytes).take k
  | [], k => by simp [decode]
  | [low], k => by cases k <;> simp [decode, Nat.mul_add]
  | low :: high :: rest, 0 => by simp [decode]
  | low :: high :: rest, k + 1 => by
    rw [Nat.mul_add, List.take_succ_cons, List.take_succ_cons, decode, decode, decode_take rest k,
      List.take_succ_cons]

/-- Behind an even number of bytes are the samples behind half as many. -/
lemma decode_drop : ∀ (bytes : List UInt8) (k : ℕ),
    decode (bytes.drop (2 * k)) = (decode bytes).drop k
  | [], k => by simp [decode]
  | [low], k => by cases k <;> simp [decode, Nat.mul_add]
  | low :: high :: rest, 0 => by simp
  | low :: high :: rest, k + 1 => by
    rw [Nat.mul_add, List.drop_succ_cons, List.drop_succ_cons, decode, decode_drop rest k,
      List.drop_succ_cons]

/-- The first frame of a buffer, and the others. -/
lemma toFrames_of_ne_nil (bytes : List UInt8) (h : 0 < bytes.length) :
    VoiceBot.toFrames bytes =
      (((decode bytes).take 480 ++ List.replicate (480 - (decode bytes).length) 0).map
        Int16.toInt) :: VoiceBot.toFrames (bytes.drop 960) := by
  have hcount : (bytes.length + 959) / 960 = ((bytes.drop 960).length + 959) / 960 + 1 := by
    rw [List.length_drop]
    omega
  rw [VoiceBot.toFrames, hcount, List.range_succ_eq_map, List.map_cons, List.map_map]
  congr 1
  · have htake : decode (bytes.take 960) = (decode bytes).take 480 := decode_take bytes 480
    dsimp only
    rw [Nat.mul_zero, List.drop_zero, samples_eq, htake, List.map_append, List.length_map,
      List.length_take, List.map_replicate]
    congr 2
    omega
  · rw [VoiceBot.toFrames]
    refine List.map_congr_left fun k _ => ?_
    dsimp only [Function.comp]
    rw [List.drop_drop, show 960 * k.succ = 960 + 960 * k by omega]

/-- The frames from an offset on are those of what is left of the buffer. -/
lemma framesFrom_eq_toFrames (pcmBuffer : List UInt8) (rounds : ℕ) :
    ∀ k, pcmBuffer.length ≤ 2 * k + 960 * rounds →
      ∃ frames, framesFrom pcmBuffer (2 * k) = some frames ∧
        frames.map (fun frame => frame.data.map Int16.toInt) =
          VoiceBot.toFrames (pcmBuffer.drop (2 * k)) := by
  induction rounds with
  | zero =>
    intro k hk
    refine ⟨[], by rw [framesFrom, if_neg (by omega)], ?_⟩
    rw [List.drop_eq_nil_of_le (by omega)]
    rfl
  | succ rounds ih =>
    intro k hk
    by_cases hoffset : 2 * k < pcmBuffer.length
    · obtain ⟨frames, hframes, hmap⟩ := ih (k + 480) (by omega)
      have hnext : 2 * k + FRAME_BYTES = 2 * (k + 480) := by
        simp only [FRAME_BYTES, FRAME_SIZE, BYTES_PER_SAMPLE]
        omega
      have hread := readSamples_two_mul pcmBuffer k
      unfold chunkSamples at hread
      rw [framesFrom, if_pos hoffset]
      dsimp only
      rw [hread, Option.bind_some, hnext, hframes]
      refine ⟨_, rfl, ?_⟩
      have hleft : 0 < (pcmBuffer.drop (2 * k)).length := by
        rw [List.length_drop]
        omega
      rw [List.map_cons, hmap, toFrames_of_ne_nil (pcmBuffer.drop (2 * k)) hleft, decode_drop,
        List.drop_drop, List.length_drop, show 2 * (k + 480) = 2 * k + 960 by omega]
    · exact ih k (by omega)

/-- **The frames are those that the flows send.** -/
theorem prepareFrames_eq_toFrames (pcmBuffer : List UInt8) :
    ∃ frames, prepareFrames pcmBuffer = some frames ∧
      frames.map (fun frame => frame.data.map Int16.toInt) = VoiceBot.toFrames pcmBuffer :=
  framesFrom_eq_toFrames pcmBuffer pcmBuffer.length 0 (by omega)

/-! ## The sending loop -/

/-- The state of a playback. -/
structure Sending where
  /-- `activeRooms.get(roomId)?.shouldInterrupt`. -/
  shouldInterrupt : Option Bool
  frameIndex : ℕ
  /-- The frames that have been given to `captureFrame`. -/
  sent : List AudioFrame
  /-- The delay of the timer that calls `sendFrame`, if one is set. -/
  timer : Option ℤ
  resolved : Bool

/-- The delay until the next frame, corrected for the drift. -/
def nextDelay (frameIndex : ℕ) (actualTime : ℤ) : ℤ :=
  let expectedTime : ℤ := frameIndex * FRAME_DURATION_MS
  max 1 (FRAME_DURATION_MS - (actualTime - expectedTime + FRAME_DURATION_MS))

/-- `sendFrame`. -/
def sendFrame (frames : List AudioFrame) (startTime now : ℤ) (s : Sending) : Sending :=
  let s := { s with timer := none }
  if s.shouldInterrupt = some true then
    { s with shouldInterrupt := some false, resolved := true }
  else
    match frames[s.frameIndex]? with
    | none => { s with resolved := true }
    | some frame =>
      let s := { s with sent := s.sent ++ [frame], frameIndex := s.frameIndex + 1 }
      if s.frameIndex < frames.length then
        { s with timer := some (nextDelay s.frameIndex (now - startTime)) }
      else { s with resolved := true }

/-- What happens during a playback. -/
inductive Event where
  /-- The timer calls `sendFrame`. -/
  | timer (now : ℤ)
  /-- The flag of the room changes, or the room comes or goes. -/
  | changed (shouldInterrupt : Option Bool)
  deriving DecidableEq

/-- A playback as an event system; the first frame is sent at once. -/
def playback (frames : List AudioFrame) (startTime : ℤ) (shouldInterrupt : Option Bool) :
    EventSystem Sending Event where
  init := sendFrame frames startTime startTime ⟨shouldInterrupt, 0, [], none, false⟩
  step s e :=
    match e with
    | .timer now => if s.timer.isSome then some (sendFrame frames startTime now s) else none
    | .changed shouldInterrupt => some { s with shouldInterrupt := shouldInterrupt }

/-- The flag is never set during a playback. -/
def NeverSet (shouldInterrupt : Option Bool) (es : List Event) : Prop :=
  shouldInterrupt ≠ some true ∧ .changed (some true) ∉ es

/-- How often the timer has called `sendFrame`. -/
def timerCalls : List Event → ℕ
  | [] => 0
  | .timer _ :: es => timerCalls es + 1
  | .changed _ :: es => timerCalls es

/-- What has been sent is a beginning of the frames, and a timer is set until the playback ends. -/
structure Progress (frames : List AudioFrame) (s : Sending) : Prop where
  sent : s.sent = frames.take s.frameIndex
  within : s.frameIndex ≤ frames.length
  timer : s.timer.isSome = true ↔ s.resolved = false
  more : s.timer.isSome = true → s.frameIndex < frames.length

/-- An uninterrupted playback has sent one frame for every call, and ends with the last frame. -/
structure Uninterrupted (frames : List AudioFrame) (calls : ℕ) (s : Sending) : Prop where
  flag : s.shouldInterrupt ≠ some true
  ended : s.resolved = true → s.frameIndex = frames.length
  running : s.resolved = false → s.frameIndex = calls

/-! ## Steps -/

/-- What one call of `sendFrame` does. -/
inductive Sends (frames : List AudioFrame) (s : Sending) : Sending → Prop where
  | interrupted (hflag : s.shouldInterrupt = some true) :
      Sends frames s { s with timer := none, shouldInterrupt := some false, resolved := true }
  /-- There are no frames. -/
  | exhausted (hflag : s.shouldInterrupt ≠ some true) (hnone : frames.length ≤ s.frameIndex) :
      Sends frames s { s with timer := none, resolved := true }
  /-- A frame is sent, and there are more. -/
  | continues (hflag : s.shouldInterrupt ≠ some true) (frame : AudioFrame)
      (hframe : frames[s.frameIndex]? = some frame) (hmore : s.frameIndex + 1 < frames.length)
      (delay : ℤ) :
      Sends frames s
        { s with
          sent := s.sent ++ [frame], frameIndex := s.frameIndex + 1, timer := some delay }
  /-- The last frame is sent. -/
  | ends (hflag : s.shouldInterrupt ≠ some true) (frame : AudioFrame)
      (hframe : frames[s.frameIndex]? = some frame) (hlast : s.frameIndex + 1 = frames.length) :
      Sends frames s
        { s with
          sent := s.sent ++ [frame], frameIndex := s.frameIndex + 1, timer := none,
          resolved := true }

section Steps

variable {frames : List AudioFrame} {startTime : ℤ} {s s' : Sending} {e : Event}

/-- **Calls of `sendFrame`.** -/
lemma sends_sendFrame (frames : List AudioFrame) (startTime now : ℤ) (s : Sending) :
    Sends frames s (sendFrame frames startTime now s) := by
  unfold sendFrame
  dsimp only
  split
  · rename_i hflag
    exact .interrupted hflag
  · rename_i hflag
    split
    · rename_i hnone
      exact .exhausted hflag (List.getElem?_eq_none_iff.mp hnone)
    · rename_i frame hframe
      obtain ⟨hlt, -⟩ := List.getElem?_eq_some_iff.mp hframe
      split
      · rename_i hmore
        exact .continues hflag frame hframe hmore _
      · rename_i hlast
        exact .ends hflag frame hframe (by omega)

/-- One more frame of a beginning. -/
lemma take_succ_of_getElem? {n : ℕ} {frame : AudioFrame} (h : frames[n]? = some frame) :
    frames.take (n + 1) = frames.take n ++ [frame] := by
  rw [List.take_add_one, h]
  rfl

/-- A call that sends the next frame keeps what has been sent a beginning of the frames. -/
lemma Progress.sends (hsent : s.sent = frames.take s.frameIndex)
    (hwithin : s.frameIndex ≤ frames.length) (hrunning : s.resolved = false)
    (h : Sends frames s s') : Progress frames s' := by
  cases h with
  | interrupted hflag => exact ⟨hsent, hwithin, by simp, by simp⟩
  | exhausted hflag hnone => exact ⟨hsent, hwithin, by simp, by simp⟩
  | continues hflag frame hframe hmore delay =>
    refine ⟨?_, Nat.le_of_lt hmore, by simp [hrunning], fun _ => hmore⟩
    dsimp only
    rw [hsent, take_succ_of_getElem? hframe]
  | ends hflag frame hframe hlast =>
    refine ⟨?_, Nat.le_of_eq hlast, by simp, by simp⟩
    dsimp only
    rw [hsent, take_succ_of_getElem? hframe]

/-- **Progress** is kept by every step. -/
lemma progress_step {flag : Option Bool} (h : Progress frames s)
    (hstep : (playback frames startTime flag).step s e = some s') : Progress frames s' := by
  cases e with
  | timer now =>
    simp only [playback, Option.ite_none_right_eq_some, Option.some.injEq] at hstep
    obtain ⟨htimer, rfl⟩ := hstep
    exact .sends h.sent h.within (h.timer.mp htimer) (sends_sendFrame frames startTime now s)
  | changed shouldInterrupt =>
    obtain rfl := Option.some.inj hstep
    exact ⟨h.sent, h.within, h.timer, h.more⟩

/-- The first frame is sent at once. -/
lemma progress_init (frames : List AudioFrame) (startTime : ℤ) (flag : Option Bool) :
    Progress frames (playback frames startTime flag).init :=
  .sends rfl (Nat.zero_le _) rfl (sends_sendFrame frames startTime startTime _)

/-- A call that is not interrupted sends the next frame, or the playback ends. -/
lemma Uninterrupted.sends {calls : ℕ} (hflag : s.shouldInterrupt ≠ some true)
    (hcalls : s.frameIndex = calls) (hrunning : s.resolved = false)
    (hwithin : s.frameIndex ≤ frames.length) (h : Sends frames s s') :
    Uninterrupted frames (calls + 1) s' := by
  cases h with
  | interrupted hset => exact absurd hset hflag
  | exhausted _ hnone =>
    exact ⟨hflag, fun _ => Nat.le_antisymm hwithin hnone, fun hrun => by cases hrun⟩
  | continues _ frame hframe hmore delay =>
    refine ⟨hflag, fun hend => ?_, fun _ => by rw [← hcalls]⟩
    rw [hrunning] at hend
    cases hend
  | ends _ frame hframe hlast => exact ⟨hflag, fun _ => hlast, fun hrun => by cases hrun⟩

/-- A run in which the flag is never set is not interrupted.

**Proof sketch.** Induction on the run. A call of the timer finds the playback running and the flag
not set, and so sends the next frame; other events leave the frames alone. -/
lemma uninterrupted_exec {flag : Option Bool} : ∀ {es : List Event} {s t : Sending} {calls : ℕ},
    Progress frames s → Uninterrupted frames calls s →
    (playback frames startTime flag).exec s es = some t → .changed (some true) ∉ es →
    Uninterrupted frames (calls + timerCalls es) t
  | [], _, _, _, _, h, hr, _ => Option.some.inj hr ▸ h
  | e :: es, s, t, calls, hp, h, hr, hnever => by
    obtain ⟨s', hstep, hr'⟩ := EventSystem.exec_cons.mp hr
    have hp' := progress_step hp hstep
    rw [List.mem_cons, not_or] at hnever
    obtain ⟨hne, hrest⟩ := hnever
    cases e with
    | timer now =>
      simp only [playback, Option.ite_none_right_eq_some, Option.some.injEq] at hstep
      obtain ⟨htimer, rfl⟩ := hstep
      have hrunning := hp.timer.mp htimer
      have hnext := Uninterrupted.sends h.flag (h.running hrunning) hrunning hp.within
        (sends_sendFrame frames startTime now s)
      have hend := uninterrupted_exec hp' hnext hr' hrest
      rw [timerCalls, show calls + (timerCalls es + 1) = calls + 1 + timerCalls es by omega]
      exact hend
    | changed shouldInterrupt =>
      obtain rfl := Option.some.inj hstep
      have hflag : shouldInterrupt ≠ some true := by
        rintro rfl
        exact hne rfl
      have hend := uninterrupted_exec hp' ⟨hflag, h.ended, h.running⟩ hr' hrest
      exact hend

end Steps

/-- The padding fills the last frame. -/
lemma padding_spec (pcmBuffer : List UInt8) :
    480 ∣ (decode pcmBuffer).length + padding pcmBuffer.length ∧
      if pcmBuffer.length % 960 = 1 then padding pcmBuffer.length = 480
      else padding pcmBuffer.length < 480 := by
  have hdecode := length_decode pcmBuffer
  unfold padding
  by_cases hzero : pcmBuffer.length % 960 = 0
  · rw [if_pos hzero, if_neg (by omega)]
    omega
  · rw [if_neg hzero]
    refine ⟨by omega, ?_⟩
    split
    · omega
    · omega

/-- **Nothing is lost.** For every buffer, no read is out of bounds, every frame is full, and the
frames together are the decoding of the buffer and zeros up to the next multiple of 480: less than a
frame of them, or a whole one if the length is 1 modulo 960. In every playback, what has been sent
is a beginning of the frames. If the flag is never set, it is all of them when the playback ends,
and until then a timer is set and one frame has been sent at once and one by every timer. -/
theorem publishAudio_lossless (pcmBuffer : List UInt8) :
    ∃ frames, prepareFrames pcmBuffer = some frames ∧
      (∀ frame ∈ frames, frame.data.length = 480 ∧ frame.samplesPerChannel = 480) ∧
      (∃ zeros, (frames.map AudioFrame.data).flatten =
          decode pcmBuffer ++ List.replicate zeros 0 ∧
        480 ∣ (decode pcmBuffer).length + zeros ∧
        if pcmBuffer.length % 960 = 1 then zeros = 480 else zeros < 480) ∧
      ∀ startTime shouldInterrupt es s,
        (playback frames startTime shouldInterrupt).exec
          (playback frames startTime shouldInterrupt).init es = some s →
        s.sent <+: frames ∧
          (NeverSet shouldInterrupt es →
            (s.resolved = true → s.sent = frames) ∧
            (s.resolved = false → s.timer.isSome = true ∧ s.sent.length = 1 + timerCalls es)) := by
  obtain ⟨frames, hframes, hfull, hflatten⟩ :=
    framesFrom_spec pcmBuffer pcmBuffer.length 0 (by omega)
  obtain ⟨hdvd, hzeros⟩ := padding_spec pcmBuffer
  refine ⟨frames, hframes, hfull, ⟨padding pcmBuffer.length, hflatten, hdvd, hzeros⟩, ?_⟩
  intro startTime shouldInterrupt es s hr
  have hp : Progress frames s :=
    EventSystem.reachable_invariant (progress_init frames startTime shouldInterrupt)
      (fun _ _ _ h => progress_step h) ⟨es, hr⟩
  refine ⟨hp.sent ▸ List.take_prefix _ _, ?_⟩
  rintro ⟨hflag, hnever⟩
  have hfirst : Uninterrupted frames (0 + 1) (playback frames startTime shouldInterrupt).init :=
    .sends hflag rfl rfl (Nat.zero_le _) (sends_sendFrame frames startTime startTime _)
  have hend := uninterrupted_exec (progress_init frames startTime shouldInterrupt) hfirst hr hnever
  refine ⟨fun hresolved => ?_, fun hrunning => ⟨hp.timer.mpr hrunning, ?_⟩⟩
  · rw [hp.sent, hend.ended hresolved, List.take_length]
  · rw [hp.sent, List.length_take, Nat.min_eq_left hp.within, hend.running hrunning]

/-- How many frames there are. -/
lemma length_prepareFrames {pcmBuffer : List UInt8} {frames : List AudioFrame}
    (h : prepareFrames pcmBuffer = some frames) :
    480 * frames.length = pcmBuffer.length / 2 + padding pcmBuffer.length := by
  have hlength : ∀ {frames : List AudioFrame},
      (∀ frame ∈ frames, frame.data.length = 480 ∧ frame.samplesPerChannel = 480) →
      (frames.map AudioFrame.data).flatten.length = 480 * frames.length := by
    intro frames hfull
    induction frames with
    | nil => rfl
    | cons frame frames ih =>
      rw [List.map_cons, List.flatten_cons, List.length_append, (hfull frame List.mem_cons_self).1,
        ih fun f hf => hfull f (List.mem_cons_of_mem frame hf), List.length_cons]
      omega
  obtain ⟨frames', hframes, hfull, hflatten⟩ :=
    framesFrom_spec pcmBuffer pcmBuffer.length 0 (by omega)
  obtain rfl : frames' = frames := Option.some.inj (hframes.symm.trans h)
  rw [← hlength hfull, hflatten, List.length_append, List.length_replicate, List.drop_zero,
    length_decode]
  rfl

/-- A buffer of 961 bytes, the last one odd. -/
def oddBuffer : List UInt8 := List.replicate 960 1 ++ [7]

/-- The length of the buffer. -/
lemma length_oddBuffer : oddBuffer.length = 961 := by
  rw [oddBuffer, List.length_append, List.length_replicate, List.length_singleton]

/-- The second frame of the odd buffer has no samples, and is sent by the timer. -/
theorem publishAudio_lossless_odd :
    ∃ frames s, prepareFrames oddBuffer = some frames ∧ frames.length = 2 ∧
      (playback frames 0 (some false)).exec (playback frames 0 (some false)).init
        [.timer 31] = some s ∧ s.sent = frames := by
  obtain ⟨frames, hframes, -, -, hplay⟩ := publishAudio_lossless oddBuffer
  have htwo : frames.length = 2 := by
    have hcount := length_prepareFrames hframes
    rw [length_oddBuffer] at hcount
    have hpadding : padding 961 = 480 := by decide
    omega
  obtain ⟨first, second, rfl⟩ := List.length_eq_two.mp htwo
  refine ⟨_, _, hframes, rfl, rfl, ?_⟩
  exact ((hplay 0 (some false) [.timer 31] _ rfl).2 ⟨by decide, by decide⟩).1 rfl

end Playback
