import AuraLive.VoiceBot.AudioTrack

set_option relaxedAutoImplicit false
set_option autoImplicit false

/-!
# The order of the frames of a segment

`handleAudioTrack` pours the pre-buffer into the audio buffer when recording starts. A voice frame
that comes before that goes to the audio buffer at once, so the frames of the pre-buffer that
arrived before it end up behind it.

## Main definitions

* `AudioTrack.InOrder` — the frames of every segment that was handed over are in the order of their
  arrival.
* `AudioTrack.PoursInOrder` — what the start of recording must find.

## Main results

* `AudioTrack.frames_in_order` — no frame is handed over twice, and the frames are in order in every
  run in which recording always starts as it must.
* `AudioTrack.frames_reordered` — one frame of silence before a word is put behind its first frame.
-/

namespace AudioTrack

open Foundations VoiceBot

/-- The frames of every segment are in the order of their arrival. -/
def InOrder (s : Listener) : Prop :=
  ∀ segment ∈ s.segments, segment.frames.Pairwise fun a b => a.arrival < b.arrival

/-- No frame is handed over twice, in one segment or in two. -/
def Once (s : Listener) : Prop :=
  (s.segments.flatMap fun segment => segment.frames.map (·.arrival)).Nodup

/-- If a frame starts recording, all frames in the pre-buffer arrived after those that are in the
audio buffer already. -/
def PoursInOrder (calibrationStartTime : ℕ) (s : Listener) : Event → Prop
  | .frame _ (.voice _ _) _ now =>
    s.hears calibrationStartTime now = true → s.loop.starts = true →
      ∀ a ∈ s.loop.audioBuffer, ∀ p ∈ s.loop.preBuffer, a.arrival < p.arrival
  | _ => True

/-! ## No frame twice -/

/-- How often a frame is in some frames. -/
def times (n : ℕ) (frames : List Frame) : ℕ := frames.countP (·.arrival = n)

@[simp] lemma times_append (n : ℕ) (frames frames' : List Frame) :
    times n (frames ++ frames') = times n frames + times n frames' := List.countP_append

@[simp] lemma times_nil (n : ℕ) : times n [] = 0 := rfl

/-- A frame is in the buffers once more after it has arrived, at most. -/
lemma times_record (n : ℕ) (l : Loop) (frame : Frame) (sound : Sound) (now : ℕ) :
    times n (l.record frame sound now).audioBuffer + times n (l.record frame sound now).preBuffer ≤
      times n l.audioBuffer + times n l.preBuffer + times n [frame] := by
  have hkeep : times n (l.keep frame).preBuffer ≤ times n l.preBuffer + times n [frame] := by
    rw [← times_append]
    unfold Loop.keep
    dsimp only
    split
    · exact (List.drop_sublist 1 _).countP_le
    · exact le_refl _
  have haudio : (l.keep frame).audioBuffer = l.audioBuffer := rfl
  cases sound with
  | voice strong loud =>
    unfold Loop.record
    dsimp only
    split
    · simp only [Loop.start, times_append, times_nil]
      omega
    · simp only [times_append]
      omega
  | weak =>
    unfold Loop.record
    dsimp only
    split
    · simp only [times_append]
      omega
    · simp only [haudio]
      omega
  | silent =>
    unfold Loop.record
    dsimp only
    split
    · omega
    · simp only [haudio]
      omega

/-- How often a frame is in the buffers and in the segments. -/
def Listener.times (s : Listener) (n : ℕ) : ℕ :=
  AudioTrack.times n (s.segments.flatMap (·.frames)) + AudioTrack.times n s.loop.audioBuffer +
    AudioTrack.times n s.loop.preBuffer

/-- Every frame that has arrived is there once at most, and no other one is. -/
def Distinct (s : Listener) : Prop := ∀ n, s.times n ≤ if n < s.arrived then 1 else 0

section Steps

variable {userId : String} {calibrationStartTime : ℕ} {context : Option Context}
  {s s' : Listener} {e : Event}

/-- **No frame is there twice** after a step.

**Proof sketch.** A frame that arrives is new, and every other one is moved or dropped. -/
lemma distinct_step (h : Distinct s)
    (hstep : (audioTrack userId calibrationStartTime context).step s e = some s') :
    Distinct s' := by
  intro n
  have hn := h n
  have hrecord : ∀ (data : List UInt8) (sound : Sound) (now : ℕ),
      times n (s.recorded data sound now).audioBuffer +
        times n (s.recorded data sound now).preBuffer ≤
      times n s.loop.audioBuffer + times n s.loop.preBuffer + if s.arrived = n then 1 else 0 := by
    intro data sound now
    have hnew : times n [⟨s.arrived, data⟩] = if s.arrived = n then 1 else 0 := by
      simp [times, List.countP_cons]
    rw [← hnew]
    exact times_record n { s.loop with isCalibrating := false } _ sound now
  unfold Listener.times at hn ⊢
  cases hears_of_step hstep with
  | skips e s' calibrating hloop hsegments harrived =>
    rw [hloop, hsegments]
    dsimp only
    split_ifs at hn ⊢ <;> omega
  | records data sound loud now s' hhears hgoes hloop hsegments harrived =>
    have hr := hrecord data sound now
    rw [hloop, hsegments, harrived]
    split_ifs at hn hr ⊢ <;> omega
  | ends data sound loud now s' hhears hends hloop hsegments harrived =>
    have hr := hrecord data sound now
    have hloop' : times n s'.loop.audioBuffer + times n s'.loop.preBuffer = 0 := by
      rw [hloop]
      rfl
    have hsegments' : times n (s'.segments.flatMap (·.frames)) ≤
        times n (s.segments.flatMap (·.frames)) +
          times n (s.recorded data sound now).audioBuffer := by
      rcases hsegments with hsame | ⟨startTime, hnew⟩
      · rw [hsame]
        exact Nat.le_add_right _ _
      · rw [hnew, List.flatMap_cons, times_append]
        exact (Nat.add_comm _ _).le
    rw [harrived]
    split_ifs at hn hr ⊢ <;> omega

/-- A frame that is in a buffer has arrived. -/
lemma Distinct.lt_arrived (h : Distinct s) {frame : Frame}
    (hmem : frame ∈ s.loop.audioBuffer ++ s.loop.preBuffer) : frame.arrival < s.arrived := by
  have hpos : 0 < times frame.arrival (s.loop.audioBuffer ++ s.loop.preBuffer) :=
    List.countP_pos_iff.mpr ⟨frame, hmem, by simp⟩
  have hn := h frame.arrival
  rw [times_append] at hpos
  unfold Listener.times at hn
  split_ifs at hn with hlt
  · exact hlt
  · omega

/-- If no frame is there twice, none has been handed over twice. -/
lemma Distinct.once (h : Distinct s) : Once s := by
  unfold Once
  rw [List.nodup_iff_count_le_one]
  intro n
  have hcount : (s.segments.flatMap fun segment => segment.frames.map (·.arrival)).count n =
      times n (s.segments.flatMap (·.frames)) := by
    rw [← List.map_flatMap, List.count, List.countP_map]
    rfl
  have hn := h n
  unfold Listener.times at hn
  split_ifs at hn <;> omega

/-! ## Order -/

/-- The buffers and the segments are in order, and recording has emptied the pre-buffer. -/
structure Ordered (s : Listener) : Prop where
  distinct : Distinct s
  audioBuffer : s.loop.audioBuffer.Pairwise fun a b => a.arrival < b.arrival
  preBuffer : s.loop.preBuffer.Pairwise fun a b => a.arrival < b.arrival
  segments : InOrder s

/-- A frame that has just arrived goes behind those of a buffer. -/
lemma pairwise_concat {frames : List Frame} {n : ℕ} {data : List UInt8}
    (h : frames.Pairwise fun a b => a.arrival < b.arrival)
    (hlt : ∀ frame ∈ frames, frame.arrival < n) :
    (frames ++ [(⟨n, data⟩ : Frame)]).Pairwise fun a b => a.arrival < b.arrival := by
  refine List.pairwise_append.mpr ⟨h, List.pairwise_singleton _ _, ?_⟩
  intro a ha b hb
  obtain rfl := List.mem_singleton.mp hb
  exact hlt a ha

/-- The pre-buffer is in order after a frame has been kept. -/
lemma pairwise_keep {l : Loop} {n : ℕ} {data : List UInt8}
    (h : l.preBuffer.Pairwise fun a b => a.arrival < b.arrival)
    (hlt : ∀ frame ∈ l.preBuffer, frame.arrival < n) :
    (l.keep ⟨n, data⟩).preBuffer.Pairwise fun a b => a.arrival < b.arrival := by
  unfold Loop.keep
  dsimp only
  split
  · exact (pairwise_concat h hlt).sublist (List.drop_sublist 1 _)
  · exact pairwise_concat h hlt

/-- The buffers are in order after a frame has been put into one of them. -/
lemma Ordered.recorded (h : Ordered s) {data : List UInt8} {sound : Sound} {loud : Bool} {now : ℕ}
    (hhears : s.hears calibrationStartTime now = true)
    (hpours : PoursInOrder calibrationStartTime s (.frame data sound loud now)) :
    (s.recorded data sound now).audioBuffer.Pairwise (fun a b => a.arrival < b.arrival) ∧
      (s.recorded data sound now).preBuffer.Pairwise fun a b => a.arrival < b.arrival := by
  have haudio : ∀ frame ∈ s.loop.audioBuffer, frame.arrival < s.arrived := fun frame hmem =>
    h.distinct.lt_arrived (List.mem_append_left _ hmem)
  have hpre : ∀ frame ∈ s.loop.preBuffer, frame.arrival < s.arrived := fun frame hmem =>
    h.distinct.lt_arrived (List.mem_append_right _ hmem)
  cases sound with
  | voice strong loud' =>
    unfold Listener.recorded Loop.record
    dsimp only
    split
    · rename_i hstarts
      refine ⟨pairwise_concat ?_ ?_, List.Pairwise.nil⟩
      · exact List.pairwise_append.mpr ⟨h.audioBuffer, h.preBuffer, hpours hhears hstarts⟩
      · intro frame hmem
        rcases List.mem_append.mp hmem with hmem | hmem
        · exact haudio frame hmem
        · exact hpre frame hmem
    · exact ⟨pairwise_concat h.audioBuffer haudio, h.preBuffer⟩
  | weak =>
    unfold Listener.recorded Loop.record
    dsimp only
    split
    · exact ⟨pairwise_concat h.audioBuffer haudio, h.preBuffer⟩
    · exact ⟨h.audioBuffer, pairwise_keep h.preBuffer hpre⟩
  | silent =>
    unfold Listener.recorded Loop.record
    dsimp only
    split
    · exact ⟨h.audioBuffer, h.preBuffer⟩
    · exact ⟨h.audioBuffer, pairwise_keep h.preBuffer hpre⟩

/-- **The order is kept** by a step, if recording starts as it must. -/
lemma ordered_step (h : Ordered s) (hpours : PoursInOrder calibrationStartTime s e)
    (hstep : (audioTrack userId calibrationStartTime context).step s e = some s') :
    Ordered s' := by
  have hdistinct := distinct_step h.distinct hstep
  cases hears_of_step hstep with
  | skips e s' calibrating hloop hsegments harrived =>
    refine ⟨hdistinct, ?_, ?_, fun segment hmem => h.segments segment (hsegments ▸ hmem)⟩
    · rw [hloop]
      exact h.audioBuffer
    · rw [hloop]
      exact h.preBuffer
  | records data sound loud now s' hhears hgoes hloop hsegments harrived =>
    obtain ⟨haudio, hpre⟩ := h.recorded hhears hpours
    exact ⟨hdistinct, hloop ▸ haudio, hloop ▸ hpre,
      fun segment hmem => h.segments segment (hsegments ▸ hmem)⟩
  | ends data sound loud now s' hhears hends hloop hsegments harrived =>
    obtain ⟨haudio, -⟩ := h.recorded hhears hpours
    refine ⟨hdistinct, ?_, ?_, fun segment hmem => ?_⟩
    · rw [hloop]
      exact List.Pairwise.nil
    · rw [hloop]
      exact List.Pairwise.nil
    · rcases hsegments with hsame | ⟨startTime, hnew⟩
      · exact h.segments segment (hsame ▸ hmem)
      · rw [hnew] at hmem
        rcases List.mem_cons.mp hmem with rfl | hmem
        · exact haudio
        · exact h.segments segment hmem

end Steps

/-- No frame is there at the start. -/
lemma ordered_init (userId : String) (calibrationStartTime : ℕ) (context : Option Context) :
    Ordered (audioTrack userId calibrationStartTime context).init :=
  ⟨fun _ => Nat.zero_le _, List.Pairwise.nil, List.Pairwise.nil, fun _ hmem => by cases hmem⟩

/-- **The order of the frames.** In every run no frame is handed over twice, in one segment or in
two. If no frame in the pre-buffer arrived before one that is in the audio buffer whenever recording
starts, then the frames of every segment are in the order of their arrival. -/
theorem frames_in_order (userId : String) (calibrationStartTime : ℕ) (context : Option Context)
    (es : List Event) :
    (audioTrack userId calibrationStartTime context).AllStates Once
      (audioTrack userId calibrationStartTime context).init es ∧
    ((audioTrack userId calibrationStartTime context).AllSteps (PoursInOrder calibrationStartTime)
        (audioTrack userId calibrationStartTime context).init es →
      (audioTrack userId calibrationStartTime context).AllStates InOrder
        (audioTrack userId calibrationStartTime context).init es) := by
  have hinit := ordered_init userId calibrationStartTime context
  constructor
  · exact EventSystem.allStates_of_invariant (C := fun _ _ => True)
      (fun s e s' h _ hstep => distinct_step h hstep) (fun s h => h.once) hinit.distinct
      (EventSystem.allSteps_true _ _)
  · exact EventSystem.allStates_of_invariant
      (fun s e s' h hpours hstep => ordered_step h hpours hstep) (fun s h => h.segments) hinit

instance decidablePoursInOrder (calibrationStartTime : ℕ) (s : Listener) (e : Event) :
    Decidable (PoursInOrder calibrationStartTime s e) :=
  match e with
  | .frame _ (.voice _ _) _ now => inferInstanceAs (Decidable
      (s.hears calibrationStartTime now = true → s.loop.starts = true →
        ∀ a ∈ s.loop.audioBuffer, ∀ p ∈ s.loop.preBuffer, a.arrival < p.arrival))
  | .frame _ .weak _ _ => inferInstanceAs (Decidable True)
  | .frame _ .silent _ _ => inferInstanceAs (Decidable True)
  | .contextChanged _ => inferInstanceAs (Decidable True)

/-- A voice that is weak for a moment before recording starts. -/
def hesitation : List Event :=
  [.frame (bytes 9000) (.voice true false) true 3000, .frame [1] .weak true 3010,
    .frame (bytes 9000) (.voice true false) true 3020] ++
    List.replicate 51 (.frame [] .silent true 3030)

/-- The frames of the hesitating voice are handed over in order. -/
theorem frames_in_order_hesitation :
    ((audioTrack "u" 0 (some {})).exec (audioTrack "u" 0 (some {})).init hesitation).map
      (fun s => s.segments.map fun segment => segment.frames.map (·.arrival)) =
        some [[0, 1, 2]] ∧
    (audioTrack "u" 0 (some {})).AllStates InOrder (audioTrack "u" 0 (some {})).init hesitation :=
  ⟨by decide +kernel, (frames_in_order "u" 0 (some {}) hesitation).2 (by decide +kernel)⟩

/-- A frame of silence, two voice frames, and silence. -/
def word : List Event :=
  [.frame [1] .silent true 3000, .frame (bytes 9000) (.voice true false) true 3010,
    .frame (bytes 9000) (.voice true false) true 3020] ++
    List.replicate 51 (.frame [] .silent true 3030)

/-- **A frame out of order.** The frame of silence that came first is handed over behind the first
voice frame. -/
theorem frames_reordered :
    ¬ (audioTrack "u" 0 (some {})).AllStates InOrder (audioTrack "u" 0 (some {})).init word := by
  intro h
  obtain ⟨s, hs, harrivals⟩ := Option.map_eq_some_iff.mp (show
    ((audioTrack "u" 0 (some {})).exec (audioTrack "u" 0 (some {})).init word).map
      (fun s => s.segments.map fun segment => segment.frames.map (·.arrival)) =
        some [[1, 0, 2]] by decide +kernel)
  obtain ⟨segment, hsegment⟩ : ∃ segment, segment ∈ s.segments ∧
      segment.frames.map (·.arrival) = [1, 0, 2] := by
    have hmem : [1, 0, 2] ∈ s.segments.map fun segment => segment.frames.map (·.arrival) := by
      rw [harrivals]
      exact List.mem_singleton_self _
    exact List.mem_map.mp hmem
  have hsorted := List.pairwise_map.mpr (h.last hs segment hsegment.1)
  rw [hsegment.2] at hsorted
  exact absurd hsorted (by decide)

end AudioTrack
