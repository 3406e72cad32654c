import AuraLive.Foundations.EventSystem
import AuraLive.Foundations.JsMap
import AuraLive.VoiceBot.State
import Mathlib.Algebra.Order.Ring.Rat
import Mathlib.Data.List.Sort

set_option relaxedAutoImplicit false
set_option autoImplicit false

/-!
# The Clova adapter

`transcribe` of `stt/clova-stt.adapter.ts`. The recogniser is sent a configuration, and the audio in
chunks once it has answered that; it sends texts, each with a position, of which a later one for the
same position replaces the one before.

## Main definitions

* `Clova.buildConfigMessage`, `Clova.sendAudioData` — the messages to the recogniser.
* `Clova.Response` — what is parsed from a response.
* `Clova.Call`, `Clova.transcribe` — the variables of a call, and the call as an event system.
* `Clova.textsAt` — the texts of a run for a position.

## Main results

* `Clova.sendFrom_spec` — the messages from an offset on.
* `Clova.audio_framing` — the audio is sent once and whole, and only its last message has the flag.
* `Clova.transcriptMap_get` — a position has the last one of its texts.
* `Clova.transcribe_order_independent` — the transcript does not depend on how the texts of
  different positions interleave.

## Design

A response that has no contents, that cannot be parsed or in which a property is read that is not
there changes nothing and is `none`. A position is a number, as the type of the map has it. Messages
are kept in the order of the calls of `write`; what `call.end` then does with the stream is a matter
of the gRPC library.
-/

namespace Clova

open Foundations VoiceBot

/-! ## Messages to the recogniser -/

/-- `ClovaSttConfig`. -/
structure ClovaSttConfig where
  language : Option String := none
  keywordBoosting : Option (List String) := none

/-- The keywords of the configuration, joined, with their weight. -/
structure Boosting where
  words : String
  weight : ℕ
  deriving DecidableEq

/-- The object whose JSON text is sent with a chunk; a property that is `none` is not there. -/
structure ExtraContents where
  epFlag : Option Bool
  seqId : ℕ
  deriving DecidableEq

/-- A message: the configuration (`type: 0`) or audio (`type: 1`). -/
inductive Message where
  | config (language : String) (boosting : Option Boosting)
  | data (chunk : List UInt8) (extraContents : ExtraContents)
  deriving DecidableEq

/-- `buildConfigMessage`. -/
def buildConfigMessage (config : ClovaSttConfig) : Message :=
  let language := config.language.getD ""
  let keywords := config.keywordBoosting.getD []
  .config (if language = "" then "ko" else language)
    (if keywords = [] then none else some ⟨",".intercalate keywords, 2⟩)

/-- `CHUNK_SIZE`. -/
def CHUNK_SIZE : ℕ := 32000

/-- The loop of `sendAudioData`, from an offset on. -/
def sendFrom (audioBuffer : List UInt8) (offset chunkCount : ℕ) : List Message :=
  if offset < audioBuffer.length then
    let chunk := (audioBuffer.drop offset).take CHUNK_SIZE
    let isLastChunk : Bool := audioBuffer.length ≤ offset + CHUNK_SIZE
    .data chunk ⟨if isLastChunk then some true else none, chunkCount + 1⟩ ::
      sendFrom audioBuffer (offset + CHUNK_SIZE) (chunkCount + 1)
  else []
termination_by audioBuffer.length - offset
decreasing_by simp only [CHUNK_SIZE]; omega

/-- `sendAudioData`. -/
def sendAudioData (audioBuffer : List UInt8) : List Message := sendFrom audioBuffer 0 0

/-! ## Responses -/

/-- The property `transcription` of a response. -/
structure Transcription where
  text : Option String := none
  position : Option ℚ := none
  /-- `t.epFlag === true`. -/
  epFlag : Bool := false
  deriving DecidableEq

/-- What a response is parsed to. -/
structure Parsed where
  responseType : List String := []
  /-- `parsed.config?.status`. -/
  configStatus : Option String := none
  transcription : Option Transcription := none
  deriving DecidableEq

/-- A response, if it can be read. -/
abbrev Response := Option Parsed

/-- The response answers the configuration. -/
def Response.isConfig (response : Response) : Bool :=
  response.any fun parsed => "config" ∈ parsed.responseType

/-- The transcription of a response that does not answer the configuration. -/
def Response.transcription (response : Response) : Option Transcription :=
  response.bind fun parsed =>
    if "config" ∈ parsed.responseType then none
    else if "transcription" ∈ parsed.responseType then parsed.transcription
    else none

/-- The text of a transcription with its position, if it is not empty. -/
def Transcription.entry (t : Transcription) : Option (ℚ × String) :=
  match t.text with
  | none => none
  | some text => if text = "" then none else some (t.position.getD 0, text)

/-- The text of a response with its position. -/
def Response.entry (response : Response) : Option (ℚ × String) :=
  response.transcription.bind Transcription.entry

/-! ## The call -/

/-- The variables of a call. -/
structure Call where
  transcriptMap : JsMap ℚ String
  /-- The messages that have been written. -/
  written : List Message
  /-- How often `call.end` has been called. -/
  ends : ℕ
  /-- Whether the timeout is set. -/
  timeout : Bool
  /-- How the promise has been settled. -/
  outcome : Option (Except String String)

/-- What happens to a call. -/
inductive Event where
  | data (response : Response)
  | error (message : String)
  | timeout
  | finish

/-- The texts in the order of their positions. -/
def assemble (transcriptMap : JsMap ℚ String) : String :=
  let sortedPositions := transcriptMap.keys.insertionSort (· ≤ ·)
  jsTrim (String.join (sortedPositions.map fun pos => (transcriptMap.get pos).getD ""))

namespace Call

variable (c : Call)

/-- The handler of responses. -/
def receive (audioBuffer : List UInt8) (response : Response) : Call :=
  if response.isConfig then
    -- also if the status is not `Success`, which is only logged
    { c with written := c.written ++ sendAudioData audioBuffer }
  else
    match response.transcription with
    | none => c
    | some t =>
      { c with
        transcriptMap := t.entry.elim c.transcriptMap fun e => c.transcriptMap.set e.1 e.2
        ends := if t.epFlag then c.ends + 1 else c.ends }

/-- The promise is settled, unless it has been. -/
def settle (outcome : Except String String) : Call :=
  { c with outcome := c.outcome.or (some outcome) }

/-- The handlers of a call. -/
def after (audioBuffer : List UInt8) : Event → Call
  | .data response => c.receive audioBuffer response
  | .error message => c.settle (.error message)
  | .timeout => if c.timeout then { c with ends := c.ends + 1, timeout := false } else c
  | .finish => { c with timeout := false }.settle (.ok (assemble c.transcriptMap))

end Call

/-- `transcribe` as an event system. -/
def transcribe (config : ClovaSttConfig) (audioBuffer : List UInt8) : EventSystem Call Event where
  init := ⟨∅, [buildConfigMessage config], 0, true, none⟩
  step c e := some (c.after audioBuffer e)

variable {config : ClovaSttConfig} {audioBuffer : List UInt8} {c c' : Call} {es : List Event}

/-- A run ends where its handlers lead. -/
lemma transcribe_exec :
    (transcribe config audioBuffer).exec c es = some c' ↔
      es.foldl (fun c e => c.after audioBuffer e) c = c' := by
  induction es generalizing c with
  | nil => exact Option.some_inj
  | cons e es ih => exact ih

/-! ## Framing -/

/-- **The messages from an offset on**: chunks of what is left, none of them empty or too long, with
numbers that go on from the count, and the flag on the last one. -/
lemma sendFrom_spec (audioBuffer : List UInt8) (offset chunkCount : ℕ) :
    ∃ chunks : List (List UInt8), chunks.flatten = audioBuffer.drop offset ∧
      (∀ chunk ∈ chunks, chunk ≠ [] ∧ chunk.length ≤ CHUNK_SIZE) ∧
      sendFrom audioBuffer offset chunkCount = chunks.mapIdx fun i chunk =>
        .data chunk ⟨if i + 1 = chunks.length then some true else none, chunkCount + i + 1⟩ := by
  fun_induction sendFrom audioBuffer offset chunkCount with
  | case1 offset chunkCount hlt chunk isLastChunk ih =>
    obtain ⟨chunks, hflatten, hsize, hmessages⟩ := ih
    refine ⟨chunk :: chunks, ?_, ?_, ?_⟩
    · rw [List.flatten_cons, hflatten, ← List.drop_drop, List.take_append_drop]
    · refine List.forall_mem_cons.mpr ⟨⟨fun hnil => ?_, List.length_take_le _ _⟩, hsize⟩
      have hlength : chunk.length = 0 := by rw [hnil]; rfl
      simp only [chunk, List.length_take, List.length_drop, CHUNK_SIZE] at hlength
      omega
    · have hlast : isLastChunk = true ↔ chunks.length = 0 := by
        have hnil : chunks = [] ↔ audioBuffer.drop (offset + CHUNK_SIZE) = [] := by
          rw [← hflatten, List.flatten_eq_nil_iff]
          refine ⟨fun h => by simp [h], fun h => List.eq_nil_iff_forall_not_mem.mpr ?_⟩
          exact fun chunk hmem => (hsize chunk hmem).1 (h chunk hmem)
        rw [List.length_eq_zero_iff, hnil, List.drop_eq_nil_iff]
        exact decide_eq_true_iff
      rw [hmessages, List.mapIdx_cons, List.length_cons]
      congr 1
      · simp only [hlast, zero_add, add_zero, right_eq_add]
      · congr 1
        funext i chunk
        simp only [Nat.add_right_cancel_iff, Nat.add_right_comm chunkCount 1 i,
          Nat.add_assoc chunkCount]
  | case2 offset chunkCount hge =>
    refine ⟨[], ?_, by simp, rfl⟩
    rw [List.drop_eq_nil_of_le (by omega)]
    rfl

/-- The messages of a whole buffer. -/
lemma sendAudioData_spec (audioBuffer : List UInt8) :
    ∃ chunks : List (List UInt8), chunks.flatten = audioBuffer ∧
      (∀ chunk ∈ chunks, chunk ≠ [] ∧ chunk.length ≤ CHUNK_SIZE) ∧
      sendAudioData audioBuffer = chunks.mapIdx fun i chunk =>
        .data chunk ⟨if i + 1 = chunks.length then some true else none, i + 1⟩ := by
  obtain ⟨chunks, hflatten, hsize, hmessages⟩ := sendFrom_spec audioBuffer 0 0
  refine ⟨chunks, hflatten, hsize, ?_⟩
  rw [sendAudioData, hmessages]
  simp only [zero_add]

/-- A message with audio. -/
def Message.isData : Message → Bool
  | .config _ _ => false
  | .data _ _ => true

/-- The audio that has been written. -/
def Call.dataMessages (c : Call) : List Message := c.written.filter Message.isData

/-- A response that answers the configuration. -/
def Event.isConfig : Event → Bool
  | .data response => response.isConfig
  | _ => false

/-- Only audio is sent for a buffer. -/
lemma filter_sendAudioData (audioBuffer : List UInt8) :
    (sendAudioData audioBuffer).filter Message.isData = sendAudioData audioBuffer := by
  obtain ⟨chunks, -, -, hmessages⟩ := sendAudioData_spec audioBuffer
  rw [hmessages, List.filter_eq_self]
  intro m hm
  obtain ⟨i, hi, rfl⟩ := List.mem_mapIdx.mp hm
  rfl

/-- What a handler writes. -/
lemma dataMessages_after (c : Call) (audioBuffer : List UInt8) (e : Event) :
    (c.after audioBuffer e).dataMessages =
      c.dataMessages ++ if e.isConfig then sendAudioData audioBuffer else [] := by
  cases e with
  | data response =>
    show (c.receive audioBuffer response).dataMessages =
      c.dataMessages ++ if response.isConfig then sendAudioData audioBuffer else []
    unfold Call.receive
    split
    · simp only [Call.dataMessages, List.filter_append, filter_sendAudioData]
    · split <;> simp [Call.dataMessages]
  | timeout =>
    simp only [Call.after]
    split <;> simp [Call.dataMessages, Event.isConfig]
  | _ => simp [Call.after, Call.settle, Call.dataMessages, Event.isConfig]

/-- In a run, the audio is sent once for every answer to the configuration. -/
lemma dataMessages_exec (h : (transcribe config audioBuffer).exec c es = some c') :
    c'.dataMessages = c.dataMessages ++
      (List.replicate (es.countP Event.isConfig) (sendAudioData audioBuffer)).flatten := by
  rw [transcribe_exec] at h
  induction es generalizing c with
  | nil => simp [← h]
  | cons e es ih =>
    rw [ih h, dataMessages_after, List.append_assoc]
    cases he : e.isConfig with
    | true =>
      rw [List.countP_cons_of_pos he, List.replicate_succ, List.flatten_cons]
      rfl
    | false =>
      rw [List.countP_cons_of_neg (by simp [he])]
      rfl

/-- **Framing of the audio.** In every run with one answer to the configuration, the messages with
audio have chunks that are not empty, have at most 32000 bytes and make up the buffer; they are
numbered from 1 on, and the last one and no other has the flag. -/
theorem audio_framing (config : ClovaSttConfig) (audioBuffer : List UInt8)
    (haudio : audioBuffer ≠ []) {es : List Event} {c : Call}
    (h : (transcribe config audioBuffer).exec (transcribe config audioBuffer).init es = some c)
    (hone : es.countP Event.isConfig = 1) :
    ∃ chunks : List (List UInt8), chunks ≠ [] ∧ chunks.flatten = audioBuffer ∧
      (∀ chunk ∈ chunks, chunk ≠ [] ∧ chunk.length ≤ 32000) ∧
      c.dataMessages = chunks.mapIdx fun i chunk =>
        .data chunk ⟨if i + 1 = chunks.length then some true else none, i + 1⟩ := by
  obtain ⟨chunks, hflatten, hsize, hmessages⟩ := sendAudioData_spec audioBuffer
  refine ⟨chunks, fun hnil => haudio ?_, hflatten, hsize, ?_⟩
  · rw [← hflatten, hnil]
    rfl
  · have hdata := dataMessages_exec h
    rw [hone] at hdata
    rw [hdata, ← hmessages]
    exact List.append_nil _

/-- A run in which the configuration fails, between two texts. -/
def failedConfig : List Event :=
  [.data (some { responseType := ["transcription"], transcription := some { text := some "a" } }),
    .data (some { responseType := ["config"], configStatus := some "Failure" }), .data none,
    .data (some { responseType := ["transcription"], transcription := some { epFlag := true } })]

/-- A buffer of exactly two chunks. -/
theorem audio_framing_two_chunks :
    ∃ c, (transcribe {} (List.replicate 64000 0)).exec
        (transcribe {} (List.replicate 64000 0)).init failedConfig = some c ∧
      ∃ chunks : List (List UInt8), chunks ≠ [] ∧ chunks.flatten = List.replicate 64000 0 ∧
        (∀ chunk ∈ chunks, chunk ≠ [] ∧ chunk.length ≤ 32000) ∧
        c.dataMessages = chunks.mapIdx fun i chunk =>
          .data chunk ⟨if i + 1 = chunks.length then some true else none, i + 1⟩ :=
  ⟨_, rfl, @audio_framing {} _ (List.ne_nil_of_length_pos (by rw [List.length_replicate]; decide))
    failedConfig _ rfl (by decide)⟩

/-! ## The transcript -/

/-- The text that an event brings, with its position. -/
def Event.entry : Event → Option (ℚ × String)
  | .data response => response.entry
  | _ => none

/-- A response, or the timeout, and not the end of the call. -/
def Event.isOngoing : Event → Bool
  | .data _ | .timeout => true
  | .error _ | .finish => false

/-- The texts for a position, in their order. -/
def textsAt (p : ℚ) (es : List Event) : List String :=
  ((es.filterMap Event.entry).filter (·.1 = p)).map Prod.snd

/-- An answer to the configuration is not read for a transcription. -/
lemma transcription_eq_none {response : Response} (h : response.isConfig) :
    response.transcription = none := by
  cases response with
  | none => rfl
  | some parsed => exact if_pos (of_decide_eq_true h)

/-- What a handler does to the texts. -/
lemma transcriptMap_after (c : Call) (audioBuffer : List UInt8) (e : Event) :
    (c.after audioBuffer e).transcriptMap =
      e.entry.elim c.transcriptMap fun entry => c.transcriptMap.set entry.1 entry.2 := by
  cases e with
  | data response =>
    show (c.receive audioBuffer response).transcriptMap = response.entry.elim _ _
    have hentry : response.entry = response.transcription.bind Transcription.entry := rfl
    unfold Call.receive
    by_cases hconfig : response.isConfig
    · rw [if_pos hconfig, hentry, transcription_eq_none hconfig]
      rfl
    · rw [if_neg hconfig, hentry]
      cases response.transcription <;> rfl
  | timeout =>
    simp only [Call.after]
    split <;> rfl
  | _ => rfl

/-- **The text of a position** is the last one of its texts in the run. -/
lemma transcriptMap_get (p : ℚ) (h : (transcribe config audioBuffer).exec c es = some c') :
    c'.transcriptMap.get p = (textsAt p es).getLast?.or (c.transcriptMap.get p) := by
  rw [transcribe_exec] at h
  induction es generalizing c with
  | nil => rw [← h]; rfl
  | cons e es ih =>
    rw [ih h, transcriptMap_after]
    cases he : e.entry with
    | none => simp [textsAt, he]
    | some entry =>
      by_cases hp : entry.1 = p
      · simp [textsAt, he, hp, List.getLast?_cons]
      · simp [textsAt, he, hp]

/-- While the call goes on, its promise is not settled. -/
lemma outcome_exec (h : (transcribe config audioBuffer).exec c es = some c')
    (hes : ∀ e ∈ es, e.isOngoing) : c'.outcome = c.outcome := by
  rw [transcribe_exec] at h
  induction es generalizing c with
  | nil => rw [← h]; rfl
  | cons e es ih =>
    obtain ⟨he, hes⟩ := List.forall_mem_cons.mp hes
    rw [ih h hes]
    cases e with
    | data response =>
      show (c.receive audioBuffer response).outcome = c.outcome
      unfold Call.receive
      split
      · rfl
      · split <;> rfl
    | timeout =>
      simp only [Call.after]
      split <;> rfl
    | _ => cases he

/-- The sorted keys of a map. -/
lemma sortedPositions_spec (transcriptMap : JsMap ℚ String) :
    (transcriptMap.keys.insertionSort (· ≤ ·)).Pairwise (· < ·) ∧
      ∀ p, p ∈ transcriptMap.keys.insertionSort (· ≤ ·) ↔ (transcriptMap.get p).isSome := by
  constructor
  · have hle := List.pairwise_insertionSort (· ≤ ·) transcriptMap.keys
    have hne : (transcriptMap.keys.insertionSort (· ≤ ·)).Nodup :=
      (List.perm_insertionSort (· ≤ ·) _).nodup_iff.mpr transcriptMap.nodup
    exact hle.imp₂ (fun _ _ => lt_of_le_of_ne) hne
  · intro p
    rw [List.mem_insertionSort, JsMap.mem_keys_iff]

/-- **The transcript of a run**: the last texts, in the order of their positions. -/
lemma transcribe_spec {ps : List ℚ} (hps : ps.Pairwise (· < ·))
    (hmem : ∀ p, p ∈ ps ↔ textsAt p es ≠ []) (hes : ∀ e ∈ es, e.isOngoing)
    (h : (transcribe config audioBuffer).exec (transcribe config audioBuffer).init
      (es ++ [.finish]) = some c) :
    c.outcome = some (.ok (jsTrim (String.join (ps.map fun p =>
      (textsAt p es).getLast?.getD "")))) := by
  obtain ⟨c₀, hrun, hfinish⟩ := EventSystem.exec_append_iff.mp h
  have hget (p : ℚ) : c₀.transcriptMap.get p = (textsAt p es).getLast? :=
    (transcriptMap_get p hrun).trans Option.or_none
  obtain ⟨hsorted, hkeys⟩ := sortedPositions_spec c₀.transcriptMap
  have hpositions : c₀.transcriptMap.keys.insertionSort (· ≤ ·) = ps := by
    refine hsorted.eq_of_mem_iff hps fun p => ?_
    rw [hkeys, hmem, hget, List.getLast?_isSome]
  have houtcome : c.outcome = some (.ok (assemble c₀.transcriptMap)) := by
    rw [transcribe_exec] at hfinish
    rw [← hfinish]
    show c₀.outcome.or _ = _
    rw [outcome_exec hrun hes]
    rfl
  rw [houtcome, assemble, hpositions]
  simp only [hget]

/-- **The transcript does not depend on the order.** Two runs of responses which bring, for every
position, the same texts in the same order end with the same string: the last text of every
position, in increasing order, and trimmed. -/
theorem transcribe_order_independent (config : ClovaSttConfig) (audioBuffer : List UInt8)
    {es es' : List Event} (hes : ∀ e ∈ es, e.isOngoing) (hes' : ∀ e ∈ es', e.isOngoing)
    (hsame : ∀ p, textsAt p es = textsAt p es') {c c' : Call}
    (h : (transcribe config audioBuffer).exec (transcribe config audioBuffer).init
      (es ++ [.finish]) = some c)
    (h' : (transcribe config audioBuffer).exec (transcribe config audioBuffer).init
      (es' ++ [.finish]) = some c') :
    ∃ ps : List ℚ, ps.Pairwise (· < ·) ∧ (∀ p, p ∈ ps ↔ textsAt p es ≠ []) ∧
      c.outcome = some (.ok (jsTrim (String.join (ps.map fun p =>
        (textsAt p es).getLast?.getD "")))) ∧
      c'.outcome = c.outcome := by
  obtain ⟨c₀, hrun, -⟩ := EventSystem.exec_append_iff.mp h
  obtain ⟨hsorted, hkeys⟩ := sortedPositions_spec c₀.transcriptMap
  have hmem (p : ℚ) : p ∈ c₀.transcriptMap.keys.insertionSort (· ≤ ·) ↔ textsAt p es ≠ [] := by
    rw [hkeys, transcriptMap_get p hrun]
    show ((textsAt p es).getLast?.or none).isSome ↔ _
    rw [Option.or_none, List.getLast?_isSome]
  have houtcome := transcribe_spec hsorted hmem hes h
  have houtcome' := transcribe_spec hsorted (fun p => hsame p ▸ hmem p) hes' h'
  refine ⟨_, hsorted, hmem, houtcome, ?_⟩
  rw [houtcome', houtcome]
  simp only [hsame]

/-- A response with a text. -/
def textResponse (text : String) (position : Option ℚ) : Event :=
  .data (some { responseType := ["transcription"],
                transcription := some { text := some text, position := position } })

/-- The texts of two positions, the first of which also comes without its number. -/
def overwritten : List Event :=
  [textResponse "b" (some 2), textResponse "x" none, textResponse "a" (some 0)]

/-- The texts of `overwritten` in another order, with a response that cannot be read. -/
def interleaved : List Event :=
  [textResponse "x" (some 0), .data none, textResponse "a" none, textResponse "b" (some 2)]

/-- Two orders of the texts of two positions. -/
theorem transcribe_order_independent_two_positions :
    ∃ (c c' : Call) (ps : List ℚ),
      (transcribe {} []).exec (transcribe {} []).init (overwritten ++ [.finish]) = some c ∧
      (transcribe {} []).exec (transcribe {} []).init (interleaved ++ [.finish]) = some c' ∧
      ps.Pairwise (· < ·) ∧ (∀ p, p ∈ ps ↔ textsAt p overwritten ≠ []) ∧
      c.outcome = some (.ok (jsTrim (String.join (ps.map fun p =>
        (textsAt p overwritten).getLast?.getD "")))) ∧
      c'.outcome = c.outcome := by
  have hentries : overwritten.filterMap Event.entry = [(2, "b"), (0, "x"), (0, "a")] := by decide
  have hentries' : interleaved.filterMap Event.entry = [(0, "x"), (0, "a"), (2, "b")] := by decide
  have hsame (p : ℚ) : textsAt p overwritten = textsAt p interleaved := by
    rw [textsAt, textsAt, hentries, hentries']
    by_cases hp : p = 2
    · subst hp; decide
    · by_cases hp' : p = 0
      · subst hp'; decide
      · simp [Ne.symm hp, Ne.symm hp']
  obtain ⟨ps, hps⟩ := transcribe_order_independent {} [] (by simp [overwritten, textResponse,
    Event.isOngoing]) (by simp [interleaved, textResponse, Event.isOngoing]) hsame rfl rfl
  exact ⟨_, _, ps, rfl, rfl, hps⟩

end Clova
