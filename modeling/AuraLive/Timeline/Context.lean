import AuraLive.Foundations.EventSystem
import AuraLive.Foundations.JsValue
import AuraLive.Foundations.Ledger
import AuraLive.VoiceBot.State

set_option relaxedAutoImplicit false
set_option autoImplicit false

/-!
# The context of the timeline

`sendTranscript` asks a language model to correct an utterance, with what was said in the last
minute as its context. The corrected text is added to the room's buffer when the model has answered,
and the answers come in any order. `clearBuffer` drops the buffer at the end of a meeting.

## Main definitions

* `Timeline.TimelineService`, `Event`, `system` — the buffers and the calls that wait for the model.
* `Timeline.InOrder` — the entries of a buffer are in the order of the calls they come from.
* `Timeline.Fresh` — they come from calls made after the last `clearBuffer` of the room.
* `Timeline.Timely` — what the answer of the model must find.

## Main results

* `Timeline.context_iff` — both hold in every state of a run if and only if every answer is timely.
* `Timeline.context_reordered` — a late answer breaks the one or the other.
-/

namespace Timeline

open Foundations VoiceBot

/-- `BUFFER_DURATION_MS`. -/
def BUFFER_DURATION_MS : ℕ := 60 * 1000

/-- A `BufferedTranscript`, with the number of the call it comes from. -/
structure Entry where
  speaker : String
  text : JsVal
  timestamp : ℕ
  /-- The call of `sendTranscript`. -/
  call : ℕ

/-- A call of `sendTranscript` that waits for the language model. -/
structure Call where
  roomId : String
  /-- The trimmed transcript. -/
  transcript : String
  speaker : String
  /-- The context in the prompt. -/
  contextStr : String
  /-- The array of the context. -/
  validContext : List Entry

/-- A `TIMELINE_TRANSCRIPT_UPDATE` message. -/
structure Message where
  roomId : String
  speaker : String
  text : JsVal
  keywords : List JsVal
  originalText : String
  timestamp : ℕ
  contextSize : ℕ

/-- The service. -/
structure TimelineService where
  contextBuffers : JsMap String (List Entry)
  /-- The call whose `validContext` is the very array that is a room's buffer. -/
  owners : JsMap String ℕ
  /-- The calls that wait, under the numbers of all calls. -/
  calls : Ledger Call
  /-- The messages that were handed to `publishData`. -/
  published : List Message
  /-- The number of the next call when a room's buffer was last cleared. -/
  clearedAt : JsMap String ℕ

/-- What can happen. -/
inductive Event where
  | sendTranscript (roomId transcript speaker : String) (now : ℕ)
  /-- The language model answers, or there is an exception. -/
  | replied (id : ℕ) (result : Option String) (now : ℕ)
  | clearBuffer (roomId : String)

namespace TimelineService

/-- The buffer of a room. -/
def buffer (s : TimelineService) (roomId : String) : List Entry :=
  (s.contextBuffers.get roomId).getD []

/-- The number of the first call after the last `clearBuffer` of a room. -/
def firstCall (s : TimelineService) (roomId : String) : ℕ := (s.clearedAt.get roomId).getD 0

end TimelineService

/-! ## The functions -/

/-- The entries that `cleanExpiredContext` keeps. -/
def validEntries (buffer : List Entry) (now : ℕ) : List Entry :=
  buffer.filter fun entry => now - entry.timestamp < BUFFER_DURATION_MS

/-- What the language does with JSON: parsing a text and writing a value into a template literal,
which both may fail. -/
structure Json where
  parse : String → Option JsVal
  text : JsVal → Option String

/-- `formatContext`, `none` if there is no text for an entry. -/
def formatContext (json : Json) (buffer : List Entry) : Option String :=
  (buffer.mapM fun entry => (json.text entry.text).map (entry.speaker ++ ": " ++ ·)).map
    ("\n".intercalate ·)

/-- `result.match(/\{[\s\S]*\}/)`: from the first opening to the last closing brace. -/
def jsonMatch (result : String) : Option String :=
  let tail := result.toList.dropWhile (· ≠ '\x7b')
  let block := (tail.reverse.dropWhile (· ≠ '\x7d')).reverse
  if block = [] then none else some (String.ofList block)

/-- What `processTranscript` makes of the result: the refined text and the keywords. The transcript
is kept if there is no JSON in it, or none that can be parsed. -/
def refine (json : Json) (transcript : String) (result : Option String) : JsVal × List JsVal :=
  match (result.bind jsonMatch).bind json.parse with
  | none => (.str transcript, [])
  | some parsed =>
    if parsed.isNull then (.str transcript, [])
    else (JsVal.orElse (parsed.field "text") (.str transcript),
      match parsed.field "keywords" with
      | some (.arr keywords) => keywords.take 5
      | _ => [])

/-- The start of `sendTranscript`, up to the call of the language model. If the context cannot be
written, the call ends there. -/
def TimelineService.sendTranscript (json : Json) (s : TimelineService)
    (roomId transcript speaker : String) (now : ℕ) : TimelineService :=
  if jsLength (jsTrim transcript) ≤ 3 then s
  else
    let validContext := validEntries (s.buffer roomId) now
    match formatContext json validContext with
    | none =>
      { s with
        contextBuffers := s.contextBuffers.set roomId validContext
        owners := s.owners.delete roomId }
    | some contextStr =>
      { s with
        contextBuffers := s.contextBuffers.set roomId validContext
        owners := s.owners.set roomId s.calls.next
        calls := s.calls.enter ⟨roomId, jsTrim transcript, speaker, contextStr, validContext⟩ }

/-- `addToContext`. The array may be that of a call that still waits. -/
def TimelineService.addToContext (s : TimelineService) (roomId : String) (entry : Entry) :
    TimelineService :=
  { s with
    contextBuffers := s.contextBuffers.set roomId (s.buffer roomId ++ [entry])
    calls :=
      match s.owners.get roomId with
      | none => s.calls
      | some id =>
        s.calls.modify id fun call => { call with validContext := call.validContext ++ [entry] } }

/-- The rest of `sendTranscript`. The length of the context is read after the entry has been
added. -/
def TimelineService.replied (json : Json) (s : TimelineService) (id : ℕ) (call : Call)
    (result : Option String) (now : ℕ) : TimelineService :=
  let (refinedText, keywords) := refine json call.transcript result
  let s := s.addToContext call.roomId ⟨call.speaker, refinedText, now, id⟩
  let contextSize := ((s.calls.get id).map (·.validContext.length)).getD 0
  { s with
    calls := s.calls.remove id
    published := s.published ++
      [⟨call.roomId, call.speaker, refinedText, keywords, call.transcript, now, contextSize⟩] }

/-- `clearBuffer`. -/
def TimelineService.clearBuffer (s : TimelineService) (roomId : String) : TimelineService :=
  { s with
    contextBuffers := s.contextBuffers.delete roomId
    owners := s.owners.delete roomId
    clearedAt := s.clearedAt.set roomId s.calls.next }

/-- The service. -/
def system (json : Json) : EventSystem TimelineService Event where
  init := ⟨∅, ∅, .empty, [], ∅⟩
  step s
    | .sendTranscript roomId transcript speaker now =>
      some (s.sendTranscript json roomId transcript speaker now)
    | .replied id result now => (s.calls.get id).map fun call => s.replied json id call result now
    | .clearBuffer roomId => some (s.clearBuffer roomId)

/-! ## The property -/

/-- The entries of every buffer are in the order of their calls. -/
def InOrder (s : TimelineService) : Prop :=
  ∀ roomId, (s.buffer roomId).Pairwise fun a b => a.call < b.call

/-- The entries of every buffer come from calls after the last `clearBuffer` of the room. -/
def Fresh (s : TimelineService) : Prop :=
  ∀ roomId, ∀ entry ∈ s.buffer roomId, s.firstCall roomId ≤ entry.call

/-- When the language model has answered a call, the room's buffer holds no entry of a later call,
and it was not cleared since the call was made. -/
def Timely (s : TimelineService) : Event → Prop
  | .replied id _ _ => ∀ call ∈ s.calls.get id,
      (∀ entry ∈ s.buffer call.roomId, entry.call < id) ∧ s.firstCall call.roomId ≤ id
  | _ => True

/-! ## The buffers after a step -/

/-- A call of `sendTranscript` only removes entries. -/
lemma buffer_sendTranscript (json : Json) (s : TimelineService)
    (roomId transcript speaker : String) (now : ℕ) (r : String) :
    ((s.sendTranscript json roomId transcript speaker now).buffer r).Sublist (s.buffer r) := by
  have hset : (((s.contextBuffers.set roomId (validEntries (s.buffer roomId) now)).get r).getD
      []).Sublist (s.buffer r) := by
    rw [JsMap.get_set]
    split
    · rename_i h
      subst h
      exact List.filter_sublist
    · exact List.Sublist.refl _
  unfold TimelineService.sendTranscript
  split
  · exact List.Sublist.refl _
  · dsimp only
    split
    · exact hset
    · exact hset

/-- An answer adds an entry to the room's buffer. -/
lemma buffer_replied (json : Json) (s : TimelineService) (id : ℕ) (call : Call)
    (result : Option String) (now : ℕ) (r : String) :
    (s.replied json id call result now).buffer r =
      if call.roomId = r then
        s.buffer r ++ [⟨call.speaker, (refine json call.transcript result).1, now, id⟩]
      else s.buffer r := by
  unfold TimelineService.replied TimelineService.addToContext TimelineService.buffer
  dsimp only
  rw [JsMap.get_set]
  split
  · rename_i h
    subst h
    rfl
  · rfl

/-- `clearBuffer` leaves nothing in the room's buffer. -/
lemma buffer_clearBuffer (s : TimelineService) (roomId r : String) :
    (s.clearBuffer roomId).buffer r = if roomId = r then [] else s.buffer r := by
  unfold TimelineService.clearBuffer TimelineService.buffer
  dsimp only
  rw [JsMap.get_delete]
  split <;> rfl

/-- The other rooms were cleared when they were. -/
lemma firstCall_clearBuffer (s : TimelineService) {roomId r : String} (h : roomId ≠ r) :
    (s.clearBuffer roomId).firstCall r = s.firstCall r := by
  unfold TimelineService.clearBuffer TimelineService.firstCall
  dsimp only
  rw [JsMap.get_set_of_ne _ h]

/-- A call of `sendTranscript` clears nothing. -/
lemma firstCall_sendTranscript (json : Json) (s : TimelineService)
    (roomId transcript speaker : String) (now : ℕ) (r : String) :
    (s.sendTranscript json roomId transcript speaker now).firstCall r = s.firstCall r := by
  unfold TimelineService.sendTranscript
  split
  · rfl
  · dsimp only
    split <;> rfl

/-- An answer keeps the order and the freshness of the buffers exactly when it is timely. -/
lemma replied_iff {json : Json} {s : TimelineService} {id : ℕ} {call : Call}
    {result : Option String} {now : ℕ} (ho : InOrder s) (hf : Fresh s) :
    (InOrder (s.replied json id call result now) ∧ Fresh (s.replied json id call result now)) ↔
      (∀ entry ∈ s.buffer call.roomId, entry.call < id) ∧ s.firstCall call.roomId ≤ id := by
  have hfirst : ∀ r, (s.replied json id call result now).firstCall r = s.firstCall r :=
    fun _ => rfl
  constructor
  · rintro ⟨ho', hf'⟩
    have hpair := ho' call.roomId
    have hfresh := hf' call.roomId ⟨call.speaker, (refine json call.transcript result).1, now, id⟩
    rw [buffer_replied, if_pos rfl] at hpair hfresh
    refine ⟨fun entry hentry => ?_, hfresh (by simp)⟩
    exact (List.pairwise_append.mp hpair).2.2 entry hentry _ (List.mem_singleton_self _)
  · rintro ⟨hlast, hfresh⟩
    constructor
    · intro r
      rw [buffer_replied]
      split
      · rename_i h
        subst h
        refine List.pairwise_append.mpr ⟨ho _, List.pairwise_singleton _ _, ?_⟩
        intro entry hentry new hnew
        rw [List.mem_singleton.mp hnew]
        exact hlast entry hentry
      · exact ho r
    · intro r entry hentry
      rw [buffer_replied] at hentry
      rw [hfirst]
      split at hentry
      · rename_i h
        subst h
        rcases List.mem_append.mp hentry with hentry | hentry
        · exact hf _ entry hentry
        · rw [List.mem_singleton.mp hentry]
          exact hfresh
      · exact hf r entry hentry

/-- A step keeps the order and the freshness of the buffers exactly when an answer that comes with
it is timely. -/
lemma step_iff {json : Json} {s s' : TimelineService} {e : Event} (hs : InOrder s ∧ Fresh s)
    (h : (system json).step s e = some s') : (InOrder s' ∧ Fresh s') ↔ Timely s e := by
  obtain ⟨ho, hf⟩ := hs
  cases e with
  | sendTranscript roomId transcript speaker now =>
    obtain rfl := Option.some.inj h
    refine iff_of_true ⟨fun r => ?_, fun r entry hentry => ?_⟩ trivial
    · exact (ho r).sublist (buffer_sendTranscript json s roomId transcript speaker now r)
    · rw [firstCall_sendTranscript]
      exact hf r entry
        ((buffer_sendTranscript json s roomId transcript speaker now r).subset hentry)
  | replied id result now =>
    obtain ⟨call, hcall, rfl⟩ := Option.map_eq_some_iff.mp h
    rw [replied_iff ho hf]
    constructor
    · intro htimely call' hcall'
      obtain rfl := Option.some.inj (hcall.symm.trans hcall')
      exact htimely
    · intro htimely
      exact htimely call hcall
  | clearBuffer roomId =>
    obtain rfl := Option.some.inj h
    refine iff_of_true ⟨fun r => ?_, fun r entry hentry => ?_⟩ trivial
    · rw [buffer_clearBuffer]
      split
      · exact .nil
      · exact ho r
    · rw [buffer_clearBuffer] at hentry
      split at hentry
      · cases hentry
      · rename_i hne
        rw [firstCall_clearBuffer s hne]
        exact hf r entry hentry

/-- **The context of the timeline.** In every run, the entries of all buffers are in the order of
the calls and come from calls after the last `clearBuffer`, exactly when every answer of the
language model finds no entry of a later call and no `clearBuffer` since its call. -/
theorem context_iff (json : Json) (es : List Event) (s : TimelineService)
    (h : (system json).exec (system json).init es = some s) :
    (system json).AllStates (fun s => InOrder s ∧ Fresh s) (system json).init es ↔
      (system json).AllSteps Timely (system json).init es :=
  EventSystem.allStates_iff_of_step_iff (B := fun _ => True) (fun _ _ _ _ _ => trivial)
    (fun _ _ _ _ hs hstep => step_iff hs hstep) trivial
    ⟨fun _ => .nil, fun _ entry hentry => by cases hentry⟩ h

instance decidableTimely (s : TimelineService) (e : Event) : Decidable (Timely s e) :=
  match e with
  | .replied id _ _ => inferInstanceAs (Decidable (∀ call ∈ s.calls.get id,
      (∀ entry ∈ s.buffer call.roomId, entry.call < id) ∧ s.firstCall call.roomId ≤ id))
  | .sendTranscript _ _ _ _ => .isTrue trivial
  | .clearBuffer _ => .isTrue trivial

/-- A model whose answers hold no JSON: transcripts are kept as they are. -/
def plain : Json := ⟨fun _ => none, fun _ => some ""⟩

/-- Two utterances that are answered in order, the second one after a new one was made. -/
def conversation : List Event :=
  [.sendTranscript "a" "첫 번째 발언" "u" 1000, .sendTranscript "a" "두 번째 발언" "v" 1100,
    .replied 0 (some "") 1200, .sendTranscript "a" "세 번째 발언" "u" 1300,
    .replied 1 none 1400, .replied 2 (some "") 1500, .clearBuffer "a",
    .sendTranscript "a" "네 번째 발언" "u" 1600, .replied 3 (some "") 1700]

/-- The context is in order throughout the conversation. -/
theorem context_iff_conversation :
    ((system plain).exec (system plain).init conversation).map
      (fun s => (s.buffer "a").map (·.call)) = some [3] ∧
    (system plain).AllStates (fun s => InOrder s ∧ Fresh s) (system plain).init conversation := by
  have hcalls : ((system plain).exec (system plain).init conversation).map
      (fun s => (s.buffer "a").map (·.call)) = some [3] := by decide +kernel
  obtain ⟨s, hs, -⟩ := Option.map_eq_some_iff.mp hcalls
  exact ⟨hcalls, (context_iff plain conversation s hs).mpr (by decide +kernel)⟩

/-- Two utterances, of which the second is answered first. -/
def overtaken : List Event :=
  [.sendTranscript "a" "첫 번째 발언" "u" 1000, .sendTranscript "a" "두 번째 발언" "v" 1100,
    .replied 1 (some "") 1200, .replied 0 (some "") 1300]

/-- An utterance that is answered after the end of the meeting. -/
def late : List Event :=
  [.sendTranscript "a" "첫 번째 발언" "u" 1000, .clearBuffer "a", .replied 0 (some "") 1300]

/-- **Out of order and refilled.** The second utterance comes first in the buffer, and a buffer that
was cleared holds an utterance from before. -/
theorem context_reordered :
    ¬ (system plain).AllStates (fun s => InOrder s ∧ Fresh s) (system plain).init overtaken ∧
    ¬ (system plain).AllStates (fun s => InOrder s ∧ Fresh s) (system plain).init late := by
  constructor
  · intro h
    obtain ⟨s, hs, hcalls⟩ := Option.map_eq_some_iff.mp (show
      ((system plain).exec (system plain).init overtaken).map
        (fun s => (s.buffer "a").map (·.call)) = some [1, 0] by decide +kernel)
    have hpair : ((s.buffer "a").map (·.call)).Pairwise (· < ·) :=
      List.pairwise_map.mpr ((h.last hs).1 "a")
    rw [hcalls] at hpair
    exact absurd hpair (by decide)
  · intro h
    obtain ⟨s, hs, hcalls⟩ := Option.map_eq_some_iff.mp (show
      ((system plain).exec (system plain).init late).map
        (fun s => ((s.buffer "a").map (·.call), s.firstCall "a")) = some ([0], 1) by
      decide +kernel)
    obtain ⟨hbuffer, hfirst⟩ := Prod.mk.inj hcalls
    have hmem : 0 ∈ (s.buffer "a").map (·.call) := by
      rw [hbuffer]
      exact List.mem_singleton_self _
    obtain ⟨entry, hentry, hzero⟩ := List.mem_map.mp hmem
    have hle := (h.last hs).2 "a" entry hentry
    rw [hfirst, hzero] at hle
    exact absurd hle (by decide)

end Timeline
