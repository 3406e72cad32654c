import AuraLive.Foundations.EventSystem
import AuraLive.Stt.Clova

set_option relaxedAutoImplicit false
set_option autoImplicit false

/-!
# Streams of recognised speech

`transcribeStream` of `stt/clova-stt.adapter.ts` and of `stt/daglo-stt.adapter.ts` is the same
generator over different messages: what the recogniser sends goes to a queue, a task of its own
writes the audio, and a loop takes from the queue until the call has ended. `transcribeStreamClova`
and `transcribeStreamDaglo` of `stt/stt.service.ts` read the generator and join the final texts.

## Main definitions

* `Recognition.Adapter`, `clova`, `daglo` — what an adapter sends first, and what it reads.
* `Recognition.Call.turn` — a turn of the loop, with what the service does with its result.
* `Recognition.transcribeStream` — the generator and its reader as an event system.
* `Recognition.SettlesExactly`, `SendsInOrder` — what is said of the promise and of the messages.

## Main results

* `Recognition.settles_exactly` — the promise is resolved only with everything that has been
  received, and rejected only if something that has been received is lost.
* `Recognition.settles_soon` — it is settled a few turns after the call has ended; an error of which
  nothing waits in the queue resolves it.
* `Recognition.sends_in_order` — the audio is written in order, up to the end of the call.

## Design

Callbacks, the task that sends and the turns of the loop interleave in any order: a turn follows the
last one after ten milliseconds, or once the reader has asked for the next result, and both are
events. Of a result the text and whether it is final are kept; the other properties are not read.
-/

namespace Recognition

open Foundations VoiceBot

/-! ## Adapters -/

/-- `ClovaTranscript` and `DagloTranscript`, as far as they are read. -/
structure Transcript where
  text : String
  isFinal : Bool
  deriving DecidableEq

/-- The first message of a call, and what is put into the queue for a response. -/
structure Adapter (κ ρ : Type) where
  configMessage : κ
  results : ρ → List Transcript

/-- `parseResponse` of the Clova adapter: its results are final. -/
def parseResponse (response : Clova.Response) : Option Transcript :=
  response.transcription.map fun t => ⟨t.text.getD "", true⟩

/-- The Clova adapter. -/
def clova (config : Clova.ClovaSttConfig) : Adapter Clova.Message Clova.Response where
  configMessage := Clova.buildConfigMessage config
  results response := (parseResponse response).toList

/-- `DagloSttConfig`, with its defaults. -/
structure DagloSttConfig where
  language : String := "ko-KR"
  sampleRate : ℕ := 16000
  interimResults : Bool := true

/-- A result of the Daglo recogniser. -/
structure DagloResult where
  transcript : Option String
  isFinal : Option Bool

/-- A response of the Daglo recogniser. -/
structure DagloResponse where
  results : Option (List DagloResult)

/-- The Daglo adapter. -/
def daglo (config : DagloSttConfig) : Adapter DagloSttConfig DagloResponse where
  configMessage := config
  results response := (response.results.getD []).map fun result =>
    ⟨result.transcript.getD "", result.isFinal.getD false⟩

/-- A message to a recogniser. -/
inductive Message (κ : Type) where
  | config (config : κ)
  | audio (chunk : List UInt8)

/-! ## The call -/

/-- The variables of the generator and of its reader. -/
structure Call (κ : Type) where
  responseQueue : List Transcript
  isEnded : Bool
  error : Option String
  /-- The messages that have been written. -/
  written : List (Message κ)
  /-- How often `call.end` has been called. -/
  ends : ℕ
  /-- The task that sends the audio is running. -/
  sending : Bool
  /-- The texts that the reader has collected. -/
  transcripts : List String
  /-- How the promise of the reader has been settled. -/
  outcome : Option (Except String String)

/-- What happens to a call: a response, its end, an error; some audio, the end of the audio, or an
error of its source; a turn of the loop. -/
inductive Event (ρ : Type) where
  | data (response : ρ)
  | finish
  | error (message : String)
  | chunk (chunk : List UInt8)
  | audioEnd
  | audioError
  | turn

/-- The text of a final result that is not empty. -/
def Transcript.final (result : Transcript) : Option String :=
  if result.isFinal ∧ result.text ≠ "" then some result.text else none

/-- `transcripts.join(' ').trim()`. -/
def joined (transcripts : List String) : String := jsTrim (" ".intercalate transcripts)

namespace Call

variable {κ : Type} (c : Call κ)

/-- The reader collects a result. -/
def collect (result : Transcript) : Call κ :=
  { c with transcripts := c.transcripts ++ result.final.toList }

/-- A turn of the loop. -/
def turn : Call κ :=
  if c.isEnded = false ∨ c.responseQueue ≠ [] then
    match c.error with
    | some message => { c with outcome := some (.error message) }
    | none =>
      match c.responseQueue with
      | result :: rest => ({ c with responseQueue := rest }).collect result
      | [] => c
  else { c with outcome := some (.ok (joined c.transcripts)) }

/-- The task that sends ends. -/
def endSending : Call κ := { c with ends := c.ends + 1, sending := false }

/-- The task that sends gets some audio. -/
def send (chunk : List UInt8) : Call κ :=
  if c.isEnded then c.endSending
  else { c with written := c.written ++ [.audio chunk] }

end Call

variable {κ ρ : Type}

/-- What has been received from the recogniser and got from the source of the audio. -/
structure Log where
  received : List Transcript
  got : List (List UInt8)

/-- The state after an event. -/
def Call.step (adapter : Adapter κ ρ) (c : Call κ) : Event ρ → Option (Call κ)
  | .data response =>
    some { c with responseQueue := c.responseQueue ++ adapter.results response }
  | .finish => some { c with isEnded := true }
  | .error message => some { c with error := some message, isEnded := true }
  | .chunk chunk => if c.sending then some (c.send chunk) else none
  | .audioEnd | .audioError => if c.sending then some c.endSending else none
  | .turn => if c.outcome.isNone then some c.turn else none

/-- The log after an event. -/
def Log.after (adapter : Adapter κ ρ) (log : Log) : Event ρ → Log
  | .data response => { log with received := log.received ++ adapter.results response }
  | .chunk chunk => { log with got := log.got ++ [chunk] }
  | _ => log

/-- `transcribeStream` with its reader, as an event system. -/
def transcribeStream (adapter : Adapter κ ρ) : EventSystem (Call κ × Log) (Event ρ) where
  init := (⟨[], false, none, [.config adapter.configMessage], 0, true, [], none⟩, ⟨[], []⟩)
  step x e := (x.1.step adapter e).map fun c => (c, x.2.after adapter e)

/-! ## What is said of a call -/

/-- What is read of some results. -/
def fullTranscript (results : List Transcript) : String :=
  joined (results.filterMap Transcript.final)

/-- When a step settles the promise, it is resolved with everything that has been received, after
the call has ended; or it is rejected with the error of the call, and some of what has been received
is not read any more. -/
def SettlesExactly (adapter : Adapter κ ρ) (x : Call κ × Log) (e : Event ρ) : Prop :=
  ∀ x', (transcribeStream adapter).step x e = some x' → x.1.outcome = none →
    (∀ text, x'.1.outcome = some (.ok text) →
      x.1.isEnded = true ∧ text = fullTranscript x.2.received) ∧
    ∀ message, x'.1.outcome = some (.error message) → x.1.error = some message ∧
      ∃ read lost, x.2.received = read ++ lost ∧ lost ≠ [] ∧
        x'.1.transcripts = read.filterMap Transcript.final

/-- The audio is written in order after the configuration. The call is ended once, when the task
that sends has ended; what the task has got is written by then, up to a last piece that comes after
the call has ended. -/
structure SendsInOrder (adapter : Adapter κ ρ) (x : Call κ × Log) : Prop where
  ends : x.1.ends = if x.1.sending then 0 else 1
  written : ∃ sent late, x.2.got = sent ++ late ∧ late.length ≤ 1 ∧
    x.1.written = .config adapter.configMessage :: sent.map .audio ∧
    (late ≠ [] → x.1.isEnded = true ∧ x.1.sending = false)

/-! ## What has been received -/

/-- What has been received has been read, or is in the queue; and an error ends the call. -/
structure Accounted (x : Call κ × Log) : Prop where
  queued : ∃ read, x.2.received = read ++ x.1.responseQueue ∧
    x.1.transcripts = read.filterMap Transcript.final
  ended : ∀ message, x.1.error = some message → x.1.isEnded = true

section Steps

variable {adapter : Adapter κ ρ} {c c' : Call κ} {log : Log} {e : Event ρ}

/-- A step of a call with its log. -/
lemma transcribeStream_step {x' : Call κ × Log} :
    (transcribeStream adapter).step (c, log) e = some x' ↔
      c.step adapter e = some x'.1 ∧ x'.2 = log.after adapter e :=
  EventSystem.map_pair_eq_some

/-- A step under a guard. -/
lemma guarded_eq_some {p : Prop} [Decidable p] :
    (if p then some c else none) = some c' ↔ p ∧ c = c' := by
  rw [Option.ite_none_right_eq_some, Option.some.injEq]

/-- An event that changes neither the queue nor the texts. -/
lemma Accounted.of_same (h : Accounted (c, log)) {log' : Log}
    (hqueue : c'.responseQueue = c.responseQueue) (htexts : c'.transcripts = c.transcripts)
    (hreceived : log'.received = log.received)
    (hended : ∀ message, c'.error = some message → c'.isEnded = true) : Accounted (c', log') := by
  obtain ⟨read, hread, htranscripts⟩ := h.queued
  refine ⟨⟨read, ?_, ?_⟩, hended⟩
  · rw [hreceived, hqueue]
    exact hread
  · rw [htexts]
    exact htranscripts

/-- What a turn does: it rejects, takes a result, waits, or resolves. -/
lemma turn_cases (c : Call κ) :
    (∃ message, c.error = some message ∧ (c.isEnded = false ∨ c.responseQueue ≠ []) ∧
      c.turn = { c with outcome := some (.error message) }) ∨
    (∃ result rest, c.error = none ∧ c.responseQueue = result :: rest ∧
      c.turn = ({ c with responseQueue := rest }).collect result) ∨
    (c.isEnded = false ∧ c.responseQueue = [] ∧ c.turn = c) ∨
    (c.isEnded = true ∧ c.responseQueue = [] ∧
      c.turn = { c with outcome := some (.ok (joined c.transcripts)) }) := by
  unfold Call.turn
  by_cases hgoes : c.isEnded = false ∨ c.responseQueue ≠ []
  · rw [if_pos hgoes]
    cases herror : c.error with
    | some message => exact .inl ⟨message, rfl, hgoes, rfl⟩
    | none =>
      cases hqueue : c.responseQueue with
      | cons result rest => exact .inr (.inl ⟨result, rest, rfl, rfl, rfl⟩)
      | nil => exact .inr (.inr (.inl ⟨hgoes.resolve_right fun hne => hne hqueue, rfl, rfl⟩))
  · rw [if_neg hgoes]
    obtain ⟨hended, hqueue⟩ := not_or.mp hgoes
    exact .inr (.inr (.inr ⟨by simpa using hended, not_not.mp hqueue, rfl⟩))

/-- **What has been received is accounted for**, also after another step.

**Proof sketch.** A response is put at the end of the queue and into the log. A turn that takes a
result moves it from the queue to those that have been read, and adds its text if it is final. All
other steps leave the queue, the texts and the log as they are. -/
lemma accounted_step {x x' : Call κ × Log} (h : Accounted x)
    (hstep : (transcribeStream adapter).step x e = some x') : Accounted x' := by
  obtain ⟨c, log⟩ := x
  obtain ⟨c', log'⟩ := x'
  obtain ⟨hc, hlog⟩ := transcribeStream_step.mp hstep
  dsimp only at hc hlog
  subst hlog
  cases e with
  | data response =>
    obtain rfl := Option.some.inj hc
    obtain ⟨read, hread, htranscripts⟩ := h.queued
    dsimp only at hread
    refine ⟨⟨read, ?_, htranscripts⟩, h.ended⟩
    simp only [Log.after, hread, List.append_assoc]
  | finish =>
    obtain rfl := Option.some.inj hc
    exact h.of_same rfl rfl rfl fun _ _ => rfl
  | error message =>
    obtain rfl := Option.some.inj hc
    exact h.of_same rfl rfl rfl fun _ _ => rfl
  | chunk chunk =>
    obtain ⟨-, rfl⟩ := guarded_eq_some.mp hc
    unfold Call.send
    split
    · exact h.of_same rfl rfl rfl h.ended
    · exact h.of_same rfl rfl rfl h.ended
  | audioEnd =>
    obtain ⟨-, rfl⟩ := guarded_eq_some.mp hc
    exact h.of_same rfl rfl rfl h.ended
  | audioError =>
    obtain ⟨-, rfl⟩ := guarded_eq_some.mp hc
    exact h.of_same rfl rfl rfl h.ended
  | turn =>
    obtain ⟨-, rfl⟩ := guarded_eq_some.mp hc
    obtain ⟨message, -, -, hturn⟩ | ⟨result, rest, -, hqueue, hturn⟩ | ⟨-, -, hturn⟩ |
      ⟨-, -, hturn⟩ := turn_cases c <;> rw [hturn]
    · exact h.of_same rfl rfl rfl h.ended
    · obtain ⟨read, hread, htranscripts⟩ := h.queued
      dsimp only at hread htranscripts
      refine ⟨⟨read ++ [result], ?_, ?_⟩, h.ended⟩
      · simp [Log.after, hread, hqueue, Call.collect]
      · rw [List.filterMap_append, ← htranscripts]
        cases hfinal : result.final <;> simp [Call.collect, hfinal]
    · exact h
    · exact h.of_same rfl rfl rfl h.ended

/-- Nothing has been received at the start. -/
lemma accounted_init : Accounted (transcribeStream adapter).init :=
  ⟨⟨[], rfl, rfl⟩, fun _ h => by cases h⟩

/-- Only a turn settles the promise. -/
lemma outcome_of_step (hc : c.step adapter e = some c') (hne : c'.outcome ≠ c.outcome) :
    c' = c.turn := by
  cases e with
  | data response => cases hc; exact absurd rfl hne
  | finish => cases hc; exact absurd rfl hne
  | error message => cases hc; exact absurd rfl hne
  | chunk chunk =>
    obtain ⟨-, rfl⟩ := guarded_eq_some.mp hc
    refine absurd ?_ hne
    unfold Call.send
    split <;> rfl
  | audioEnd =>
    obtain ⟨-, rfl⟩ := guarded_eq_some.mp hc
    exact absurd rfl hne
  | audioError =>
    obtain ⟨-, rfl⟩ := guarded_eq_some.mp hc
    exact absurd rfl hne
  | turn => exact (guarded_eq_some.mp hc).2.symm

/-- A call whose results are accounted for settles its promise exactly. -/
lemma Accounted.settlesExactly {x : Call κ × Log} (h : Accounted x) :
    SettlesExactly adapter x e := by
  obtain ⟨c, log⟩ := x
  rintro ⟨c', log'⟩ hstep hnone
  obtain ⟨hc, -⟩ := transcribeStream_step.mp hstep
  dsimp only at hc hnone ⊢
  obtain ⟨read, hread, htranscripts⟩ := h.queued
  dsimp only at hread htranscripts
  have hturn (outcome : Except String String) (hout : c'.outcome = some outcome) : c' = c.turn :=
    outcome_of_step hc (by rw [hout, hnone]; exact Option.some_ne_none _)
  constructor
  · intro text htext
    rw [hturn _ htext] at htext
    obtain ⟨message, -, -, hcase⟩ | ⟨result, rest, -, -, hcase⟩ | ⟨-, -, hcase⟩ |
      ⟨hended, hqueue, hcase⟩ := turn_cases c <;> rw [hcase] at htext
    · simp at htext
    · rw [Call.collect, hnone] at htext
      cases htext
    · rw [hnone] at htext
      cases htext
    · rw [fullTranscript, hread, hqueue, List.append_nil, ← htranscripts]
      exact ⟨hended, by simpa using htext.symm⟩
  · intro message hmessage
    have hc' := hturn _ hmessage
    rw [hc'] at hmessage ⊢
    obtain ⟨other, herror, hgoes, hcase⟩ | ⟨result, rest, -, -, hcase⟩ | ⟨-, -, hcase⟩ |
      ⟨-, -, hcase⟩ := turn_cases c <;> rw [hcase] at hmessage ⊢
    · obtain rfl : other = message := by simpa using hmessage
      -- an error has ended the call, so something is in the queue
      have hended : c.isEnded = true := h.ended other herror
      have hqueue := hgoes.resolve_left (by simp [hended])
      exact ⟨herror, read, c.responseQueue, hread, hqueue, htranscripts⟩
    · rw [Call.collect, hnone] at hmessage
      cases hmessage
    · rw [hnone] at hmessage
      cases hmessage
    · simp at hmessage

end Steps

variable (adapter : Adapter κ ρ)

/-- **The promise is settled exactly.** Whatever the order of responses, audio and turns is: when
the promise is resolved, the call has ended and the text is that of everything that has been
received; when it is rejected, it is with the error of the call, and something that has been
received is lost. -/
theorem settles_exactly (es : List (Event ρ)) :
    (transcribeStream adapter).AllSteps (SettlesExactly adapter) (transcribeStream adapter).init
      es :=
  EventSystem.allSteps_of_invariant (I := Accounted) (C := fun _ _ => True)
    (fun _ _ _ hx _ hstep => accounted_step hx hstep) (fun _ _ hx _ => hx.settlesExactly)
    accounted_init (EventSystem.allSteps_true _ _)

/-! ## The promise is settled -/

/-- Once the call has ended the promise is settled in a few turns: it is rejected if there was an
error and something is in the queue, and resolved with everything that has been received if not. -/
def SettlesSoon (adapter : Adapter κ ρ) (x : Call κ × Log) : Prop :=
  x.1.outcome = none → x.1.isEnded = true →
    ∃ n ≤ x.1.responseQueue.length + 1, ∃ x',
      (transcribeStream adapter).exec x (List.replicate n .turn) = some x' ∧
        x'.1.outcome =
          if x.1.responseQueue = [] then some (.ok (fullTranscript x.2.received))
          else x.1.error.elim (some (.ok (fullTranscript x.2.received))) fun message =>
            some (.error message)

/-- A turn of a call whose promise is not settled. -/
lemma step_turn {c : Call κ} (log : Log) (hopen : c.outcome = none) :
    (transcribeStream adapter).step (c, log) .turn = some (c.turn, log) := by
  simp [transcribeStream, Call.step, hopen, Log.after]

/-- A call whose results are accounted for settles its promise soon.

**Proof sketch.** Induction on the queue. If it is empty, the next turn resolves the promise with
the texts of what has been read, which is everything received. Otherwise the next turn rejects it,
if there is an error, or takes one result, and the rest of the queue needs one turn less. -/
lemma Accounted.settlesSoon {x : Call κ × Log} (h : Accounted x) : SettlesSoon adapter x := by
  obtain ⟨c, log⟩ := x
  intro hopen hended
  dsimp only at hopen hended ⊢
  -- on the queue: a turn settles the promise or takes a result
  induction hqueue : c.responseQueue generalizing c with
  | nil =>
    obtain ⟨message, -, hgoes, -⟩ | ⟨result, rest, -, hcons, -⟩ | ⟨hnot, -, -⟩ | ⟨-, -, hturn⟩ :=
      turn_cases c
    · simp [hended, hqueue] at hgoes
    · rw [hqueue] at hcons
      cases hcons
    · rw [hended] at hnot
      cases hnot
    · refine ⟨1, le_rfl, _, EventSystem.exec_cons.mpr ⟨_, step_turn adapter log hopen, rfl⟩, ?_⟩
      obtain ⟨read, hread, htranscripts⟩ := h.queued
      dsimp only at hread htranscripts
      rw [hqueue, List.append_nil] at hread
      rw [if_pos rfl, hturn, fullTranscript, hread, ← htranscripts]
  | cons result rest ih =>
    rw [if_neg (List.cons_ne_nil _ _)]
    obtain ⟨message, herror, -, hturn⟩ | ⟨other, others, herror, hcons, hturn⟩ | ⟨-, hnil, -⟩ |
      ⟨-, hnil, -⟩ := turn_cases c
    · refine ⟨1, by simp, _, EventSystem.exec_cons.mpr ⟨_, step_turn adapter log hopen, rfl⟩, ?_⟩
      rw [hturn, herror]
      rfl
    · obtain ⟨rfl, rfl⟩ := List.cons.inj (hqueue.symm.trans hcons)
      have hnext := accounted_step h (step_turn adapter log hopen)
      obtain ⟨n, hn, x', hexec, hout⟩ := ih c.turn hnext (by rw [hturn]; exact hopen)
        (by rw [hturn]; exact hended) (by rw [hturn]; rfl)
      refine ⟨n + 1, by simpa using hn, x', ?_, ?_⟩
      · exact EventSystem.exec_cons.mpr ⟨_, step_turn adapter log hopen, hexec⟩
      · have hnone : c.turn.error = none := by
          rw [hturn]
          exact herror
        rw [hnone, Option.elim_none, ite_self] at hout
        rw [herror]
        exact hout
    · rw [hqueue] at hnil
      cases hnil
    · rw [hqueue] at hnil
      cases hnil

/-- **The promise is settled soon** after the call has ended, in every state of every run: it is
rejected exactly if there was an error and something waits in the queue. An error that finds the
queue empty resolves the promise. -/
theorem settles_soon (es : List (Event ρ)) :
    (transcribeStream adapter).AllStates (SettlesSoon adapter) (transcribeStream adapter).init es :=
  EventSystem.allStates_of_invariant (I := Accounted) (C := fun _ _ => True)
    (fun _ _ _ hx _ hstep => accounted_step hx hstep) (fun _ hx => hx.settlesSoon adapter)
    accounted_init (EventSystem.allSteps_true _ _)

/-! ## The audio -/

/-- An event that is not about the audio. -/
lemma SendsInOrder.of_same {c c' : Call κ} {log log' : Log} (h : SendsInOrder adapter (c, log))
    (hends : c'.ends = c.ends) (hsending : c'.sending = c.sending)
    (hwritten : c'.written = c.written) (hgot : log'.got = log.got)
    (hended : c.isEnded = true → c'.isEnded = true) :
    SendsInOrder adapter (c', log') := by
  obtain ⟨sent, late, hsent, hlength, hall, hlate⟩ := h.written
  refine ⟨?_, sent, late, ?_, hlength, ?_, fun hne => ?_⟩
  · rw [hends, hsending]
    exact h.ends
  · rw [hgot]
    exact hsent
  · rw [hwritten]
    exact hall
  · rw [hsending]
    exact ⟨hended (hlate hne).1, (hlate hne).2⟩

/-- The task that sends ends, after what it has got has been written up to a last piece. -/
lemma SendsInOrder.endSending {c : Call κ} {log log' : Log} (h : SendsInOrder adapter (c, log))
    (hsending : c.sending = true) (piece : List (List UInt8)) (hpiece : piece.length ≤ 1)
    (hended : piece ≠ [] → c.isEnded = true) (hgot : log'.got = log.got ++ piece) :
    SendsInOrder adapter (c.endSending, log') := by
  obtain ⟨sent, late, hsent, -, hall, hlate⟩ := h.written
  -- nothing is late as long as the task is running
  obtain rfl : late = [] := by
    by_contra hne
    have := (hlate hne).2
    rw [hsending] at this
    cases this
  have hends : c.ends = 0 := by rw [h.ends, hsending, if_pos rfl]
  rw [List.append_nil] at hsent
  refine ⟨?_, sent, piece, ?_, hpiece, hall, fun hne => ⟨hended hne, rfl⟩⟩
  · simp [Call.endSending, hends]
  · rw [hgot, ← hsent]

/-- **The audio is written in order**, also after another step.

**Proof sketch.** Responses, errors and turns write nothing. A piece of the audio is written behind
the others while the call is open; after that the sending task ends, as at the end of the audio, and
ends the call once. -/
lemma sendsInOrder_step {x x' : Call κ × Log} {e : Event ρ} (h : SendsInOrder adapter x)
    (hstep : (transcribeStream adapter).step x e = some x') : SendsInOrder adapter x' := by
  obtain ⟨c, log⟩ := x
  obtain ⟨c', log'⟩ := x'
  obtain ⟨hc, hlog⟩ := transcribeStream_step.mp hstep
  dsimp only at hc hlog
  subst hlog
  cases e with
  | data response =>
    obtain rfl := Option.some.inj hc
    exact h.of_same adapter rfl rfl rfl rfl id
  | finish =>
    obtain rfl := Option.some.inj hc
    exact h.of_same adapter rfl rfl rfl rfl fun _ => rfl
  | error message =>
    obtain rfl := Option.some.inj hc
    exact h.of_same adapter rfl rfl rfl rfl fun _ => rfl
  | chunk chunk =>
    obtain ⟨hsending, rfl⟩ := guarded_eq_some.mp hc
    unfold Call.send
    by_cases hended : c.isEnded
    · rw [if_pos hended]
      exact h.endSending adapter hsending [chunk] le_rfl (fun _ => hended) rfl
    · rw [if_neg hended]
      obtain ⟨sent, late, hsent, -, hall, hlate⟩ := h.written
      obtain rfl : late = [] := not_not.mp fun hne => hended (hlate hne).1
      rw [List.append_nil] at hsent
      dsimp only at hsent hall
      refine ⟨h.ends, sent ++ [chunk], [], ?_, Nat.zero_le _, ?_, fun hne => absurd rfl hne⟩
      · simp [Log.after, hsent]
      · simp [hall]
  | audioEnd =>
    obtain ⟨hsending, rfl⟩ := guarded_eq_some.mp hc
    exact h.endSending adapter hsending [] (Nat.zero_le _) (absurd rfl) (List.append_nil _).symm
  | audioError =>
    obtain ⟨hsending, rfl⟩ := guarded_eq_some.mp hc
    exact h.endSending adapter hsending [] (Nat.zero_le _) (absurd rfl) (List.append_nil _).symm
  | turn =>
    obtain ⟨-, rfl⟩ := guarded_eq_some.mp hc
    obtain ⟨message, -, -, hturn⟩ | ⟨result, rest, -, -, hturn⟩ | ⟨-, -, hturn⟩ | ⟨-, -, hturn⟩ :=
      turn_cases c <;> rw [hturn] <;> exact h.of_same adapter rfl rfl rfl rfl id

/-- **The audio is sent in order.** In every state of every run the messages are the configuration
and the audio, whole and in order as far as the task that sends has got it; the call is ended once,
when that task ends; and only a piece that comes after the call has ended is not written. -/
theorem sends_in_order (es : List (Event ρ)) :
    (transcribeStream adapter).AllStates (SendsInOrder adapter) (transcribeStream adapter).init
      es := by
  refine EventSystem.allStates_of_invariant (I := SendsInOrder adapter) (C := fun _ _ => True)
    (fun _ _ _ hx _ hstep => sendsInOrder_step adapter hx hstep) (fun _ hx => hx)
    ⟨rfl, [], [], rfl, Nat.zero_le _, rfl, fun hne => absurd rfl hne⟩
    (EventSystem.allSteps_true _ _)

end Recognition
