import AuraLive.Foundations.EventSystem
import AuraLive.Foundations.JsSet
import AuraLive.Foundations.Ledger
import AuraLive.VoiceBot.State
import Mathlib.Logic.Function.Basic

set_option relaxedAutoImplicit false
set_option autoImplicit false

/-!
# Proactive analysis

While a screen is shared, `runProactiveAnalysis` hands what is on it and what was said to a language
model from time to time. `ProactiveAnalysisService` reads an array of insights from the answer and
sends those on that are confident enough and of a type that was not sent a minute ago. The answer is
JSON of any shape, and one map of cooldowns serves all rooms.

## Main definitions

* `Proactive.Runtime` — what the language does with JSON values, numbers and hashes.
* `Proactive.isBelow` — the comparison `v < threshold` of any value.
* `Proactive.filterInsights`, `analyze` — the filter and what becomes of an answer.
* `Proactive.State`, `Event`, `system` — the rooms, the shared cooldowns and what happens to them.

## Main results

* `Proactive.filterInsights_spec` — what the filter lets through, and the cooldowns it leaves.
* `Proactive.length_filterInsights_le` — it lets at most `maxInsightsPerAnalysis` insights through.
* `Proactive.filterInsights_congr` — cooldowns that agree on some types let the same through.

## Design

* **History.** A room keeps the messages it was sent, with the number of stops before each, and the
  cooldowns that its own analyses and stops would leave. The code has neither.
* **Cooldowns.** The map is a list of entries, of which the newest one of a type counts. Objects are
  never found again, since every answer makes new ones.
* **Log lines.** The lines that the service logs are made even where debugging is off. What matters
  of them is whether making them throws.
-/

namespace Proactive

open Foundations VoiceBot

/-- The fields of a `ProactiveConfig` that the service reads. -/
structure ProactiveConfig where
  minConfidenceThreshold : ℚ
  cooldownMs : ℕ
  maxInsightsPerAnalysis : ℕ

/-- `DEFAULT_PROACTIVE_CONFIG`. -/
def DEFAULT_PROACTIVE_CONFIG : ProactiveConfig := ⟨70, 60000, 2⟩

/-! ## Values -/

/-- What the language and its libraries do. -/
structure Runtime where
  /-- `JSON.parse`, which may throw. -/
  parse : String → Option JsVal
  /-- The text of a number. -/
  numberText : ℚ → String
  /-- Whether a string is below a number, as a number; what is no number is not. -/
  below : String → ℚ → Bool
  /-- `hashTexts`. -/
  hashTexts : List String → String

section Values

variable (rt : Runtime)

mutual

/-- The text of a value in a template literal, `none` if making it throws: an object with a property
`toString` of its own cannot be converted. -/
def textOf : JsVal → Option String
  | .null => some "null"
  | .bool b => some (toString b)
  | .num q => some (rt.numberText q)
  | .str s => some s
  | .arr l => (textsOf l).map (",".intercalate ·)
  | .obj fields => if fields.any (·.1 = "toString") then none else some "[object Object]"

/-- The texts of the elements of an array, where `null` is left out. -/
def textsOf : List JsVal → Option (List String)
  | [] => some []
  | .null :: l => (textsOf l).map ("" :: ·)
  | v :: l =>
    match textOf v with
    | none => none
    | some t => (textsOf l).map (t :: ·)

end

/-- `v < threshold` for any value or `undefined`, `none` if it throws. -/
def isBelow (threshold : ℚ) : Option JsVal → Option Bool
  | none => some false
  | some .null => some (decide (0 < threshold))
  | some (.bool b) => some (decide ((if b then 1 else 0) < threshold))
  | some (.num q) => some (decide (q < threshold))
  | some (.str s) => some (rt.below s threshold)
  | some (.arr l) => (textOf rt (.arr l)).map (rt.below · threshold)
  | some (.obj fields) => (textOf rt (.obj fields)).map (rt.below · threshold)

/-- A value or `undefined` can be written into a template literal. -/
def printable : Option JsVal → Bool
  | none => true
  | some v => (textOf rt v).isSome

end Values

/-! ## The answer of the language model -/

/-- The text up to the next fence. -/
def upToFence : List Char → Option (List Char)
  | [] => none
  | c :: cs =>
    if "```".toList.isPrefixOf (c :: cs) then some [] else (upToFence cs).map (c :: ·)

/-- The start of a text matches the pattern of a code block; what is in it. -/
def codeBlock (cs : List Char) : Option (List Char) :=
  if "```".toList.isPrefixOf cs then
    let rest := cs.drop 3
    upToFence ((if "json".toList.isPrefixOf rest then rest.drop 4 else rest).dropWhile isJsSpace)
  else none

/-- From the first opening to the last closing bracket. -/
def arrayBlock (cs : List Char) : Option (List Char) :=
  let block := ((cs.dropWhile (· ≠ '[')).reverse.dropWhile (· ≠ ']')).reverse
  if block = [] then none else some block

/-- `extractJSON`. -/
def extractJSON (text : String) : String :=
  match text.toList.tails.findSome? codeBlock with
  | some block => jsTrim (String.ofList block)
  | none =>
    match arrayBlock text.toList with
    | some block => String.ofList block
    | none => jsTrim text

/-- An insight: an element of the array, of any shape, to which `callLLM` adds the time. -/
structure Insight where
  element : JsVal
  timestamp : ℕ

namespace Insight

/-- `insight.confidence`. -/
def confidence (x : Insight) : Option JsVal := x.element.field "confidence"

/-- `insight.type`. -/
def type (x : Insight) : Option JsVal := x.element.field "type"

end Insight

/-- `callLLM`, once the model has answered: the insights in the text, none if there is no text. -/
def callLLM (rt : Runtime) (text : Option String) (now : ℕ) : List Insight :=
  match text.bind fun t => if t = "" then none else rt.parse (extractJSON t) with
  | some (.arr parsed) => parsed.map (⟨·, now⟩)
  | _ => []

/-! ## The filter -/

/-- `insightCooldowns`: types and the times at which they were let through, the newest first. -/
abbrev Cooldowns := List (Option JsVal × ℕ)

/-- `insightCooldowns.get(type) || 0`. -/
def Cooldowns.lastTime (cooldowns : Cooldowns) (type : Option JsVal) : ℕ :=
  ((cooldowns.find? fun entry => JsVal.sameValueZero type entry.1).map Prod.snd).getD 0

/-- The type is on cooldown. -/
def Cooldowns.blocks (cooldowns : Cooldowns) (type : Option JsVal) (now : ℕ) : Bool :=
  now - cooldowns.lastTime type < DEFAULT_PROACTIVE_CONFIG.cooldownMs

/-- What the filter has done: what it let through, the cooldowns, and whether an exception ended
it. -/
structure Filtered where
  filtered : List Insight
  cooldowns : Cooldowns
  threw : Bool

/-- `filterInsights`, with what was let through before. An insight that is rejected is written into
a line for debugging, which is made whether or not it is logged: if making it throws, the filter
ends there, with the cooldowns that it has set. -/
def filterInsights (rt : Runtime) (now : ℕ) : List Insight → List Insight → Cooldowns → Filtered
  | [], filtered, cooldowns => ⟨filtered, cooldowns, false⟩
  | insight :: insights, filtered, cooldowns =>
    match isBelow rt DEFAULT_PROACTIVE_CONFIG.minConfidenceThreshold insight.confidence with
    | none => ⟨filtered, cooldowns, true⟩
    | some true =>
      if printable rt insight.type && printable rt insight.confidence then
        filterInsights rt now insights filtered cooldowns
      else ⟨filtered, cooldowns, true⟩
    | some false =>
      if cooldowns.blocks insight.type now then
        if printable rt insight.type then filterInsights rt now insights filtered cooldowns
        else ⟨filtered, cooldowns, true⟩
      else if DEFAULT_PROACTIVE_CONFIG.maxInsightsPerAnalysis ≤ (filtered ++ [insight]).length then
        ⟨filtered ++ [insight], (insight.type, now) :: cooldowns, false⟩
      else
        filterInsights rt now insights (filtered ++ [insight]) ((insight.type, now) :: cooldowns)

/-- The insights that `analyze` returns: none if the filter or the log line throws. -/
def Filtered.result (rt : Runtime) (f : Filtered) : List Insight :=
  if f.threw then []
  else if f.filtered.all fun x => printable rt x.type && printable rt x.confidence then f.filtered
  else []

/-- `analyze`, once the language model has answered. -/
def analyze (rt : Runtime) (text : Option String) (now : ℕ) (cooldowns : Cooldowns) : Filtered :=
  filterInsights rt now (callLLM rt text now) [] cooldowns

/-! ## The rooms -/

/-- A message with insights, the time at which it was sent, and how often the analysis of the room
had been stopped before. -/
structure Sent where
  insights : List Insight
  time : ℕ
  stops : ℕ

/-- The part of a `RoomContext` that the analysis uses. -/
structure Room where
  /-- `proactiveAnalysis.enabled`. -/
  enabled : Bool
  screenUnderstandingMode : Bool
  /-- The texts of `screenContextHistory`. -/
  screenTexts : List String
  /-- The turns of `conversationHistory`, each with its speaker. -/
  conversation : List String
  lastScreenTextHash : String
  lastConversationHash : String
  lastAnalysisTime : ℕ
  /-- The analyses that wait for the language model. -/
  waiting : Ledger Unit
  /-- The messages that were sent to the room. -/
  sent : List Sent
  /-- How often the analysis was stopped. -/
  stops : ℕ
  /-- The cooldowns that the analyses and stops of this room alone would leave. -/
  own : Cooldowns

/-- A room in which nothing has happened. -/
def Room.initial : Room := ⟨false, false, [], [], "", "", 0, .empty, [], 0, []⟩

/-- What can happen in a room. -/
inductive RoomEvent where
  /-- `addScreenContext` with a capture. -/
  | addScreenContext (extractedText : String)
  /-- `clearScreenContext`. -/
  | clearScreenContext
  /-- The conversation history changes. -/
  | conversed (turns : List String)
  /-- A timer runs `runProactiveAnalysis`. -/
  | runProactiveAnalysis (now : ℕ)
  /-- The language model answers, with a text or none, or fails. -/
  | replied (id : ℕ) (text : Option String) (now : ℕ)

namespace Room

/-- `addScreenContext`, with `startProactiveAnalysis`. -/
def addScreenContext (room : Room) (extractedText : String) : Room :=
  let room := { room with
    screenTexts := (if 24 ≤ room.screenTexts.length then room.screenTexts.tail
      else room.screenTexts) ++ [extractedText]
    screenUnderstandingMode := true }
  if room.enabled then room
  else { room with
    enabled := true
    lastAnalysisTime := 0
    lastScreenTextHash := ""
    lastConversationHash := "" }

/-- `clearScreenContext`, with `stopProactiveAnalysis`. -/
def clearScreenContext (room : Room) : Room :=
  let room :=
    if room.enabled then { room with enabled := false, stops := room.stops + 1, own := [] }
    else room
  { room with screenTexts := [], screenUnderstandingMode := false }

/-- The last `n` texts. -/
def lastTexts (n : ℕ) (texts : List String) : List String := texts.drop (texts.length - n)

/-- `runProactiveAnalysis`, up to the call of the language model. -/
def runProactiveAnalysis (rt : Runtime) (room : Room) (now : ℕ) : Room :=
  if !room.enabled || !room.screenUnderstandingMode then room
  else
    let recentScreenTexts := lastTexts 3 room.screenTexts
    let recentConversation := lastTexts 5 room.conversation
    let currentScreenHash := rt.hashTexts recentScreenTexts
    let currentConversationHash := rt.hashTexts recentConversation
    if currentScreenHash = room.lastScreenTextHash ∧
        currentConversationHash = room.lastConversationHash then room
    else { room with
      lastScreenTextHash := currentScreenHash
      lastConversationHash := currentConversationHash
      lastAnalysisTime := now
      waiting := if recentScreenTexts = [] ∧ recentConversation = [] then room.waiting
        else room.waiting.enter () }

/-- The rest of `runProactiveAnalysis`: the insights are sent to the room. -/
def receive (rt : Runtime) (room : Room) (id now : ℕ) (f : Filtered) : Room :=
  { room with
    waiting := room.waiting.remove id
    sent := if f.result rt = [] then room.sent
      else room.sent ++ [⟨f.result rt, now, room.stops⟩]
    own := (f.filtered.map fun x => (x.type, now)).reverse ++ room.own }

end Room

/-- The rooms and the cooldowns of all of them. -/
structure State where
  rooms : String → Room
  insightCooldowns : Cooldowns

/-- Something happens in a room. -/
structure Event where
  roomId : String
  what : RoomEvent

/-- The rooms with another state of one. -/
def State.setRoom (s : State) (roomId : String) (room : Room) : State :=
  { s with rooms := Function.update s.rooms roomId room }

/-- The system of all rooms. -/
def system (rt : Runtime) : EventSystem State Event where
  init := ⟨fun _ => .initial, []⟩
  step s e :=
    let room := s.rooms e.roomId
    match e.what with
    | .addScreenContext text => some (s.setRoom e.roomId (room.addScreenContext text))
    | .clearScreenContext =>
      some { s.setRoom e.roomId room.clearScreenContext with
        insightCooldowns := if room.enabled then [] else s.insightCooldowns }
    | .conversed turns => some (s.setRoom e.roomId { room with conversation := turns })
    | .runProactiveAnalysis now => some (s.setRoom e.roomId (room.runProactiveAnalysis rt now))
    | .replied id text now =>
      match room.waiting.get id with
      | none => none
      | some _ =>
        let f := analyze rt text now s.insightCooldowns
        some { s.setRoom e.roomId (room.receive rt id now f) with insightCooldowns := f.cooldowns }

/-! ## What the filter lets through -/

section Filter

variable {rt : Runtime} {now : ℕ} {type type' : Option JsVal} {cooldowns cooldowns' : Cooldowns}

/-- Values that are the same are equal. -/
lemma eq_of_sameValueZero (h : JsVal.sameValueZero type type' = true) : type = type' := by
  unfold JsVal.sameValueZero at h
  split at h <;> simp_all

/-- The last time of a type after another one was let through. -/
lemma lastTime_cons (t : ℕ) : Cooldowns.lastTime ((type', t) :: cooldowns) type =
    if JsVal.sameValueZero type type' then t else cooldowns.lastTime type := by
  unfold Cooldowns.lastTime
  rw [List.find?_cons]
  cases JsVal.sameValueZero type type' <;> rfl

/-- A type is on cooldown once it was let through. -/
lemma blocks_cons : Cooldowns.blocks ((type', now) :: cooldowns) type now =
    (JsVal.sameValueZero type type' || cooldowns.blocks type now) := by
  unfold Cooldowns.blocks
  rw [lastTime_cons]
  cases JsVal.sameValueZero type type' with
  | true =>
    rw [if_pos rfl, Nat.sub_self]
    rfl
  | false => rfl

/-- What the filter lets through is confident and not on cooldown, nor is it of the same type as
something before it. It is entered into the cooldowns.

**Proof sketch.** Induction on the insights. What comes after an insight that is let through is
filtered with its type on cooldown. -/
lemma filterInsights_spec (rt : Runtime) (now : ℕ) :
    ∀ (insights filtered : List Insight) (cooldowns : Cooldowns), ∃ new,
      (filterInsights rt now insights filtered cooldowns).filtered = filtered ++ new ∧
      (filterInsights rt now insights filtered cooldowns).cooldowns =
        (new.map fun x => (x.type, now)).reverse ++ cooldowns ∧
      (∀ x ∈ new, x ∈ insights ∧
        isBelow rt DEFAULT_PROACTIVE_CONFIG.minConfidenceThreshold x.confidence = some false ∧
        cooldowns.blocks x.type now = false) ∧
      new.Pairwise fun a b => JsVal.sameValueZero b.type a.type = false
  | [], filtered, cooldowns => ⟨[], by simp [filterInsights]⟩
  | insight :: insights, filtered, cooldowns => by
    have hskip : ∀ {new : List Insight}, (∀ x ∈ new, x ∈ insights ∧
        isBelow rt DEFAULT_PROACTIVE_CONFIG.minConfidenceThreshold x.confidence = some false ∧
        cooldowns.blocks x.type now = false) → ∀ x ∈ new, x ∈ insight :: insights ∧
        isBelow rt DEFAULT_PROACTIVE_CONFIG.minConfidenceThreshold x.confidence = some false ∧
        cooldowns.blocks x.type now = false :=
      fun h x hx => ⟨List.mem_cons_of_mem _ (h x hx).1, (h x hx).2⟩
    unfold filterInsights
    split
    · exact ⟨[], by simp⟩
    · split
      · obtain ⟨new, hf, hc, hnew, hpair⟩ := filterInsights_spec rt now insights filtered cooldowns
        exact ⟨new, hf, hc, hskip hnew, hpair⟩
      · exact ⟨[], by simp⟩
    · rename_i hbelow
      split
      · split
        · obtain ⟨new, hf, hc, hnew, hpair⟩ :=
            filterInsights_spec rt now insights filtered cooldowns
          exact ⟨new, hf, hc, hskip hnew, hpair⟩
        · exact ⟨[], by simp⟩
      rename_i hblocks
      have hinsight : insight ∈ insight :: insights ∧
          isBelow rt DEFAULT_PROACTIVE_CONFIG.minConfidenceThreshold insight.confidence =
            some false ∧ cooldowns.blocks insight.type now = false :=
        ⟨List.mem_cons_self, hbelow, Bool.eq_false_iff.mpr hblocks⟩
      split
      · refine ⟨[insight], rfl, rfl, fun x hx => ?_, List.pairwise_singleton _ _⟩
        rw [List.mem_singleton.mp hx]
        exact hinsight
      · obtain ⟨new, hf, hc, hnew, hpair⟩ :=
          filterInsights_spec rt now insights (filtered ++ [insight])
            ((insight.type, now) :: cooldowns)
        refine ⟨insight :: new, by rw [hf]; simp, by rw [hc]; simp, ?_, ?_⟩
        · intro x hx
          rcases List.mem_cons.mp hx with rfl | hx
          · exact hinsight
          · obtain ⟨hmem, hbelow', hblocks'⟩ := hnew x hx
            rw [blocks_cons, Bool.or_eq_false_iff] at hblocks'
            exact ⟨List.mem_cons_of_mem _ hmem, hbelow', hblocks'.2⟩
        · refine List.pairwise_cons.mpr ⟨fun x hx => ?_, hpair⟩
          have hblocks' := (hnew x hx).2.2
          rw [blocks_cons, Bool.or_eq_false_iff] at hblocks'
          exact hblocks'.1

/-- The filter lets at most `maxInsightsPerAnalysis` insights through. -/
lemma length_filterInsights_le : ∀ (insights filtered : List Insight) (cooldowns : Cooldowns),
    filtered.length < DEFAULT_PROACTIVE_CONFIG.maxInsightsPerAnalysis →
      (filterInsights rt now insights filtered cooldowns).filtered.length ≤
        DEFAULT_PROACTIVE_CONFIG.maxInsightsPerAnalysis
  | [], filtered, cooldowns, h => h.le
  | insight :: insights, filtered, cooldowns, h => by
    unfold filterInsights
    split
    · exact h.le
    · split
      · exact length_filterInsights_le insights filtered cooldowns h
      · exact h.le
    · split
      · split
        · exact length_filterInsights_le insights filtered cooldowns h
        · exact h.le
      split
      · rw [List.length_append, List.length_singleton]
        exact h
      · rename_i hfew
        exact length_filterInsights_le insights _ _ (Nat.not_le.mp hfew)

/-- The filter lets the same insights through with cooldowns that agree on the types of those that
are confident.

**Proof sketch.** Recursion over the insights. One that is not confident is left out whatever the
cooldowns are. The others meet the same cooldown in both, and one that is let through sets the same
entry in both, so that they go on to agree. -/
lemma filterInsights_congr : ∀ {insights : List Insight} (filtered : List Insight)
    {cooldowns cooldowns' : Cooldowns}, (∀ x ∈ insights,
      isBelow rt DEFAULT_PROACTIVE_CONFIG.minConfidenceThreshold x.confidence = some true ∨
        cooldowns.blocks x.type now = cooldowns'.blocks x.type now) →
    (filterInsights rt now insights filtered cooldowns).filtered =
        (filterInsights rt now insights filtered cooldowns').filtered ∧
      (filterInsights rt now insights filtered cooldowns).threw =
        (filterInsights rt now insights filtered cooldowns').threw
  | [], _, _, _, _ => ⟨rfl, rfl⟩
  | insight :: insights, filtered, cooldowns, cooldowns', h => by
    have hrest : ∀ x ∈ insights,
        isBelow rt DEFAULT_PROACTIVE_CONFIG.minConfidenceThreshold x.confidence = some true ∨
          cooldowns.blocks x.type now = cooldowns'.blocks x.type now :=
      fun x hx => h x (List.mem_cons_of_mem _ hx)
    unfold filterInsights
    cases hbelow :
      isBelow rt DEFAULT_PROACTIVE_CONFIG.minConfidenceThreshold insight.confidence with
    | none => exact ⟨rfl, rfl⟩
    | some b =>
      cases b with
      | true =>
        dsimp only
        split
        · exact filterInsights_congr filtered hrest
        · exact ⟨rfl, rfl⟩
      | false =>
        have hsame : cooldowns.blocks insight.type now = cooldowns'.blocks insight.type now := by
          rcases h insight List.mem_cons_self with hlow | hsame
          · rw [hbelow] at hlow
            cases hlow
          · exact hsame
        dsimp only
        rw [hsame]
        split
        · split
          · exact filterInsights_congr filtered hrest
          · exact ⟨rfl, rfl⟩
        split
        · exact ⟨rfl, rfl⟩
        · refine filterInsights_congr _ fun x hx => ?_
          rcases hrest x hx with hlow | hagree
          · exact .inl hlow
          · rw [blocks_cons, blocks_cons, hagree]
            exact .inr rfl

end Filter

end Proactive
