import AuraLive.Foundations.LineFormat
import Mathlib.Data.List.Infix

set_option relaxedAutoImplicit false
set_option autoImplicit false

/-!
# Sequence diagrams

`generateMermaidSequence` of `mcp/tools/sequence.tool.ts` writes actors and messages as a Mermaid
sequence diagram. What the diagram says can be read back.

## Main definitions

* `SequenceDiagram.lines`, `generateMermaidSequence` — the lines of a diagram, and its text.
* `SequenceDiagram.readLine` — what is read of a line.
* `SequenceDiagram.Drawing` — what a diagram shows.
* `SequenceDiagram.Plain` — ids and labels that do not look like something else.

## Main results

* `SequenceDiagram.legible_of_plain` — every line is read as what it says.
* `SequenceDiagram.read_generateMermaidSequence` — so the diagram shows the actors and messages in
  order, and whether a message is a call or not.

## Design

An arrow has a line that is solid or dashed; asynchronous calls and responses look the same. A
message whose type is none of the three is drawn as a call.
-/

namespace SequenceDiagram

open Foundations

/-! ## The data -/

/-- `SequenceActor`; its type is not drawn. -/
structure SequenceActor where
  id : String
  name : String
  type : String

/-- `SequenceMessage`. -/
structure SequenceMessage where
  id : String
  fromId : String
  toId : String
  label : String
  type : String

/-- `SequenceData`. -/
structure SequenceData where
  actors : List SequenceActor
  messages : List SequenceMessage

/-! ## The diagram -/

/-- An arrow of a diagram. -/
inductive Arrow where
  | solid
  | dashed
  deriving DecidableEq

/-- The text of an arrow. -/
def Arrow.text : Arrow → String
  | .solid => "->>"
  | .dashed => "-->>"

/-- The arrow of a type of messages. -/
def arrowOf (type : String) : Arrow :=
  match type with
  | "sync" => .solid
  | "async" => .dashed
  | "response" => .dashed
  | _ => .solid

/-- A line of the diagram. -/
inductive Line where
  | fence
  | header
  | participant (id name : String)
  | blank
  | message (fromId : String) (arrow : Arrow) (toId label : String)
  | fenceEnd
  deriving DecidableEq

/-- The text of a line. -/
def Line.render : Line → String
  | fence => "```mermaid"
  | header => "sequenceDiagram"
  | participant id name => "    participant " ++ id ++ " as " ++ name
  | blank => ""
  | message fromId arrow toId label => "    " ++ fromId ++ arrow.text ++ toId ++ ": " ++ label
  | fenceEnd => "```"

/-- The lines of a diagram. -/
def lines (data : SequenceData) : List Line :=
  [.fence, .header] ++ (data.actors.map fun actor => .participant actor.id actor.name) ++
    [.blank] ++
    (data.messages.map fun msg => .message msg.fromId (arrowOf msg.type) msg.toId msg.label) ++
    [.fenceEnd]

/-- `generateMermaidSequence`. -/
def generateMermaidSequence (data : SequenceData) : String :=
  "\n".intercalate ((lines data).map Line.render)

/-! ## Reading -/

/-- What is read of a participant, after the word. -/
def readParticipant (t : List Char) : Option Line :=
  (cut ' ' t).bind fun (id, rest) =>
    (strip "as ".toList rest).map fun name => .participant (String.ofList id) (String.ofList name)

/-- The arrow at a place, after its first stroke, with what comes after it. -/
def readArrow (t : List Char) : Option (Arrow × List Char) :=
  match strip ">>".toList t with
  | some rest => some (.solid, rest)
  | none => (strip "->>".toList t).map fun rest => (.dashed, rest)

/-- What is read of a message. -/
def readMessage (t : List Char) : Option Line :=
  (cut '-' t).bind fun (fromId, rest) =>
    (readArrow rest).bind fun (arrow, rest) =>
      (cut ':' rest).bind fun (toId, rest) =>
        (strip " ".toList rest).map fun label =>
          .message (String.ofList fromId) arrow (String.ofList toId) (String.ofList label)

/-- What is read of a line. -/
def readLine (t : List Char) : Option Line :=
  if t = [] then some .blank
  else if t = "```mermaid".toList then some .fence
  else if t = "sequenceDiagram".toList then some .header
  else if t = "```".toList then some .fenceEnd
  else
    match strip "    participant ".toList t with
    | some rest => readParticipant rest
    | none => (strip "    ".toList t).bind readMessage

/-- The format of the diagrams. -/
def format : LineFormat Line := ⟨Line.render, readLine⟩

/-- What a diagram shows. -/
structure Drawing where
  /-- The ids and names of the participants. -/
  participants : List (String × String)
  /-- Where the messages come from, their arrows, where they go to, and their labels. -/
  messages : List (String × Arrow × String × String)
  deriving DecidableEq

/-- The participants of some lines. -/
def participantsOf (lines : List Line) : List (String × String) := lines.filterMap fun line =>
  match line with
  | .participant id name => some (id, name)
  | _ => none

/-- The messages of some lines. -/
def messagesOf (lines : List Line) : List (String × Arrow × String × String) :=
  lines.filterMap fun line =>
    match line with
    | .message fromId arrow toId label => some (fromId, arrow, toId, label)
    | _ => none

/-- What is read from a diagram. -/
def readDrawing (text : String) : Option Drawing :=
  (format.parse text).map fun lines => ⟨participantsOf lines, messagesOf lines⟩

/-- What is drawn of the data. -/
def drawingOf (data : SequenceData) : Drawing where
  participants := data.actors.map fun actor => (actor.id, actor.name)
  messages := data.messages.map fun msg => (msg.fromId, arrowOf msg.type, msg.toId, msg.label)

/-! ## Lines that can be read -/

/-- The text has none of some letters. -/
def Without (letters : List Char) (s : String) : Prop := ∀ c ∈ letters, c ∉ s.toList

instance (letters : List Char) (s : String) : Decidable (Without letters s) :=
  List.decidableBAll (fun c => c ∉ s.toList) letters

/-- Ids have no blanks, and nothing has a line feed. Where a message comes from there is no minus
sign, and where it goes to no colon. -/
structure Plain (data : SequenceData) : Prop where
  actors : ∀ actor ∈ data.actors, Without [' ', '\n'] actor.id ∧ Without ['\n'] actor.name
  messages : ∀ msg ∈ data.messages, Without [' ', '-', '\n'] msg.fromId ∧
    Without [':', '\n'] msg.toId ∧ Without ['\n'] msg.label

/-- An indented line is none of those that are not. -/
lemma readLine_indented {t : List Char} :
    readLine (' ' :: t) =
      match strip "    participant ".toList (' ' :: t) with
      | some rest => readParticipant rest
      | none => (strip "    ".toList (' ' :: t)).bind readMessage := by
  have hfence : ' ' :: t ≠ "```mermaid".toList := fun h => by cases h
  have hheader : ' ' :: t ≠ "sequenceDiagram".toList := fun h => by cases h
  have hend : ' ' :: t ≠ "```".toList := fun h => by cases h
  rw [readLine, if_neg (List.cons_ne_nil _ _), if_neg hfence, if_neg hheader, if_neg hend]

/-- A participant is read. -/
lemma legible_participant {id name : String} (hid : Without [' ', '\n'] id)
    (hname : Without ['\n'] name) : format.Legible (.participant id name) := by
  have hlist : (Line.participant id name).render.toList =
      "    participant ".toList ++ (id.toList ++ ' ' :: ("as ".toList ++ name.toList)) := by
    have has : " as ".toList = ' ' :: "as ".toList := rfl
    change ("    participant " ++ id ++ " as " ++ name).toList = _
    rw [String.toList_append, String.toList_append, String.toList_append, has, List.append_assoc,
      List.append_assoc, List.cons_append]
  refine ⟨?_, ?_⟩
  · change '\n' ∉ (Line.participant id name).render.toList
    rw [hlist]
    have hid' : '\n' ∉ id.toList := hid '\n' (by simp)
    have hname' : '\n' ∉ name.toList := hname '\n' (by simp)
    simp [hid', hname']
  · change readLine (Line.participant id name).render.toList = _
    rw [hlist]
    have hread := readLine_indented (t := "   participant ".toList ++
      (id.toList ++ ' ' :: ("as ".toList ++ name.toList)))
    refine hread.trans ?_
    have hstrip : strip "    participant ".toList (' ' :: ("   participant ".toList ++
        (id.toList ++ ' ' :: ("as ".toList ++ name.toList)))) =
        some (id.toList ++ ' ' :: ("as ".toList ++ name.toList)) :=
      strip_append "    participant ".toList _
    rw [hstrip]
    dsimp only
    rw [readParticipant, cut_append (hid ' ' (by simp)), Option.bind_some]
    dsimp only
    rw [strip_append]
    simp

/-- An arrow is read. -/
lemma readArrow_append (arrow : Arrow) (t : List Char) :
    ∃ r, arrow.text.toList ++ t = '-' :: r ∧ readArrow r = some (arrow, t) := by
  cases arrow with
  | solid => exact ⟨">>".toList ++ t, rfl, by rw [readArrow, strip_append]⟩
  | dashed =>
    refine ⟨"->>".toList ++ t, rfl, ?_⟩
    have hnone : strip ">>".toList ("->>".toList ++ t) = none :=
      strip_eq_none fun h => absurd (List.cons_prefix_cons.mp h).1 (by decide)
    rw [readArrow, hnone]
    exact congrArg (Option.map _) (strip_append "->>".toList t)

/-- A message is read.

**Proof sketch.** The line is the indentation, the sender, the arrow, the receiver, a colon and the
label. The sender has no minus sign, so it ends where the arrow begins; the receiver has no colon.
It is no line of a participant, as the word for these has a blank after it and an id has none. -/
lemma legible_message {fromId toId label : String} (arrow : Arrow)
    (hfrom : Without [' ', '-', '\n'] fromId) (hto : Without [':', '\n'] toId)
    (hlabel : Without ['\n'] label) : format.Legible (.message fromId arrow toId label) := by
  obtain ⟨r, hr, harrow⟩ :=
    readArrow_append arrow (toId.toList ++ ':' :: (" ".toList ++ label.toList))
  have hlist : (Line.message fromId arrow toId label).render.toList =
      "    ".toList ++ (fromId.toList ++ '-' :: r) := by
    have hcolon : ": ".toList = ':' :: " ".toList := rfl
    change ("    " ++ fromId ++ arrow.text ++ toId ++ ": " ++ label).toList = _
    rw [← hr, String.toList_append, String.toList_append, String.toList_append,
      String.toList_append, String.toList_append, hcolon, List.append_assoc, List.append_assoc,
      List.append_assoc, List.append_assoc, List.cons_append]
  refine ⟨?_, ?_⟩
  · change '\n' ∉ (Line.message fromId arrow toId label).render.toList
    rw [hlist, ← hr]
    have hfrom' : '\n' ∉ fromId.toList := hfrom '\n' (by simp)
    have hto' : '\n' ∉ toId.toList := hto '\n' (by simp)
    have hlabel' : '\n' ∉ label.toList := hlabel '\n' (by simp)
    have harrow' : '\n' ∉ arrow.text.toList := by cases arrow <;> decide
    simp [hfrom', hto', hlabel', harrow']
  · change readLine (Line.message fromId arrow toId label).render.toList = _
    rw [hlist]
    refine (readLine_indented (t := "   ".toList ++ (fromId.toList ++ '-' :: r))).trans ?_
    -- an id has no blank, so it does not go on with the word for participants
    have hnot : strip "    participant ".toList
        (' ' :: ("   ".toList ++ (fromId.toList ++ '-' :: r))) = none := by
      refine strip_eq_none fun h => ?_
      have hprefix : "participant ".toList <+: fromId.toList ++ '-' :: r :=
        (List.prefix_append_right_inj "    ".toList).mp h
      exact not_prefix_of_notMem (b := ' ') (by decide) (hfrom ' ' (by simp)) (by decide) hprefix
    have hstrip : strip "    ".toList (' ' :: ("   ".toList ++ (fromId.toList ++ '-' :: r))) =
        some (fromId.toList ++ '-' :: r) := strip_append "    ".toList _
    rw [hnot, hstrip]
    dsimp only
    rw [Option.bind_some, readMessage, cut_append (hfrom '-' (by simp)), Option.bind_some]
    dsimp only
    rw [harrow, Option.bind_some]
    dsimp only
    rw [cut_append (hto ':' (by simp)), Option.bind_some]
    dsimp only
    rw [strip_append]
    simp

/-- **Every line of a plain diagram is read as what it says.** -/
lemma legible_of_plain {data : SequenceData} (h : Plain data) :
    ∀ line ∈ lines data, format.Legible line := by
  intro line hline
  simp only [lines, List.mem_append, List.mem_map, List.mem_cons, List.not_mem_nil,
    or_false] at hline
  rcases hline with ((((rfl | rfl) | ⟨actor, hactor, rfl⟩) | rfl) | ⟨msg, hmsg, rfl⟩) | rfl
  · exact ⟨by decide, by decide⟩
  · exact ⟨by decide, by decide⟩
  · exact legible_participant (h.actors actor hactor).1 (h.actors actor hactor).2
  · exact ⟨by decide, by decide⟩
  · obtain ⟨hfrom, hto, hlabel⟩ := h.messages msg hmsg
    exact legible_message _ hfrom hto hlabel
  · exact ⟨by decide, by decide⟩

/-- The lines show what is drawn. -/
lemma participantsOf_lines (data : SequenceData) :
    participantsOf (lines data) = (drawingOf data).participants := by
  simp [participantsOf, lines, drawingOf, List.filterMap_append, List.filterMap_map]

/-- The lines show the messages. -/
lemma messagesOf_lines (data : SequenceData) :
    messagesOf (lines data) = (drawingOf data).messages := by
  simp [messagesOf, lines, drawingOf, List.filterMap_append, List.filterMap_map]

/-- **Reading a diagram back.** The text shows every actor with its name, and every message with
where it comes from and goes to, its label and its kind of line, in the order of the data. -/
theorem read_generateMermaidSequence (data : SequenceData) (h : Plain data) :
    readDrawing (generateMermaidSequence data) = some (drawingOf data) := by
  have hne : lines data ≠ [] := by simp [lines]
  have hparse : format.parse (generateMermaidSequence data) = some (lines data) :=
    LineFormat.parse_write (F := format) hne (legible_of_plain h)
  rw [readDrawing, hparse, Option.map_some, participantsOf_lines, messagesOf_lines]

/-- Two calls and a response. -/
theorem read_login :
    readDrawing (generateMermaidSequence
      ⟨[⟨"user", "사용자", "user"⟩, ⟨"api", "API Server", "backend"⟩],
        [⟨"m1", "user", "api", "POST /auth/login", "sync"⟩,
          ⟨"m2", "api", "user", "JWT: token", "response"⟩]⟩) =
      some ⟨[("user", "사용자"), ("api", "API Server")],
        [("user", .solid, "api", "POST /auth/login"), ("api", .dashed, "user", "JWT: token")]⟩ :=
  read_generateMermaidSequence _ ⟨by decide, by decide⟩

end SequenceDiagram
