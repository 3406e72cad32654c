import AuraLive.Foundations.JsMap
import AuraLive.Foundations.LineFormat
import AuraLive.Foundations.Spacing
import AuraLive.VoiceBot.State

set_option relaxedAutoImplicit false
set_option autoImplicit false

/-!
# Architecture diagrams

`generateMermaidArchitecture` of `mcp/tools/architecture.tool.ts` writes the nodes of an
architecture as a Mermaid flowchart, group by group. A group becomes a subgraph, whose identifier is
the name of the group with underscores in the place of white space. This module has the diagram, a
reader of its text, and the lines that the reader can read.

## Main definitions

* `ArchitectureDiagram.lines`, `generateMermaidArchitecture` — the lines of a diagram, and its text.
* `ArchitectureDiagram.readLine`, `format` — what is read of a line.
* `ArchitectureDiagram.Drawing`, `readDrawing` — what a diagram shows, and what is read of a text.
* `ArchitectureDiagram.IsId`, `IsText` — the words that an id and a name have to be.

## Main results

* `ArchitectureDiagram.wellFormed_of_read` — what is read is well formed.
* `ArchitectureDiagram.legible_node`, `legible_subgraph`, `legible_connection` — what is well formed
  is read as what it says.

## Design

The reader goes by lines. An id goes as far as there is no white space, bracket, bar, quotation mark
or angle bracket, and is no word of the format; a name goes up to a bracket, bar or quotation mark,
as in Mermaid, where nothing is escaped. A group whose name is empty is none.
-/

namespace ArchitectureDiagram

open Foundations VoiceBot

/-! ## The data -/

/-- `ArchNode`. -/
structure ArchNode where
  id : String
  name : String
  type : String
  group : Option String
  deriving DecidableEq

/-- `ArchConnection`. -/
structure ArchConnection where
  fromId : String
  toId : String
  label : Option String
  protocol : Option String
  deriving DecidableEq

/-- `ArchitectureData`. -/
structure ArchitectureData where
  nodes : List ArchNode
  connections : List ArchConnection

/-- The group of a node, unless it is falsy. -/
def ArchNode.groupName (node : ArchNode) : Option String := node.group.filter (· ≠ "")

/-- `getNodeShape`: what is written before and after the name of a node. -/
def getNodeShape (type : String) : String × String :=
  match type with
  | "client" => ("([", "])")
  | "database" => ("[(", ")]")
  | "cache" => ("[(", ")]")
  | "queue" => ("[[", "]]")
  | "loadbalancer" => ("\x7b\x7b", "\x7d\x7d")
  | "external" => ("((", "))")
  | _ => ("[", "]")

/-- `groupName.replace(/\s+/g, '_')`. -/
def safeGroupId (groupName : String) : String :=
  String.ofList (Spacing.collapse isJsSpace '_' false groupName.toList)

/-! ## The diagram -/

/-- A line of the diagram. -/
inductive Line where
  | fence
  | header
  | subgraph (id groupName : String)
  | node (indent id : String) (shape : String × String) (name : String)
  | close
  | blank
  | connection (fromId label toId : String)
  | fenceEnd
  deriving DecidableEq

/-- `labelStr`. -/
def labelStr (label : String) : String := if label = "" then "" else "|" ++ label ++ "|"

/-- The text of a line. -/
def Line.render : Line → String
  | fence => "```mermaid"
  | header => "flowchart TB"
  | subgraph id groupName => "    subgraph " ++ id ++ "[\"" ++ groupName ++ "\"]"
  | node indent id shape name => indent ++ id ++ shape.1 ++ name ++ shape.2
  | close => "    end"
  | blank => ""
  | connection fromId label toId => "    " ++ fromId ++ " -->" ++ labelStr label ++ " " ++ toId
  | fenceEnd => "```"

/-- The line of a node. -/
def ArchNode.line (indent : String) (node : ArchNode) : Line :=
  .node indent node.id (getNodeShape node.type) node.name

/-- `conn.label || conn.protocol || ''`. -/
def ArchConnection.drawnLabel (conn : ArchConnection) : String :=
  if conn.label.getD "" = "" then conn.protocol.getD "" else conn.label.getD ""

/-- The line of a connection. -/
def ArchConnection.line (conn : ArchConnection) : Line :=
  .connection conn.fromId conn.drawnLabel conn.toId

/-- The nodes that have been sorted into groups, and those without one. -/
structure Sorted where
  groups : JsMap String (List ArchNode)
  ungrouped : List ArchNode

/-- A node is put to the others of its group. -/
def Sorted.add (sorted : Sorted) (node : ArchNode) : Sorted :=
  match node.groupName with
  | some group =>
    { sorted with
      groups := sorted.groups.set group ((sorted.groups.get group).getD [] ++ [node]) }
  | none => { sorted with ungrouped := sorted.ungrouped ++ [node] }

/-- The nodes of the data. -/
def sortNodes (nodes : List ArchNode) : Sorted := nodes.foldl Sorted.add ⟨∅, []⟩

/-- The lines of a group. -/
def groupLines (entry : String × List ArchNode) : List Line :=
  .subgraph (safeGroupId entry.1) entry.1 :: (entry.2.map (ArchNode.line "        ") ++ [.close])

/-- The lines of a diagram. -/
def lines (data : ArchitectureData) : List Line :=
  let sorted := sortNodes data.nodes
  [.fence, .header] ++ sorted.groups.entries.flatMap groupLines ++
    sorted.ungrouped.map (ArchNode.line "    ") ++ [.blank] ++
    data.connections.map ArchConnection.line ++ [.fenceEnd]

/-- `generateMermaidArchitecture`. -/
def generateMermaidArchitecture (data : ArchitectureData) : String :=
  "\n".intercalate ((lines data).map Line.render)

/-! ## Reading -/

/-- A bracket of a shape. -/
def isBracket (c : Char) : Bool := "[]()\x7b\x7d".toList.contains c

/-- A letter of an id. -/
def isIdLetter (c : Char) : Bool :=
  !isJsSpace c && !isBracket c && !"|\"<>".toList.contains c

/-- A letter of a name or a label. -/
def isTextLetter (c : Char) : Bool := !isBracket c && !"|\"\n".toList.contains c

/-- A letter of the title of a subgraph. -/
def isTitleLetter (c : Char) : Bool := !"\"\n".toList.contains c

/-- The words of the format. -/
def keywords : List String := ["flowchart", "subgraph", "end"]

/-- The brackets of the shapes. -/
def shapes : List (String × String) :=
  [("([", "])"), ("[(", ")]"), ("[[", "]]"), ("\x7b\x7b", "\x7d\x7d"), ("((", "))"), ("[", "]")]

/-- A text is an id. -/
structure IsId (s : String) : Prop where
  nonempty : s ≠ ""
  letters : s.toList.all isIdLetter = true
  word : s ∉ keywords

/-- A text is a name or a label. -/
structure IsText (s : String) : Prop where
  nonempty : s ≠ ""
  letters : s.toList.all isTextLetter = true

instance decidableIsId (s : String) : Decidable (IsId s) :=
  decidable_of_iff (s ≠ "" ∧ s.toList.all isIdLetter = true ∧ s ∉ keywords)
    ⟨fun ⟨hne, hletters, hword⟩ => ⟨hne, hletters, hword⟩, fun h => ⟨h.1, h.2, h.3⟩⟩

instance decidableIsText (s : String) : Decidable (IsText s) :=
  decidable_of_iff (s ≠ "" ∧ s.toList.all isTextLetter = true)
    ⟨fun ⟨hne, hletters⟩ => ⟨hne, hletters⟩, fun h => ⟨h.1, h.2⟩⟩

/-- An id, and what comes after it. -/
def readId (t : List Char) : Option (String × List Char) :=
  let id := String.ofList (t.takeWhile isIdLetter)
  if id = "" ∨ id ∈ keywords then none else some (id, t.dropWhile isIdLetter)

/-- A name or a label, and what comes after it. -/
def readText (t : List Char) : Option (String × List Char) :=
  let text := String.ofList (t.takeWhile isTextLetter)
  if text = "" then none else some (text, t.dropWhile isTextLetter)

/-- What is read of a subgraph, after the word. -/
def readSubgraph (t : List Char) : Option Line :=
  (readId t).bind fun (id, rest) =>
    (strip ['[', '"'] rest).bind fun rest =>
      if rest.dropWhile isTitleLetter = ['"', ']'] then
        some (.subgraph id (String.ofList (rest.takeWhile isTitleLetter)))
      else none

/-- What is read of a node, after its id. -/
def readNode (indent id : String) (t : List Char) : Option Line :=
  (readText (t.dropWhile isBracket)).bind fun (name, rest) =>
    let shape := (String.ofList (t.takeWhile isBracket), String.ofList rest)
    if shape ∈ shapes then some (.node indent id shape name) else none

/-- What is read of a connection, after its label. -/
def readTarget (fromId label : String) (t : List Char) : Option Line :=
  (readId t).bind fun (toId, rest) =>
    if rest = [] then some (.connection fromId label toId) else none

/-- What is read of a connection, after its arrow. -/
def readConnection (fromId : String) (t : List Char) : Option Line :=
  match strip ['|'] t with
  | some rest => (readText rest).bind fun (label, rest) =>
      (strip ['|', ' '] rest).bind (readTarget fromId label)
  | none => (strip [' '] t).bind (readTarget fromId "")

/-- What is read of a line, after its indentation. -/
def readIndented (indent : String) (t : List Char) : Option Line :=
  let word := t.takeWhile isIdLetter
  let rest := t.dropWhile isIdLetter
  if word = "end".toList then if rest = [] then some .close else none
  else if word = "subgraph".toList then (strip [' '] rest).bind readSubgraph
  else
    (readId t).bind fun (id, rest) =>
      match strip " -->".toList rest with
      | some rest => readConnection id rest
      | none => readNode indent id rest

/-- What is read of a line. -/
def readLine (t : List Char) : Option Line :=
  if t = [] then some .blank
  else if t = "```mermaid".toList then some .fence
  else if t = "flowchart TB".toList then some .header
  else if t = "```".toList then some .fenceEnd
  else readIndented (String.ofList (t.takeWhile (· = ' '))) (t.dropWhile (· = ' '))

/-- The format of the diagrams. -/
def format : LineFormat Line := ⟨Line.render, readLine⟩

/-! ## What a diagram shows -/

/-- A node that is defined, and the subgraphs that it is in, the innermost one first: their
identifiers and titles. -/
structure Definition where
  id : String
  shape : String × String
  name : String
  inside : List (String × String)
  deriving DecidableEq

/-- The nodes that are defined from a place on at which some subgraphs are open. -/
def definitions : List (String × String) → List Line → List Definition
  | _, [] => []
  | inside, .subgraph id groupName :: rest => definitions ((id, groupName) :: inside) rest
  | inside, .close :: rest => definitions inside.tail rest
  | inside, .node _ id shape name :: rest =>
    ⟨id, shape, name, inside⟩ :: definitions inside rest
  | inside, _ :: rest => definitions inside rest

/-- The subgraphs: their identifiers and titles. -/
def subgraphs : List Line → List (String × String) := List.filterMap fun line =>
  match line with
  | .subgraph id groupName => some (id, groupName)
  | _ => none

/-- The connections: where they come from, their labels, and where they go to. -/
def connectionsOf : List Line → List (String × String × String) := List.filterMap fun line =>
  match line with
  | .connection fromId label toId => some (fromId, label, toId)
  | _ => none

/-- What a diagram shows. -/
structure Drawing where
  definitions : List Definition
  subgraphs : List (String × String)
  connections : List (String × String × String)
  deriving DecidableEq

/-- What some lines show. -/
def drawingOf (lines : List Line) : Drawing :=
  ⟨definitions [] lines, subgraphs lines, connectionsOf lines⟩

/-- What is read from a diagram. -/
def readDrawing (text : String) : Option Drawing := (format.parse text).map drawingOf

/-! ## What is read is well formed -/

/-- A line says something that can be written. -/
def WellFormed : Line → Prop
  | .subgraph id groupName => IsId id ∧ groupName.toList.all isTitleLetter = true
  | .node indent id shape name =>
    indent.toList.all (· = ' ') = true ∧ IsId id ∧ shape ∈ shapes ∧ IsText name
  | .connection fromId label toId => IsId fromId ∧ (label = "" ∨ IsText label) ∧ IsId toId
  | _ => True

/-- The letters that are taken. -/
lemma all_takeWhile (p : Char → Bool) (t : List Char) :
    (String.ofList (t.takeWhile p)).toList.all p = true := by
  rw [String.toList_ofList]
  exact List.all_eq_true.mpr fun c hc => List.mem_takeWhile_imp hc

/-- An id that is read is one. -/
lemma isId_of_read {t rest : List Char} {id : String} (h : readId t = some (id, rest)) :
    IsId id := by
  unfold readId at h
  dsimp only at h
  split at h
  · cases h
  · rename_i hnot
    obtain ⟨rfl, -⟩ := Prod.mk.inj (Option.some.inj h)
    exact ⟨fun hempty => hnot (.inl hempty), all_takeWhile _ t, fun hword => hnot (.inr hword)⟩

/-- A name that is read is not empty and can be written in quotes. -/
lemma isText_of_read {t rest : List Char} {text : String} (h : readText t = some (text, rest)) :
    IsText text := by
  unfold readText at h
  dsimp only at h
  split at h
  · cases h
  · rename_i hnot
    obtain ⟨rfl, -⟩ := Prod.mk.inj (Option.some.inj h)
    exact ⟨hnot, all_takeWhile _ t⟩

/-- The beginning of a subgraph that is read is well formed. -/
lemma wellFormed_of_readSubgraph {t : List Char} {line : Line} (h : readSubgraph t = some line) :
    WellFormed line := by
  obtain ⟨⟨id, rest⟩, hid, h⟩ := Option.bind_eq_some_iff.mp h
  obtain ⟨title, -, h⟩ := Option.bind_eq_some_iff.mp h
  split at h
  · obtain rfl := Option.some.inj h
    exact ⟨isId_of_read hid, all_takeWhile _ title⟩
  · cases h

/-- A connection that is read from its target on is well formed if its beginning was. -/
lemma wellFormed_of_readTarget {fromId label : String} {t : List Char} {line : Line}
    (hfrom : IsId fromId) (hlabel : label = "" ∨ IsText label)
    (h : readTarget fromId label t = some line) : WellFormed line := by
  obtain ⟨⟨toId, rest⟩, hid, h⟩ := Option.bind_eq_some_iff.mp h
  dsimp only at h
  split at h
  · obtain rfl := Option.some.inj h
    exact ⟨hfrom, hlabel, isId_of_read hid⟩
  · cases h

/-- A connection that is read is well formed. -/
lemma wellFormed_of_readConnection {fromId : String} {t : List Char} {line : Line}
    (hfrom : IsId fromId) (h : readConnection fromId t = some line) : WellFormed line := by
  unfold readConnection at h
  split at h
  · obtain ⟨⟨label, rest⟩, hlabel, h⟩ := Option.bind_eq_some_iff.mp h
    obtain ⟨target, -, h⟩ := Option.bind_eq_some_iff.mp h
    exact wellFormed_of_readTarget hfrom (.inr (isText_of_read hlabel)) h
  · obtain ⟨target, -, h⟩ := Option.bind_eq_some_iff.mp h
    exact wellFormed_of_readTarget hfrom (.inl rfl) h

/-- **What is read is well formed.** -/
lemma wellFormed_of_read {t : List Char} {line : Line} (h : readLine t = some line) :
    WellFormed line := by
  unfold readLine at h
  split_ifs at h with h₁ h₂ h₃ h₄
  iterate 4
    · obtain rfl := Option.some.inj h
      trivial
  unfold readIndented at h
  dsimp only at h
  split_ifs at h with hend hrest hsubgraph
  · obtain rfl := Option.some.inj h
    trivial
  · obtain ⟨rest, -, h⟩ := Option.bind_eq_some_iff.mp h
    exact wellFormed_of_readSubgraph h
  · obtain ⟨⟨id, rest⟩, hid, h⟩ := Option.bind_eq_some_iff.mp h
    dsimp only at h
    split at h
    · exact wellFormed_of_readConnection (isId_of_read hid) h
    · obtain ⟨⟨name, close⟩, hname, h⟩ := Option.bind_eq_some_iff.mp h
      dsimp only at h
      split at h
      · rename_i hshape
        obtain rfl := Option.some.inj h
        exact ⟨all_takeWhile _ t, isId_of_read hid, hshape, isText_of_read hname⟩
      · cases h

/-! ## What is well formed is read -/

/-- The first letter of a text is the one that it begins with. -/
lemma head?_cons_of {P : Char → Prop} {a : Char} (ha : P a) (t : List Char) :
    ∀ c ∈ (a :: t).head?, P c := by
  intro c hc
  obtain rfl := Option.some.inj hc
  exact ha

/-- The first letter of a text that begins with a word is one of the word. -/
lemma head?_append_of {P : Char → Prop} {w : List Char} (hne : w ≠ []) (hw : ∀ c ∈ w, P c)
    (t : List Char) : ∀ c ∈ (w ++ t).head?, P c := by
  obtain ⟨a, w, rfl⟩ := List.exists_cons_of_ne_nil hne
  exact head?_cons_of (hw a List.mem_cons_self) (w ++ t)

/-- Brackets are no letters of ids, names or arrows. -/
lemma bracket_spec {c : Char} (h : isBracket c = true) :
    isIdLetter c = false ∧ isTextLetter c = false ∧ c ≠ ' ' ∧ c ≠ '\n' := by
  refine ⟨by simp [isIdLetter, h], by simp [isTextLetter, h], ?_, ?_⟩
  · rintro rfl
    exact absurd h (by decide)
  · rintro rfl
    exact absurd h (by decide)

/-- The shapes consist of brackets. -/
lemma shapes_spec : ∀ shape ∈ shapes, shape.1.toList ≠ [] ∧ shape.2.toList ≠ [] ∧
    shape.1.toList.all isBracket = true ∧ shape.2.toList.all isBracket = true := by
  decide

/-- The letters of an id. -/
lemma IsId.mem {s : String} (h : IsId s) : ∀ c ∈ s.toList, isIdLetter c = true :=
  List.all_eq_true.mp h.letters

/-- The letters of a name. -/
lemma IsText.mem {s : String} (h : IsText s) : ∀ c ∈ s.toList, isTextLetter c = true :=
  List.all_eq_true.mp h.letters

/-- An id is written with letters. -/
lemma IsId.ne_nil {s : String} (h : IsId s) : s.toList ≠ [] :=
  fun heq => h.nonempty (String.toList_inj.mp heq)

/-- A name is written with letters. -/
lemma IsText.ne_nil {s : String} (h : IsText s) : s.toList ≠ [] :=
  fun heq => h.nonempty (String.toList_inj.mp heq)

/-- An id is read as far as it goes. -/
lemma readId_append {id : String} (h : IsId id) {t : List Char}
    (ht : ∀ c ∈ t.head?, isIdLetter c = false) : readId (id.toList ++ t) = some (id, t) := by
  obtain ⟨htake, hdrop⟩ := span_append h.mem ht
  rw [readId, htake, hdrop, String.ofList_toList, if_neg (not_or.mpr ⟨h.nonempty, h.word⟩)]

/-- A name is read as far as it goes. -/
lemma readText_append {text : String} (h : IsText text) {t : List Char}
    (ht : ∀ c ∈ t.head?, isTextLetter c = false) :
    readText (text.toList ++ t) = some (text, t) := by
  obtain ⟨htake, hdrop⟩ := span_append h.mem ht
  rw [readText, htake, hdrop, String.ofList_toList, if_neg h.nonempty]

/-- A line is read without its indentation. -/
lemma readLine_indent {blanks t : List Char} (hblanks : ∀ c ∈ blanks, c = ' ')
    (ht : ∀ c ∈ t.head?, c ≠ ' ') :
    readLine (' ' :: blanks ++ t) = readIndented (String.ofList (' ' :: blanks)) t := by
  have hall : ∀ c ∈ ' ' :: blanks, decide (c = ' ') = true := by
    intro c hc
    rcases List.mem_cons.mp hc with rfl | hc
    · rfl
    · exact decide_eq_true (hblanks c hc)
  obtain ⟨htake, hdrop⟩ := span_append (q := (· = ' ')) hall fun c hc => decide_eq_false (ht c hc)
  have hfence : ' ' :: blanks ++ t ≠ "```mermaid".toList := fun h => by cases h
  have hheader : ' ' :: blanks ++ t ≠ "flowchart TB".toList := fun h => by cases h
  have hend : ' ' :: blanks ++ t ≠ "```".toList := fun h => by cases h
  have hnil : ' ' :: blanks ++ t ≠ [] := fun h => by cases h
  rw [readLine, if_neg hnil, if_neg hfence, if_neg hheader, if_neg hend, htake, hdrop]

/-- A line that begins with an id. -/
lemma readIndented_id {id : String} (h : IsId id) {t : List Char} (indent : String)
    (ht : ∀ c ∈ t.head?, isIdLetter c = false) :
    readIndented indent (id.toList ++ t) =
      match strip " -->".toList t with
      | some rest => readConnection id rest
      | none => readNode indent id t := by
  obtain ⟨htake, hdrop⟩ := span_append h.mem ht
  have hend : id.toList ≠ "end".toList := fun heq =>
    h.word (String.toList_inj.mp heq ▸ by decide)
  have hsubgraph : id.toList ≠ "subgraph".toList := fun heq =>
    h.word (String.toList_inj.mp heq ▸ by decide)
  rw [readIndented, htake, if_neg hend, if_neg hsubgraph, readId_append h ht]
  rfl

/-- Indented by four blanks. -/
lemma readLine_four {t : List Char} (ht : ∀ c ∈ t.head?, c ≠ ' ') :
    readLine ("    ".toList ++ t) = readIndented "    " t := by
  have hblanks : ∀ c ∈ "   ".toList, c = ' ' := by simp
  exact readLine_indent hblanks ht

/-- No letter of an id is a blank. -/
lemma ne_blank_of_idLetter {c : Char} (h : isIdLetter c = true) : c ≠ ' ' := by
  rintro rfl
  exact absurd h (by decide)

/-- An id has no line feed. -/
lemma IsId.lineFeed {s : String} (h : IsId s) : '\n' ∉ s.toList := fun hmem =>
  absurd (h.mem _ hmem) (by decide)

/-- A name has no line feed. -/
lemma IsText.lineFeed {s : String} (h : IsText s) : '\n' ∉ s.toList := fun hmem =>
  absurd (h.mem _ hmem) (by decide)

/-- The line of a node is read.

**Proof sketch.** The line is the indentation, the id, the opening brackets, the name and the
closing ones. Each part is read as far as its letters go, since the first letter of the next part is
none of them; and brackets do not begin an arrow. -/
lemma legible_node {indent id name : String} {shape : String × String} {blanks : List Char}
    (hindent : indent.toList = ' ' :: blanks) (hblanks : ∀ c ∈ blanks, c = ' ') (hid : IsId id)
    (hshape : shape ∈ shapes) (hname : IsText name) :
    format.Legible (.node indent id shape name) := by
  obtain ⟨hne, hne', hopen, hclose⟩ := shapes_spec shape hshape
  have hopen : ∀ c ∈ shape.1.toList, isBracket c = true := List.all_eq_true.mp hopen
  have hclose : ∀ c ∈ shape.2.toList, isBracket c = true := List.all_eq_true.mp hclose
  have hlist : (Line.node indent id shape name).render.toList =
      ' ' :: blanks ++ (id.toList ++ (shape.1.toList ++ (name.toList ++ shape.2.toList))) := by
    change (indent ++ id ++ shape.1 ++ name ++ shape.2).toList = _
    simp only [String.toList_append, hindent, List.append_assoc]
  constructor
  · change '\n' ∉ (Line.node indent id shape name).render.toList
    have hfeed : ∀ {w : List Char}, (∀ c ∈ w, isBracket c = true) → '\n' ∉ w :=
      fun hw hmem => (bracket_spec (hw _ hmem)).2.2.2 rfl
    have hblank : '\n' ∉ blanks := fun hmem => absurd (hblanks _ hmem) (by decide)
    rw [hlist]
    simp [hblank, hid.lineFeed, hname.lineFeed, hfeed hopen, hfeed hclose]
  · change readLine (Line.node indent id shape name).render.toList = _
    have hafter : ∀ c ∈ (shape.1.toList ++ (name.toList ++ shape.2.toList)).head?,
        isBracket c = true := head?_append_of hne hopen _
    have harrow : strip " -->".toList (shape.1.toList ++ (name.toList ++ shape.2.toList)) =
        none := by
      refine strip_eq_none fun ⟨t, ht⟩ => ?_
      exact (bracket_spec (hafter ' ' (ht ▸ rfl))).2.2.1 rfl
    have hletter : ∀ c ∈ (name.toList ++ shape.2.toList).head?, isBracket c = false := by
      intro c hc
      have htext := head?_append_of hname.ne_nil hname.mem shape.2.toList c hc
      by_contra hbracket
      rw [(bracket_spec (by simpa using hbracket)).2.1] at htext
      cases htext
    obtain ⟨htake, hdrop⟩ := span_append hopen hletter
    have htext : readText (name.toList ++ shape.2.toList) = some (name, shape.2.toList) := by
      refine readText_append hname fun c hc => (bracket_spec ?_).2.1
      exact hclose c (List.mem_of_mem_head? hc)
    rw [hlist, readLine_indent hblanks fun c hc => ne_blank_of_idLetter
        (head?_append_of hid.ne_nil hid.mem _ c hc),
      readIndented_id hid _ fun c hc => (bracket_spec (hafter c hc)).1, harrow]
    dsimp only
    rw [readNode, htake, hdrop, htext, Option.bind_some]
    dsimp only
    rw [String.ofList_toList, String.ofList_toList, if_pos hshape, ← hindent,
      String.ofList_toList]

/-- The line of a subgraph is read. -/
lemma legible_subgraph {id groupName : String} (hid : IsId id)
    (hname : groupName.toList.all isTitleLetter = true) :
    format.Legible (.subgraph id groupName) := by
  have hletters : ∀ c ∈ groupName.toList, isTitleLetter c = true := List.all_eq_true.mp hname
  have hlist : (Line.subgraph id groupName).render.toList = "    ".toList ++
      ("subgraph".toList ++ ([' '] ++ (id.toList ++ (['[', '"'] ++
        (groupName.toList ++ ['"', ']']))))) := by
    have hword : "    subgraph ".toList = "    ".toList ++ ("subgraph".toList ++ [' ']) := rfl
    have hopen : "[\"".toList = ['[', '"'] := rfl
    have hclose : "\"]".toList = ['"', ']'] := rfl
    change ("    subgraph " ++ id ++ "[\"" ++ groupName ++ "\"]").toList = _
    rw [String.toList_append, String.toList_append, String.toList_append, String.toList_append,
      hword, hopen, hclose]
    simp only [List.append_assoc]
  constructor
  · change '\n' ∉ (Line.subgraph id groupName).render.toList
    have hfeed : '\n' ∉ groupName.toList := fun hmem => absurd (hletters _ hmem) (by decide)
    rw [hlist]
    simp only [List.mem_append, not_or]
    exact ⟨by decide, by decide, by decide, hid.lineFeed, by decide, hfeed, by decide⟩
  · change readLine (Line.subgraph id groupName).render.toList = _
    have hword : "subgraph".toList.all isIdLetter = true := by decide
    obtain ⟨htake, hdrop⟩ := span_append (List.all_eq_true.mp hword)
      (t := [' '] ++ (id.toList ++ (['[', '"'] ++ (groupName.toList ++ ['"', ']']))))
      (head?_cons_of (by decide) _)
    have hend : "subgraph".toList ≠ "end".toList := by decide
    obtain ⟨htitle, hclose⟩ := span_append (q := isTitleLetter) (t := ['"', ']']) hletters
      (head?_cons_of (by decide) _)
    rw [hlist, readLine_four (by exact head?_cons_of (by decide) _), readIndented, htake, hdrop,
      if_neg hend, if_pos rfl, strip_append, Option.bind_some, readSubgraph,
      readId_append hid (by exact head?_cons_of (by decide) _), Option.bind_some]
    dsimp only
    rw [strip_append, Option.bind_some, hclose, if_pos rfl, htitle, String.ofList_toList]

/-- The end of a connection is read. -/
lemma readTarget_toId {toId : String} (h : IsId toId) (fromId label : String) :
    readTarget fromId label toId.toList = some (.connection fromId label toId) := by
  have hread : readId toId.toList = some (toId, []) := by
    have := readId_append h (t := []) fun c hc => by cases hc
    rwa [List.append_nil] at this
  rw [readTarget, hread]
  rfl

/-- The line of a connection is read.

**Proof sketch.** The line is the indentation, the id, the arrow, the label between bars if there is
one, a blank and the other id. Without a label a blank follows the arrow, which is no bar. Each part
is read as far as its letters go. -/
lemma legible_connection {fromId label toId : String} (hfrom : IsId fromId)
    (hlabel : label = "" ∨ IsText label) (hto : IsId toId) :
    format.Legible (.connection fromId label toId) := by
  have hlist : (Line.connection fromId label toId).render.toList = "    ".toList ++
      (fromId.toList ++ (" -->".toList ++ ((labelStr label).toList ++ ' ' :: toId.toList))) := by
    have hblank : " ".toList = [' '] := rfl
    change ("    " ++ fromId ++ " -->" ++ labelStr label ++ " " ++ toId).toList = _
    simp only [String.toList_append, hblank, List.append_assoc, List.cons_append, List.nil_append]
  have hstr : ∀ {text : String}, text ≠ "" →
      (labelStr text).toList = '|' :: (text.toList ++ ['|']) := by
    intro text hne
    have hbar : "|".toList = ['|'] := rfl
    rw [labelStr, if_neg hne, String.toList_append, String.toList_append, hbar]
    rfl
  constructor
  · change '\n' ∉ (Line.connection fromId label toId).render.toList
    rw [hlist]
    rcases hlabel with rfl | htext
    · simp [hfrom.lineFeed, hto.lineFeed, labelStr]
    · simp [hfrom.lineFeed, hto.lineFeed, hstr htext.nonempty, htext.lineFeed]
  · change readLine (Line.connection fromId label toId).render.toList = _
    rw [hlist, readLine_four fun c hc => ne_blank_of_idLetter
        (head?_append_of hfrom.ne_nil hfrom.mem _ c hc),
      readIndented_id hfrom _ (by exact head?_cons_of (by decide) _),
      strip_append]
    dsimp only
    rcases hlabel with rfl | htext
    · have hbar : strip ['|'] ((labelStr "").toList ++ ' ' :: toId.toList) = none :=
        strip_eq_none fun ⟨t, ht⟩ => by cases ht
      have hblank : strip [' '] ((labelStr "").toList ++ ' ' :: toId.toList) = some toId.toList :=
        strip_append [' '] toId.toList
      rw [readConnection, hbar]
      dsimp only
      rw [hblank, Option.bind_some, readTarget_toId hto]
    · have hbar : strip ['|'] ((labelStr label).toList ++ ' ' :: toId.toList) =
          some (label.toList ++ (['|', ' '] ++ toId.toList)) := by
        rw [hstr htext.nonempty]
        have := strip_append ['|'] (label.toList ++ (['|', ' '] ++ toId.toList))
        simpa using this
      rw [readConnection, hbar]
      dsimp only
      rw [readText_append htext (by exact head?_cons_of (by decide) _),
        Option.bind_some]
      dsimp only
      rw [strip_append, Option.bind_some, readTarget_toId hto]

/-- A line whose text is fixed is read. -/
lemma legible_of_fixed {line : Line} (h : line = .fence ∨ line = .header ∨ line = .close ∨
    line = .blank ∨ line = .fenceEnd) : format.Legible line := by
  rcases h with rfl | rfl | rfl | rfl | rfl
  all_goals exact ⟨by decide, by decide⟩

end ArchitectureDiagram
