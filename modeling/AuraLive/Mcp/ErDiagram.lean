import AuraLive.Foundations.LineFormat
import AuraLive.VoiceBot.State
import Mathlib.Data.List.DropRight

set_option relaxedAutoImplicit false
set_option autoImplicit false

/-!
# Entity relationship diagrams

`generateMermaidERD` of `mcp/tools/erd.tool.ts` writes tables and relations as a Mermaid diagram.
What the diagram says can be read back, except for a few letters of the types of columns.

## Main definitions

* `ErDiagram.lines`, `generateMermaidERD` — the lines of a diagram, and its text.
* `ErDiagram.readLine` — what is read of a line.
* `ErDiagram.Drawing` — what a diagram shows.
* `ErDiagram.Plain` — names that do not look like something else.

## Main results

* `ErDiagram.legible_of_plain` — every line is read as what it says.
* `ErDiagram.read_generateMermaidERD` — so the diagram shows the tables with their columns and keys,
  and the relations.

## Design

A column that is a primary key is not marked as a foreign one. The texts of the lines are kept apart
from what is read of them, since the voice bot writes the same diagrams in another way.
-/

namespace ErDiagram

open Foundations VoiceBot

/-! ## The data -/

/-- `ERDColumn`. -/
structure ERDColumn where
  name : String
  type : String
  pk : Option Bool
  fk : Option String
  nullable : Option Bool

/-- `ERDTable`. -/
structure ERDTable where
  name : String
  columns : List ERDColumn

/-- `ERDRelation`. -/
structure ERDRelation where
  fromTable : String
  toTable : String
  type : String
  label : Option String

/-- `ERDData`. -/
structure ERDData where
  tables : List ERDTable
  relations : List ERDRelation

/-! ## The diagram -/

/-- The key that a column is. -/
inductive Key where
  | none
  | primary
  | foreign
  deriving DecidableEq

/-- `pkMark`. -/
def Key.mark : Key → String
  | .none => ""
  | .primary => "PK"
  | .foreign => "FK"

/-- How many rows of one table belong to how many of another. -/
inductive Cardinality where
  | oneToOne
  | oneToMany
  | manyToMany
  deriving DecidableEq

/-- `relSymbol`. -/
def Cardinality.symbol : Cardinality → String
  | .oneToOne => "||--||"
  | .oneToMany => "||--o\x7b"
  | .manyToMany => "\x7do--o\x7b"

/-- A line of the diagram. -/
inductive Line where
  | fence
  | header
  | entity (name : String)
  | column (type name : String) (key : Key) (nullable : Bool)
  | close
  | blank
  | relation (fromName : String) (cardinality : Cardinality) (toName label : String)
  | fenceEnd
  deriving DecidableEq

/-- `text.trimEnd()`. -/
def trimEnd (text : String) : String := String.ofList (text.toList.rdropWhile isJsSpace)

/-- `nullMark`. -/
def nullMark (nullable : Bool) : String := if nullable then "\"nullable\"" else ""

/-- The text of a line. -/
def Line.render : Line → String
  | fence => "```mermaid"
  | header => "erDiagram"
  | entity name => "    " ++ name ++ " \x7b"
  | column type name key nullable =>
    trimEnd ("        " ++ type ++ " " ++ name ++ " " ++ key.mark ++ " " ++ nullMark nullable)
  | close => "    \x7d"
  | blank => ""
  | relation fromName cardinality toName label =>
    "    " ++ fromName ++ " " ++ cardinality.symbol ++ " " ++ toName ++ " : \"" ++ label ++ "\""
  | fenceEnd => "```"

/-- `type.replace(/[(),]/g, '_')`. -/
def safeType (type : String) : String :=
  String.ofList (type.toList.map fun c => if c = '(' ∨ c = ')' ∨ c = ',' then '_' else c)

/-- The key of a column. -/
def ERDColumn.key (col : ERDColumn) : Key :=
  if col.pk = some true then .primary
  else if (truthyText col.fk).isSome then .foreign
  else .none

/-- The line of a column. -/
def ERDColumn.line (col : ERDColumn) : Line :=
  .column (safeType col.type) col.name col.key (col.nullable ≠ some false)

/-- The cardinality of a type of relations. -/
def cardinalityOf (type : String) : Cardinality :=
  match type with
  | "1:1" => .oneToOne
  | "1:N" => .oneToMany
  | "N:M" => .manyToMany
  | _ => .oneToOne

/-- The lines of a table. -/
def tableLines (table : ERDTable) : List Line :=
  .entity table.name :: (table.columns.map ERDColumn.line ++ [.close])

/-- The line of a relation. -/
def ERDRelation.line (rel : ERDRelation) : Line :=
  .relation rel.fromTable (cardinalityOf rel.type) rel.toTable (rel.label.getD "")

/-- The lines of a diagram. -/
def lines (data : ERDData) : List Line :=
  [.fence, .header] ++ data.tables.flatMap tableLines ++ [.blank] ++
    data.relations.map ERDRelation.line ++ [.fenceEnd]

/-- `generateMermaidERD`. -/
def generateMermaidERD (data : ERDData) : String :=
  "\n".intercalate ((lines data).map Line.render)

/-! ## Reading -/

/-- The key of a mark. -/
def readKey (t : List Char) : Option Key :=
  if t = [] then some .none
  else if t = ['P', 'K'] then some .primary
  else if t = ['F', 'K'] then some .foreign
  else none

/-- What is read of a column. -/
def readColumn (t : List Char) : Option Line :=
  match t.splitOn ' ' with
  | [type, name] => some (.column (String.ofList type) (String.ofList name) .none false)
  | [type, name, mark] => (readKey mark).map fun key =>
    .column (String.ofList type) (String.ofList name) key false
  | [type, name, mark, null] =>
    if null = "\"nullable\"".toList then (readKey mark).map fun key =>
      .column (String.ofList type) (String.ofList name) key true
    else none
  | _ => none

/-- The cardinality of a symbol. -/
def readSymbol (t : List Char) : Option Cardinality :=
  if t = Cardinality.oneToOne.symbol.toList then some .oneToOne
  else if t = Cardinality.oneToMany.symbol.toList then some .oneToMany
  else if t = Cardinality.manyToMany.symbol.toList then some .manyToMany
  else none

/-- A label, up to the quotation mark at the end. -/
def readLabel (t : List Char) : Option String :=
  if t.getLast? = some '"' then some (String.ofList t.dropLast) else none

/-- What is read of a relation, after where it comes from. -/
def readRelation (fromName t : List Char) : Option Line :=
  (cut ' ' t).bind fun (symbol, rest) =>
    (readSymbol symbol).bind fun cardinality =>
      (cut ' ' rest).bind fun (toName, rest) =>
        ((strip [':', ' ', '"'] rest).bind readLabel).map fun label =>
          .relation (String.ofList fromName) cardinality (String.ofList toName) label

/-- What is read of a line, after its indentation. -/
def readIndented (t : List Char) : Option Line :=
  if t = ['\x7d'] then some .close
  else
    (cut ' ' t).bind fun (name, rest) =>
      if rest = ['\x7b'] then some (.entity (String.ofList name)) else readRelation name rest

/-- What is read of a line. -/
def readLine (t : List Char) : Option Line :=
  if t = [] then some .blank
  else if t = "```mermaid".toList then some .fence
  else if t = "erDiagram".toList then some .header
  else if t = "```".toList then some .fenceEnd
  else
    match strip "        ".toList t with
    | some rest => readColumn rest
    | none => (strip "    ".toList t).bind readIndented

/-- The format of the diagrams. -/
def format : LineFormat Line := ⟨Line.render, readLine⟩

/-- A column that is shown. -/
structure ShownColumn where
  type : String
  name : String
  key : Key
  nullable : Bool
  deriving DecidableEq

/-- An entity that is shown. -/
structure ShownEntity where
  name : String
  columns : List ShownColumn
  deriving DecidableEq

/-- What a diagram shows. -/
structure Drawing where
  entities : List ShownEntity
  /-- Where the relations come from, how many belong to how many, where they go to, and their
  labels. -/
  relations : List (String × Cardinality × String × String)
  deriving DecidableEq

/-- A line is added to the columns and the entities after it. -/
def gather (line : Line) (after : List ShownColumn × List ShownEntity) :
    List ShownColumn × List ShownEntity :=
  match line with
  | .column type name key nullable => (⟨type, name, key, nullable⟩ :: after.1, after.2)
  | .entity name => ([], ⟨name, after.1⟩ :: after.2)
  | .close => ([], after.2)
  | _ => after

/-- The entities of some lines. -/
def entitiesOf (lines : List Line) : List ShownEntity := (lines.foldr gather ([], [])).2

/-- The relations of some lines. -/
def relationsOf (lines : List Line) : List (String × Cardinality × String × String) :=
  lines.filterMap fun line =>
    match line with
    | .relation fromName cardinality toName label => some (fromName, cardinality, toName, label)
    | _ => none

/-- What is read from a diagram. -/
def readDrawing (text : String) : Option Drawing :=
  (format.parse text).map fun lines => ⟨entitiesOf lines, relationsOf lines⟩

/-- What is drawn of a column. -/
def ERDColumn.shown (col : ERDColumn) : ShownColumn :=
  ⟨safeType col.type, col.name, col.key, col.nullable ≠ some false⟩

/-- What is drawn of the data. -/
def drawingOf (data : ERDData) : Drawing where
  entities := data.tables.map fun table => ⟨table.name, table.columns.map ERDColumn.shown⟩
  relations := data.relations.map fun rel =>
    (rel.fromTable, cardinalityOf rel.type, rel.toTable, rel.label.getD "")

/-! ## Lines that can be read -/

/-- A text without white space. -/
def Solid (s : String) : Prop := ∀ c ∈ s.toList, isJsSpace c = false

instance (s : String) : Decidable (Solid s) :=
  List.decidableBAll (fun c => isJsSpace c = false) s.toList

/-- No name or type has white space, no column is without a name, and no label has a line feed. -/
structure Plain (data : ERDData) : Prop where
  tables : ∀ table ∈ data.tables, Solid table.name ∧
    ∀ col ∈ table.columns, Solid col.type ∧ Solid col.name ∧ col.name ≠ ""
  relations : ∀ rel ∈ data.relations, Solid rel.fromTable ∧ Solid rel.toTable ∧
    '\n' ∉ (rel.label.getD "").toList

/-- A text without white space has no blank. -/
lemma Solid.blank {s : String} (h : Solid s) : ' ' ∉ s.toList := fun hmem => by
  have := h ' ' hmem
  simp [isJsSpace] at this

/-- A text without white space has no line feed. -/
lemma Solid.lineFeed {s : String} (h : Solid s) : '\n' ∉ s.toList := fun hmem => by
  have := h '\n' hmem
  simp [isJsSpace] at this

/-- An indented line is none of those that are not. -/
lemma readLine_indented {t : List Char} :
    readLine (' ' :: t) =
      match strip "        ".toList (' ' :: t) with
      | some rest => readColumn rest
      | none => (strip "    ".toList (' ' :: t)).bind readIndented := by
  have hfence : ' ' :: t ≠ "```mermaid".toList := fun h => by cases h
  have hheader : ' ' :: t ≠ "erDiagram".toList := fun h => by cases h
  have hend : ' ' :: t ≠ "```".toList := fun h => by cases h
  rw [readLine, if_neg (List.cons_ne_nil _ _), if_neg hfence, if_neg hheader, if_neg hend]

/-- A line that is indented once. -/
lemma readLine_once {t : List Char} (h : ¬ "    ".toList <+: t) :
    readLine ("    ".toList ++ t) = readIndented t := by
  refine (readLine_indented (t := "   ".toList ++ t)).trans ?_
  have hnot : strip "        ".toList (' ' :: ("   ".toList ++ t)) = none :=
    strip_eq_none fun hprefix => h ((List.prefix_append_right_inj "    ".toList).mp hprefix)
  have hstrip : strip "    ".toList (' ' :: ("   ".toList ++ t)) = some t :=
    strip_append "    ".toList t
  rw [hnot, hstrip]
  rfl

/-- A line that is indented twice. -/
lemma readLine_twice (t : List Char) : readLine ("        ".toList ++ t) = readColumn t := by
  refine (readLine_indented (t := "       ".toList ++ t)).trans ?_
  have hstrip : strip "        ".toList (' ' :: ("       ".toList ++ t)) = some t :=
    strip_append "        ".toList t
  rw [hstrip]

/-- A word is not the indentation of a line. -/
lemma not_indentation {w t : List Char} (h : ' ' ∉ w) (hne : w = [] → ¬ "   ".toList <+: t) :
    ¬ "    ".toList <+: w ++ ' ' :: t := by
  cases w with
  | nil => exact fun hprefix => hne rfl (List.cons_prefix_cons.mp hprefix).2
  | cons c w =>
    intro hprefix
    obtain rfl := (List.cons_prefix_cons.mp hprefix).1
    exact h List.mem_cons_self

/-- A line that is one, and is read as what it says. -/
lemma legible_of {line : Line} (hline : '\n' ∉ line.render.toList)
    (hread : readLine line.render.toList = some line) : format.Legible line := ⟨hline, hread⟩

/-- The line of an entity is read. -/
lemma legible_entity {name : String} (h : Solid name) : format.Legible (.entity name) := by
  have hlist : (Line.entity name).render.toList =
      "    ".toList ++ (name.toList ++ ' ' :: ['\x7b']) := by
    have hbrace : " \x7b".toList = ' ' :: ['\x7b'] := rfl
    change ("    " ++ name ++ " \x7b").toList = _
    rw [String.toList_append, String.toList_append, hbrace, List.append_assoc]
  refine legible_of ?_ ?_
  · rw [hlist]
    simp [h.lineFeed]
  · rw [hlist, readLine_once (not_indentation h.blank fun _ => by decide), readIndented]
    have hclose : name.toList ++ ' ' :: ['\x7b'] ≠ ['\x7d'] := by
      intro heq
      have hmem : ' ' ∈ name.toList ++ ' ' :: ['\x7b'] := by simp
      rw [heq] at hmem
      exact absurd hmem (by decide)
    rw [if_neg hclose, cut_append h.blank, Option.bind_some]
    dsimp only
    rw [if_pos rfl, String.ofList_toList]

/-! ### Columns -/

/-- A letter that is neither in the separator nor in a part. -/
lemma notMem_intercalate {c : Char} {sep : List Char} {parts : List (List Char)} (hsep : c ∉ sep)
    (h : ∀ w ∈ parts, c ∉ w) : c ∉ sep.intercalate parts := by
  induction parts with
  | nil => simp
  | cons w parts ih =>
    obtain ⟨hw, hparts⟩ := List.forall_mem_cons.mp h
    cases parts with
    | nil => simpa using hw
    | cons v parts => simpa [List.intercalate_cons_cons, hsep, hw] using ih hparts

/-- White space at the end goes, and nothing before the last other letter. -/
lemma rdropWhile_append {x b : List Char} {c : Char} (hb : ∀ c ∈ b, isJsSpace c = true)
    (hc : isJsSpace c = false) : (x ++ [c] ++ b).rdropWhile isJsSpace = x ++ [c] := by
  induction b using List.reverseRecOn with
  | nil => rw [List.append_nil, List.rdropWhile_concat_neg _ _ _ (by simp [hc])]
  | append_singleton b d ih =>
    rw [← List.append_assoc, List.rdropWhile_concat_pos _ _ _ (hb d (by simp))]
    exact ih fun e he => hb e (List.mem_append_left _ he)

/-- What is left of the marks of a column. -/
def marks (key : Key) (nullable : Bool) : List (List Char) :=
  if nullable then [key.mark.toList, (nullMark true).toList]
  else if key = .none then []
  else [key.mark.toList]

/-- The marks have no blanks and no line feeds. -/
lemma marks_solid {key : Key} {nullable : Bool} :
    ∀ w ∈ marks key nullable, ' ' ∉ w ∧ '\n' ∉ w := by
  cases key <;> cases nullable <;> decide

/-- The words of a column, with a blank between each two. -/
lemma toList_render_column (type : String) {name : String} (key : Key) (nullable : Bool)
    (h : Solid name) (hne : name ≠ "") :
    (Line.column type name key nullable).render.toList = "        ".toList ++
      [' '].intercalate (type.toList :: name.toList :: marks key nullable) := by
  have hlist : (Line.column type name key nullable).render.toList =
      ("        ".toList ++ (type.toList ++ ' ' :: (name.toList ++ ' ' :: (key.mark.toList ++
        ' ' :: (nullMark nullable).toList)))).rdropWhile isJsSpace := by
    have hblank : " ".toList = [' '] := rfl
    change (trimEnd ("        " ++ type ++ " " ++ name ++ " " ++ key.mark ++ " " ++
      nullMark nullable)).toList = _
    rw [trimEnd, String.toList_ofList]
    refine congrArg (List.rdropWhile isJsSpace) ?_
    simp only [String.toList_append, hblank, List.append_assoc, List.cons_append, List.nil_append]
  obtain ⟨n, c, hn⟩ : ∃ n c, name.toList = n ++ [c] := by
    have hne' : name.toList ≠ [] := fun heq => hne (String.toList_inj.mp heq)
    exact ⟨name.toList.dropLast, name.toList.getLast hne', (List.dropLast_append_getLast hne').symm⟩
  have hc : isJsSpace c = false := h c (by simp [hn])
  rw [hlist, hn]
  -- the last letter that stays is that of the name, of the mark or of the word `nullable`
  cases nullable with
  | false =>
    cases key with
    | none =>
      have := rdropWhile_append (x := "        ".toList ++ (type.toList ++ ' ' :: n)) (c := c)
        (b := [' ', ' ']) (by simp [isJsSpace]) hc
      simpa [marks, Key.mark, nullMark] using this
    | primary =>
      have := rdropWhile_append (x := "        ".toList ++ (type.toList ++ ' ' ::
        (n ++ [c, ' ', 'P']))) (c := 'K') (b := [' ']) (by simp [isJsSpace]) (by decide)
      simpa [marks, Key.mark, nullMark] using this
    | foreign =>
      have := rdropWhile_append (x := "        ".toList ++ (type.toList ++ ' ' ::
        (n ++ [c, ' ', 'F']))) (c := 'K') (b := [' ']) (by simp [isJsSpace]) (by decide)
      simpa [marks, Key.mark, nullMark] using this
  | true =>
    have := rdropWhile_append (x := "        ".toList ++ (type.toList ++ ' ' ::
      (n ++ [c] ++ ' ' :: (key.mark.toList ++ ' ' :: "\"nullable".toList)))) (c := '"') (b := [])
      (by simp) (by decide)
    simpa [marks, nullMark] using this

/-- A mark is read as its key. -/
lemma readKey_mark (key : Key) : readKey key.mark.toList = some key := by
  cases key <;> decide

/-- The words of a column are read. -/
lemma readColumn_words {type name : String} (key : Key) (nullable : Bool) (htype : Solid type)
    (hname : Solid name) :
    readColumn ([' '].intercalate (type.toList :: name.toList :: marks key nullable)) =
      some (.column type name key nullable) := by
  have hwords : ∀ w ∈ type.toList :: name.toList :: marks key nullable, ' ' ∉ w := by
    intro w hw
    obtain rfl | rfl | hw : w = type.toList ∨ w = name.toList ∨ w ∈ marks key nullable := by
      simpa using hw
    · exact htype.blank
    · exact hname.blank
    · exact (marks_solid w hw).1
  rw [readColumn, List.splitOn_intercalate ' ' hwords (List.cons_ne_nil _ _)]
  cases nullable with
  | true =>
    dsimp only [marks, nullMark]
    rw [if_pos rfl]
    dsimp only
    rw [if_pos rfl, if_pos rfl, readKey_mark]
    simp
  | false =>
    cases key with
    | none => simp [marks]
    | primary => simp [marks, readKey_mark]
    | foreign => simp [marks, readKey_mark]

/-- The line of a column is read. -/
lemma legible_column {type name : String} (key : Key) (nullable : Bool) (htype : Solid type)
    (hname : Solid name) (hne : name ≠ "") : format.Legible (.column type name key nullable) := by
  have hlist := toList_render_column type key nullable hname hne
  refine legible_of ?_ ?_
  · rw [hlist]
    have hmarks : ∀ w ∈ marks key nullable, '\n' ∉ w := fun w hw => (marks_solid w hw).2
    have hword : ∀ w ∈ type.toList :: name.toList :: marks key nullable, '\n' ∉ w := by
      simpa [htype.lineFeed, hname.lineFeed] using hmarks
    exact fun hmem => (List.mem_append.mp hmem).elim (absurd · (by decide))
      (notMem_intercalate (by decide) hword)
  · rw [hlist, readLine_twice, readColumn_words key nullable htype hname]

/-! ### Relations -/

/-- A cardinality is read, and has no blank. -/
lemma symbol_spec (cardinality : Cardinality) :
    readSymbol cardinality.symbol.toList = some cardinality ∧
      ' ' ∉ cardinality.symbol.toList ∧ '\n' ∉ cardinality.symbol.toList := by
  cases cardinality <;> decide

/-- A label is read up to its quotation mark. -/
lemma readLabel_append (label : String) :
    readLabel (label.toList ++ ['"']) = some label := by
  simp [readLabel]

/-- The line of a relation is read.

**Proof sketch.** The line is the indentation, a name, the symbol, a name and the label in quotation
marks, with blanks between them. It is cut at the first blank three times, as neither names nor
symbols have one. The line of an entity ends after its name with a brace, so this is none. -/
lemma legible_relation {fromName toName label : String} (cardinality : Cardinality)
    (hfrom : Solid fromName) (hto : Solid toName) (hlabel : '\n' ∉ label.toList) :
    format.Legible (.relation fromName cardinality toName label) := by
  obtain ⟨hsymbol, hblank, hfeed⟩ := symbol_spec cardinality
  have hlist : (Line.relation fromName cardinality toName label).render.toList = "    ".toList ++
      (fromName.toList ++ ' ' :: (cardinality.symbol.toList ++ ' ' :: (toName.toList ++ ' ' ::
        ([':', ' ', '"'] ++ (label.toList ++ ['"']))))) := by
    have hspace : " ".toList = [' '] := rfl
    have hcolon : " : \"".toList = [' ', ':', ' ', '"'] := rfl
    have hquote : "\"".toList = ['"'] := rfl
    change ("    " ++ fromName ++ " " ++ cardinality.symbol ++ " " ++ toName ++ " : \"" ++ label ++
      "\"").toList = _
    simp only [String.toList_append, hspace, hcolon, hquote, List.append_assoc, List.cons_append,
      List.nil_append]
  refine legible_of ?_ ?_
  · rw [hlist]
    simp [hfrom.lineFeed, hto.lineFeed, hfeed, hlabel]
  · have hindent : fromName.toList = [] → ¬ "   ".toList <+: cardinality.symbol.toList ++ ' ' ::
        (toName.toList ++ ' ' :: ([':', ' ', '"'] ++ (label.toList ++ ['"']))) := by
      intro _
      cases cardinality <;> exact fun h => absurd (List.cons_prefix_cons.mp h).1 (by decide)
    rw [hlist, readLine_once (not_indentation hfrom.blank hindent), readIndented]
    have hclose : fromName.toList ++ ' ' :: (cardinality.symbol.toList ++ ' ' ::
        (toName.toList ++ ' ' :: ([':', ' ', '"'] ++ (label.toList ++ ['"'])))) ≠ ['\x7d'] := by
      intro heq
      have hmem : ' ' ∈ ['\x7d'] := heq ▸ List.mem_append_right _ List.mem_cons_self
      exact absurd hmem (by decide)
    have hentity : cardinality.symbol.toList ++ ' ' :: (toName.toList ++ ' ' ::
        ([':', ' ', '"'] ++ (label.toList ++ ['"']))) ≠ ['\x7b'] := by
      intro heq
      have hmem : ' ' ∈ ['\x7b'] := heq ▸ List.mem_append_right _ List.mem_cons_self
      exact absurd hmem (by decide)
    rw [if_neg hclose, cut_append hfrom.blank, Option.bind_some]
    dsimp only
    rw [if_neg hentity, readRelation, cut_append hblank, Option.bind_some]
    dsimp only
    rw [hsymbol, Option.bind_some, cut_append hto.blank, Option.bind_some]
    dsimp only
    rw [strip_append, Option.bind_some, readLabel_append]
    simp

/-! ## The results -/

/-- The type of a column has no white space after the replacement if it had none before. -/
lemma solid_safeType {type : String} (h : Solid type) : Solid (safeType type) := by
  intro c hc
  obtain ⟨d, hd, rfl⟩ : ∃ d ∈ type.toList,
      (if d = '(' ∨ d = ')' ∨ d = ',' then '_' else d) = c := by
    simpa [safeType] using hc
  split
  · decide
  · exact h d hd

/-- **Every line of a plain diagram is read as what it says.** -/
lemma legible_of_plain {data : ERDData} (h : Plain data) :
    ∀ line ∈ lines data, format.Legible line := by
  intro line hline
  simp only [lines, tableLines, List.mem_append, List.mem_map, List.mem_flatMap, List.mem_cons,
    List.not_mem_nil, or_false] at hline
  rcases hline with ((((rfl | rfl) | ⟨table, htable, hline⟩) | rfl) | ⟨rel, hrel, rfl⟩) | rfl
  · exact legible_of (by decide) (by decide)
  · exact legible_of (by decide) (by decide)
  · obtain ⟨hname, hcolumns⟩ := h.tables table htable
    rcases hline with rfl | ⟨col, hcol, rfl⟩ | rfl
    · exact legible_entity hname
    · obtain ⟨htype, hcolName, hne⟩ := hcolumns col hcol
      exact legible_column _ _ (solid_safeType htype) hcolName hne
    · exact legible_of (by decide) (by decide)
  · exact legible_of (by decide) (by decide)
  · obtain ⟨hfrom, hto, hlabel⟩ := h.relations rel hrel
    exact legible_relation _ hfrom hto hlabel
  · exact legible_of (by decide) (by decide)

/-- The columns before the end of a table are gathered. -/
lemma gather_columns (cols : List ERDColumn) (after : List ShownColumn × List ShownEntity) :
    (cols.map ERDColumn.line).foldr gather after =
      (cols.map ERDColumn.shown ++ after.1, after.2) := by
  induction cols with
  | nil => rfl
  | cons col cols ih =>
    rw [List.map_cons, List.foldr_cons, ih]
    rfl

/-- The tables are gathered. -/
lemma gather_tables (tables : List ERDTable) (after : List ShownEntity) :
    (tables.flatMap tableLines).foldr gather ([], after) =
      ([], (tables.map fun table => ⟨table.name, table.columns.map ERDColumn.shown⟩) ++ after) := by
  induction tables with
  | nil => rfl
  | cons table tables ih =>
    have htable : tableLines table = Line.entity table.name ::
      (table.columns.map ERDColumn.line ++ [.close]) := rfl
    rw [List.flatMap_cons, List.foldr_append, ih, htable, List.foldr_cons, List.foldr_append]
    change gather (.entity table.name) ((table.columns.map ERDColumn.line).foldr gather ([], _)) = _
    rw [gather_columns]
    simp [gather]

/-- Relations are no part of the entities. -/
lemma gather_relations (rels : List ERDRelation) (after : List ShownColumn × List ShownEntity) :
    (rels.map ERDRelation.line).foldr gather after = after := by
  induction rels with
  | nil => rfl
  | cons rel rels ih =>
    rw [List.map_cons, List.foldr_cons, ih]
    rfl

/-- The lines show the tables. -/
lemma entitiesOf_lines (data : ERDData) :
    entitiesOf (lines data) = (drawingOf data).entities := by
  have hlast : [Line.fenceEnd].foldr gather ([], []) = ([], []) := rfl
  rw [entitiesOf, lines, List.foldr_append, hlast, List.foldr_append, gather_relations,
    List.foldr_append, List.foldr_append]
  change (List.foldr gather ((data.tables.flatMap tableLines).foldr gather ([], []))
    [.fence, .header]).2 = _
  rw [gather_tables, List.append_nil]
  rfl

/-- The relations of two groups of lines. -/
lemma relationsOf_append (xs ys : List Line) :
    relationsOf (xs ++ ys) = relationsOf xs ++ relationsOf ys := List.filterMap_append

/-- Tables are no part of the relations. -/
lemma relationsOf_tables (tables : List ERDTable) :
    relationsOf (tables.flatMap tableLines) = [] := by
  refine List.filterMap_eq_nil_iff.mpr fun line hline => ?_
  simp only [tableLines, List.mem_flatMap, List.mem_cons, List.mem_append, List.mem_map,
    List.not_mem_nil, or_false] at hline
  obtain ⟨table, -, rfl | ⟨col, -, rfl⟩ | rfl⟩ := hline <;> rfl

/-- The relations of the lines of relations. -/
lemma relationsOf_relations (rels : List ERDRelation) :
    relationsOf (rels.map ERDRelation.line) = rels.map fun rel =>
      (rel.fromTable, cardinalityOf rel.type, rel.toTable, rel.label.getD "") := by
  rw [relationsOf, List.filterMap_map]
  exact congrFun List.filterMap_eq_map' _

/-- The lines show the relations. -/
lemma relationsOf_lines (data : ERDData) :
    relationsOf (lines data) = (drawingOf data).relations := by
  rw [lines, relationsOf_append, relationsOf_append, relationsOf_append, relationsOf_append,
    relationsOf_tables, relationsOf_relations]
  exact List.append_nil _

/-- **Reading a diagram back.** The text shows every table with its columns in order, the type of a
column after the replacement of brackets and commas, its key and whether it may be empty, and every
relation with its label. -/
theorem read_generateMermaidERD (data : ERDData) (h : Plain data) :
    readDrawing (generateMermaidERD data) = some (drawingOf data) := by
  have hne : lines data ≠ [] := by simp [lines]
  have hparse : format.parse (generateMermaidERD data) = some (lines data) :=
    LineFormat.parse_write (F := format) hne (legible_of_plain h)
  rw [readDrawing, hparse, Option.map_some, entitiesOf_lines, relationsOf_lines]

/-- Users and their orders. -/
theorem read_orders :
    readDrawing (generateMermaidERD
      ⟨[⟨"User", [⟨"id", "uuid", some true, none, none⟩,
          ⟨"email", "varchar(255)", none, none, some false⟩]⟩,
        ⟨"Order", [⟨"userId", "uuid", none, some "User", some false⟩]⟩],
        [⟨"User", "Order", "1:N", some "has"⟩]⟩) =
      some ⟨[⟨"User", [⟨"uuid", "id", .primary, true⟩, ⟨"varchar_255_", "email", .none, false⟩]⟩,
        ⟨"Order", [⟨"uuid", "userId", .foreign, false⟩]⟩],
        [("User", .oneToMany, "Order", "has")]⟩ :=
  read_generateMermaidERD _ ⟨by decide, by decide⟩

end ErDiagram
