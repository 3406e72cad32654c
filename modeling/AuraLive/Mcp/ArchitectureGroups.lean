import AuraLive.Mcp.ArchitectureDiagram

set_option relaxedAutoImplicit false
set_option autoImplicit false

/-!
# Groups of architecture diagrams

What is read from the text of an architecture diagram: whether every node is defined once and in the
subgraph of its own group, and which names of groups become the same identifier.

## Main definitions

* `ArchitectureDiagram.KeepsGroupsApart` — each node is in the subgraph of its own group only.
* `ArchitectureDiagram.SameUpToGaps` — names that become the same identifier.
* `ArchitectureDiagram.Writable` — ids and names that can be read where they are written.

## Main results

* `ArchitectureDiagram.sameUpToGaps_iff` — when two names become the same.
* `ArchitectureDiagram.definitions_lines` — every node is defined once, where it belongs.
* `ArchitectureDiagram.legible_of_writable` — the lines of what can be written are read.
* `ArchitectureDiagram.keepsGroupsApart_iff` — which architectures are drawn with groups apart.
-/

namespace ArchitectureDiagram

open Foundations VoiceBot

/-! ## The property -/

/-- What is to be shown of a node: it is defined where it belongs. -/
def place (node : ArchNode) : Definition :=
  ⟨node.id, getNodeShape node.type, node.name,
    (node.groupName.map fun group => (safeGroupId group, group)).toList⟩

/-- What is to be shown of a connection. -/
def ArchConnection.shown (conn : ArchConnection) : String × String × String :=
  (conn.fromId, conn.drawnLabel, conn.toId)

/-- **Groups are kept apart** in a diagram: every node is defined once, in the subgraph of its group
and in no other one, the subgraphs of different groups have different identifiers, and the
connections are drawn in order. -/
structure KeepsGroupsApart (data : ArchitectureData) (drawing : Drawing) : Prop where
  once : ∀ node ∈ data.nodes,
    drawing.definitions.filter (fun d => d.id = node.id) = [place node]
  apart : ∀ s ∈ drawing.subgraphs, ∀ s' ∈ drawing.subgraphs, s.2 ≠ s'.2 → s.1 ≠ s'.1
  connections : drawing.connections = data.connections.map ArchConnection.shown

/-! ## Names that become the same identifier -/

/-- A gap of a name, in front of the rest: an underscore, or all of a run of white space. -/
def IsGap (gap rest : List Char) : Prop :=
  gap = ['_'] ∨ gap ≠ [] ∧ (∀ c ∈ gap, isJsSpace c) ∧ Spacing.Begins isJsSpace rest

/-- Two names are the same except for their gaps. -/
inductive SameUpToGaps : List Char → List Char → Prop
  | nil : SameUpToGaps [] []
  | letter {c : Char} {s t : List Char} (hc : isJsSpace c = false) (h : SameUpToGaps s t) :
      SameUpToGaps (c :: s) (c :: t)
  | gap {g g' s t : List Char} (hg : IsGap g s) (hg' : IsGap g' t) (h : SameUpToGaps s t) :
      SameUpToGaps (g ++ s) (g' ++ t)

/-- A letter is kept. -/
lemma collapse_letter {c : Char} (hc : isJsSpace c = false) (s : List Char) :
    Spacing.collapse isJsSpace '_' false (c :: s) =
      c :: Spacing.collapse isJsSpace '_' false s := by
  simp only [Spacing.collapse, hc, Bool.false_eq_true, if_false]

/-- A gap becomes an underscore. -/
lemma collapse_gap {g s : List Char} (hg : IsGap g s) :
    Spacing.collapse isJsSpace '_' false (g ++ s) =
      '_' :: Spacing.collapse isJsSpace '_' false s := by
  obtain rfl | ⟨hne, hspaces, hbegins⟩ := hg
  · rfl
  · rw [Spacing.collapse_spaces_append hne hspaces]
    cases s with
    | nil => rfl
    | cons c s =>
      have hc : isJsSpace c = false := hbegins c rfl
      rw [collapse_letter hc, Spacing.collapse, if_neg (by simp [hc])]

/-- What a name that is not empty begins with: a gap, or a letter that is kept. -/
lemma exists_gap_or_letter {s : List Char} (hne : s ≠ []) :
    (∃ g r, IsGap g r ∧ r.length < s.length ∧ s = g ++ r) ∨
      ∃ c r, isJsSpace c = false ∧ c ≠ '_' ∧ s = c :: r := by
  obtain ⟨c, r, rfl⟩ := List.exists_cons_of_ne_nil hne
  by_cases hc : isJsSpace c
  · refine .inl ⟨(c :: r).takeWhile isJsSpace, (c :: r).dropWhile isJsSpace, .inr ⟨?_, ?_, ?_⟩,
      ?_, List.takeWhile_append_dropWhile.symm⟩
    · rw [List.takeWhile_cons_of_pos hc]
      exact List.cons_ne_nil _ _
    · exact fun a ha => List.mem_takeWhile_imp ha
    · intro a ha
      have hfirst := List.head?_dropWhile_not isJsSpace (c :: r)
      rw [ha] at hfirst
      simpa using hfirst
    · rw [List.dropWhile_cons_of_pos hc]
      exact Nat.lt_succ_of_le (List.dropWhile_sublist isJsSpace).length_le
  · by_cases hunderscore : c = '_'
    · exact .inl ⟨[c], r, .inl (by rw [hunderscore]), Nat.lt_succ_self _, rfl⟩
    · exact .inr ⟨c, r, by simpa using hc, hunderscore, rfl⟩

/-- Only the empty name becomes empty. -/
lemma collapse_eq_nil_iff {s : List Char} :
    Spacing.collapse isJsSpace '_' false s = [] ↔ s = [] := by
  refine ⟨fun h => ?_, fun h => by rw [h]; rfl⟩
  by_contra hne
  obtain ⟨g, r, hg, -, rfl⟩ | ⟨c, r, hc, -, rfl⟩ := exists_gap_or_letter hne
  · rw [collapse_gap hg] at h
    cases h
  · rw [collapse_letter hc] at h
    cases h

/-- **Two names become the same identifier** if and only if they are the same except for gaps. -/
lemma sameUpToGaps_iff {s t : List Char} :
    SameUpToGaps s t ↔ Spacing.collapse isJsSpace '_' false s =
      Spacing.collapse isJsSpace '_' false t := by
  constructor
  · intro h
    induction h with
    | nil => rfl
    | letter hc _ ih => rw [collapse_letter hc, collapse_letter hc, ih]
    | gap hg hg' _ ih => rw [collapse_gap hg, collapse_gap hg', ih]
  · intro h
    -- on the length of the first name: both begin with a gap, or with the same letter
    induction hn : s.length using Nat.strong_induction_on generalizing s t with
    | _ n ih =>
    subst hn
    by_cases hs : s = []
    · rw [hs] at h ⊢
      rw [collapse_eq_nil_iff.mp h.symm]
      exact .nil
    · have ht : t ≠ [] := fun ht => hs (collapse_eq_nil_iff.mp (by rw [h, ht]; rfl))
      obtain ⟨g, r, hg, hlt, rfl⟩ | ⟨c, r, hc, hne, rfl⟩ := exists_gap_or_letter hs
      · obtain ⟨g', r', hg', -, rfl⟩ | ⟨c', r', hc', hne', rfl⟩ := exists_gap_or_letter ht
        · rw [collapse_gap hg, collapse_gap hg'] at h
          exact .gap hg hg' (ih _ hlt (List.cons.inj h).2 rfl)
        · rw [collapse_gap hg, collapse_letter hc'] at h
          exact absurd (List.cons.inj h).1.symm hne'
      · obtain ⟨g', r', hg', -, rfl⟩ | ⟨c', r', hc', hne', rfl⟩ := exists_gap_or_letter ht
        · rw [collapse_letter hc, collapse_gap hg'] at h
          exact absurd (List.cons.inj h).1 hne
        · rw [collapse_letter hc, collapse_letter hc'] at h
          obtain ⟨rfl, hrest⟩ := List.cons.inj h
          exact .letter hc (ih _ (Nat.lt_succ_self _) hrest rfl)

instance (s t : List Char) : Decidable (SameUpToGaps s t) :=
  decidable_of_iff _ sameUpToGaps_iff.symm

/-- Two groups become subgraphs of the same identifier if and only if they are the same up to
gaps. -/
lemma safeGroupId_eq_iff {group group' : String} :
    safeGroupId group = safeGroupId group' ↔ SameUpToGaps group.toList group'.toList := by
  rw [safeGroupId, safeGroupId, String.ofList_inj, sameUpToGaps_iff]

/-! ## Every node is defined once -/

/-- The nodes of a group, where they are defined. -/
def placedIn (entry : String × List ArchNode) : List Definition :=
  entry.2.map fun node => ⟨node.id, getNodeShape node.type, node.name,
    [(safeGroupId entry.1, entry.1)]⟩

/-- The nodes that have been sorted, where they are defined. -/
def Sorted.placed (sorted : Sorted) : List Definition :=
  sorted.groups.entries.flatMap placedIn ++
    sorted.ungrouped.map fun node => ⟨node.id, getNodeShape node.type, node.name, []⟩

/-- A node that is put to its group is defined there. -/
lemma flatMap_set_perm {group : String} {node : ArchNode}
    (entries : List (String × List ArchNode)) :
    ((Assoc.set group ((Assoc.get group entries).getD [] ++ [node]) entries).flatMap placedIn).Perm
      (⟨node.id, getNodeShape node.type, node.name, [(safeGroupId group, group)]⟩ ::
        entries.flatMap placedIn) := by
  induction entries with
  | nil => exact List.Perm.refl _
  | cons entry entries ih =>
    by_cases hgroup : entry.1 = group
    · subst hgroup
      simp only [Assoc.get, Assoc.set, if_true, Option.getD_some, List.flatMap_cons]
      rw [placedIn, List.map_append, List.map_singleton, List.append_assoc]
      exact List.perm_middle
    · simp only [Assoc.get, Assoc.set, hgroup, if_false, List.flatMap_cons]
      exact (ih.append_left (placedIn entry)).trans List.perm_middle

/-- A node that is sorted is defined where it belongs. -/
lemma placed_add_perm (sorted : Sorted) (node : ArchNode) :
    (sorted.add node).placed.Perm (place node :: sorted.placed) := by
  unfold Sorted.add place
  cases hgroup : node.groupName with
  | none =>
    simp only [Sorted.placed, List.map_append, List.map_singleton]
    rw [← List.append_assoc]
    exact List.perm_append_singleton _ _
  | some group => exact (flatMap_set_perm sorted.groups.entries).append_right _

/-- **Every node is placed** where it belongs. -/
lemma placed_sortNodes_perm (nodes : List ArchNode) :
    (sortNodes nodes).placed.Perm (nodes.map place) := by
  have hfold (sorted : Sorted) :
      (nodes.foldl Sorted.add sorted).placed.Perm (nodes.map place ++ sorted.placed) := by
    induction nodes generalizing sorted with
    | nil => exact List.Perm.refl _
    | cons node nodes ih =>
      refine (ih (sorted.add node)).trans ?_
      refine ((placed_add_perm sorted node).append_left _).trans ?_
      exact List.perm_middle
  have hempty : (⟨∅, []⟩ : Sorted).placed = [] := rfl
  have hall := hfold ⟨∅, []⟩
  rwa [hempty, List.append_nil] at hall

/-- Lines of nodes define them where they are. -/
lemma definitions_nodes (indent : String) (nodes : List ArchNode) (inside : List (String × String))
    (rest : List Line) : definitions inside (nodes.map (ArchNode.line indent) ++ rest) =
      (nodes.map fun node => ⟨node.id, getNodeShape node.type, node.name, inside⟩) ++
        definitions inside rest := by
  induction nodes with
  | nil => rfl
  | cons node nodes ih => simp [definitions, ArchNode.line, ih]

/-- Lines of groups define their nodes, and leave no subgraph open. -/
lemma definitions_groups (entries : List (String × List ArchNode)) (rest : List Line) :
    definitions [] (entries.flatMap groupLines ++ rest) =
      entries.flatMap placedIn ++ definitions [] rest := by
  induction entries with
  | nil => rfl
  | cons entry entries ih =>
    rw [List.flatMap_cons, groupLines, List.flatMap_cons, List.append_assoc, List.cons_append,
      definitions, List.append_assoc, definitions_nodes, List.append_assoc]
    exact congrArg (placedIn entry ++ ·) ih

/-- **The definitions of a diagram.** -/
lemma definitions_lines (data : ArchitectureData) :
    definitions [] (lines data) = (sortNodes data.nodes).placed := by
  have hconnections (connections : List ArchConnection) :
      definitions [] (connections.map ArchConnection.line ++ [.fenceEnd]) = [] := by
    induction connections with
    | nil => rfl
    | cons conn connections ih => exact ih
  have hstart (rest : List Line) :
      definitions [] ([.fence, .header] ++ rest) = definitions [] rest := rfl
  have hblank (rest : List Line) : definitions [] ([.blank] ++ rest) = definitions [] rest := rfl
  simp only [lines, List.append_assoc]
  rw [hstart, definitions_groups, definitions_nodes, hblank, hconnections, List.append_nil]
  rfl

/-- **Every node is defined once**, in the subgraph of its group. -/
lemma filter_definitions {data : ArchitectureData} (hids : (data.nodes.map (·.id)).Nodup)
    {node : ArchNode} (hnode : node ∈ data.nodes) :
    (definitions [] (lines data)).filter (fun d => d.id = node.id) = [place node] := by
  have hperm := placed_sortNodes_perm data.nodes
  rw [← definitions_lines] at hperm
  have hone : (data.nodes.map place).filter (fun d => d.id = node.id) = [place node] := by
    generalize data.nodes = nodes at hids hnode
    induction nodes with
    | nil => cases hnode
    | cons first nodes ih =>
      obtain ⟨hfirst, hids⟩ := List.nodup_cons.mp hids
      have hother : ∀ n ∈ nodes, n.id ≠ first.id := fun n hn heq =>
        hfirst (List.mem_map.mpr ⟨n, hn, heq⟩)
      obtain rfl | hnode := List.mem_cons.mp hnode
      · rw [List.map_cons, List.filter_cons_of_pos (by simp [place]), List.filter_eq_nil_iff.mpr]
        rintro d hd
        obtain ⟨n, hn, rfl⟩ := List.mem_map.mp hd
        exact fun heq => hother n hn (of_decide_eq_true heq)
      · rw [List.map_cons, List.filter_cons_of_neg fun heq =>
          hother node hnode (of_decide_eq_true heq).symm]
        exact ih hids hnode
  exact List.perm_singleton.mp (hone ▸ hperm.filter _)

/-! ## Subgraphs and connections -/

/-- The groups are those of the nodes. -/
lemma mem_keys_sortNodes_iff {nodes : List ArchNode} {group : String} :
    group ∈ (sortNodes nodes).groups.keys ↔ ∃ node ∈ nodes, node.groupName = some group := by
  have hfold (sorted : Sorted) : group ∈ (nodes.foldl Sorted.add sorted).groups.keys ↔
      group ∈ sorted.groups.keys ∨ ∃ node ∈ nodes, node.groupName = some group := by
    induction nodes generalizing sorted with
    | nil => simp
    | cons node nodes ih =>
      have hadd : group ∈ (sorted.add node).groups.keys ↔
          group ∈ sorted.groups.keys ∨ node.groupName = some group := by
        unfold Sorted.add
        cases hgroup : node.groupName with
        | none => simp
        | some name =>
          simp only [JsMap.mem_keys_iff, JsMap.get_set, Option.some.injEq]
          by_cases hname : name = group
          · simp [hname]
          · simp [hname]
      rw [List.foldl_cons, ih, hadd, or_assoc, List.exists_mem_cons_iff]
  have hempty : group ∉ (⟨∅, []⟩ : Sorted).groups.keys := fun hmem => by cases hmem
  exact (hfold ⟨∅, []⟩).trans (or_iff_right hempty)

/-- The subgraphs of a diagram are those of the groups of its nodes. -/
lemma mem_subgraphs_iff {data : ArchitectureData} {s : String × String} :
    s ∈ subgraphs (lines data) ↔
      ∃ node ∈ data.nodes, node.groupName = some s.2 ∧ s.1 = safeGroupId s.2 := by
  have hgroups (entries : List (String × List ArchNode)) :
      subgraphs (entries.flatMap groupLines) =
        entries.map fun entry => (safeGroupId entry.1, entry.1) := by
    induction entries with
    | nil => rfl
    | cons entry entries ih =>
      rw [List.flatMap_cons, subgraphs, List.filterMap_append, ← subgraphs, ih, List.map_cons,
        groupLines]
      simp [subgraphs, List.filterMap_map, ArchNode.line]
  have hall : subgraphs (lines data) = (sortNodes data.nodes).groups.entries.map fun entry =>
      (safeGroupId entry.1, entry.1) := by
    rw [← hgroups]
    simp [lines, subgraphs, List.filterMap_map, ArchNode.line, ArchConnection.line]
  rw [hall]
  constructor
  · rintro hs
    obtain ⟨entry, hentry, rfl⟩ := List.mem_map.mp hs
    obtain ⟨node, hnode, hgroup⟩ := mem_keys_sortNodes_iff.mp (List.mem_map_of_mem hentry)
    exact ⟨node, hnode, hgroup, rfl⟩
  · rintro ⟨node, hnode, hgroup, hid⟩
    obtain ⟨entry, hentry, hname⟩ := List.mem_map.mp
      (mem_keys_sortNodes_iff.mpr ⟨node, hnode, hgroup⟩)
    exact List.mem_map.mpr ⟨entry, hentry, by rw [hname, ← hid]⟩

/-- The connections of a diagram are those of the data. -/
lemma connectionsOf_lines (data : ArchitectureData) :
    connectionsOf (lines data) = data.connections.map ArchConnection.shown := by
  have hgroups (entries : List (String × List ArchNode)) :
      connectionsOf (entries.flatMap groupLines) = [] := by
    induction entries with
    | nil => rfl
    | cons entry entries ih =>
      rw [List.flatMap_cons, connectionsOf, List.filterMap_append, ← connectionsOf, ih, groupLines]
      simp [connectionsOf, List.filterMap_map, ArchNode.line]
  have hall : connectionsOf (lines data) =
      connectionsOf ((sortNodes data.nodes).groups.entries.flatMap groupLines) ++
        data.connections.map ArchConnection.shown := by
    simp [lines, connectionsOf, List.filterMap_map, Function.comp_def, ArchNode.line,
      ArchConnection.line, ArchConnection.shown]
  rw [hall, hgroups, List.nil_append]

/-! ## Names that can be written -/

/-- A text is the name of a group: apart from white space it has letters of ids, and it is no word
of the format. -/
structure IsGroup (group : String) : Prop where
  letters : (group.toList.all fun c => c ≠ '\n' && (isJsSpace c || isIdLetter c)) = true
  word : group ∉ keywords

instance decidableIsGroup (group : String) : Decidable (IsGroup group) :=
  decidable_of_iff
    ((group.toList.all fun c => c ≠ '\n' && (isJsSpace c || isIdLetter c)) = true ∧
      group ∉ keywords)
    ⟨fun ⟨hletters, hword⟩ => ⟨hletters, hword⟩, fun h => ⟨h.1, h.2⟩⟩

/-- The ids and names of some data can be read where they are written. -/
structure Writable (data : ArchitectureData) : Prop where
  nodes : ∀ node ∈ data.nodes, IsId node.id ∧ IsText node.name
  groups : ∀ node ∈ data.nodes, ∀ group ∈ node.groupName, IsGroup group
  connections : ∀ conn ∈ data.connections, IsId conn.fromId ∧
    (conn.drawnLabel = "" ∨ IsText conn.drawnLabel) ∧ IsId conn.toId

/-- The letters of an identifier are underscores, and those of the name that are no white space. -/
lemma mem_collapse {c : Char} {begun : Bool} {s : List Char} :
    c ∈ Spacing.collapse isJsSpace '_' begun s → c = '_' ∨ c ∈ s ∧ isJsSpace c = false := by
  induction s generalizing begun with
  | nil => exact fun h => by cases h
  | cons a s ih =>
    intro h
    rw [Spacing.collapse] at h
    have hrest : c ∈ s ∧ isJsSpace c = false → c ∈ a :: s ∧ isJsSpace c = false :=
      And.imp_left (List.mem_cons_of_mem a)
    split_ifs at h with hspace hbegun
    · exact (ih h).imp_right hrest
    · rcases List.mem_cons.mp h with rfl | h
      · exact .inl rfl
      · exact (ih h).imp_right hrest
    · rcases List.mem_cons.mp h with rfl | h
      · exact .inr ⟨List.mem_cons_self, by simpa using hspace⟩
      · exact (ih h).imp_right hrest

/-- A letter that is no white space is in the identifier. -/
lemma mem_collapse_of_mem {c : Char} (hc : isJsSpace c = false) {begun : Bool} {s : List Char}
    (h : c ∈ s) : c ∈ Spacing.collapse isJsSpace '_' begun s := by
  induction s generalizing begun with
  | nil => cases h
  | cons a s ih =>
    rw [Spacing.collapse]
    rcases List.mem_cons.mp h with rfl | h
    · rw [if_neg (by simp [hc])]
      exact List.mem_cons_self
    · split_ifs
      · exact ih h
      · exact List.mem_cons_of_mem _ (ih h)
      · exact List.mem_cons_of_mem _ (ih h)

/-- An identifier without underscores is the name itself. -/
lemma collapse_of_notMem {s : List Char}
    (h : '_' ∉ Spacing.collapse isJsSpace '_' false s) :
    Spacing.collapse isJsSpace '_' false s = s := by
  induction s with
  | nil => rfl
  | cons a s ih =>
    rw [Spacing.collapse] at h ⊢
    by_cases ha : isJsSpace a
    · rw [if_pos ha, if_neg Bool.false_ne_true] at h
      exact absurd List.mem_cons_self h
    · rw [if_neg ha] at h ⊢
      rw [ih fun hmem => h (List.mem_cons_of_mem a hmem)]

/-- The words of the format have no gaps. -/
lemma safeGroupId_mem_keywords_iff {group : String} :
    safeGroupId group ∈ keywords ↔ group ∈ keywords := by
  have hplain : ∀ word ∈ keywords, word.toList.contains '_' = false ∧ safeGroupId word = word := by
    decide
  constructor
  · intro h
    have hnot : '_' ∉ (safeGroupId group).toList := by
      have := (hplain _ h).1
      simpa using this
    rw [safeGroupId, String.toList_ofList] at hnot
    rwa [safeGroupId, collapse_of_notMem hnot, String.ofList_toList] at h
  · intro h
    rwa [(hplain _ h).2]

/-- **The name of a group** can be written where its identifier is an id and its title has neither
quotation marks nor line feeds.

**Proof sketch.** The identifier has an underscore for each gap of the name and its other letters,
so it has letters of ids only if and only if the name has only these and white space. It is empty
only if the name is. Of white space, only a line feed cannot be in a title. -/
lemma isGroup_iff {group : String} (hne : group ≠ "") :
    IsGroup group ↔
      IsId (safeGroupId group) ∧ group.toList.all isTitleLetter = true := by
  have hempty : safeGroupId group ≠ "" := by
    intro h
    rw [safeGroupId, ← String.ofList_nil, String.ofList_inj, collapse_eq_nil_iff] at h
    exact hne (String.toList_inj.mp h)
  have htitle : ∀ c, isIdLetter c = true ∨ isJsSpace c = true ∧ c ≠ '\n' →
      isTitleLetter c = true := by
    intro c hc
    have hquote : c ≠ '"' := by
      rintro rfl
      rcases hc with hc | ⟨hc, -⟩ <;> exact absurd hc (by decide)
    have hfeed : c ≠ '\n' := by
      rintro rfl
      rcases hc with hc | ⟨-, hc⟩
      · exact absurd hc (by decide)
      · exact hc rfl
    simp [isTitleLetter, hquote, hfeed]
  constructor
  · intro h
    have hletters : ∀ c ∈ group.toList, c ≠ '\n' ∧ (isJsSpace c = true ∨ isIdLetter c = true) := by
      intro c hc
      have := List.all_eq_true.mp h.letters c hc
      simpa using this
    refine ⟨⟨hempty, ?_, fun hword => h.word (safeGroupId_mem_keywords_iff.mp hword)⟩, ?_⟩
    · rw [safeGroupId, String.toList_ofList]
      refine List.all_eq_true.mpr fun c hc => ?_
      rcases mem_collapse hc with rfl | ⟨hmem, hspace⟩
      · decide
      · exact (hletters c hmem).2.resolve_left (by simp [hspace])
    · refine List.all_eq_true.mpr fun c hc => htitle c ?_
      obtain ⟨hfeed, hspace | hletter⟩ := hletters c hc
      · exact .inr ⟨hspace, hfeed⟩
      · exact .inl hletter
  · rintro ⟨hid, hname⟩
    refine ⟨List.all_eq_true.mpr fun c hc => ?_,
      fun hword => hid.word (safeGroupId_mem_keywords_iff.mpr hword)⟩
    have hfeed : c ≠ '\n' := by
      rintro rfl
      exact absurd (List.all_eq_true.mp hname _ hc) (by decide)
    cases hspace : isJsSpace c with
    | true => simp [hfeed]
    | false =>
      have hmem : c ∈ (safeGroupId group).toList := by
        rw [safeGroupId, String.toList_ofList]
        exact mem_collapse_of_mem hspace hc
      simp [hfeed, hid.mem c hmem]

/-! ## Reading a diagram -/

/-- A node that is defined has a line, and so have the subgraphs that it is in. -/
lemma lines_of_mem_definitions {d : Definition} : ∀ {inside : List (String × String)}
    {items : List Line}, d ∈ definitions inside items →
      (∃ indent, Line.node indent d.id d.shape d.name ∈ items) ∧
        ∀ s ∈ d.inside, s ∈ inside ∨ Line.subgraph s.1 s.2 ∈ items := by
  intro inside items h
  fun_induction definitions inside items with
  | case1 inside => cases h
  | case2 inside id groupName rest ih =>
    obtain ⟨⟨indent, hnode⟩, hinside⟩ := ih h
    refine ⟨⟨indent, List.mem_cons_of_mem _ hnode⟩, fun s hs => ?_⟩
    rcases hinside s hs with hs | hs
    · rcases List.mem_cons.mp hs with rfl | hs
      · exact .inr List.mem_cons_self
      · exact .inl hs
    · exact .inr (List.mem_cons_of_mem _ hs)
  | case3 inside rest ih =>
    obtain ⟨⟨indent, hnode⟩, hinside⟩ := ih h
    refine ⟨⟨indent, List.mem_cons_of_mem _ hnode⟩, fun s hs => ?_⟩
    exact (hinside s hs).imp List.mem_of_mem_tail (List.mem_cons_of_mem _)
  | case4 inside indent id shape name rest ih =>
    rcases List.mem_cons.mp h with rfl | h
    · exact ⟨⟨indent, List.mem_cons_self⟩, fun s hs => .inl hs⟩
    · obtain ⟨⟨indent', hnode⟩, hinside⟩ := ih h
      exact ⟨⟨indent', List.mem_cons_of_mem _ hnode⟩,
        fun s hs => (hinside s hs).imp_right (List.mem_cons_of_mem _)⟩
  | case5 inside line rest hsubgraph hclose hnode ih =>
    obtain ⟨⟨indent, hnode⟩, hinside⟩ := ih h
    exact ⟨⟨indent, List.mem_cons_of_mem _ hnode⟩,
      fun s hs => (hinside s hs).imp_right (List.mem_cons_of_mem _)⟩

/-- What is read shows where nodes and connections are drawn, so it can be written.

**Proof sketch.** Whatever the text is, all lines that are read from it are well formed. The nodes,
their groups and the connections are among what these lines say. -/
lemma writable_of_read {data : ArchitectureData} {text : String} {drawing : Drawing}
    (hread : readDrawing text = some drawing) (h : KeepsGroupsApart data drawing) :
    Writable data := by
  obtain ⟨items, hparse, rfl⟩ := Option.map_eq_some_iff.mp hread
  have hwell : ∀ line ∈ items, WellFormed line := by
    intro line hline
    obtain ⟨t, ht⟩ := LineFormat.exists_of_mem_parse hparse hline
    exact wellFormed_of_read ht
  have hnode : ∀ node ∈ data.nodes, place node ∈ definitions [] items := by
    intro node hnode
    have hmem : place node ∈ (definitions [] items).filter fun d => d.id = node.id := by
      rw [show (definitions [] items).filter (fun d => d.id = node.id) = [place node] from
        h.once node hnode]
      exact List.mem_singleton_self _
    exact (List.mem_filter.mp hmem).1
  refine ⟨fun node hmem => ?_, fun node hmem group hgroup => ?_, fun conn hconn => ?_⟩
  · obtain ⟨⟨indent, hline⟩, -⟩ := lines_of_mem_definitions (hnode node hmem)
    obtain ⟨-, hid, -, hname⟩ := hwell _ hline
    exact ⟨hid, hname⟩
  · obtain ⟨-, hinside⟩ := lines_of_mem_definitions (hnode node hmem)
    have hgroup' : (safeGroupId group, group) ∈ (place node).inside := by
      rw [place, hgroup]
      exact List.mem_singleton_self _
    have hne : group ≠ "" := by
      have := (Option.filter_eq_some_iff.mp hgroup).2
      simpa using this
    rcases hinside _ hgroup' with hnone | hline
    · cases hnone
    · exact (isGroup_iff hne).mpr (hwell _ hline)
  · have hshown : conn.shown ∈ connectionsOf items := by
      rw [show connectionsOf items = data.connections.map ArchConnection.shown from h.connections]
      exact List.mem_map_of_mem hconn
    obtain ⟨line, hline, heq⟩ := List.mem_filterMap.mp hshown
    split at heq
    · obtain ⟨rfl, hrest⟩ := Prod.mk.inj (Option.some.inj heq)
      obtain ⟨rfl, rfl⟩ := Prod.mk.inj hrest
      exact hwell _ hline
    · cases heq

/-- A shape is one of those that are read. -/
lemma getNodeShape_mem (type : String) : getNodeShape type ∈ shapes := by
  unfold getNodeShape
  split <;> decide

/-- Every line of what can be written is read.

**Proof sketch.** Every node that is drawn is one of the data, since sorting permutes them, and
every subgraph has the name of a group of the data. So each kind of line is read by its own
lemma. -/
lemma legible_of_writable {data : ArchitectureData} (h : Writable data) :
    ∀ line ∈ lines data, format.Legible line := by
  -- what has been sorted is where the nodes of the data belong
  have hnode : ∀ {node : ArchNode} {inside : List (String × String)},
      (⟨node.id, getNodeShape node.type, node.name, inside⟩ : Definition) ∈
        (sortNodes data.nodes).placed → ∀ {indent : String} {blanks : List Char},
      indent.toList = ' ' :: blanks → (∀ c ∈ blanks, c = ' ') →
        format.Legible (node.line indent) := by
    intro node inside hplaced indent blanks hindent hblanks
    obtain ⟨node', hnode', heq⟩ :=
      List.mem_map.mp ((placed_sortNodes_perm data.nodes).mem_iff.mp hplaced)
    obtain ⟨hid, hname⟩ := h.nodes node' hnode'
    rw [show node'.id = node.id from congrArg Definition.id heq] at hid
    rw [show node'.name = node.name from congrArg Definition.name heq] at hname
    exact legible_node hindent hblanks hid (getNodeShape_mem node.type) hname
  intro line hline
  have hsubgraph : ∀ id groupName, line = .subgraph id groupName →
      IsId id ∧ groupName.toList.all isTitleLetter = true := by
    rintro id groupName rfl
    obtain ⟨node, hnode, hgroup, hid⟩ := mem_subgraphs_iff.mp
      (List.mem_filterMap.mpr ⟨_, hline, rfl⟩ : (id, groupName) ∈ subgraphs (lines data))
    have hne : groupName ≠ "" := by
      have := (Option.filter_eq_some_iff.mp hgroup).2
      simpa using this
    dsimp only at hid
    rw [hid]
    exact (isGroup_iff hne).mp (h.groups node hnode groupName hgroup)
  simp only [lines, groupLines, List.mem_append, List.mem_map, List.mem_flatMap, List.mem_cons,
    List.not_mem_nil, or_false] at hline
  rcases hline with
    (((((rfl | rfl) | ⟨entry, hentry, hline⟩) | ⟨node, hmem, rfl⟩) | rfl) | ⟨conn, hconn, rfl⟩) |
      rfl
  · exact legible_of_fixed (.inl rfl)
  · exact legible_of_fixed (.inr (.inl rfl))
  · rcases hline with rfl | ⟨node, hmem, rfl⟩ | rfl
    · obtain ⟨hid, hname⟩ := hsubgraph _ _ rfl
      exact legible_subgraph hid hname
    · have hplaced : (⟨node.id, getNodeShape node.type, node.name,
          [(safeGroupId entry.1, entry.1)]⟩ : Definition) ∈
            (sortNodes data.nodes).groups.entries.flatMap placedIn :=
        List.mem_flatMap.mpr ⟨entry, hentry, List.mem_map.mpr ⟨node, hmem, rfl⟩⟩
      have hindent : "        ".toList = ' ' :: "       ".toList := rfl
      exact hnode (List.mem_append_left _ hplaced) hindent (by simp)
    · exact legible_of_fixed (.inr (.inr (.inl rfl)))
  · have hindent : "    ".toList = ' ' :: "   ".toList := rfl
    exact hnode (List.mem_append_right _ (List.mem_map.mpr ⟨node, hmem, rfl⟩)) hindent (by simp)
  · exact legible_of_fixed (.inr (.inr (.inr (.inl rfl))))
  · obtain ⟨hfrom, hlabel, hto⟩ := h.connections conn hconn
    exact legible_connection hfrom hlabel hto
  · exact legible_of_fixed (.inr (.inr (.inr (.inr rfl))))

/-- **Reading back.** What can be written is read as what the lines show. -/
lemma read_of_writable {data : ArchitectureData} (h : Writable data) :
    readDrawing (generateMermaidArchitecture data) = some (drawingOf (lines data)) := by
  have hne : lines data ≠ [] := by simp [lines]
  have hparse : format.parse (generateMermaidArchitecture data) = some (lines data) :=
    LineFormat.parse_write (F := format) hne (legible_of_writable h)
  rw [readDrawing, hparse, Option.map_some]

/-! ## When groups are kept apart -/

/-- **Groups are kept apart** in the text if and only if the ids and names can be written, and no
two groups have names that are the same except for their gaps.

**Proof sketch.** What is read from any text can be written, so what cannot is not drawn. What can
be written is read as the lines say; there every node is where it belongs, and two groups become
the same subgraph where their names are the same except for gaps. -/
theorem keepsGroupsApart_iff {data : ArchitectureData} (hids : (data.nodes.map (·.id)).Nodup) :
    (∃ drawing, readDrawing (generateMermaidArchitecture data) = some drawing ∧
        KeepsGroupsApart data drawing) ↔
      Writable data ∧ ∀ node ∈ data.nodes, ∀ node' ∈ data.nodes,
        ∀ group ∈ node.groupName, ∀ group' ∈ node'.groupName, group ≠ group' →
          ¬ SameUpToGaps group.toList group'.toList := by
  constructor
  · rintro ⟨drawing, hread, h⟩
    have hwritable := writable_of_read hread h
    refine ⟨hwritable, fun node hnode node' hnode' group hgroup group' hgroup' hne hsame => ?_⟩
    rw [read_of_writable hwritable] at hread
    obtain rfl := Option.some.inj hread
    have hmem : (safeGroupId group, group) ∈ subgraphs (lines data) :=
      mem_subgraphs_iff.mpr ⟨node, hnode, hgroup, rfl⟩
    have hmem' : (safeGroupId group', group') ∈ subgraphs (lines data) :=
      mem_subgraphs_iff.mpr ⟨node', hnode', hgroup', rfl⟩
    exact h.apart _ hmem _ hmem' hne (safeGroupId_eq_iff.mpr hsame)
  · rintro ⟨hwritable, h⟩
    refine ⟨_, read_of_writable hwritable, fun node hnode => filter_definitions hids hnode, ?_,
      connectionsOf_lines data⟩
    rintro ⟨id, group⟩ hs ⟨id', group'⟩ hs' hne heq
    obtain ⟨node, hnode, hgroup, hid⟩ := mem_subgraphs_iff.mp hs
    obtain ⟨node', hnode', hgroup', hid'⟩ := mem_subgraphs_iff.mp hs'
    have hsame : safeGroupId group = safeGroupId group' := hid ▸ hid' ▸ heq
    exact h node hnode node' hnode' group hgroup group' hgroup' hne (safeGroupId_eq_iff.mp hsame)

/-- A web client, a load balancer and a database, with groups for the first and the last. -/
def webData (front data : String) : ArchitectureData where
  nodes := [⟨"web", "Web App", "client", some front⟩, ⟨"lb", "Load Balancer", "loadbalancer", none⟩,
    ⟨"db", "PostgreSQL", "database", some data⟩]
  connections := [⟨"web", "lb", none, some "HTTPS"⟩, ⟨"lb", "db", some "Query", some "TCP"⟩]

/-- Two groups are kept apart. -/
theorem keepsGroupsApart_web :
    ∃ drawing, readDrawing (generateMermaidArchitecture (webData "Front End" "Data")) =
      some drawing ∧ KeepsGroupsApart (webData "Front End" "Data") drawing :=
  (keepsGroupsApart_iff (by decide)).mpr ⟨⟨by decide, by decide, by decide⟩, by decide⟩

/-- **Two groups become one subgraph** where the name of one has an underscore in the place of a
space. -/
theorem groups_merged : ((webData "Data Layer" "Data_Layer").nodes.map (·.id)).Nodup ∧
    ∃ drawing, readDrawing (generateMermaidArchitecture (webData "Data Layer" "Data_Layer")) =
      some drawing ∧
      drawing.subgraphs = [("Data_Layer", "Data Layer"), ("Data_Layer", "Data_Layer")] ∧
      ¬ KeepsGroupsApart (webData "Data Layer" "Data_Layer") drawing := by
  have hwritable : Writable (webData "Data Layer" "Data_Layer") :=
    ⟨by decide, by decide, by decide⟩
  refine ⟨by decide, _, read_of_writable hwritable, by decide, fun h => ?_⟩
  exact h.apart ("Data_Layer", "Data Layer") (by decide) ("Data_Layer", "Data_Layer") (by decide)
    (by decide) rfl

end ArchitectureDiagram
