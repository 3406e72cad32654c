import AuraLive.VoiceBot.Flowchart

set_option relaxedAutoImplicit false
set_option autoImplicit false

/-!
# The layout of a flowchart

What the nodes and edges that `parseCDRToFlowchart` returns have in common with a flowchart that can
be drawn: the depths are distances from the start, the targets of one node lie on branches of their
own, and the edges join nodes.

## Main definitions

* `Flowchart.FirstFrom` — the search first reaches a place from a node.
* `Flowchart.WellFormed` — the ids of the nodes are different, and edges join nodes.
* `Flowchart.AnswerIsGraph` — the same of what is kept of the answer.

## Main results

* `Flowchart.flowchart_depth` — depths are distances.
* `Flowchart.branches_apart_iff` — the targets first reached from a node have branches of their own
  exactly if these are not among them both: the target of the second edge and that of the third;
  `Flowchart.branches_collide` is a decision with three outcomes.
* `Flowchart.wellFormed_iff` — what is returned is a graph exactly if what is kept of the answer is
  one; `Flowchart.edge_to_nowhere` is an edge to a node that is not kept.
-/

namespace Flowchart

open Foundations VoiceBot BreadthFirst

/-! ## Depths -/

/-- A list that is computed element by element. -/
lemma forall₂_of_mapM {α β : Type*} {f : α → Option β} : ∀ {l : List α} {l' : List β},
    l.mapM f = some l' → List.Forall₂ (fun x y => f x = some y) l l'
  | [], _, h => by
    obtain rfl := Option.some.inj h
    exact .nil
  | x :: l, l', h => by
    rw [List.mapM_cons] at h
    obtain ⟨y, hy, hrest⟩ := Option.bind_eq_some_iff.mp h
    obtain ⟨ys, hys, heq⟩ := Option.bind_eq_some_iff.mp hrest
    obtain rfl := Option.some.inj heq
    exact .cons hy (forall₂_of_mapM hys)

/-- An element of the second list has one of the first. -/
lemma exists_of_mem_right {α β : Type*} {R : α → β → Prop} {l : List α} {l' : List β} {y : β}
    (h : List.Forall₂ R l l') (hy : y ∈ l') : ∃ x ∈ l, R x y := by
  induction h with
  | nil => cases hy
  | cons hxy hrest ih =>
    rcases List.mem_cons.mp hy with rfl | hy
    · exact ⟨_, List.mem_cons_self, hxy⟩
    · obtain ⟨x, hx, hR⟩ := ih hy
      exact ⟨x, List.mem_cons_of_mem _ hx, hR⟩

/-- The nodes of a flowchart are the nodes that were kept, each at its place. -/
lemma forall₂_nodes {rt : Proactive.Runtime} {g : Graph} {nodes : List FlowNode}
    (h : g.nodes rt = some nodes) :
    List.Forall₂ (fun (x : RawNode × ℕ) n => ∃ content, n = g.place x.1 x.2 content)
      g.rawNodes.zipIdx nodes := by
  refine (forall₂_of_mapM h).imp fun x n hn => ?_
  obtain ⟨text, -, rfl⟩ := Option.map_eq_some_iff.mp hn
  exact ⟨_, rfl⟩

/-- The parts of a flowchart. -/
lemma flowchartOf_eq_some {rt : Proactive.Runtime} {parsed : JsVal} {chart : Chart}
    (h : flowchartOf rt parsed = some chart) :
    ∃ g, graphOf parsed = some g ∧ g.nodes rt = some chart.nodes ∧ chart.edges = g.edges := by
  obtain ⟨g, hg, hmap⟩ := Option.bind_eq_some_iff.mp h
  obtain ⟨nodes, hnodes, rfl⟩ := Option.map_eq_some_iff.mp hmap
  exact ⟨g, hg, hnodes, rfl⟩

/-- **Depths are distances.** The search ends after at most one round for every edge and one more.
Then every node of the flowchart that can be reached from the start node has as its depth the length
of a shortest path of edges from there. -/
theorem flowchart_depth {rt : Proactive.Runtime} {parsed : JsVal} {chart : Chart}
    (h : flowchartOf rt parsed = some chart) :
    ∃ g, graphOf parsed = some g ∧ chart.edges = g.edges ∧
      ∀ startNodeId, g.startNodeId = some startNodeId →
        ((Bfs.round g.edges)^[g.edges.length + 1] (Bfs.start startNodeId)).queue = [] ∧
        ∀ n ∈ chart.nodes, (∃ m, Walk (Leads chart.edges) m startNodeId n.id) →
          Distance (Leads chart.edges) startNodeId n.id n.depth := by
  obtain ⟨g, hg, hnodes, hedges⟩ := flowchartOf_eq_some h
  refine ⟨g, hg, hedges, fun startNodeId hstart => ⟨?_, ?_⟩⟩
  · exact queue_iterate g.edges (weight_start g.edges startNodeId)
  · rintro n hn ⟨m, hwalk⟩
    rw [hedges] at hwalk ⊢
    obtain ⟨a, hrefines, hend, hlevels, -⟩ := search_spec hstart
    -- what can be reached has been found, with its distance, which is the depth in the map
    obtain ⟨e, he⟩ := Option.isSome_iff_exists.mp (hlevels.found_of_walk hend hwalk)
    have hdepth : g.search.depthMap.get n.id = some e.depth := by rw [hrefines.depth, he]; rfl
    obtain ⟨x, -, content, rfl⟩ := exists_of_mem_right (forall₂_nodes hnodes) hn
    have hplace : (g.place x.1 x.2 content).depth = e.depth := by
      show (g.search.depthMap.get x.1.id).getD x.2 = _
      rw [show g.search.depthMap.get x.1.id = some e.depth from hdepth]
      rfl
    rw [hplace]
    exact hlevels.found _ e he

/-- A node of an answer. -/
def nodeJson (id nodeType : String) : JsVal :=
  .obj [("id", .str id), ("content", .str id), ("nodeType", .str nodeType)]

/-- An edge of an answer. -/
def edgeJson (fromId toId : String) : JsVal := .obj [("from", .str fromId), ("to", .str toId)]

/-- A runtime that parses nothing. -/
def plain : Proactive.Runtime where
  parse _ := none
  numberText _ := "1"
  below _ _ := false
  hashTexts texts := "||".intercalate texts

/-- A cycle with a shortcut to `d`, an edge to a node that is not kept, and a node without an id. -/
def shortcut : JsVal :=
  .obj
    [("nodes", .arr
        [nodeJson "a" "start", nodeJson "b" "process", nodeJson "c" "process", nodeJson "d" "end",
          .obj [("content", .str "?")]]),
      ("edges", .arr
        [edgeJson "a" "b", edgeJson "b" "c", edgeJson "c" "d", edgeJson "b" "d", edgeJson "d" "a",
          edgeJson "a" "x", edgeJson "c" "d"])]

/-- The depth of `d` is two, by the shortcut. -/
theorem flowchart_depth_shortcut :
    ∃ chart n, flowchartOf plain shortcut = some chart ∧ n ∈ chart.nodes ∧ n.id = .str "d" ∧
      n.depth = 2 ∧ Distance (Leads chart.edges) (.str "a") n.id n.depth := by
  obtain ⟨chart, hchart, hfacts⟩ := (Option.any_eq_true _ _).mp (show
    (flowchartOf plain shortcut).any (fun chart =>
      (chart.nodes.any fun n => n.id = .str "d" ∧ n.depth = 2) ∧
        (chart.edges.any fun e => e.fromId = .str "a" ∧ e.toId = .str "b") ∧
        chart.edges.any fun e => e.fromId = .str "b" ∧ e.toId = .str "d") = true by decide +kernel)
  obtain ⟨hnode, hfirst, hsecond⟩ := of_decide_eq_true hfacts
  obtain ⟨n, hn, hd⟩ := List.any_eq_true.mp hnode
  obtain ⟨hid, hdepth⟩ := of_decide_eq_true hd
  have hleads : ∀ {u v : NodeId},
      (chart.edges.any fun e => e.fromId = u ∧ e.toId = v) = true → Leads chart.edges u v := by
    intro u v hany
    obtain ⟨e, he, huv⟩ := List.any_eq_true.mp hany
    exact ⟨e, he, of_decide_eq_true huv⟩
  obtain ⟨g, hg, -, hspec⟩ := flowchart_depth hchart
  have hstart : (graphOf shortcut).bind Graph.startNodeId = some (.str "a") := by decide +kernel
  rw [hg, Option.bind_some] at hstart
  refine ⟨chart, n, hchart, hn, hid, hdepth, (hspec _ hstart).2 n hn ⟨2, ?_⟩⟩
  exact ⟨_, ⟨_, rfl, hleads hfirst⟩, hid ▸ hleads hsecond⟩

/-! ## Branches -/

/-- The search first reaches `v` from `u`. -/
def FirstFrom (g : Graph) (u v : NodeId) : Prop := g.search.viaMap.get v = some (some u)

instance decidableFirstFrom (g : Graph) (u v : NodeId) : Decidable (FirstFrom g u v) :=
  inferInstanceAs (Decidable (_ = _))

/-- The targets of the edges that leave a node, in the order of the edges. -/
def targets (edges : List Edge) (u : NodeId) : List NodeId := (outEdges edges u).map Edge.toId

/-- The first entry for a target is that of the first edge to it. -/
lemma find?_zipIdx {v : NodeId} {place : Place} {f : ℕ → Place} :
    ∀ {l : List Edge} {n : ℕ},
      ((l.zipIdx n).map fun x => (x.1.toId, f x.2)).find? (·.1 = v) = some (v, place) →
        v ∈ l.map Edge.toId ∧ place = f (n + (l.map Edge.toId).idxOf v)
  | [], n, h => by cases h
  | e :: l, n, h => by
    rw [List.zipIdx_cons, List.map_cons] at h
    rw [List.map_cons]
    by_cases hto : e.toId = v
    · rw [List.find?_cons_of_pos (by simpa using hto)] at h
      obtain ⟨-, rfl⟩ := Prod.mk.inj (Option.some.inj h)
      subst hto
      exact ⟨List.mem_cons_self, by rw [List.idxOf_cons_self, Nat.add_zero]⟩
    · rw [List.find?_cons_of_neg (by simpa using hto)] at h
      obtain ⟨hmem, hplace⟩ := find?_zipIdx h
      refine ⟨List.mem_cons_of_mem _ hmem, ?_⟩
      rw [hplace, List.idxOf_cons_ne _ hto]
      congr 1
      omega

/-- The edges of a node are tagged with their offsets. -/
lemma find?_pushes {edges : List Edge} {entry : QueueEntry} {v : NodeId} {place : Place}
    (h : (pushes edges entry).find? (·.1 = v) = some (v, place)) :
    place.via = some entry.id ∧ v ∈ targets edges entry.id ∧
      (2 ≤ (targets edges entry.id).length →
        place.branch = branchOffset ((targets edges entry.id).idxOf v)) := by
  unfold targets
  unfold pushes at h
  dsimp only at h
  split at h
  · rename_i hone
    obtain ⟨e, he, heq⟩ := List.mem_map.mp (List.mem_of_find?_eq_some h)
    obtain ⟨rfl, rfl⟩ := Prod.mk.inj heq
    refine ⟨rfl, List.mem_map_of_mem he, fun htwo => ?_⟩
    rw [List.length_map] at htwo
    omega
  · split at h
    · obtain ⟨hmem, rfl⟩ := find?_zipIdx (f := fun idx => ⟨branchOffset idx, some entry.id⟩) h
      exact ⟨rfl, hmem, fun _ => by rw [Nat.zero_add]⟩
    · cases h

/-- **The branch of a target.** A place that is first reached from `u` is the target of one of its
edges, and if there are several, it gets the offset of the first of them that leads there. -/
lemma branch_of_firstFrom {g : Graph} {u v : NodeId} (hfirst : FirstFrom g u v) :
    v ∈ targets g.edges u ∧ (2 ≤ (targets g.edges u).length →
      g.search.branchMap.get v = some (branchOffset ((targets g.edges u).idxOf v))) := by
  unfold FirstFrom at hfirst
  cases hstart : g.startNodeId with
  | none =>
    have hsearch : g.search = .empty := by
      unfold Graph.search
      rw [hstart]
    rw [hsearch] at hfirst
    cases hfirst
  | some startNodeId =>
    obtain ⟨a, hrefines, -, -, htraced⟩ := search_spec hstart
    rw [hrefines.via] at hfirst
    obtain ⟨entry, hentry, hvia⟩ := Option.map_eq_some_iff.mp hfirst
    rw [hrefines.branch, hentry, Option.map_some]
    obtain rfl := Search.id_of_lookup hentry
    rcases htraced.origin entry (Search.mem_of_lookup hentry) with rfl | ⟨parent, -, hfind⟩
    · cases hvia
    · obtain ⟨hparent, hmem, hbranch⟩ := find?_pushes hfind
      obtain rfl := Option.some.inj (hparent.symm.trans hvia)
      exact ⟨hmem, fun htwo => by rw [hbranch htwo]⟩

/-- Two offsets are the same only for the second edge and the third. -/
lemma branchOffset_eq_iff {i j : ℕ} (hne : i ≠ j) :
    branchOffset i = branchOffset j ↔ i = 1 ∧ j = 2 ∨ i = 2 ∧ j = 1 := by
  unfold branchOffset
  constructor
  · intro h
    split_ifs at h <;> omega
  · rintro (⟨rfl, rfl⟩ | ⟨rfl, rfl⟩) <;> rfl

/-- **Branches of their own.** The targets that the search first reaches from a node get different
branches if and only if it does not reach both of these from there: a target that the second edge of
the node is the first to lead to, and one that the third edge is the first to lead to.

**Proof sketch.** With one edge there is one target. Else the branch of a target is the offset of
the first edge to it, different targets have different first edges, and the only two edges with the
same offset are the second and the third. -/
theorem branches_apart_iff (g : Graph) (u : NodeId) :
    (∀ v w, FirstFrom g u v → FirstFrom g u w → v ≠ w →
        g.search.branchMap.get v ≠ g.search.branchMap.get w) ↔
      ¬ ∃ v w, FirstFrom g u v ∧ FirstFrom g u w ∧
        (targets g.edges u).idxOf v = 1 ∧ (targets g.edges u).idxOf w = 2 := by
  constructor
  · rintro hapart ⟨v, w, hv, hw, hsecond, hthird⟩
    have hlt := List.idxOf_lt_length_of_mem (branch_of_firstFrom hw).1
    have htwo : 2 ≤ (targets g.edges u).length := by omega
    refine hapart v w hv hw (fun heq => by rw [heq] at hsecond; omega) ?_
    rw [(branch_of_firstFrom hv).2 htwo, (branch_of_firstFrom hw).2 htwo, hsecond, hthird]
    rfl
  · intro hnot v w hv hw hne hsame
    obtain ⟨hmemv, hbranchv⟩ := branch_of_firstFrom hv
    obtain ⟨hmemw, hbranchw⟩ := branch_of_firstFrom hw
    have hindex : (targets g.edges u).idxOf v ≠ (targets g.edges u).idxOf w :=
      fun heq => hne ((List.idxOf_inj hmemv).mp heq)
    have htwo : 2 ≤ (targets g.edges u).length := by
      have hltv := List.idxOf_lt_length_of_mem hmemv
      have hltw := List.idxOf_lt_length_of_mem hmemw
      omega
    rw [hbranchv htwo, hbranchw htwo] at hsame
    rcases (branchOffset_eq_iff hindex).mp (Option.some.inj hsame) with ⟨hi, hj⟩ | ⟨hi, hj⟩
    · exact hnot ⟨v, w, hv, hw, hi, hj⟩
    · exact hnot ⟨w, v, hw, hv, hj, hi⟩

/-- A decision with three outcomes, one of which is to go back. -/
def threeWays : JsVal :=
  .obj
    [("nodes", .arr
        [nodeJson "a" "start", nodeJson "b" "decision", nodeJson "c" "process",
          nodeJson "d" "end"]),
      ("edges", .arr
        [edgeJson "a" "b", edgeJson "b" "a", edgeJson "b" "c", edgeJson "b" "d"])]

/-- **Branches collide.** Two targets of one node, which are first reached from there by its second
and third edge, are drawn at the same depth on the same branch. -/
theorem branches_collide :
    ∃ g chart, graphOf threeWays = some g ∧ flowchartOf plain threeWays = some chart ∧
      targets g.edges (.str "b") = [.str "a", .str "c", .str "d"] ∧
      ¬ FirstFrom g (.str "b") (.str "a") ∧ FirstFrom g (.str "b") (.str "c") ∧
      FirstFrom g (.str "b") (.str "d") ∧
      g.search.branchMap.get (.str "c") = g.search.branchMap.get (.str "d") ∧
      (chart.nodes.map fun n => (n.id, n.depth, n.branch)) =
        [(.str "a", 0, 0), (.str "b", 1, 0), (.str "c", 2, 1), (.str "d", 2, 1)] := by
  obtain ⟨g, hg, hfacts⟩ := (Option.any_eq_true _ _).mp (show
    (graphOf threeWays).any (fun g =>
      targets g.edges (.str "b") = [.str "a", .str "c", .str "d"] ∧
        ¬ FirstFrom g (.str "b") (.str "a") ∧ FirstFrom g (.str "b") (.str "c") ∧
        FirstFrom g (.str "b") (.str "d") ∧
        g.search.branchMap.get (.str "c") = g.search.branchMap.get (.str "d")) = true
      by decide +kernel)
  obtain ⟨chart, hchart, hnodes⟩ := (Option.any_eq_true _ _).mp (show
    (flowchartOf plain threeWays).any (fun chart =>
      (chart.nodes.map fun n => (n.id, n.depth, n.branch)) =
        [(.str "a", 0, 0), (.str "b", 1, 0), (.str "c", 2, 1), (.str "d", 2, 1)]) = true
      by decide +kernel)
  obtain ⟨htargets, hback, hc, hd, hsame⟩ := of_decide_eq_true hfacts
  exact ⟨g, chart, hg, hchart, htargets, hback, hc, hd, hsame, of_decide_eq_true hnodes⟩

/-! ## Nodes and edges -/

/-- The ids of the nodes are different, and both ends of every edge are ids of nodes. -/
structure WellFormed (chart : Chart) : Prop where
  distinct : (chart.nodes.map FlowNode.id).Nodup
  ends : ∀ e ∈ chart.edges, e.fromId ∈ chart.nodes.map FlowNode.id ∧
    e.toId ∈ chart.nodes.map FlowNode.id

/-- What is kept of the answer is a graph: no two nodes that are kept have the same id, and both
ends of an edge that is kept are ids of nodes that are. -/
def AnswerIsGraph (parsed : JsVal) : Prop :=
  ∀ nodes ∈ elements (parsed.field "nodes"), ∀ edges ∈ elements (parsed.field "edges"),
    (nodes.zipIdx.Pairwise fun x y =>
      ∀ n ∈ rawNodeOf x.1 x.2, ∀ n' ∈ rawNodeOf y.1 y.2, n.id ≠ n'.id) ∧
    ∀ z ∈ edges.zipIdx, ∀ e ∈ edgeOf z.1 z.2,
      (∃ x ∈ nodes.zipIdx, ∃ n ∈ rawNodeOf x.1 x.2, n.id = e.fromId) ∧
        ∃ x ∈ nodes.zipIdx, ∃ n ∈ rawNodeOf x.1 x.2, n.id = e.toId

instance decidableAnswerIsGraph (parsed : JsVal) : Decidable (AnswerIsGraph parsed) :=
  inferInstanceAs (Decidable
    (∀ nodes ∈ elements (parsed.field "nodes"), ∀ edges ∈ elements (parsed.field "edges"),
      (nodes.zipIdx.Pairwise fun x y =>
        ∀ n ∈ rawNodeOf x.1 x.2, ∀ n' ∈ rawNodeOf y.1 y.2, n.id ≠ n'.id) ∧
      ∀ z ∈ edges.zipIdx, ∀ e ∈ edgeOf z.1 z.2,
        (∃ x ∈ nodes.zipIdx, ∃ n ∈ rawNodeOf x.1 x.2, n.id = e.fromId) ∧
          ∃ x ∈ nodes.zipIdx, ∃ n ∈ rawNodeOf x.1 x.2, n.id = e.toId))

/-- The ids of the nodes that are kept. -/
lemma mem_ids_iff {nodes : List JsVal} {v : NodeId} :
    v ∈ (rawNodesOf nodes).map RawNode.id ↔
      ∃ x ∈ nodes.zipIdx, ∃ n ∈ rawNodeOf x.1 x.2, n.id = v := by
  unfold rawNodesOf
  simp only [List.mem_map, List.mem_filterMap]
  constructor
  · rintro ⟨n, ⟨x, hx, hn⟩, rfl⟩
    exact ⟨x, hx, n, hn, rfl⟩
  · rintro ⟨x, hx, n, hn, rfl⟩
    exact ⟨n, ⟨x, hx, hn⟩, rfl⟩

/-- The nodes of a flowchart have the ids of the nodes that were kept. -/
lemma map_id_nodes {rt : Proactive.Runtime} {g : Graph} {nodes : List FlowNode}
    (h : g.nodes rt = some nodes) : nodes.map FlowNode.id = g.rawNodes.map RawNode.id := by
  have hids : ∀ {l : List (RawNode × ℕ)} {l' : List FlowNode},
      List.Forall₂ (fun x n => ∃ content, n = g.place x.1 x.2 content) l l' →
        l'.map FlowNode.id = l.map fun x => x.1.id := by
    intro l l' hl
    induction hl with
    | nil => rfl
    | cons hplace hrest ih =>
      obtain ⟨content, rfl⟩ := hplace
      rw [List.map_cons, List.map_cons, ih]
      rfl
  calc nodes.map FlowNode.id = g.rawNodes.zipIdx.map fun x => x.1.id := hids (forall₂_nodes h)
    _ = (g.rawNodes.zipIdx.map Prod.fst).map RawNode.id := by
      rw [List.map_map]
      rfl
    _ = g.rawNodes.map RawNode.id := by rw [List.zipIdx_map_fst]

/-- **Graphs.** A flowchart that is returned has different ids and edges between its nodes if and
only if what is kept of the answer has. -/
theorem wellFormed_iff {rt : Proactive.Runtime} {parsed : JsVal} {chart : Chart}
    (h : flowchartOf rt parsed = some chart) : WellFormed chart ↔ AnswerIsGraph parsed := by
  obtain ⟨g, hg, hnodes, hedges⟩ := flowchartOf_eq_some h
  unfold graphOf at hg
  split at hg
  · cases hg
  · obtain ⟨nodes, helements, hmap⟩ := Option.bind_eq_some_iff.mp hg
    obtain ⟨edges, helements', rfl⟩ := Option.map_eq_some_iff.mp hmap
    have hids : chart.nodes.map FlowNode.id = (rawNodesOf nodes).map RawNode.id :=
      map_id_nodes hnodes
    have hdistinct : (chart.nodes.map FlowNode.id).Nodup ↔ nodes.zipIdx.Pairwise fun x y =>
        ∀ n ∈ rawNodeOf x.1 x.2, ∀ n' ∈ rawNodeOf y.1 y.2, n.id ≠ n'.id := by
      rw [hids, List.Nodup, List.pairwise_map, rawNodesOf, List.pairwise_filterMap]
      rfl
    have hends : (∀ e ∈ chart.edges, e.fromId ∈ chart.nodes.map FlowNode.id ∧
          e.toId ∈ chart.nodes.map FlowNode.id) ↔
        ∀ z ∈ edges.zipIdx, ∀ e ∈ edgeOf z.1 z.2,
          (∃ x ∈ nodes.zipIdx, ∃ n ∈ rawNodeOf x.1 x.2, n.id = e.fromId) ∧
            ∃ x ∈ nodes.zipIdx, ∃ n ∈ rawNodeOf x.1 x.2, n.id = e.toId := by
      rw [hids, hedges]
      simp only [mem_ids_iff]
      constructor
      · intro hall z hz e he
        exact hall e (List.mem_filterMap.mpr ⟨z, hz, he⟩)
      · intro hall e he
        obtain ⟨z, hz, he⟩ := List.mem_filterMap.mp he
        exact hall z hz e he
    unfold AnswerIsGraph
    rw [helements, helements']
    constructor
    · rintro ⟨hnodup, hjoin⟩ nodes' hnodes' edges' hedges'
      obtain rfl := Option.some.inj hnodes'
      obtain rfl := Option.some.inj hedges'
      exact ⟨hdistinct.mp hnodup, hends.mp hjoin⟩
    · intro hgraph
      obtain ⟨hpairwise, hjoin⟩ := hgraph nodes rfl edges rfl
      exact ⟨hdistinct.mpr hpairwise, hends.mpr hjoin⟩

/-- The decision with three outcomes is a graph. -/
theorem wellFormed_iff_threeWays :
    ∃ chart, flowchartOf plain threeWays = some chart ∧ WellFormed chart := by
  obtain ⟨chart, hchart⟩ := Option.isSome_iff_exists.mp (show
    (flowchartOf plain threeWays).isSome = true by decide +kernel)
  exact ⟨chart, hchart, (wellFormed_iff hchart).mpr (by decide +kernel)⟩

/-- Two nodes with the same id, a node of a type that is not known, and an edge to that one. -/
def strayEdge : JsVal :=
  .obj
    [("nodes", .arr [nodeJson "a" "start", nodeJson "a" "process", nodeJson "x" "loop"]),
      ("edges", .arr [edgeJson "a" "x"])]

/-- **No graph.** The two nodes with the same id are returned, and the edge without its target. -/
theorem edge_to_nowhere :
    ∃ chart, flowchartOf plain strayEdge = some chart ∧
      chart.nodes.map FlowNode.id = [.str "a", .str "a"] ∧
      (chart.edges.map fun e => (e.fromId, e.toId)) = [(.str "a", .str "x")] ∧
      ¬ WellFormed chart := by
  obtain ⟨chart, hchart, hfacts⟩ := (Option.any_eq_true _ _).mp (show
    (flowchartOf plain strayEdge).any (fun chart =>
      chart.nodes.map FlowNode.id = [.str "a", .str "a"] ∧
        (chart.edges.map fun e => (e.fromId, e.toId)) = [(.str "a", .str "x")]) = true
      by decide +kernel)
  obtain ⟨hids, hedges⟩ := of_decide_eq_true hfacts
  refine ⟨chart, hchart, hids, hedges, fun hgraph => ?_⟩
  have hdistinct := hgraph.distinct
  rw [hids] at hdistinct
  exact absurd hdistinct (by decide)

end Flowchart
