import AuraLive.Agent.Proactive
import AuraLive.Foundations.BreadthFirst
import AuraLive.Timeline.Context
import Mathlib.Logic.Function.Iterate

set_option relaxedAutoImplicit false
set_option autoImplicit false

/-!
# Flowcharts from requirements

`parseCDRToFlowchart` of `livekit/voice-bot.service.ts` has a language model turn a document into a
flowchart. What is usable of the nodes and edges in the answer is kept, and a breadth-first search
from the start gives every node a depth and a branch for the drawing.

## Main definitions

* `Flowchart.rawNodeOf`, `edgeOf`, `graphOf` — the filters on the parsed answer.
* `Flowchart.Bfs`, `Bfs.round`, `Bfs.run` — the search.
* `Flowchart.flowchartOf`, `parseCDRToFlowchart` — the flowchart of an answer.
* `Flowchart.Refines` — the maps of the search hold what the abstract search has found.

## Main results

* `Flowchart.parseCDRToFlowchart_eq_success` — what is returned is the flowchart of some answer.
* `Flowchart.weight_round` — a round uses up one entry or one edge, so the search ends.
* `Flowchart.refines_round` — a round is one of the abstract search.
* `Flowchart.search_spec` — what the search has found in the end.

## Design

* **Ids.** The answer may have any value for an id. Objects and arrays are equal to themselves only,
  so they are told apart by where they stand in the answer.
* **Parents.** An entry of the queue also says which node it comes from (`via`), and the search
  remembers this for what it has found. The code has neither.
* **Exceptions.** A step that throws is `none`; the text of the exception is left out.
-/

namespace Flowchart

open Foundations VoiceBot BreadthFirst

/-! ## The answer -/

/-- Where a value stands in the answer: in a node, or at one of the ends of an edge. -/
inductive Site where
  | node (i : ℕ)
  | fromOf (j : ℕ)
  | toOf (j : ℕ)
  deriving DecidableEq

/-- A value as an id, up to `===`. -/
inductive NodeId where
  | null
  | bool (b : Bool)
  | num (q : ℚ)
  | str (s : String)
  /-- The object or array at a place. -/
  | ref (site : Site)
  deriving DecidableEq

/-- The id that a value is. -/
def idOf (site : Site) : JsVal → NodeId
  | .null => .null
  | .bool b => .bool b
  | .num q => .num q
  | .str s => .str s
  | .arr _ => .ref site
  | .obj _ => .ref site

/-- `FLOWCHART_NODE_TYPES`. -/
def FLOWCHART_NODE_TYPES : List String := ["start", "end", "process", "decision", "io"]

/-- A node of the answer that is kept. -/
structure RawNode where
  id : NodeId
  content : JsVal
  nodeType : String

/-- An edge. -/
structure Edge where
  fromId : NodeId
  toId : NodeId
  label : Option JsVal

/-- The node that an element of `parsed.nodes` is, if it is kept. -/
def rawNodeOf (n : JsVal) (i : ℕ) : Option RawNode :=
  match n.field "id", n.field "content", n.field "nodeType" with
  | some id, some content, some (.str nodeType) =>
    if JsVal.truthy (some id) ∧ JsVal.truthy (some content) ∧ nodeType ∈ FLOWCHART_NODE_TYPES then
      some ⟨idOf (.node i) id, content, nodeType⟩
    else none
  | _, _, _ => none

/-- The edge that an element of `parsed.edges` is, if it is kept. -/
def edgeOf (e : JsVal) (j : ℕ) : Option Edge :=
  match e.field "from", e.field "to" with
  | some fromValue, some toValue =>
    if JsVal.truthy (some fromValue) ∧ JsVal.truthy (some toValue) then
      some ⟨idOf (.fromOf j) fromValue, idOf (.toOf j) toValue, e.field "label"⟩
    else none
  | _, _ => none

/-- `(value || [])`, on which `filter` is called: it throws if this is not an array. -/
def elements (value : Option JsVal) : Option (List JsVal) :=
  match value with
  | some (.arr l) => some l
  | value => if JsVal.truthy value then none else some []

/-- The nodes and edges that are kept. -/
structure Graph where
  rawNodes : List RawNode
  edges : List Edge

/-- `rawNodes`. -/
def rawNodesOf (nodes : List JsVal) : List RawNode :=
  nodes.zipIdx.filterMap fun (n, i) => rawNodeOf n i

/-- `edges`. -/
def edgesOf (edges : List JsVal) : List Edge := edges.zipIdx.filterMap fun (e, j) => edgeOf e j

/-- The filters on the parsed answer. -/
def graphOf (parsed : JsVal) : Option Graph :=
  if parsed.isNull then none
  else
    (elements (parsed.field "nodes")).bind fun nodes =>
      (elements (parsed.field "edges")).map fun edges => ⟨rawNodesOf nodes, edgesOf edges⟩

/-! ## The search -/

/-- Where a node is drawn, and the node that the entry comes from. -/
structure Place where
  branch : ℤ
  via : Option NodeId
  deriving DecidableEq

/-- An entry of the queue. -/
abbrev QueueEntry := Entry NodeId Place

/-- The state of the search. -/
structure Bfs where
  queue : List QueueEntry
  visited : List NodeId
  depthMap : JsMap NodeId ℕ
  branchMap : JsMap NodeId ℤ
  /-- Which node a visited one was first reached from. -/
  viaMap : JsMap NodeId (Option NodeId)

/-- The branch of the target of an edge, of two or more. -/
def branchOffset (idx : ℕ) : ℤ := if idx = 0 then -1 else if idx = 1 then 1 else idx - 1

/-- The edges that leave a node. -/
def outEdges (edges : List Edge) (id : NodeId) : List Edge := edges.filter (·.fromId = id)

/-- What an entry puts into the queue. -/
def pushes (edges : List Edge) (entry : QueueEntry) : List (NodeId × Place) :=
  let outEdges := outEdges edges entry.id
  if outEdges.length = 1 then
    outEdges.map fun e => (e.toId, ⟨entry.tag.branch, some entry.id⟩)
  else if 2 ≤ outEdges.length then
    outEdges.zipIdx.map fun (e, idx) => (e.toId, ⟨branchOffset idx, some entry.id⟩)
  else []

namespace Bfs

/-- Before the search. -/
def empty : Bfs := ⟨[], [], ∅, ∅, ∅⟩

/-- The search from the start node. -/
def start (startNodeId : NodeId) : Bfs := { empty with queue := [⟨startNodeId, 0, ⟨0, none⟩⟩] }

/-- One round of the loop. -/
def round (edges : List Edge) (s : Bfs) : Bfs :=
  match s.queue with
  | [] => s
  | entry :: queue =>
    if entry.id ∈ s.visited then { s with queue := queue }
    else
      { queue := queue ++ (pushes edges entry).map fun x => ⟨x.1, entry.depth + 1, x.2⟩
        visited := entry.id :: s.visited
        depthMap := s.depthMap.set entry.id entry.depth
        branchMap := s.branchMap.set entry.id entry.tag.branch
        viaMap := s.viaMap.set entry.id entry.tag.via }

/-- The entries of the queue, and the edges that have not been followed. -/
def weight (edges : List Edge) (s : Bfs) : ℕ :=
  s.queue.length + edges.countP fun e => e.fromId ∉ s.visited

end Bfs

/-- An entry has a successor for every edge. -/
lemma map_fst_pushes (edges : List Edge) (entry : QueueEntry) :
    (pushes edges entry).map Prod.fst = (outEdges edges entry.id).map Edge.toId := by
  unfold pushes
  dsimp only
  split
  · rw [List.map_map]
    rfl
  · split
    · calc _ = ((outEdges edges entry.id).zipIdx.map Prod.fst).map Edge.toId := by
            rw [List.map_map, List.map_map]
            rfl
        _ = (outEdges edges entry.id).map Edge.toId := by rw [List.zipIdx_map_fst]
    · rename_i hone htwo
      have hnone : outEdges edges entry.id = [] := List.length_eq_zero_iff.mp (by omega)
      rw [hnone]
      rfl

/-- The edges that a visited node uses up. -/
lemma countP_visited (edges : List Edge) {id : NodeId} {visited : List NodeId}
    (h : id ∉ visited) :
    (edges.countP fun e => e.fromId ∉ id :: visited) + (outEdges edges id).length =
      edges.countP fun e => e.fromId ∉ visited := by
  unfold outEdges
  rw [← List.countP_eq_length_filter]
  induction edges with
  | nil => rfl
  | cons e edges ih =>
    simp only [List.countP_cons, ← ih]
    by_cases heq : e.fromId = id
    · simp [heq, h]
      omega
    · simp [heq]
      omega

/-- **One round** takes one entry from the queue, or follows edges that had not been followed. -/
lemma weight_round (edges : List Edge) {s : Bfs} (h : s.queue ≠ []) :
    (s.round edges).weight edges + 1 = s.weight edges := by
  obtain ⟨entry, queue, hqueue⟩ := List.exists_cons_of_ne_nil h
  unfold Bfs.round Bfs.weight
  rw [hqueue]
  dsimp only
  split
  · simp only [List.length_cons]
    omega
  · rename_i hnew
    have hlength : (pushes edges entry).length = (outEdges edges entry.id).length := by
      rw [← List.length_map (f := Prod.fst), map_fst_pushes, List.length_map]
    have hcount := countP_visited edges hnew
    simp only [List.length_append, List.length_map, List.length_cons, hlength]
    omega

/-- The loop of the search. -/
def Bfs.run (edges : List Edge) (s : Bfs) : Bfs :=
  if _h : s.queue = [] then s else Bfs.run edges (s.round edges)
termination_by s.weight edges
decreasing_by
  have := weight_round edges _h
  omega

/-! ## The flowchart -/

/-- A node of the flowchart. -/
structure FlowNode where
  id : NodeId
  content : String
  nodeType : String
  order : ℕ
  depth : ℕ
  branch : ℤ

/-- What is returned on success. -/
structure Chart where
  nodes : List FlowNode
  edges : List Edge
  summary : Option JsVal

namespace Graph

variable (g : Graph)

/-- `inDegree`. -/
def inDegree : JsMap NodeId ℕ :=
  g.edges.foldl (fun inDegree e => inDegree.set e.toId ((inDegree.get e.toId).getD 0 + 1))
    (g.rawNodes.foldl (fun inDegree n => inDegree.set n.id 0) ∅)

/-- `startNodeId`. -/
def startNodeId : Option NodeId :=
  match g.rawNodes.find? (·.nodeType = "start") with
  | some n => some n.id
  | none => (g.rawNodes.find? fun n => g.inDegree.get n.id = some 0).map RawNode.id

/-- The search, if there is a start node. -/
def search : Bfs :=
  match g.startNodeId with
  | none => .empty
  | some startNodeId => (Bfs.start startNodeId).run g.edges

/-- A node of the flowchart, except for its content. -/
def place (n : RawNode) (idx : ℕ) (content : String) : FlowNode :=
  { id := n.id
    content := content
    nodeType := n.nodeType
    order := idx
    depth := (g.search.depthMap.get n.id).getD idx
    branch := (g.search.branchMap.get n.id).getD 0 }

/-- The nodes of the flowchart; making a content a string may throw. -/
def nodes (rt : Proactive.Runtime) : Option (List FlowNode) :=
  g.rawNodes.zipIdx.mapM fun (n, idx) =>
    (Proactive.textOf rt n.content).map fun text => g.place n idx (jsTake 30 text)

end Graph

/-- The flowchart of a parsed answer. -/
def flowchartOf (rt : Proactive.Runtime) (parsed : JsVal) : Option Chart :=
  (graphOf parsed).bind fun g =>
    (g.nodes rt).map fun nodes => ⟨nodes, g.edges, parsed.field "summary"⟩

/-- The result of `parseCDRToFlowchart`; an exception has no text here. -/
inductive FlowchartResult where
  | success (chart : Chart)
  | failure (error : Option String)

/-- `parseCDRToFlowchart`, from the answer of the language model on; `none` if there is none. -/
def parseCDRToFlowchart (rt : Proactive.Runtime) (answer : Option String) : FlowchartResult :=
  match answer with
  | none => .failure none
  | some answer =>
    match Timeline.jsonMatch answer with
    | none => .failure (some "JSON 패턴을 찾을 수 없습니다")
    | some block =>
      match (rt.parse block).bind (flowchartOf rt) with
      | none => .failure none
      | some chart => .success chart

/-- **A success is the flowchart of a parsed answer.** -/
lemma parseCDRToFlowchart_eq_success {rt : Proactive.Runtime} {answer : Option String}
    {chart : Chart} (h : parseCDRToFlowchart rt answer = .success chart) :
    ∃ parsed, flowchartOf rt parsed = some chart := by
  unfold parseCDRToFlowchart at h
  split at h
  · cases h
  · split at h
    · cases h
    · split at h
      · cases h
      · rename_i chart' hchart
        cases h
        obtain ⟨parsed, -, hparsed⟩ := Option.bind_eq_some_iff.mp hchart
        exact ⟨parsed, hparsed⟩

/-! ## Rounds -/

/-- Nothing happens when the queue is empty. -/
lemma round_of_nil (edges : List Edge) {s : Bfs} (h : s.queue = []) : s.round edges = s := by
  unfold Bfs.round
  rw [h]

/-- As many rounds as the weight of a state empty its queue. -/
lemma queue_iterate (edges : List Edge) : ∀ {n : ℕ} {s : Bfs}, s.weight edges ≤ n →
    ((Bfs.round edges)^[n] s).queue = []
  | 0, s, h => by
    refine List.length_eq_zero_iff.mp ?_
    unfold Bfs.weight at h
    show s.queue.length = 0
    omega
  | n + 1, s, h => by
    rw [Function.iterate_succ_apply]
    by_cases hqueue : s.queue = []
    · rw [round_of_nil edges hqueue, Function.iterate_fixed (round_of_nil edges hqueue), hqueue]
    · have := weight_round edges hqueue
      exact queue_iterate edges (by omega)

/-- The loop makes as many rounds as it needs. -/
lemma run_eq_iterate (edges : List Edge) : ∀ {n : ℕ} {s : Bfs}, s.weight edges ≤ n →
    s.run edges = (Bfs.round edges)^[n] s
  | 0, s, h => by
    have hqueue : s.queue = [] := queue_iterate edges h
    rw [Bfs.run, dif_pos hqueue]
    rfl
  | n + 1, s, h => by
    rw [Function.iterate_succ_apply, Bfs.run]
    by_cases hqueue : s.queue = []
    · rw [dif_pos hqueue, round_of_nil edges hqueue,
        Function.iterate_fixed (round_of_nil edges hqueue)]
    · have := weight_round edges hqueue
      rw [dif_neg hqueue]
      exact run_eq_iterate edges (by omega)

/-- The search makes at most one round for every edge, and one for the start. -/
lemma weight_start (edges : List Edge) (startNodeId : NodeId) :
    (Bfs.start startNodeId).weight edges ≤ edges.length + 1 := by
  have := List.countP_le_length (p := fun e : Edge => e.fromId ∉ ([] : List NodeId)) (l := edges)
  unfold Bfs.weight
  show 1 + _ ≤ _
  exact Nat.add_comm 1 edges.length ▸ Nat.add_le_add_left this 1

/-! ## The abstract search -/

/-- An edge leads from one node to another. -/
def Leads (edges : List Edge) (u v : NodeId) : Prop := ∃ e ∈ edges, e.fromId = u ∧ e.toId = v

/-- The maps hold what the abstract search has found. -/
structure Refines (s : Bfs) (a : Search NodeId Place) : Prop where
  queue : s.queue = a.queue
  visited : ∀ v, v ∈ s.visited ↔ (a.lookup v).isSome = true
  depth : ∀ v, s.depthMap.get v = (a.lookup v).map Entry.depth
  branch : ∀ v, s.branchMap.get v = (a.lookup v).map fun e => e.tag.branch
  via : ∀ v, s.viaMap.get v = (a.lookup v).map fun e => e.tag.via

/-- The edges lead where the successors of an entry are. -/
lemma leads_iff (edges : List Edge) (entry : QueueEntry) (w : NodeId) :
    Leads edges entry.id w ↔ ∃ tag, (w, tag) ∈ pushes edges entry := by
  have hmem : Leads edges entry.id w ↔ w ∈ (outEdges edges entry.id).map Edge.toId := by
    simp [Leads, outEdges, and_assoc]
  rw [hmem, ← map_fst_pushes]
  simp

/-- Nothing has been found before the first round. -/
lemma refines_start (startNodeId : NodeId) :
    Refines (Bfs.start startNodeId) (Search.start startNodeId ⟨0, none⟩) :=
  ⟨rfl, fun _ => by simp [Bfs.start, Bfs.empty, Search.start, Search.lookup], fun _ => rfl,
    fun _ => rfl, fun _ => rfl⟩

/-- **Refinement.** A round is one of the abstract search. -/
lemma refines_round (edges : List Edge) {s : Bfs} {a : Search NodeId Place} (h : Refines s a) :
    Refines (s.round edges) (a.round (pushes edges)) := by
  have hqueue := h.queue
  unfold Bfs.round Search.round
  rw [← hqueue]
  cases hs : s.queue with
  | nil => exact h
  | cons entry queue =>
    dsimp only
    by_cases hvisited : entry.id ∈ s.visited
    · rw [if_pos hvisited, if_pos ((h.visited entry.id).mp hvisited)]
      exact ⟨rfl, h.visited, h.depth, h.branch, h.via⟩
    · rw [if_neg hvisited, if_neg fun hfound => hvisited ((h.visited entry.id).mpr hfound)]
      have hlook : ∀ v, (⟨queue ++ Search.pushed (pushes edges) entry, entry :: a.found⟩ :
          Search NodeId Place).lookup v = if entry.id = v then some entry else a.lookup v :=
        fun v => Search.lookup_cons _ entry a.found v
      refine ⟨rfl, fun v => ?_, fun v => ?_, fun v => ?_, fun v => ?_⟩
      · rw [hlook, List.mem_cons, h.visited]
        by_cases hv : entry.id = v
        · simp [hv]
        · simp [hv, Ne.symm hv]
      · rw [hlook, JsMap.get_set, h.depth]
        split <;> rfl
      · rw [hlook, JsMap.get_set, h.branch]
        split <;> rfl
      · rw [hlook, JsMap.get_set, h.via]
        split <;> rfl

/-- **The search** has gone level by level, from entry to entry, until its queue was empty. -/
lemma search_spec {g : Graph} {startNodeId : NodeId} (h : g.startNodeId = some startNodeId) :
    ∃ a : Search NodeId Place, Refines g.search a ∧ a.queue = [] ∧
      Levels (Leads g.edges) startNodeId a ∧
      Traced (pushes g.edges) ⟨startNodeId, 0, ⟨0, none⟩⟩ a := by
  have hrounds : ∀ n, ∃ a : Search NodeId Place,
      Refines ((Bfs.round g.edges)^[n] (Bfs.start startNodeId)) a ∧
        Levels (Leads g.edges) startNodeId a ∧
        Traced (pushes g.edges) ⟨startNodeId, 0, ⟨0, none⟩⟩ a := by
    intro n
    induction n with
    | zero =>
      exact ⟨_, refines_start startNodeId, levels_start _ _ _, traced_start _ _ _⟩
    | succ n ih =>
      obtain ⟨a, hrefines, hlevels, htraced⟩ := ih
      rw [Function.iterate_succ_apply']
      exact ⟨_, refines_round g.edges hrefines, hlevels.round (leads_iff g.edges),
        htraced.round⟩
  have hweight := weight_start g.edges startNodeId
  obtain ⟨a, hrefines, hlevels, htraced⟩ := hrounds (g.edges.length + 1)
  have hsearch : g.search = (Bfs.round g.edges)^[g.edges.length + 1] (Bfs.start startNodeId) := by
    unfold Graph.search
    rw [h]
    exact run_eq_iterate g.edges hweight
  refine ⟨a, hsearch ▸ hrefines, ?_, hlevels, htraced⟩
  rw [← hrefines.queue]
  exact queue_iterate g.edges hweight

end Flowchart
