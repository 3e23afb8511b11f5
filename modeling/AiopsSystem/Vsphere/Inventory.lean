import AiopsSystem.Go.Table
import AiopsSystem.Machine.DepthFirst

/-! # The containment graphs of a vSphere inventory

`inventoryDirectedGraphAcyclic` searches every key of a graph that is still
unpainted; the order of the keys is that of a `range` over a map, so it is an
argument.
-/

namespace AiopsSystem.Vsphere

open Go DepthFirst List

section Acyclic

variable {Node : Type} [DecidableEq Node]

/-- `graph[node]`, which is empty for a node that is not a key. -/
def childrenOf (graph : GoMap Node (List Node)) (node : Node) : List Node := (graph.get? node).getD []

/-- The loop over the start nodes; `none` only if a search runs out of fuel. -/
def searchAll (graph : GoMap Node (List Node)) (fuel : Nat) : (Node → Color) → List Node → Option Bool
  | _, [] => some true
  | colors, start :: rest =>
    if colors start ≠ .white then searchAll graph fuel colors rest
    else
      match search (childrenOf graph) fuel ⟨Function.update colors start .visiting, [⟨start, 0⟩]⟩ with
      | some (.searched colors) => searchAll graph fuel colors rest
      | some .cyclic => some false
      | none => none

def inventoryDirectedGraphAcyclic (graph : GoMap Node (List Node)) (order : List Node) (fuel : Nat) : Option Bool :=
  searchAll graph fuel (fun _ => .white) order

variable {graph : GoMap Node (List Node)}

/-- The keys and their children, which are all nodes a search can meet. -/
def nodesOf (graph : GoMap Node (List Node)) : Finset Node :=
  graph.keys ∪ graph.keys.biUnion fun key => (childrenOf graph key).toFinset

variable {parent child : Node} {colors : Node → Color}

theorem mem_keys_of_child (h : child ∈ childrenOf graph parent) : parent ∈ graph.keys := by
  unfold childrenOf at h
  cases hChildren : graph.get? parent with
  | none => simp [hChildren] at h
  | some => exact GoMap.mem_keys_of_get? hChildren

theorem mem_nodesOf_of_child (h : child ∈ childrenOf graph parent) : child ∈ nodesOf graph :=
  Finset.mem_union_right _ (Finset.mem_biUnion.mpr ⟨parent, mem_keys_of_child h, mem_toFinset.mpr h⟩)

theorem work_start {start : Node} (hMem : start ∈ nodesOf graph) (hWhite : colors start = .white) :
    work (childrenOf graph) (nodesOf graph) ⟨Function.update colors start .visiting, [⟨start, 0⟩]⟩ ≤
      ∑ node ∈ nodesOf graph, ((childrenOf graph node).length + 2) := by
  have hStart : start ∈ (nodesOf graph).filter fun node => colors node = .white :=
    Finset.mem_filter.mpr ⟨hMem, hWhite⟩
  have hErase := Finset.add_sum_erase _ (fun node => (childrenOf graph node).length + 2) hStart
  have hAll := Finset.sum_le_sum_of_subset (f := fun node => (childrenOf graph node).length + 2)
    (Finset.filter_subset (fun node => colors node = .white) (nodesOf graph))
  simp only [work, white_update colors (by decide : Color.visiting ≠ .white), map_cons, map_nil, sum_cons, sum_nil]
  omega

theorem exists_cycle {frame : Frame Node} {below : List (Frame Node)}
    (hTracks : Tracks (childrenOf graph) ⟨colors, frame :: below⟩) (h : Cyclic (childrenOf graph) colors frame) :
    ∃ node, Relation.TransGen (Edge (childrenOf graph)) node node := by
  obtain ⟨child, hNext, hVisiting⟩ := h
  have hPath := hTracks.passed.reach (hTracks.visiting child hVisiting)
  exact ⟨child, Relation.TransGen.tail' hPath (mem_of_getElem? hNext)⟩

theorem searchAll_spec {fuel : Nat} (hFuel : ∑ node ∈ nodesOf graph, ((childrenOf graph node).length + 2) ≤ fuel)
    {order : List Node} (hOrder : ∀ node ∈ order, node ∈ graph.keys) (hColors : Tracks (childrenOf graph) ⟨colors, []⟩) :
    (searchAll graph fuel colors order = some true ∧ ∃ final, Tracks (childrenOf graph) ⟨final, []⟩ ∧
      ∀ node, node ∈ order ∨ colors node ≠ .white → final node ≠ .white) ∨
    (searchAll graph fuel colors order = some false ∧
      ∃ node, Relation.TransGen (Edge (childrenOf graph)) node node) := by
  induction order generalizing colors with
  | nil =>
    refine .inl ⟨rfl, colors, hColors, ?_⟩
    rintro node (hNone | hColor)
    · cases hNone
    · exact hColor
  | cons start rest ih =>
    have hRest : ∀ node ∈ rest, node ∈ graph.keys := fun node hNode => hOrder node (mem_cons_of_mem _ hNode)
    by_cases hWhite : colors start = .white
    · have hNode : start ∈ nodesOf graph := Finset.mem_union_left _ (hOrder start mem_cons_self)
      have hEnds := search_isSome (fun _ _ => mem_nodesOf_of_child) ((work_start hNode hWhite).trans hFuel)
      obtain ⟨_, hResult⟩ := Option.isSome_iff_exists.mp hEnds
      -- A step keeps the invariant of the search and leaves no node white that was painted.
      have hSearch := search_rule (P := fun config => Tracks (childrenOf graph) config ∧
        ∀ node, node = start ∨ colors node ≠ .white → config.colors node ≠ .white)
        (fun _ _ _ _ hStep h => ⟨h.1.step hStep, fun node hKnown => hStep.painted (h.2 node hKnown)⟩) hResult
        ⟨hColors.start hWhite, fun node hKnown => by by_cases hSame : node = start <;> simp_all⟩
      rw [searchAll, if_neg (by simpa using hWhite), hResult]
      rcases hSearch with ⟨final, rfl, hTracks, hPainted⟩ | ⟨_, _, _, rfl, hCyclic, hTracks, _⟩
      · rcases ih hRest hTracks with ⟨hTrue, last, hLast, hKeeps⟩ | hFalse
        · refine .inl ⟨hTrue, last, hLast, ?_⟩
          rintro node (hMem | hColor)
          · rcases mem_cons.mp hMem with hStart | hLater
            · exact hKeeps node (.inr (hPainted node (.inl hStart)))
            · exact hKeeps node (.inl hLater)
          · exact hKeeps node (.inr (hPainted node (.inr hColor)))
        · exact .inr hFalse
      · exact .inr ⟨rfl, exists_cycle hTracks hCyclic⟩
    · rw [searchAll, if_pos hWhite]
      refine (ih hRest hColors).imp_left ?_
      rintro ⟨hTrue, final, hFinal, hKeeps⟩
      refine ⟨hTrue, final, hFinal, ?_⟩
      rintro node (hMem | hColor)
      · rcases mem_cons.mp hMem with rfl | hLater
        · exact hKeeps node (.inr hWhite)
        · exact hKeeps node (.inl hLater)
      · exact hKeeps node (.inr hColor)

end Acyclic

/-- For every order in which the keys of a graph are met, the search ends, with `true` exactly if no node lies on a
path of edges back to itself. -/
theorem directedGraphAcyclic_iff {Node : Type} [DecidableEq Node] (graph : GoMap Node (List Node)) :
    ∃ enough, ∀ fuel ≥ enough, ∀ order : List Node, (∀ node, node ∈ order ↔ node ∈ graph.keys) →
      ∃ acyclic, inventoryDirectedGraphAcyclic graph order fuel = some acyclic ∧
        (acyclic = true ↔ ∀ node, ¬ Relation.TransGen (fun parent child => child ∈ childrenOf graph parent) node node) := by
  refine ⟨∑ node ∈ nodesOf graph, ((childrenOf graph node).length + 2), ?_⟩
  intro fuel hFuel order hOrder
  have hStart : Tracks (childrenOf graph) ⟨fun _ => .white, []⟩ := ⟨trivial, nofun, nofun, nofun⟩
  rcases searchAll_spec hFuel (fun node hNode => (hOrder node).mp hNode) hStart with
    ⟨hTrue, final, hFinal, hKeeps⟩ | ⟨hFalse, node, hCycle⟩
  · refine ⟨true, hTrue, iff_of_true rfl ?_⟩
    intro node hCycle
    obtain ⟨child, hChild, _⟩ := Relation.TransGen.head'_iff.mp hCycle
    have hVisited := hFinal.visited (hKeeps node (.inl ((hOrder node).mpr (mem_keys_of_child hChild))))
    exact not_transGen_of_acc (hFinal.acc node hVisited) hCycle
  · exact ⟨false, hFalse, iff_of_false nofun fun hAcyclic => hAcyclic node hCycle⟩

namespace Sample

def folders : GoMap Nat (List Nat) := Finmap.insert 1 [2, 3] (Finmap.insert 2 [3] ∅)

def pools : GoMap Nat (List Nat) := Finmap.insert 1 [2] (Finmap.insert 2 [1] ∅)

end Sample

theorem sample_folder_lt {parent child : Nat} (h : child ∈ childrenOf Sample.folders parent) : parent < child := by
  simp only [childrenOf, Sample.folders, GoMap.get?_insert] at h
  split_ifs at h with hOne hTwo
  · simp only [Option.getD_some, mem_cons, not_mem_nil, or_false] at h
    omega
  · simp only [Option.getD_some, mem_cons, not_mem_nil, or_false] at h
    omega
  · cases h

theorem directedGraphAcyclic_sample :
    (∃ fuel, inventoryDirectedGraphAcyclic Sample.folders [2, 1] fuel = some true) ∧
      ∃ fuel, inventoryDirectedGraphAcyclic Sample.pools [1, 2] fuel = some false := by
  constructor
  · obtain ⟨fuel, hFuel⟩ := directedGraphAcyclic_iff Sample.folders
    have hKeys : Sample.folders.keys = [2, 1].toFinset := by decide
    obtain ⟨acyclic, hResult, hAcyclic⟩ := hFuel fuel le_rfl [2, 1] (fun node => by rw [hKeys, mem_toFinset])
    -- an edge goes to a folder with a greater number
    have hTrue : acyclic = true := by
      refine hAcyclic.mpr fun node hCycle => lt_irrefl node ?_
      have hLess : Relation.TransGen (· < ·) node node :=
        Relation.TransGen.mono (fun _ _ => sample_folder_lt) node node hCycle
      rwa [Relation.transGen_eq_self] at hLess
    exact ⟨fuel, hTrue ▸ hResult⟩
  · obtain ⟨fuel, hFuel⟩ := directedGraphAcyclic_iff Sample.pools
    have hKeys : Sample.pools.keys = [1, 2].toFinset := by decide
    obtain ⟨acyclic, hResult, hAcyclic⟩ := hFuel fuel le_rfl [1, 2] (fun node => by rw [hKeys, mem_toFinset])
    have hFalse : acyclic = false := by
      refine Bool.eq_false_iff.mpr fun hTrue => hAcyclic.mp hTrue 1 ?_
      exact .tail (.single (by decide : 2 ∈ childrenOf Sample.pools 1)) (by decide : 1 ∈ childrenOf Sample.pools 2)
    exact ⟨fuel, hFalse ▸ hResult⟩

end AiopsSystem.Vsphere
