import Mathlib

/-! # Depth-first search with an explicit stack

A search paints nodes in three colours and keeps a stack of frames, each with
the index of the child that comes next. It stops at a child that is on the
stack. The rules: what one step does, that enough fuel ends a search, and which
nodes and edges a search has dealt with at any time.
-/

namespace AiopsSystem.DepthFirst

inductive Color where
  | white | visiting | visited
deriving DecidableEq

structure Frame (N : Type) where
  node : N
  next : Nat

structure Config (N : Type) where
  colors : N → Color
  stack : List (Frame N)

inductive Outcome (N : Type) where
  | searched (colors : N → Color)
  /-- A child of the top of the stack was on the stack. -/
  | cyclic

variable {N : Type} (children : N → List N)

def Edge (parent child : N) : Prop := child ∈ children parent

/-- The children before the next one of every frame are visited, or are on the stack right above their parent. -/
def Passed (colors : N → Color) : Option N → List (Frame N) → Prop
  | _, [] => True
  | above, frame :: below =>
    (∀ child ∈ (children frame.node).take frame.next, colors child = .visited ∨ above = some child) ∧
    (∀ child, above = some child → Edge children frame.node child) ∧ Passed colors (some frame.node) below

structure Tracks (config : Config N) : Prop where
  passed : Passed children config.colors none config.stack
  visiting : ∀ node, config.colors node = .visiting → node ∈ config.stack.map Frame.node
  closed : ∀ node, config.colors node = .visited → ∀ child, Edge children node child → config.colors child = .visited
  acc : ∀ node, config.colors node = .visited → Acc (fun child parent => Edge children parent child) node

section Stack

variable {children} {colors colors' : N → Color} {above above' : Option N} {frame : Frame N} {below : List (Frame N)}
  {node child : N}

theorem Passed.mono (hColors : ∀ node, colors node = .visited → colors' node = .visited)
    {stack : List (Frame N)} (h : Passed children colors above stack)
    (hAbove : ∀ child, above = some child → colors' child = .visited ∨ above' = some child)
    (hEdge : ∀ frame ∈ stack.head?, ∀ child, above' = some child → Edge children frame.node child) :
    Passed children colors' above' stack := by
  induction stack generalizing above above' with
  | nil => trivial
  | cons frame below ih =>
    obtain ⟨hTaken, _, hBelow⟩ := h
    refine ⟨?_, hEdge frame rfl, ih hBelow (fun _ => .inr) ?_⟩
    · intro child hChild
      rcases hTaken child hChild with hVisited | hOnTop
      · exact .inl (hColors child hVisited)
      · exact hAbove child hOnTop
    · intro _ hParent
      cases below with
      | nil => cases hParent
      | cons =>
        cases hParent
        exact hBelow.2.1

theorem Passed.pass (h : Passed children colors none (frame :: below))
    (hNext : (children frame.node)[frame.next]? = some child) (hChild : colors child = .visited ∨ above = some child)
    (hAbove : ∀ other, above = some other → Edge children frame.node other) :
    Passed children colors above (⟨frame.node, frame.next + 1⟩ :: below) := by
  refine ⟨?_, hAbove, h.2.2⟩
  intro other hOther
  rw [List.take_add_one, hNext] at hOther
  rcases List.mem_append.mp hOther with hBefore | hLast
  · rcases h.1 other hBefore with hVisited | hNone
    · exact .inl hVisited
    · cases hNone
  · obtain rfl : other = child := by simpa using hLast
    exact hChild

/-- The stack is a path to its top. -/
theorem Passed.reach (h : Passed children colors above (frame :: below))
    (hNode : node ∈ (frame :: below).map Frame.node) : Relation.ReflTransGen (Edge children) node frame.node := by
  induction below generalizing above frame with
  | nil =>
    rw [List.mem_singleton.mp hNode]
  | cons _ _ ih =>
    rcases List.mem_cons.mp hNode with rfl | hBelow
    · exact .refl
    · exact (ih h.2.2 hBelow).tail (h.2.2.2.1 frame.node rfl)

theorem not_transGen_of_acc (h : Acc (fun child parent => Edge children parent child) node) :
    ¬ Relation.TransGen (Edge children) node node := by
  induction h with
  | intro _ _ ih =>
    intro hCycle
    obtain ⟨child, hEdge, hBack⟩ := Relation.TransGen.head'_iff.mp hCycle
    exact ih child hEdge (Relation.TransGen.tail' hBack hEdge)

theorem Tracks.visited (h : Tracks children ⟨colors, []⟩) (hColor : colors node ≠ .white) : colors node = .visited := by
  cases hNode : colors node with
  | white => exact absurd hNode hColor
  | visiting => cases h.visiting node hNode
  | visited => rfl

end Stack

variable [DecidableEq N]

def search : Nat → Config N → Option (Outcome N)
  | _, ⟨colors, []⟩ => some (.searched colors)
  | 0, ⟨_, _ :: _⟩ => none
  | fuel + 1, ⟨colors, frame :: below⟩ =>
    match (children frame.node)[frame.next]? with
    | none => search fuel ⟨Function.update colors frame.node .visited, below⟩
    | some child =>
      match colors child with
      | .visiting => some .cyclic
      | .white => search fuel ⟨Function.update colors child .visiting,
          ⟨child, 0⟩ :: ⟨frame.node, frame.next + 1⟩ :: below⟩
      | .visited => search fuel ⟨colors, ⟨frame.node, frame.next + 1⟩ :: below⟩

section Cases

variable (colors : N → Color) (frame : Frame N) (below : List (Frame N))

/-- What one turn with a frame on top of the stack leads to. -/
inductive Step : Config N → Prop
  | leave (hNext : (children frame.node)[frame.next]? = none) :
      Step ⟨Function.update colors frame.node .visited, below⟩
  | pass (child : N) (hNext : (children frame.node)[frame.next]? = some child) (hKnown : colors child = .visited) :
      Step ⟨colors, ⟨frame.node, frame.next + 1⟩ :: below⟩
  | enter (child : N) (hNext : (children frame.node)[frame.next]? = some child) (hWhite : colors child = .white) :
      Step ⟨Function.update colors child .visiting, ⟨child, 0⟩ :: ⟨frame.node, frame.next + 1⟩ :: below⟩

def Cyclic : Prop := ∃ child, (children frame.node)[frame.next]? = some child ∧ colors child = .visiting

end Cases

theorem search_succ (fuel : Nat) (colors : N → Color) (frame : Frame N) (below : List (Frame N)) :
    (∃ next, Step children colors frame below next ∧
      search children (fuel + 1) ⟨colors, frame :: below⟩ = search children fuel next) ∨
    Cyclic children colors frame ∧ search children (fuel + 1) ⟨colors, frame :: below⟩ = some .cyclic := by
  simp only [search]
  cases hNext : (children frame.node)[frame.next]? with
  | none => exact .inl ⟨_, .leave hNext, rfl⟩
  | some child =>
    cases hColor : colors child with
    | white => exact .inl ⟨_, .enter child hNext hColor, by simp [hColor]⟩
    | visiting => exact .inr ⟨⟨child, hNext, hColor⟩, by simp [hColor]⟩
    | visited => exact .inl ⟨_, .pass child hNext hColor, by simp [hColor]⟩

variable {children}

/-- What every step keeps holds where the search ends. -/
theorem search_rule {P : Config N → Prop}
    (hStep : ∀ colors frame below next, Step children colors frame below next → P ⟨colors, frame :: below⟩ → P next)
    {fuel : Nat} {config : Config N} {outcome : Outcome N} (h : search children fuel config = some outcome)
    (hStart : P config) :
    (∃ colors, outcome = .searched colors ∧ P ⟨colors, []⟩) ∨
      ∃ colors frame below, outcome = .cyclic ∧ Cyclic children colors frame ∧ P ⟨colors, frame :: below⟩ := by
  induction fuel generalizing config with
  | zero =>
    obtain ⟨colors, _ | _⟩ := config
    · exact .inl ⟨_, (Option.some.inj h).symm, hStart⟩
    · cases h
  | succ fuel ih =>
    obtain ⟨colors, _ | ⟨frame, below⟩⟩ := config
    · exact .inl ⟨_, (Option.some.inj h).symm, hStart⟩
    · rcases search_succ children fuel colors frame below with ⟨next, hNext, hSearch⟩ | ⟨hCyclic, hEnd⟩
      · exact ih (hSearch ▸ h) (hStep _ _ _ _ hNext hStart)
      · exact .inr ⟨_, _, _, (Option.some.inj (hEnd.symm.trans h)).symm, hCyclic, hStart⟩

section Fuel

variable (children)

/-- What a search of some nodes still has to do at most. -/
def work (nodes : Finset N) (config : Config N) : Nat :=
  (∑ node ∈ nodes with config.colors node = .white, ((children node).length + 2)) +
    (config.stack.map fun frame => (children frame.node).length - frame.next + 1).sum

variable {children} {nodes : Finset N}

theorem white_update (colors : N → Color) {node : N} {color : Color} (hColor : color ≠ .white) :
    (nodes.filter fun other => Function.update colors node color other = .white) =
      (nodes.filter fun other => colors other = .white).erase node := by
  ext other
  by_cases hSame : other = node
  · simp [hSame, hColor]
  · simp [hSame]

theorem Step.work_lt (hNodes : ∀ parent, ∀ child ∈ children parent, child ∈ nodes) {colors : N → Color}
    {frame : Frame N} {below : List (Frame N)} {next : Config N} (h : Step children colors frame below next) :
    work children nodes next < work children nodes ⟨colors, frame :: below⟩ := by
  cases h with
  | leave =>
    have hFewer := Finset.sum_le_sum_of_subset (f := fun node => (children node).length + 2)
      (Finset.erase_subset frame.node (nodes.filter fun other => colors other = .white))
    simp only [work, white_update colors (by decide : Color.visited ≠ .white), List.map_cons, List.sum_cons]
    omega
  | pass _ hNext =>
    have hLess : frame.next < (children frame.node).length := (List.getElem?_eq_some_iff.mp hNext).1
    simp only [work, List.map_cons, List.sum_cons]
    omega
  | enter child hNext hWhite =>
    have hLess : frame.next < (children frame.node).length := (List.getElem?_eq_some_iff.mp hNext).1
    have hChild : child ∈ nodes.filter fun other => colors other = .white :=
      Finset.mem_filter.mpr ⟨hNodes _ _ (List.mem_of_getElem? hNext), hWhite⟩
    have hSum := Finset.add_sum_erase _ (fun node => (children node).length + 2) hChild
    simp only [work, white_update colors (by decide : Color.visiting ≠ .white), List.map_cons, List.sum_cons]
    omega

theorem search_isSome (hNodes : ∀ parent, ∀ child ∈ children parent, child ∈ nodes) {fuel : Nat} {config : Config N}
    (h : work children nodes config ≤ fuel) : (search children fuel config).isSome := by
  induction fuel generalizing config with
  | zero =>
    obtain ⟨colors, _ | _⟩ := config
    · rfl
    · simp [work] at h
  | succ fuel ih =>
    obtain ⟨colors, _ | ⟨frame, below⟩⟩ := config
    · rfl
    · rcases search_succ children fuel colors frame below with ⟨_, hNext, hSearch⟩ | ⟨_, hEnd⟩
      · have hLess := hNext.work_lt hNodes
        rw [hSearch]
        exact ih (by omega)
      · rw [hEnd]
        rfl

end Fuel

section Colors

variable {colors : N → Color} {frame : Frame N} {below : List (Frame N)} {next : Config N} {node : N}

theorem update_visited {other : N} {color : Color} (hColor : color = .visited ∨ colors node = .white)
    (h : colors other = .visited) : Function.update colors node color other = .visited := by
  by_cases hSame : other = node
  · subst hSame
    rcases hColor with rfl | hWhite
    · simp
    · cases hWhite.symm.trans h
  · rwa [Function.update_of_ne hSame]

theorem visited_of_visiting {start : N} (h : Function.update colors start .visiting node = .visited) :
    colors node = .visited := by
  by_cases hSame : node = start
  · simp [hSame] at h
  · rwa [Function.update_of_ne hSame] at h

theorem Tracks.step (hStep : Step children colors frame below next) (h : Tracks children ⟨colors, frame :: below⟩) :
    Tracks children next := by
  cases hStep with
  | leave hNext =>
    -- Every child of the frame has been passed, so the node can be closed.
    have hChildren : ∀ child, Edge children frame.node child → colors child = .visited := by
      intro child hEdge
      have hAll : (children frame.node).take frame.next = children frame.node :=
        List.take_of_length_le (List.getElem?_eq_none_iff.mp hNext)
      exact (h.passed.1 child (hAll.symm ▸ hEdge)).resolve_right nofun
    have hKept : ∀ node, colors node = .visited → Function.update colors frame.node .visited node = .visited :=
      fun node => update_visited (.inl rfl)
    have hBack : ∀ node, Function.update colors frame.node .visited node = .visited →
        node = frame.node ∨ colors node = .visited := by
      intro node hNode
      by_cases hSame : node = frame.node
      · exact .inl hSame
      · rw [Function.update_of_ne hSame] at hNode
        exact .inr hNode
    refine ⟨h.passed.2.2.mono hKept ?_ nofun, ?_, ?_, ?_⟩
    · rintro child ⟨⟩
      exact .inl (by simp)
    · intro node hNode
      have hOther : node ≠ frame.node := by
        rintro rfl
        simp at hNode
      have hBefore : colors node = .visiting := (Function.update_of_ne hOther _ _).symm.trans hNode
      exact (List.mem_cons.mp (h.visiting node hBefore)).resolve_left hOther
    · intro node hNode child hEdge
      rcases hBack node hNode with rfl | hVisited
      · exact hKept child (hChildren child hEdge)
      · exact hKept child (h.closed node hVisited child hEdge)
    · intro node hNode
      rcases hBack node hNode with rfl | hVisited
      · exact ⟨_, fun child hEdge => h.acc child (hChildren child hEdge)⟩
      · exact h.acc node hVisited
  | pass _ hNext hKnown => exact ⟨h.passed.pass hNext (.inl hKnown) nofun, h.visiting, h.closed, h.acc⟩
  | enter child hNext hWhite =>
    have hKept : ∀ node, colors node = .visited → Function.update colors child .visiting node = .visited :=
      fun node => update_visited (.inr hWhite)
    have hEdge : Edge children frame.node child := List.mem_of_getElem? hNext
    have hPassed : Passed children colors (some child) (⟨frame.node, frame.next + 1⟩ :: below) :=
      h.passed.pass hNext (.inr rfl) (by rintro other ⟨⟩; exact hEdge)
    refine ⟨⟨by simp, nofun, hPassed.mono hKept (fun _ => .inr) ?_⟩, ?_, ?_, ?_⟩
    · rintro _ ⟨⟩ other ⟨⟩
      exact hEdge
    · intro node hNode
      by_cases hSame : node = child
      · simp [hSame]
      · exact List.mem_cons_of_mem _ (h.visiting node ((Function.update_of_ne hSame _ _).symm.trans hNode))
    · intro node hNode other hOther
      exact hKept other (h.closed node (visited_of_visiting hNode) other hOther)
    · intro node hNode
      exact h.acc node (visited_of_visiting hNode)

theorem Tracks.start (h : Tracks children ⟨colors, []⟩) {start : N} (hWhite : colors start = .white) :
    Tracks children ⟨Function.update colors start .visiting, [⟨start, 0⟩]⟩ := by
  refine ⟨⟨by simp, nofun, trivial⟩, ?_, ?_, ?_⟩
  · intro node hNode
    by_cases hSame : node = start
    · simp [hSame]
    · exact absurd (h.visiting node ((Function.update_of_ne hSame _ _).symm.trans hNode)) List.not_mem_nil
  · intro node hNode child hEdge
    exact update_visited (.inr hWhite) (h.closed node (visited_of_visiting hNode) child hEdge)
  · intro node hNode
    exact h.acc node (visited_of_visiting hNode)

theorem Step.painted (h : Step children colors frame below next) (hColor : colors node ≠ .white) :
    next.colors node ≠ .white := by
  cases h with
  | leave => by_cases hSame : node = frame.node <;> simp [hSame, hColor]
  | pass => exact hColor
  | enter child => by_cases hSame : node = child <;> simp [hSame, hColor]

end Colors

end AiopsSystem.DepthFirst
