import IronCouncil.Base.OrdDict
import Mathlib.Data.List.Nodup
import Mathlib.Data.List.Perm.Subperm
import Mathlib.Logic.Relation

/-!
# Graphs given by their edges

An adjacency dictionary built edge by edge, and a breadth-first search that stops at the first goal it meets. The search finds a goal exactly when one can be reached from where it starts, and a number of turns that bounds the nodes is enough for it.
-/

universe u v

namespace Graph

variable {κ : Type u} {ε : Type v} [DecidableEq κ]

/-! ### Adjacency -/

section Adjacency

variable (endA endB : ε → κ)

def Joins (edge : ε) (a b : κ) : Prop := (endA edge = a ∧ endB edge = b) ∨ (endA edge = b ∧ endB edge = a)

def link (adjacency : OrdDict κ (List κ)) (edge : ε) : OrdDict κ (List κ) :=
  (adjacency.modify (endA edge) (List.insert (endB edge))).modify (endB edge) (List.insert (endA edge))

def neighbors (adjacency : OrdDict κ (List κ)) (node : κ) : List κ := (adjacency.get? node).getD []

@[simp] theorem neighbors_unlinked {α : Type v} (nodes : OrdDict κ α) (node : κ) :
    neighbors (nodes.mapVals fun _ _ => []) node = [] := by
  unfold neighbors
  rw [OrdDict.get?_mapVals]
  cases nodes.get? node with
  | none => rfl
  | some value => rfl

theorem neighbors_modify_insert {adjacency : OrdDict κ (List κ)} {key : κ} (added node : κ)
    (h : key ∈ adjacency.keys) :
    neighbors (adjacency.modify key (List.insert added)) node =
      if node = key then (neighbors adjacency node).insert added else neighbors adjacency node := by
  obtain ⟨listed, hlisted⟩ := OrdDict.mem_keys.1 h
  unfold neighbors
  rw [OrdDict.get?_modify]
  by_cases hnode : node = key
  · simp [hnode, hlisted]
  · simp [hnode]

variable {endA endB}

theorem neighbors_link {adjacency : OrdDict κ (List κ)} {edge : ε} (node : κ)
    (h : endA edge ∈ adjacency.keys ∧ endB edge ∈ adjacency.keys) :
    neighbors (link endA endB adjacency edge) node =
      if node = endB edge then
        (if node = endA edge then (neighbors adjacency node).insert (endB edge) else neighbors adjacency node).insert
          (endA edge)
      else if node = endA edge then (neighbors adjacency node).insert (endB edge) else neighbors adjacency node := by
  rw [link, neighbors_modify_insert _ _ (by simpa using h.2), neighbors_modify_insert _ _ h.1]

/-- Once the edges are linked, a node is listed next to those it was listed next to before and to those an edge joins it with. -/
theorem mem_neighbors_foldl {edges : List ε} {adjacency : OrdDict κ (List κ)}
    (h : ∀ edge ∈ edges, endA edge ∈ adjacency.keys ∧ endB edge ∈ adjacency.keys) {a b : κ} :
    b ∈ neighbors (edges.foldl (link endA endB) adjacency) a ↔
      b ∈ neighbors adjacency a ∨ ∃ edge ∈ edges, Joins endA endB edge a b := by
  induction edges generalizing adjacency with
  | nil => simp
  | cons edge edges ih =>
      have hedge := h edge List.mem_cons_self
      have hkeys : (link endA endB adjacency edge).keys = adjacency.keys := by simp [link]
      have hlink : b ∈ neighbors (link endA endB adjacency edge) a ↔
          b ∈ neighbors adjacency a ∨ Joins endA endB edge a b := by
        rw [neighbors_link a hedge, Joins]
        grind
      rw [List.foldl_cons, ih (by simpa [hkeys] using fun e he => h e (List.mem_cons_of_mem _ he)), hlink]
      simp only [List.exists_mem_cons_iff, or_assoc]

theorem nodup_neighbors_foldl {edges : List ε} {adjacency : OrdDict κ (List κ)}
    (h : ∀ edge ∈ edges, endA edge ∈ adjacency.keys ∧ endB edge ∈ adjacency.keys)
    (hnodup : ∀ node, (neighbors adjacency node).Nodup) (node : κ) :
    (neighbors (edges.foldl (link endA endB) adjacency) node).Nodup := by
  induction edges generalizing adjacency with
  | nil => exact hnodup node
  | cons edge edges ih =>
      have hkeys : (link endA endB adjacency edge).keys = adjacency.keys := by simp [link]
      refine ih (by simpa [hkeys] using fun e he => h e (List.mem_cons_of_mem _ he)) fun node => ?_
      rw [neighbors_link node (h edge List.mem_cons_self)]
      split <;> split <;> simp [hnodup node, List.Nodup.insert]

end Adjacency

/-! ### Breadth-first search -/

section Search

variable (next : κ → List κ) (goals : List κ)

/-- Take the first node of the queue and queue its neighbours that never were. `none` is a search that is cut off. -/
def search : Nat → List κ → List κ → Option Bool
  | 0, _, _ => none
  | _ + 1, [], _ => some false
  | turns + 1, node :: queue, visited =>
      if node ∈ goals then some true
      else
        let fresh := (next node).filter (· ∉ visited)
        search turns (queue ++ fresh) (visited ++ fresh)

def Reaches : κ → κ → Prop := Relation.ReflTransGen fun a b => b ∈ next a

variable {next goals}

/-- Each turn settles one visited node, and `nodes` lists all that can be visited. -/
theorem search_isSome {nodes : List κ} (hnodes : ∀ node, ∀ neighbor ∈ next node, neighbor ∈ nodes)
    (hnext : ∀ node, (next node).Nodup) {turns : Nat} {queue visited : List κ} (hvisited : visited.Nodup)
    (hsub : visited ⊆ nodes) (hturns : nodes.length + queue.length < turns + visited.length) :
    ∃ found, search next goals turns queue visited = some found := by
  induction turns generalizing queue visited with
  | zero =>
      have hlength : visited.length ≤ nodes.length := (hvisited.subperm hsub).length_le
      omega
  | succ turns ih =>
      cases queue with
      | nil => exact ⟨false, rfl⟩
      | cons node queue =>
          rw [search]
          by_cases hgoal : node ∈ goals
          · exact ⟨true, if_pos hgoal⟩
          · rw [if_neg hgoal]
            refine ih ?_ ?_ ?_
            · refine hvisited.append ((hnext node).filter _) ?_
              intro seen hseen hfresh
              simp only [List.mem_filter, decide_eq_true_eq] at hfresh
              exact hfresh.2 hseen
            · refine List.append_subset.2 ⟨hsub, ?_⟩
              exact fun fresh hfresh => hnodes node fresh (List.mem_filter.1 hfresh).1
            · simp only [List.length_append, List.length_cons] at hturns ⊢
              omega

theorem reaches_of_search {turns : Nat} {queue visited : List κ}
    (h : search next goals turns queue visited = some true) : ∃ start ∈ queue, ∃ goal ∈ goals, Reaches next start goal := by
  induction turns generalizing queue visited with
  | zero => cases h
  | succ turns ih =>
      cases queue with
      | nil => cases h
      | cons node queue =>
          rw [search] at h
          by_cases hgoal : node ∈ goals
          · exact ⟨node, List.mem_cons_self, node, hgoal, Relation.ReflTransGen.refl⟩
          · rw [if_neg hgoal] at h
            obtain ⟨start, hstart, goal, hmem, hreach⟩ := ih h
            rcases List.mem_append.1 hstart with hstart | hfresh
            · exact ⟨start, List.mem_cons_of_mem _ hstart, goal, hmem, hreach⟩
            · exact ⟨node, List.mem_cons_self, goal, hmem, hreach.head (List.mem_filter.1 hfresh).1⟩

/-- A search that ends without a goal has visited everything that can be reached from what it had visited. The invariant: a visited node still waits in the queue, or it is no goal and its neighbours are visited. -/
theorem not_mem_goals_of_search {turns : Nat} {queue visited : List κ}
    (h : search next goals turns queue visited = some false)
    (hvisited : ∀ node ∈ visited, node ∈ queue ∨ (node ∉ goals ∧ ∀ neighbor ∈ next node, neighbor ∈ visited))
    {start goal : κ} (hstart : start ∈ visited) (hreach : Reaches next start goal) : goal ∉ goals := by
  induction turns generalizing queue visited with
  | zero => cases h
  | succ turns ih =>
      cases queue with
      | nil =>
          have hclosed : ∀ node, Reaches next start node → node ∈ visited := by
            intro node hnode
            induction hnode with
            | refl => exact hstart
            | tail _ hstep hseen => exact ((hvisited _ hseen).resolve_left List.not_mem_nil).2 _ hstep
          exact ((hvisited goal (hclosed goal hreach)).resolve_left List.not_mem_nil).1
      | cons node queue =>
          rw [search] at h
          by_cases hgoal : node ∈ goals
          · rw [if_pos hgoal] at h
            cases h
          · rw [if_neg hgoal] at h
            refine ih h ?_ (List.mem_append_left _ hstart)
            intro seen hseen
            rcases List.mem_append.1 hseen with hseen | hfresh
            · rcases hvisited seen hseen with hqueued | ⟨hno, hnext⟩
              · rcases List.mem_cons.1 hqueued with rfl | hqueued
                · refine Or.inr ⟨hgoal, fun neighbor hneighbor => ?_⟩
                  by_cases hold : neighbor ∈ visited
                  · exact List.mem_append_left _ hold
                  · exact List.mem_append_right _ (List.mem_filter.2 ⟨hneighbor, decide_eq_true hold⟩)
                · exact Or.inl (List.mem_append_left _ hqueued)
              · exact Or.inr ⟨hno, fun neighbor hneighbor => List.mem_append_left _ (hnext neighbor hneighbor)⟩
            · exact Or.inl (List.mem_append_right _ hfresh)

/-- With more turns than nodes the search ends, and it has found a goal exactly when one can be reached. -/
theorem search_eq_some {nodes starts : List κ} (hnodes : ∀ node, ∀ neighbor ∈ next node, neighbor ∈ nodes)
    (hnext : ∀ node, (next node).Nodup) (hstarts : starts.Nodup) (hsub : starts ⊆ nodes) :
    ∃ found, search next goals (nodes.length + 1) starts starts = some found ∧
      (found = true ↔ ∃ start ∈ starts, ∃ goal ∈ goals, Reaches next start goal) := by
  have hends : ∃ found, search next goals (nodes.length + 1) starts starts = some found :=
    search_isSome hnodes hnext hstarts hsub (by omega)
  obtain ⟨found, hfound⟩ := hends
  refine ⟨found, hfound, fun htrue => reaches_of_search (htrue ▸ hfound), ?_⟩
  intro ⟨start, hstart, goal, hgoal, hreach⟩
  cases found with
  | true => rfl
  | false => exact absurd hgoal (not_mem_goals_of_search hfound (fun node hnode => Or.inl hnode) hstart hreach)

end Search

end Graph
