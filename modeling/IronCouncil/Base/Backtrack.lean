import Mathlib.Data.List.Basic

/-!
# Backtracking in place

A search gives each player of a list a candidate in turn. It writes every choice into one shared state and takes the choice back when it leads nowhere. When taking back restores the state, the search is the one that keeps every state it comes through: it fails only if no choice of candidates can be written, and then leaves the state as it was.
-/

universe u v w

/-- The moves of a search: which candidate may be written for a player, and how it is written and taken back. -/
structure Backtrack (σ : Type u) (π : Type v) (α : Type w) where
  can : σ → π → α → Bool
  place : σ → π → α → σ
  undo : σ → π → α → σ
  undo_place : ∀ state player candidate, can state player candidate = true →
    undo (place state player candidate) player candidate = state

namespace Backtrack

variable {σ : Type u} {π : Type v} {α : Type w} (moves : Backtrack σ π α) (candidates : List α)

/-- The candidates of one player, one after another, until one leads to the end. -/
def attempt (player : π) (rest : σ → Bool × σ) (progress : Bool × σ) (candidate : α) : Bool × σ :=
  if progress.1 then progress
  else if moves.can progress.2 player candidate then
    let tried := rest (moves.place progress.2 player candidate)
    if tried.1 then tried else (false, moves.undo tried.2 player candidate)
  else progress

def inPlace : List π → σ → Bool × σ
  | [], state => (true, state)
  | player :: players, state => candidates.foldl (moves.attempt player (inPlace players)) (false, state)

/-- The same search over states that are kept. -/
def search : List π → σ → Option σ
  | [], state => some state
  | player :: players, state => candidates.findSome? fun candidate =>
      if moves.can state player candidate then search players (moves.place state player candidate) else none

/-- A choice of candidates for the players, each of which can be written when its turn comes. -/
inductive Fills : List π → σ → σ → Prop
  | done (state : σ) : Fills [] state state
  | place {player : π} {players : List π} {state filled : σ} {candidate : α} (hmem : candidate ∈ candidates)
      (hcan : moves.can state player candidate = true)
      (hrest : Fills players (moves.place state player candidate) filled) : Fills (player :: players) state filled

def settled (state : σ) : Option σ → Bool × σ
  | none => (false, state)
  | some filled => (true, filled)

variable {moves candidates}

theorem foldl_attempt_found (player : π) (rest : σ → Bool × σ) (candidates : List α) (filled : σ) :
    candidates.foldl (moves.attempt player rest) (true, filled) = (true, filled) := by
  induction candidates with
  | nil => rfl
  | cons candidate candidates ih => exact ih

theorem foldl_attempt {player : π} {rest : σ → Bool × σ} {restSearch : σ → Option σ}
    (hrest : ∀ state, rest state = settled state (restSearch state)) (candidates : List α) (state : σ) :
    candidates.foldl (moves.attempt player rest) (false, state) =
      settled state (candidates.findSome? fun candidate =>
        if moves.can state player candidate then restSearch (moves.place state player candidate) else none) := by
  induction candidates with
  | nil => rfl
  | cons candidate candidates ih =>
      rw [List.foldl_cons, List.findSome?_cons, attempt]
      by_cases hcan : moves.can state player candidate = true
      · simp only [Bool.false_eq_true, if_false, hcan, if_true, hrest]
        cases hfound : restSearch (moves.place state player candidate) with
        | none =>
            simp only [settled, Bool.false_eq_true, if_false, moves.undo_place state player candidate hcan]
            exact ih
        | some filled => simpa [settled] using foldl_attempt_found player rest candidates filled
      · simp only [Bool.false_eq_true, if_false, hcan]
        exact ih

/-- What is taken back leaves no trace. -/
theorem inPlace_eq (players : List π) (state : σ) :
    moves.inPlace candidates players state = settled state (moves.search candidates players state) := by
  induction players generalizing state with
  | nil => rfl
  | cons player players ih => exact foldl_attempt ih candidates state

theorem fills_of_search {players : List π} {state filled : σ}
    (h : moves.search candidates players state = some filled) : moves.Fills candidates players state filled := by
  induction players generalizing state with
  | nil =>
      cases h
      exact Fills.done _
  | cons player players ih =>
      obtain ⟨candidate, hmem, hcandidate⟩ := List.exists_of_findSome?_eq_some h
      split at hcandidate
      · rename_i hcan
        exact Fills.place hmem hcan (ih hcandidate)
      · cases hcandidate

/-- The search finds a choice whenever there is one. -/
theorem search_isSome_of_fills {players : List π} {state filled : σ}
    (h : moves.Fills candidates players state filled) : (moves.search candidates players state).isSome := by
  induction h with
  | done state => rfl
  | place hmem hcan _ ih =>
      rw [search, List.isSome_findSome?, List.any_eq_true]
      exact ⟨_, hmem, by rw [if_pos hcan]; exact ih⟩

theorem inPlace_eq_true {players : List π} {state filled : σ}
    (h : moves.inPlace candidates players state = (true, filled)) : moves.Fills candidates players state filled := by
  rw [inPlace_eq] at h
  cases hsearch : moves.search candidates players state with
  | none =>
      rw [hsearch] at h
      cases h
  | some found =>
      rw [hsearch] at h
      cases h
      exact fills_of_search hsearch

theorem inPlace_of_fills {players : List π} {state filled : σ} (h : moves.Fills candidates players state filled) :
    ∃ found, moves.inPlace candidates players state = (true, found) := by
  obtain ⟨found, hfound⟩ := Option.isSome_iff_exists.1 (search_isSome_of_fills h)
  exact ⟨found, by rw [inPlace_eq, hfound, settled]⟩

/-- What every move keeps, a choice keeps. -/
theorem Fills.invariant {I : σ → Prop} {players : List π} {state filled : σ}
    (h : moves.Fills candidates players state filled)
    (hplace : ∀ state, ∀ player ∈ players, ∀ candidate ∈ candidates, moves.can state player candidate = true →
      I state → I (moves.place state player candidate)) (hstate : I state) : I filled := by
  induction h with
  | done state => exact hstate
  | place hmem hcan _ ih =>
      refine ih (fun state player hplayer => hplace state player (List.mem_cons_of_mem _ hplayer)) ?_
      exact hplace _ _ List.mem_cons_self _ hmem hcan hstate

end Backtrack
