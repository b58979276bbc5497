import Mathlib.Data.List.Basic

/-!
# What an observer learns of a run

A step shows an observer something, or nothing. Where what it shows determines how the observer's view changes, and a step that shows nothing leaves the view alone, the view after a run depends only on what the run has shown. The view is related to the state, not computed from it, so it may leave out what the states of two runs need not share.
-/

universe u v w x

namespace Observer

variable {σ : Type u} {ε : Type v} {ω : Type w} {ν : Type x}

/-- What a run shows, in order. -/
def shown (step : σ → ε → σ) (observe : σ → ε → Option ω) : σ → List ε → List ω
  | _, [] => []
  | s, e :: events =>
      match observe s e with
      | none => shown step observe (step s e) events
      | some o => o :: shown step observe (step s e) events

variable {step : σ → ε → σ} {observe : σ → ε → Option ω} {deliver : ν → ω → ν} {R : σ → ν → Prop}

/-- The view after a run is what the run has shown, taken in one after another. -/
theorem related_run (hhidden : ∀ s e view, observe s e = none → R s view → R (step s e) view)
    (hshown : ∀ s e o view, observe s e = some o → R s view → R (step s e) (deliver view o)) {s : σ} {view : ν}
    (h : R s view) (events : List ε) :
    R (events.foldl step s) ((shown step observe s events).foldl deliver view) := by
  induction events generalizing s view with
  | nil => exact h
  | cons e events ih =>
      unfold shown
      rw [List.foldl_cons]
      cases hobserved : observe s e with
      | none => exact ih (hhidden s e view hobserved h)
      | some o => exact ih (hshown s e o view hobserved h)

/-- Two runs that show the same end in states with a common view. -/
theorem common_view (hhidden : ∀ s e view, observe s e = none → R s view → R (step s e) view)
    (hshown : ∀ s e o view, observe s e = some o → R s view → R (step s e) (deliver view o)) {s : σ} {view : ν}
    (h : R s view) {first second : List ε} (hsame : shown step observe s first = shown step observe s second) :
    ∃ view', R (first.foldl step s) view' ∧ R (second.foldl step s) view' := by
  refine ⟨_, related_run hhidden hshown h first, ?_⟩
  rw [hsame]
  exact related_run hhidden hshown h second

end Observer
