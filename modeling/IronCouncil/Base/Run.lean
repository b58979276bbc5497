import Mathlib.Algebra.BigOperators.Group.List.Basic
import Mathlib.Algebra.GroupWithZero.Nat
import Mathlib.Algebra.Ring.Int.Defs

/-!
# Runs of a state machine

A run feeds a list of events to a step function. The states it visits, the steps it takes, and the induction rules that carry a property of one step to every state of every run.
-/

universe u v

namespace Run

variable {σ : Type u} {ε : Type v}

/-- The states a run visits, the initial one first. -/
def states (step : σ → ε → σ) : σ → List ε → List σ
  | s, [] => [s]
  | s, e :: events => s :: states step (step s e) events

/-- The steps a run takes, each with the state it is taken in. -/
def steps (step : σ → ε → σ) : σ → List ε → List (σ × ε)
  | _, [] => []
  | s, e :: events => (s, e) :: steps step (step s e) events

variable {step : σ → ε → σ}

theorem mem_states_self (s : σ) (events : List ε) : s ∈ states step s events := by
  cases events <;> exact List.mem_cons_self

theorem foldl_mem_states (s : σ) (events : List ε) : events.foldl step s ∈ states step s events := by
  induction events generalizing s with
  | nil => exact List.mem_cons_self
  | cons e events ih => exact List.mem_cons_of_mem s (ih (step s e))

theorem step_mem_states (s : σ) (e : ε) : step s e ∈ states step s [e] := foldl_mem_states s [e]

theorem fst_mem_states {s : σ} {events : List ε} {t : σ × ε} (ht : t ∈ steps step s events) :
    t.1 ∈ states step s events := by
  induction events generalizing s with
  | nil => exact absurd ht List.not_mem_nil
  | cons e events ih =>
      rcases List.mem_cons.1 ht with rfl | ht
      · exact List.mem_cons_self
      · exact List.mem_cons_of_mem s (ih ht)

/-- The states of a run are those its first events lead to. -/
theorem mem_states {s s' : σ} {events : List ε} :
    s' ∈ states step s events ↔ ∃ before after, events = before ++ after ∧ s' = before.foldl step s := by
  induction events generalizing s with
  | nil => simp [states]
  | cons e events ih =>
      rw [states, List.mem_cons, ih]
      constructor
      · rintro (rfl | ⟨before, after, rfl, rfl⟩)
        · exact ⟨[], e :: events, rfl, rfl⟩
        · exact ⟨e :: before, after, rfl, rfl⟩
      · rintro ⟨before, after, hevents, hstate⟩
        cases before with
        | nil => exact Or.inl hstate
        | cons first before =>
            injection hevents with he hrest
            exact Or.inr ⟨before, after, hrest, by rw [hstate, he]; rfl⟩

/-- The states that follow a state of a run are states of a run. -/
theorem mem_states_trans {s s' s'' : σ} {events more : List ε} (h : s' ∈ states step s events)
    (h' : s'' ∈ states step s' more) : ∃ all, s'' ∈ states step s all := by
  obtain ⟨before, after, -, rfl⟩ := mem_states.1 h
  obtain ⟨before', after', -, rfl⟩ := mem_states.1 h'
  exact ⟨before ++ before', mem_states.2 ⟨before ++ before', [], by simp, by simp⟩⟩

theorem states_append_cons (s : σ) (before : List ε) (e : ε) (after : List ε) :
    states step s (before ++ e :: after) = states step s before ++ states step (step (before.foldl step s) e) after := by
  induction before generalizing s with
  | nil => rfl
  | cons first before ih => exact congrArg (s :: ·) (ih (step s first))

/-- What relates a state to the one after it relates every state of a run to its last. -/
theorem rel_last {R : σ → σ → Prop} (hrefl : ∀ s, R s s) (htrans : ∀ s s' s'', R s s' → R s' s'' → R s s'')
    (hstep : ∀ s e, R s (step s e)) {s s' : σ} {events : List ε} (h : s' ∈ states step s events) :
    R s' (events.foldl step s) := by
  have hrest : ∀ (after : List ε) (reached : σ), R reached (after.foldl step reached) := by
    intro after
    induction after with
    | nil => exact hrefl
    | cons e after ih => exact fun reached => htrans _ _ _ (hstep reached e) (ih (step reached e))
  obtain ⟨before, after, rfl, rfl⟩ := mem_states.1 h
  rw [List.foldl_append]
  exact hrest after _

/-- A step of a run splits its events. -/
theorem mem_steps {s : σ} {events : List ε} {t : σ × ε} :
    t ∈ steps step s events ↔ ∃ before after, events = before ++ t.2 :: after ∧ t.1 = before.foldl step s := by
  induction events generalizing s with
  | nil => simp [steps]
  | cons e events ih =>
      rw [steps, List.mem_cons, ih]
      constructor
      · rintro (rfl | ⟨before, after, rfl, hstate⟩)
        · exact ⟨[], events, rfl, rfl⟩
        · exact ⟨e :: before, after, rfl, hstate⟩
      · rintro ⟨before, after, hevents, hstate⟩
        cases before with
        | nil =>
            injection hevents with he hafter
            exact Or.inl (Prod.ext hstate he.symm)
        | cons first before =>
            injection hevents with he hrest
            exact Or.inr ⟨before, after, hrest, by rw [hstate, he]; rfl⟩

theorem steps_append (s : σ) (events events' : List ε) :
    steps step s (events ++ events') = steps step s events ++ steps step (events.foldl step s) events' := by
  induction events generalizing s with
  | nil => rfl
  | cons e events ih => exact congrArg ((s, e) :: ·) (ih (step s e))

/-- What each step that is allowed in its state keeps holds of every state of a run of such steps. -/
theorem invariant_of_steps {I : σ → Prop} {C : σ → ε → Prop} (hstep : ∀ s e, C s e → I s → I (step s e)) {s : σ}
    (hs : I s) {events : List ε} (hevents : ∀ t ∈ steps step s events, C t.1 t.2) :
    ∀ s' ∈ states step s events, I s' := by
  induction events generalizing s with
  | nil =>
      intro s' hs'
      rw [List.mem_singleton.1 hs']
      exact hs
  | cons e events ih =>
      intro s' hs'
      obtain ⟨he, hevents⟩ := List.forall_mem_cons.1 hevents
      rcases List.mem_cons.1 hs' with rfl | hs'
      · exact hs
      · exact ih (hstep s e he hs) hevents s' hs'

/-- What each step on an admitted event keeps holds of every state of a run of such events. -/
theorem invariant_of_admitted {I : σ → Prop} {C : ε → Prop} (hstep : ∀ s e, C e → I s → I (step s e)) {s : σ}
    (hs : I s) {events : List ε} (hevents : ∀ e ∈ events, C e) : ∀ s' ∈ states step s events, I s' := by
  induction events generalizing s with
  | nil =>
      intro s' hs'
      rw [List.mem_singleton.1 hs']
      exact hs
  | cons e events ih =>
      intro s' hs'
      obtain ⟨he, hevents⟩ := List.forall_mem_cons.1 hevents
      rcases List.mem_cons.1 hs' with rfl | hs'
      · exact hs
      · exact ih (hstep s e he hs) hevents s' hs'

/-- An invariant of the step function holds of every state of a run. -/
theorem invariant {I : σ → Prop} (hstep : ∀ s e, I s → I (step s e)) {s : σ} (hs : I s) (events : List ε) :
    ∀ s' ∈ states step s events, I s' :=
  invariant_of_admitted (C := fun _ => True) (fun s e _ => hstep s e) hs fun _ _ => trivial

theorem invariant_foldl {I : σ → Prop} (hstep : ∀ s e, I s → I (step s e)) {s : σ} (hs : I s) (events : List ε) :
    I (events.foldl step s) :=
  invariant hstep hs events _ (foldl_mem_states s events)

/-- What holds at the end of a run has held from its start, or from a step on that brought it. -/
theorem origin_foldl {I : σ → Prop} {C : σ → ε → Prop} (hstep : ∀ s e, I (step s e) → I s ∨ C s e) {s : σ}
    {events : List ε} (h : I (events.foldl step s)) :
    (∀ s' ∈ states step s events, I s') ∨
      ∃ before e after, events = before ++ e :: after ∧ C (before.foldl step s) e ∧
        ∀ s' ∈ states step (step (before.foldl step s) e) after, I s' := by
  induction events generalizing s with
  | nil => exact Or.inl fun s' hs' => List.mem_singleton.1 hs' ▸ h
  | cons e events ih =>
      rcases ih h with hsince | ⟨before, e', after, rfl, hbrought, hsince⟩
      · rcases hstep s e (hsince _ (mem_states_self _ events)) with hs | hbrought
        · exact Or.inl (List.forall_mem_cons.2 ⟨hs, hsince⟩)
        · exact Or.inr ⟨[], e, events, rfl, hbrought, hsince⟩
      · exact Or.inr ⟨e :: before, e', after, rfl, hbrought, hsince⟩

/-- What no step changes, a whole loop leaves unchanged. -/
theorem frame_foldl {γ : Type*} {g : σ → γ} (hstep : ∀ s e, g (step s e) = g s) (s : σ) (events : List ε) :
    g (events.foldl step s) = g s :=
  invariant_foldl (I := fun s' => g s' = g s) (fun s' e h => (hstep s' e).trans h) rfl events

theorem foldlM_cons_eq_ok {δ : Type*} {step : σ → ε → Except δ σ} {s s' : σ} {e : ε} {events : List ε}
    (h : (e :: events).foldlM step s = .ok s') : ∃ next, step s e = .ok next ∧ events.foldlM step next = .ok s' := by
  rw [List.foldlM_cons] at h
  cases hfirst : step s e with
  | error error =>
      rw [hfirst] at h
      cases h
  | ok next =>
      rw [hfirst] at h
      exact ⟨next, rfl, h⟩

/-- A loop that may fail keeps what each of its successful steps on an admitted event keeps. -/
theorem invariant_foldlM_of_admitted {δ : Type*} {step : σ → ε → Except δ σ} {I : σ → Prop} {C : ε → Prop}
    (hstep : ∀ s e s', C e → step s e = .ok s' → I s → I s') {events : List ε} (hevents : ∀ e ∈ events, C e)
    {s s' : σ} (h : events.foldlM step s = .ok s') (hs : I s) : I s' := by
  induction events generalizing s with
  | nil =>
      cases h
      exact hs
  | cons e events ih =>
      obtain ⟨he, hevents⟩ := List.forall_mem_cons.1 hevents
      obtain ⟨next, hfirst, hrest⟩ := foldlM_cons_eq_ok h
      exact ih hevents hrest (hstep s e next he hfirst hs)

/-- A loop that may fail keeps what each of its successful steps keeps. -/
theorem invariant_foldlM {δ : Type*} {step : σ → ε → Except δ σ} {I : σ → Prop}
    (hstep : ∀ s e s', step s e = .ok s' → I s → I s') {events : List ε} {s s' : σ}
    (h : events.foldlM step s = .ok s') (hs : I s) : I s' :=
  invariant_foldlM_of_admitted (C := fun _ => True) (fun s e s' _ => hstep s e s') (fun _ _ => trivial) h hs

/-- A loop whose steps succeed under an invariant of the state and of what is still to come, and keep it, succeeds. -/
theorem total_foldlM_of_rest {δ : Type*} {step : σ → ε → Except δ σ} {I : σ → List ε → Prop}
    (hstep : ∀ s e rest, I s (e :: rest) → ∃ s', step s e = .ok s' ∧ I s' rest) {s : σ} {events : List ε}
    (hs : I s events) : ∃ s', events.foldlM step s = .ok s' ∧ I s' [] := by
  induction events generalizing s with
  | nil => exact ⟨s, rfl, hs⟩
  | cons e events ih =>
      obtain ⟨next, hnext, hkept⟩ := hstep s e events hs
      obtain ⟨last, hlast, hI⟩ := ih hkept
      refine ⟨last, ?_, hI⟩
      rw [List.foldlM_cons, hnext]
      exact hlast

/-- A loop whose steps succeed under an invariant, and keep it, succeeds. -/
theorem total_foldlM {δ : Type*} {step : σ → ε → Except δ σ} {I : σ → Prop}
    (hstep : ∀ s e, I s → ∃ s', step s e = .ok s' ∧ I s') {s : σ} (hs : I s) (events : List ε) :
    ∃ s', events.foldlM step s = .ok s' ∧ I s' :=
  total_foldlM_of_rest (I := fun s _ => I s) (fun s e _ => hstep s e) hs

/-- Two runs whose steps keep a relation end related. -/
theorem rel_foldl {τ : Type*} {step' : τ → ε → τ} {R : σ → τ → Prop}
    (hstep : ∀ s t e, R s t → R (step s e) (step' t e)) {s : σ} {t : τ} (hs : R s t) (events : List ε) :
    R (events.foldl step s) (events.foldl step' t) := by
  induction events generalizing s t with
  | nil => exact hs
  | cons e events ih => exact ih (hstep s t e hs)

/-- A run follows another where each of its steps can. -/
theorem rel_foldlM {τ δ : Type*} {step : σ → ε → Except δ σ} {step' : τ → ε → Except δ τ} {R : σ → τ → Prop}
    (hstep : ∀ s t e s', R s t → step s e = .ok s' → ∃ t', step' t e = .ok t' ∧ R s' t') {events : List ε}
    {s s' : σ} {t : τ} (hs : R s t) (h : events.foldlM step s = .ok s') :
    ∃ t', events.foldlM step' t = .ok t' ∧ R s' t' := by
  induction events generalizing s t with
  | nil =>
      cases h
      exact ⟨t, rfl, hs⟩
  | cons e events ih =>
      obtain ⟨next, hnext, hrest⟩ := foldlM_cons_eq_ok h
      obtain ⟨next', hnext', hrel⟩ := hstep s t e next hs hnext
      rw [List.foldlM_cons, hnext']
      exact ih hrel hrest

/-- A quantity to which each step adds its own amount ends up with the amounts of all steps. -/
theorem sum_foldl {M : Type*} [AddMonoid M] {g : σ → M} {d : ε → M} {I : σ → Prop}
    (hstep : ∀ s e, I s → I (step s e) ∧ g (step s e) = g s + d e) {s : σ} (hs : I s) (events : List ε) :
    g (events.foldl step s) = g s + (events.map d).sum := by
  induction events generalizing s with
  | nil => simp
  | cons e events ih =>
      obtain ⟨hkept, hamount⟩ := hstep s e hs
      rw [List.foldl_cons, ih hkept, hamount, List.map_cons, List.sum_cons, add_assoc]

/-- Where each step of a run keeps the property exactly when a condition on the step holds, the run keeps it exactly when each of its steps meets the condition. -/
theorem forall_states_iff_of_steps {I : σ → Prop} {C : σ → ε → Prop} {s : σ} {events : List ε}
    (hstep : ∀ t ∈ steps step s events, I t.1 → (I (step t.1 t.2) ↔ C t.1 t.2)) (hs : I s) :
    (∀ s' ∈ states step s events, I s') ↔ ∀ t ∈ steps step s events, C t.1 t.2 := by
  induction events generalizing s with
  | nil => simpa [states, steps] using hs
  | cons e events ih =>
      obtain ⟨hfirst, hrest⟩ := List.forall_mem_cons.1 hstep
      simp only [states, steps, List.forall_mem_cons, hs, true_and]
      constructor
      · intro h
        have hnext : I (step s e) := h _ (mem_states_self _ events)
        exact ⟨(hfirst hs).1 hnext, (ih hrest hnext).1 h⟩
      · rintro ⟨hc, h⟩
        exact (ih hrest ((hfirst hs).2 hc)).2 h

theorem forall_states_iff {I : σ → Prop} {C : σ → ε → Prop} (hstep : ∀ s e, I s → (I (step s e) ↔ C s e))
    {s : σ} (hs : I s) (events : List ε) :
    (∀ s' ∈ states step s events, I s') ↔ ∀ t ∈ steps step s events, C t.1 t.2 :=
  forall_states_iff_of_steps (fun t _ => hstep t.1 t.2) hs

end Run

theorem eq_ok_of_toOption {ε α : Type} {outcome : Except ε α} {a : α} (h : outcome.toOption = some a) :
    outcome = .ok a := by
  cases outcome with
  | error error => cases h
  | ok found =>
      cases h
      rfl

theorem ne_ok_of_toOption {ε α : Type} {outcome : Except ε α} (h : outcome.toOption.isSome = false) (a : α) :
    outcome ≠ .ok a := by
  rintro rfl
  cases h
