/-!
# Programs that work in place

A program that raises leaves the state as far changed as it got. Programs work on a cell of a larger state, and one that is rehearsed on a copy of its cell first changes everything or nothing.
-/

universe u v w

namespace InPlace

/-- A part of a state that can be read and replaced. -/
structure Cell (τ σ : Type u) where
  get : τ → σ
  set : σ → τ → τ
  get_set : ∀ s t, get (set s t) = s
  set_get : ∀ t, set (get t) t = t
  set_set : ∀ s s' t, set s' (set s t) = set s' t

/-- The whole state. -/
def Cell.self (σ : Type u) : Cell σ σ where
  get s := s
  set s _ := s
  get_set _ _ := rfl
  set_get _ := rfl
  set_set _ _ _ := rfl

variable {τ σ ε α β γ ι : Type u}

/-- The program on a cell. -/
def Cell.run (cell : Cell τ σ) (program : EStateM ε σ α) : EStateM ε τ α := fun t =>
  match program (cell.get t) with
  | .ok a s => .ok a (cell.set s t)
  | .error e s => .error e (cell.set s t)

/-- An operation that makes its checks before its changes. -/
def checked (operation : σ → Except ε (σ × α)) : EStateM ε σ α := fun s =>
  match operation s with
  | .ok (next, a) => .ok a next
  | .error e => .error e s

/-- The program on the cell, after a rehearsal on a copy. -/
def rehearsed (cell : Cell τ σ) (rehearsal : EStateM ε σ α) (program : EStateM ε τ α) : EStateM ε τ α := fun t =>
  match rehearsal (cell.get t) with
  | .ok _ _ => program t
  | .error e _ => .error e t

theorem bind_ok {program : EStateM ε σ α} {next : α → EStateM ε σ β} {s s' : σ} {a : α} (h : program s = .ok a s') :
    (program >>= next) s = next a s' := by
  show EStateM.bind program next s = next a s'
  unfold EStateM.bind
  rw [h]

theorem bind_error {program : EStateM ε σ α} {next : α → EStateM ε σ β} {s s' : σ} {e : ε}
    (h : program s = .error e s') : (program >>= next) s = .error e s' := by
  show EStateM.bind program next s = .error e s'
  unfold EStateM.bind
  rw [h]

/-- What a program leaves, if it succeeds. -/
def outcome : EStateM.Result ε τ α → Except ε τ
  | .ok _ t => .ok t
  | .error e _ => .error e

/-- Run programs one after another, as long as they succeed, and keep what they leave. -/
def inOrder (program : ι → EStateM ε τ α) (t : τ) (items : List ι) : Except ε τ :=
  items.foldlM (fun t item => outcome (program item t)) t

section InOrder

variable (program : ι → EStateM ε τ α)

theorem inOrder_cons_ok {t next : τ} {item : ι} {a : α} (h : program item t = .ok a next) (items : List ι) :
    inOrder program t (item :: items) = inOrder program next items := by
  unfold inOrder
  rw [List.foldlM_cons, h]
  rfl

theorem inOrder_cons_error {t left : τ} {item : ι} {e : ε} (h : program item t = .error e left) (items : List ι) :
    inOrder program t (item :: items) = .error e := by
  unfold inOrder
  rw [List.foldlM_cons, h]
  rfl

theorem outcome_map (f : α → β) (single : EStateM ε τ α) (t : τ) : outcome ((f <$> single) t) = outcome (single t) := by
  show outcome (EStateM.map f single t) = _
  unfold EStateM.map
  cases single t <;> rfl

theorem outcome_bind_pure (f : α → β) (single : EStateM ε τ α) (t : τ) :
    outcome ((single >>= fun a => pure (f a)) t) = outcome (single t) := by
  rw [bind_pure_comp]
  exact outcome_map f single t

theorem inOrder_singleton (t : τ) (item : ι) : inOrder program t [item] = outcome (program item t) := by
  cases hitem : program item t with
  | error e left => exact inOrder_cons_error program hitem []
  | ok a next => exact inOrder_cons_ok program hitem []

/-- A loop leaves what its passes leave one after another. -/
theorem inOrder_mapM (t : τ) (items : List ι) : inOrder program t items = outcome (items.mapM program t) := by
  induction items generalizing t with
  | nil => rfl
  | cons item items ih =>
      rw [List.mapM_cons]
      cases hitem : program item t with
      | error e left =>
          rw [inOrder_cons_error program hitem, bind_error hitem]
          rfl
      | ok a next =>
          rw [inOrder_cons_ok program hitem, bind_ok hitem, ih]
          cases hrest : items.mapM program next with
          | error e left => rw [bind_error hrest]
          | ok rest last =>
              rw [bind_ok hrest]
              rfl

/-- Items that leave what the passes of a loop leave do so one after another. -/
theorem inOrder_map {κ : Type u} {f : κ → ι} {pass : κ → EStateM ε τ β}
    (h : ∀ item t, outcome (program (f item) t) = outcome (pass item t)) (t : τ) (items : List κ) :
    inOrder program t (items.map f) = outcome (items.mapM pass t) := by
  rw [← inOrder_mapM]
  unfold inOrder
  rw [List.foldlM_map]
  simp only [h]

/-- Two programs in a row leave what the items of the one and then those of the other leave. -/
theorem inOrder_append {t : τ} {items items' : List ι} {first : EStateM ε τ β} {next : β → EStateM ε τ γ}
    (h : inOrder program t items = outcome (first t)) (hnext : ∀ b t', inOrder program t' items' = outcome (next b t')) :
    inOrder program t (items ++ items') = outcome ((first >>= next) t) := by
  have hsplit : inOrder program t (items ++ items') = inOrder program t items >>= fun t' => inOrder program t' items' :=
    List.foldlM_append
  rw [hsplit, h]
  cases hfirst : first t with
  | error e left =>
      rw [bind_error hfirst]
      rfl
  | ok b t' =>
      rw [bind_ok hfirst, ← hnext]
      rfl

end InOrder

/-! ### Programs on a cell -/

section Cell

variable (cell : Cell τ σ)

theorem run_self (program : EStateM ε σ α) : (Cell.self σ).run program = program := by
  funext s
  unfold Cell.run Cell.self
  cases program s <;> rfl

theorem run_pure (a : α) : cell.run (pure a : EStateM ε σ α) = pure a := by
  funext t
  show EStateM.Result.ok a (cell.set (cell.get t) t) = .ok a t
  rw [cell.set_get]

theorem run_throw (e : ε) : cell.run (throw e : EStateM ε σ α) = throw e := by
  funext t
  show EStateM.Result.error e (cell.set (cell.get t) t) = .error e t
  rw [cell.set_get]

theorem run_ok {program : EStateM ε σ α} {t : τ} {a : α} {s : σ} (h : program (cell.get t) = .ok a s) :
    cell.run program t = .ok a (cell.set s t) := by
  unfold Cell.run
  rw [h]

theorem run_error {program : EStateM ε σ α} {t : τ} {e : ε} {s : σ} (h : program (cell.get t) = .error e s) :
    cell.run program t = .error e (cell.set s t) := by
  unfold Cell.run
  rw [h]

theorem run_bind (program : EStateM ε σ α) (next : α → EStateM ε σ β) :
    cell.run (program >>= next) = cell.run program >>= fun a => cell.run (next a) := by
  funext t
  cases hfirst : program (cell.get t) with
  | error e s => rw [bind_error (run_error cell hfirst), run_error cell (bind_error hfirst)]
  | ok a s =>
      rw [bind_ok (run_ok cell hfirst)]
      unfold Cell.run
      rw [bind_ok hfirst, cell.get_set]
      cases next a s with
      | error e s' =>
          dsimp only
          rw [cell.set_set]
      | ok b s' =>
          dsimp only
          rw [cell.set_set]

theorem run_map (f : α → β) (program : EStateM ε σ α) : cell.run (f <$> program) = f <$> cell.run program := by
  rw [map_eq_pure_bind, map_eq_pure_bind, run_bind]
  congr 1
  funext a
  exact run_pure cell (f a)

theorem run_mapM (program : ι → EStateM ε σ α) (items : List ι) :
    cell.run (items.mapM program) = items.mapM fun item => cell.run (program item) := by
  induction items with
  | nil => exact run_pure cell []
  | cons item items ih =>
      rw [List.mapM_cons, List.mapM_cons, run_bind]
      congr 1
      funext a
      rw [run_bind, ih]
      congr 1
      funext rest
      exact run_pure cell (a :: rest)

end Cell

/-! ### What a program performs -/

/-- The operation that a program performs: what it leaves and returns, if it succeeds. -/
def performed (program : EStateM ε σ α) (s : σ) : Except ε (σ × α) :=
  match program s with
  | .ok a next => .ok (next, a)
  | .error e _ => .error e

theorem performed_checked (operation : σ → Except ε (σ × α)) : performed (checked operation) = operation := by
  funext s
  unfold performed checked
  cases operation s <;> rfl

theorem performed_bind (program : EStateM ε σ α) (next : α → EStateM ε σ β) (s : σ) :
    performed (program >>= next) s = match performed program s with
      | .error e => .error e
      | .ok (s', a) => performed (next a) s' := by
  unfold performed
  cases hfirst : program s with
  | error e left => rw [bind_error hfirst]
  | ok a s' => rw [bind_ok hfirst]

theorem performed_map (f : α → β) (program : EStateM ε σ α) (s : σ) :
    performed (f <$> program) s = (performed program s).map fun done => (done.1, f done.2) := by
  rw [map_eq_pure_bind, performed_bind]
  cases performed program s <;> rfl

/-- The program, or nothing at all. -/
def atomic (program : EStateM ε τ α) : EStateM ε τ α := fun t =>
  match program t with
  | .ok a next => .ok a next
  | .error e _ => .error e t

theorem atomic_outcome (program : EStateM ε τ α) (t : τ) :
    (∀ e, outcome (program t) = .error e → atomic program t = .error e t) ∧
      ∀ next, outcome (program t) = .ok next → ∃ a, atomic program t = .ok a next := by
  unfold atomic
  cases program t with
  | error e left =>
      constructor
      · intro e' h
        cases h
        rfl
      · intro next h
        cases h
  | ok a next =>
      constructor
      · intro e h
        cases h
      · intro next' h
        cases h
        exact ⟨a, rfl⟩

/-- A program that has been rehearsed on a copy does not raise: all of it happens or nothing. -/
theorem rehearsed_run (cell : Cell τ σ) (rehearsal : EStateM ε σ α) {program : EStateM ε τ α}
    (h : program = cell.run rehearsal) : rehearsed cell rehearsal program = atomic program := by
  funext t
  unfold rehearsed atomic
  rw [h]
  cases hrehearsal : rehearsal (cell.get t) with
  | error e left => rw [run_error cell hrehearsal]
  | ok a next => rw [run_ok cell hrehearsal]

/-- All or nothing of a program is the operation that it performs. -/
theorem atomic_run (cell : Cell τ σ) (program : EStateM ε σ α) :
    atomic (cell.run program) = cell.run (checked (performed program)) := by
  funext t
  unfold atomic
  cases hprogram : program (cell.get t) with
  | error e left =>
      have hchecked : checked (performed program) (cell.get t) = .error e (cell.get t) := by
        unfold checked performed
        rw [hprogram]
      rw [run_error cell hprogram, run_error cell hchecked, cell.set_get]
  | ok a next =>
      have hchecked : checked (performed program) (cell.get t) = .ok a next := by
        unfold checked performed
        rw [hprogram]
      rw [run_ok cell hprogram, run_ok cell hchecked]

end InPlace
