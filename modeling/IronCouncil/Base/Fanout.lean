import Mathlib.Data.List.Basic

/-!
# Fan-out

One update for many receivers. Each receiver has a task, which builds the receiver's payload when it begins, waits for one of a number of slots, and sends. Tasks begin and end in any order; the slots go to those that wait in the order in which they began.
-/

universe u v

structure Fanout (ρ : Type u) (π : Type v) where
  slots : Nat
  unstarted : List ρ
  waiting : List (ρ × π)
  sending : List (ρ × π)
  delivered : Nat
deriving DecidableEq

namespace Fanout

variable {ρ : Type u} {π : Type v}

def start (slots : Nat) (receivers : List ρ) : Fanout ρ π := ⟨slots, receivers, [], [], 0⟩

/-- The payloads that are built and not sent. -/
def built (fanout : Fanout ρ π) : List (ρ × π) := fanout.waiting ++ fanout.sending

/-- Those that wait take the free slots. -/
def grant (fanout : Fanout ρ π) : Fanout ρ π :=
  let free := fanout.slots - fanout.sending.length
  { fanout with waiting := fanout.waiting.drop free, sending := fanout.sending ++ fanout.waiting.take free }

/-- A task begins with the payload it built. -/
def launch (fanout : Fanout ρ π) (i : Nat) (task : ρ × π) : Fanout ρ π :=
  grant { fanout with unstarted := fanout.unstarted.eraseIdx i, waiting := fanout.waiting ++ [task] }

/-- A task that could not build its payload is over. -/
def abandon (fanout : Fanout ρ π) (i : Nat) : Fanout ρ π := { fanout with unstarted := fanout.unstarted.eraseIdx i }

def finish (fanout : Fanout ρ π) (j : Nat) (delivered : Bool) : Fanout ρ π :=
  grant { fanout with sending := fanout.sending.eraseIdx j, delivered := fanout.delivered + delivered.toNat }

def isDone (fanout : Fanout ρ π) : Bool := fanout.unstarted.isEmpty && fanout.built.isEmpty

/-- The receiver's task has not ended. -/
def Attends (fanout : Fanout ρ π) (receiver : ρ) : Prop :=
  receiver ∈ fanout.unstarted ∨ ∃ payload, (receiver, payload) ∈ fanout.built

/-- The receiver's task is to send the payload, or has not begun. -/
def Owes (fanout : Fanout ρ π) (receiver : ρ) (payload : π) : Prop :=
  receiver ∈ fanout.unstarted ∨ (receiver, payload) ∈ fanout.built

/-- No more sends than slots, and nobody waits while one is free. -/
structure Fair (fanout : Fanout ρ π) : Prop where
  bounded : fanout.sending.length ≤ fanout.slots
  busy : fanout.waiting ≠ [] → fanout.sending.length = fanout.slots

variable {fanout : Fanout ρ π} {receiver : ρ} {payload : π} {task task' : ρ × π} {i j : Nat} {delivered : Bool}

/-! ### Tasks -/

theorem mem_built : task ∈ fanout.built ↔ task ∈ fanout.waiting ∨ task ∈ fanout.sending := List.mem_append

@[simp] theorem unstarted_grant : fanout.grant.unstarted = fanout.unstarted := rfl

@[simp] theorem mem_built_grant : task ∈ fanout.grant.built ↔ task ∈ fanout.built := by
  have hsplit : task ∈ fanout.waiting ↔ task ∈ fanout.waiting.take (fanout.slots - fanout.sending.length) ∨
      task ∈ fanout.waiting.drop (fanout.slots - fanout.sending.length) := by
    rw [← List.mem_append, List.take_append_drop]
  rw [mem_built, mem_built, hsplit]
  simp only [grant, List.mem_append]
  tauto

theorem mem_built_launch : task ∈ (fanout.launch i task').built ↔ task = task' ∨ task ∈ fanout.built := by
  rw [launch, mem_built_grant, mem_built, mem_built, List.mem_append, List.mem_singleton]
  tauto

theorem mem_built_of_finish (h : task ∈ (fanout.finish j delivered).built) : task ∈ fanout.built := by
  rw [finish, mem_built_grant] at h
  exact mem_built.2 ((mem_built.1 h).imp id List.mem_of_mem_eraseIdx)

/-- A task that is not at the place from which one is taken stays. -/
theorem eq_or_mem_eraseIdx {α : Type*} {l : List α} {a b : α} {k : Nat} (hb : l[k]? = some b) (ha : a ∈ l) :
    a = b ∨ a ∈ l.eraseIdx k := by
  obtain ⟨n, hn⟩ := List.mem_iff_getElem?.1 ha
  by_cases hk : n = k
  · exact Or.inl (Option.some.inj (hn.symm.trans (hk ▸ hb)))
  · exact Or.inr (List.mem_eraseIdx_iff_getElem?.2 ⟨n, hk, hn⟩)

theorem eq_or_mem_unstarted_launch (htask : fanout.unstarted[i]? = some receiver) {receiver' : ρ}
    (h : receiver' ∈ fanout.unstarted) : receiver' = receiver ∨ receiver' ∈ (fanout.launch i task).unstarted :=
  eq_or_mem_eraseIdx htask h

theorem eq_or_mem_built_finish (htask : fanout.sending[j]? = some task) (h : task' ∈ fanout.built) :
    task' = task ∨ task' ∈ (fanout.finish j delivered).built := by
  rw [finish, mem_built_grant, mem_built]
  rcases mem_built.1 h with hwaiting | hsending
  · exact Or.inr (Or.inl hwaiting)
  · exact (eq_or_mem_eraseIdx htask hsending).imp id Or.inr

theorem Owes.attends (h : fanout.Owes receiver payload) : fanout.Attends receiver := h.imp id fun hbuilt => ⟨payload, hbuilt⟩

theorem Owes.launch {receiver' : ρ} {payload' : π} (h : fanout.Owes receiver payload)
    (htask : fanout.unstarted[i]? = some receiver') (hsame : receiver = receiver' → payload = payload') :
    (fanout.launch i (receiver', payload')).Owes receiver payload := by
  rcases h with hunstarted | hbuilt
  · rcases eq_or_mem_unstarted_launch htask hunstarted with rfl | hstill
    · rw [hsame rfl]
      exact Or.inr (mem_built_launch.2 (Or.inl rfl))
    · exact Or.inl hstill
  · exact Or.inr (mem_built_launch.2 (Or.inr hbuilt))

theorem Owes.finish (h : fanout.Owes receiver payload) (htask : fanout.sending[j]? = some task) :
    (receiver, payload) = task ∨ (fanout.finish j delivered).Owes receiver payload := by
  rcases h with hunstarted | hbuilt
  · exact Or.inr (Or.inl hunstarted)
  · exact (eq_or_mem_built_finish htask hbuilt).imp id Or.inr

theorem not_attends_of_isDone (h : fanout.isDone = true) : ¬ fanout.Attends receiver := by
  obtain ⟨hunstarted, hbuilt⟩ := Bool.and_eq_true_iff.1 h
  intro hattends
  rcases hattends with hwaits | ⟨payload, hcarried⟩
  · rw [List.isEmpty_iff.1 hunstarted] at hwaits
    cases hwaits
  · rw [List.isEmpty_iff.1 hbuilt] at hcarried
    cases hcarried

theorem isDone_start {slots : Nat} {receivers : List ρ} (hsome : receivers ≠ []) :
    (start slots receivers : Fanout ρ π).isDone = false := by
  cases receivers with
  | nil => exact absurd rfl hsome
  | cons receiver receivers => rfl

/-! ### Slots -/

theorem fair_start (slots : Nat) (receivers : List ρ) : (start slots receivers : Fanout ρ π).Fair :=
  ⟨Nat.zero_le _, fun h => absurd rfl h⟩

theorem fair_grant (h : fanout.sending.length ≤ fanout.slots) : fanout.grant.Fair := by
  constructor
  · simp only [grant, List.length_append, List.length_take]
    omega
  · intro hwaiting
    have hlong : fanout.slots - fanout.sending.length < fanout.waiting.length := by
      by_contra hshort
      exact hwaiting (List.drop_eq_nil_of_le (Nat.le_of_not_lt hshort))
    simp only [grant, List.length_append, List.length_take]
    omega

theorem Fair.launch (h : fanout.Fair) (i : Nat) (task : ρ × π) : (fanout.launch i task).Fair := fair_grant h.bounded

theorem Fair.finish (h : fanout.Fair) (j : Nat) (delivered : Bool) : (fanout.finish j delivered).Fair :=
  fair_grant (Nat.le_trans (List.length_eraseIdx_le _ _) h.bounded)

/-- With a slot at all, a fan-out that is not over has a task that can go on. -/
theorem Fair.progress (h : fanout.Fair) (hslots : 0 < fanout.slots) (hrunning : fanout.isDone = false) :
    fanout.unstarted ≠ [] ∨ fanout.sending ≠ [] := by
  by_contra hstuck
  obtain ⟨hunstarted, hsending⟩ := not_or.1 hstuck
  rw [not_not] at hunstarted hsending
  have hwaiting : fanout.waiting = [] := by
    by_contra hwaits
    have hfull := h.busy hwaits
    rw [hsending] at hfull
    exact absurd hfull (Nat.ne_of_lt hslots)
  rw [isDone, built, hunstarted, hsending, hwaiting] at hrunning
  cases hrunning

/-! ### How long it takes -/

/-- A task takes a step to begin and one to end. -/
def stepsLeft (fanout : Fanout ρ π) : Nat := 2 * fanout.unstarted.length + fanout.built.length

@[simp] theorem length_built_grant : fanout.grant.built.length = fanout.built.length := by
  simp only [built, grant, List.length_append, List.length_drop, List.length_take]
  omega

theorem stepsLeft_launch (htask : fanout.unstarted[i]? = some receiver) :
    (fanout.launch i task).stepsLeft + 1 = fanout.stepsLeft := by
  obtain ⟨hi, -⟩ := List.getElem?_eq_some_iff.1 htask
  rw [stepsLeft, launch, length_built_grant, unstarted_grant]
  simp only [stepsLeft, built, List.length_append, List.length_eraseIdx, if_pos hi, List.length_singleton]
  omega

theorem stepsLeft_finish (htask : fanout.sending[j]? = some task) :
    (fanout.finish j delivered).stepsLeft + 1 = fanout.stepsLeft := by
  obtain ⟨hj, -⟩ := List.getElem?_eq_some_iff.1 htask
  rw [stepsLeft, finish, length_built_grant, unstarted_grant]
  simp only [stepsLeft, built, List.length_append, List.length_eraseIdx, if_pos hj]
  omega

end Fanout
