import Mathlib.Data.List.Basic

/-!
# Linked entries

Entries that each lead from one value to another, and lists of them in which each starts where the one before it has ended.
-/

universe u v w

section Linked

variable {α : Type u} {β : Type v} {γ : Type w} (source target : α → β)

/-- Where entries end that start at a value. -/
def endOf (start : β) (entries : List α) : β := (entries.getLast?.map target).getD start

def Linked : β → List α → Prop
  | _, [] => True
  | start, entry :: entries => source entry = start ∧ Linked (target entry) entries

@[simp] theorem endOf_nil (start : β) : endOf target start [] = start := rfl

theorem endOf_cons (start : β) (entry : α) (entries : List α) :
    endOf target start (entry :: entries) = endOf target (target entry) entries := by
  cases entries with
  | nil => rfl
  | cons next entries =>
      unfold endOf
      rw [List.getLast?_cons_cons]
      cases hlast : (next :: entries).getLast? with
      | none => exact absurd (List.getLast?_eq_none_iff.1 hlast) (List.cons_ne_nil _ _)
      | some last => rfl

theorem endOf_concat (start : β) (entries : List α) (entry : α) :
    endOf target start (entries ++ [entry]) = target entry := by
  simp [endOf]

/-- Linked lists are joined where the first one ends. -/
theorem linked_append (start : β) (entries entries' : List α) :
    Linked source target start (entries ++ entries') ↔
      Linked source target start entries ∧ Linked source target (endOf target start entries) entries' := by
  induction entries generalizing start with
  | nil => simp [Linked]
  | cons entry entries ih => rw [List.cons_append, Linked, Linked, ih, endOf_cons, and_assoc]

/-- Linked entries that each apply a change end where the changes lead one after another. -/
theorem endOf_eq_foldl {apply : β → γ → β} {Applies : α → γ → Prop}
    (happlies : ∀ entry change, Applies entry change → target entry = apply (source entry) change) {start : β}
    {entries : List α} {changes : List γ} (hlinked : Linked source target start entries)
    (h : List.Forall₂ Applies entries changes) : endOf target start entries = changes.foldl apply start := by
  induction h generalizing start with
  | nil => rfl
  | cons hfirst hrest ih =>
      obtain ⟨rfl, hlinked⟩ := hlinked
      rw [endOf_cons, ih hlinked, List.foldl_cons, happlies _ _ hfirst]

end Linked
