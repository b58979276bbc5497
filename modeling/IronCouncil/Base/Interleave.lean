import IronCouncil.Base.OrdDict
import Mathlib.Data.List.Sort

/-!
# Interleavings of keyed sequences

Several parties each send a sequence; the receiver sees one list. Two lists are interleavings of the same sequences when every party's own elements appear in the same order in both. Grouping either list by party gives the same groups, only in another order, and a loop whose steps commute across parties ends in the same state on both.
-/

universe u v w

section Interleavings

variable {α : Type u} {κ : Type v} [DecidableEq κ]

/-- The lists carry the same sequence for every key. -/
def Interleaved (key : α → κ) (l₁ l₂ : List α) : Prop :=
  ∀ k, (l₁.filter fun a => key a = k) = l₂.filter fun a => key a = k

namespace Interleaved

variable {key : α → κ} {l₁ l₂ l₃ : List α}

theorem refl (key : α → κ) (l : List α) : Interleaved key l l := fun _ => rfl

theorem symm (h : Interleaved key l₁ l₂) : Interleaved key l₂ l₁ := fun k => (h k).symm

theorem trans (h : Interleaved key l₁ l₂) (h' : Interleaved key l₂ l₃) : Interleaved key l₁ l₃ :=
  fun k => (h k).trans (h' k)

/-- Neighbours of different keys may change places. -/
theorem swap {a b : α} (hkey : key a ≠ key b) (l : List α) : Interleaved key (a :: b :: l) (b :: a :: l) := by
  intro k
  by_cases ha : key a = k
  · have hb : key b ≠ k := fun hb => hkey (ha.trans hb.symm)
    simp [ha, hb]
  · simp [List.filter_cons, ha]

/-- Elements that fail a test may be dropped on both sides. -/
theorem filter (h : Interleaved key l₁ l₂) (p : α → Bool) : Interleaved key (l₁.filter p) (l₂.filter p) := by
  intro k
  have hswap : ∀ l : List α, ((l.filter p).filter fun a => key a = k) = (l.filter fun a => key a = k).filter p :=
    fun l => by simp only [List.filter_filter, Bool.and_comm]
  rw [hswap, hswap, h]

/-- The list with one key's elements first. -/
def promoted (key : α → κ) (k : κ) (l : List α) : List α :=
  (l.filter fun a => key a = k) ++ l.filter fun a => key a ≠ k

theorem filter_promoted (key : α → κ) (k : κ) (l : List α) (p : α → Bool) :
    (promoted key k l).filter p = promoted key k (l.filter p) := by
  simp only [promoted, List.filter_append, List.filter_filter, Bool.and_comm]

/-- Letting one key's elements go first is an interleaving of the same sequences. -/
theorem promote (key : α → κ) (k : κ) (l : List α) : Interleaved key l (promoted key k l) := by
  intro k'
  rw [filter_promoted, promoted, List.filter_filter, List.filter_filter]
  by_cases hk : k = k'
  · subst hk
    simp
  · have hnone : (l.filter fun a => decide (key a = k) && decide (key a = k')) = [] := by
      rw [List.filter_eq_nil_iff]
      intro a _ ha
      simp only [Bool.and_eq_true, decide_eq_true_eq] at ha
      exact hk (ha.1.symm.trans ha.2)
    rw [hnone, List.nil_append]
    apply List.filter_congr
    intro a _
    by_cases ha : key a = k'
    · simp [ha, Ne.symm hk]
    · simp [ha]

/-- Grouping by `upsert` gives permuted dictionaries of the same groups. -/
theorem groups_perm {β : Type w} (h : Interleaved key l₁ l₂) (init : α → β) (extend : α → β → β) :
    (l₁.foldl (fun d a => d.upsert (key a) (init a) (extend a)) OrdDict.empty).values.Perm
      (l₂.foldl (fun d a => d.upsert (key a) (init a) (extend a)) OrdDict.empty).values := by
  apply OrdDict.values_perm
  intro k
  rw [OrdDict.get?_foldl_upsert, OrdDict.get?_foldl_upsert, h]

end Interleaved

end Interleavings

section Loops

variable {α : Type u} {β : Type v} {σ : Type w}

/-- A loop that commutes with one step commutes with a whole list of them. -/
theorem foldl_step_comm {f : σ → α → σ} (step : σ → σ) (l : List α)
    (h : ∀ a ∈ l, ∀ s, f (step s) a = step (f s a)) (s : σ) : l.foldl f (step s) = step (l.foldl f s) := by
  induction l generalizing s with
  | nil => rfl
  | cons a l ih =>
      rw [List.foldl_cons, List.foldl_cons, h a List.mem_cons_self,
        ih fun b hb => h b (List.mem_cons_of_mem a hb)]

/-- Two loops whose steps commute pairwise commute. -/
theorem foldl_foldl_comm {f : σ → α → σ} {l₁ l₂ : List α}
    (h : ∀ a ∈ l₁, ∀ b ∈ l₂, ∀ s, f (f s a) b = f (f s b) a) (s : σ) :
    l₂.foldl f (l₁.foldl f s) = l₁.foldl f (l₂.foldl f s) :=
  foldl_step_comm (fun s => l₁.foldl f s) l₂
    (fun b hb s => (foldl_step_comm (fun s => f s b) l₁ (fun a ha s => (h a ha b hb s).symm) s).symm) s

/-- A loop over the elements of permuted groups ends in the same state when steps of different groups commute. -/
theorem foldl_flatMap_perm {f : σ → α → σ} {g : β → List α} {l₁ l₂ : List β} (hperm : l₁.Perm l₂)
    (h : ∀ x ∈ l₁, ∀ y ∈ l₁, x ≠ y → ∀ a ∈ g x, ∀ b ∈ g y, ∀ s, f (f s a) b = f (f s b) a) (s : σ) :
    (l₁.flatMap g).foldl f s = (l₂.flatMap g).foldl f s := by
  classical
  rw [List.foldl_flatMap, List.foldl_flatMap]
  apply hperm.foldl_eq'
  intro x hx y hy s
  by_cases hxy : x = y
  · rw [hxy]
  · exact foldl_foldl_comm (h x hx y hy hxy) s

end Loops

section Sorting

variable {α : Type u} {κ : Type v} [LinearOrder κ]

/-- Sorting by a key that tells the elements apart forgets the order they came in. -/
theorem insertionSort_key_perm {key : α → κ} (hinj : Function.Injective key) {l₁ l₂ : List α}
    (hperm : l₁.Perm l₂) :
    (l₁.insertionSort fun a b => key a ≤ key b) = l₂.insertionSort fun a b => key a ≤ key b := by
  have : Std.Total fun a b : α => key a ≤ key b := ⟨fun a b => le_total (key a) (key b)⟩
  have : IsTrans α fun a b => key a ≤ key b := ⟨fun _ _ _ hab hbc => le_trans hab hbc⟩
  apply List.Perm.eq_of_pairwise (fun a b _ _ hab hba => hinj (le_antisymm hab hba))
    (List.pairwise_insertionSort _ l₁) (List.pairwise_insertionSort _ l₂)
  exact (List.perm_insertionSort _ l₁).trans (hperm.trans (List.perm_insertionSort _ l₂).symm)

end Sorting
