import Mathlib.Data.Finset.Card
import Mathlib.Data.List.Nodup
import Mathlib.Data.List.Perm.Subperm

/-!
# Fresh names

The first name of a numbered family that is not taken. A search that has one try more than there are names taken always ends on a fresh one, because the family never repeats a name.
-/

universe u

section FreshName

variable {α : Type u} [DecidableEq α]

def nextFree (name : Nat → α) (taken : List α) : Nat → Nat → α
  | 0, suffix => name suffix
  | tries + 1, suffix => if name suffix ∈ taken then nextFree name taken tries (suffix + 1) else name suffix

theorem nextFree_eq_name (name : Nat → α) (taken : List α) (tries suffix : Nat) :
    ∃ k, suffix ≤ k ∧ nextFree name taken tries suffix = name k := by
  induction tries generalizing suffix with
  | zero => exact ⟨suffix, le_refl suffix, rfl⟩
  | succ tries ih =>
      unfold nextFree
      split
      · obtain ⟨k, hk, heq⟩ := ih (suffix + 1)
        exact ⟨k, by omega, heq⟩
      · exact ⟨suffix, le_refl suffix, rfl⟩

/-- A search that ends on a taken name has passed taken names only. -/
theorem forall_mem_of_nextFree_mem {name : Nat → α} {taken : List α} {tries suffix : Nat}
    (h : nextFree name taken tries suffix ∈ taken) : ∀ i ≤ tries, name (suffix + i) ∈ taken := by
  induction tries generalizing suffix with
  | zero =>
      intro i hi
      rw [Nat.le_zero.1 hi]
      exact h
  | succ tries ih =>
      unfold nextFree at h
      split at h
      · rename_i hsuffix
        intro i hi
        cases i with
        | zero => exact hsuffix
        | succ i =>
            have := ih h i (by omega)
            rwa [show suffix + (i + 1) = suffix + 1 + i by omega]
      · rename_i hsuffix
        exact absurd h hsuffix

theorem nextFree_not_mem {name : Nat → α} (hinj : Function.Injective name) (taken : List α) (suffix : Nat) :
    nextFree name taken (taken.length + 1) suffix ∉ taken := by
  intro h
  have hall := forall_mem_of_nextFree_mem h
  have hnodup : ((List.range (taken.length + 1)).map fun i => name (suffix + i)).Nodup :=
    List.nodup_range.map fun i j hij => Nat.add_left_cancel (hinj hij)
  have hsub : ((List.range (taken.length + 1)).map fun i => name (suffix + i)) ⊆ taken := by
    intro a ha
    obtain ⟨i, hi, rfl⟩ := List.mem_map.1 ha
    exact hall i (by have := List.mem_range.1 hi; omega)
  have hlen := (hnodup.subperm hsub).length_le
  rw [List.length_map, List.length_range] at hlen
  omega

end FreshName

/-- The members of a numbered family of strings, `stem` followed by the number. -/
def numberedName (stem : String) (suffix : Nat) : String := s!"{stem}{suffix}"

theorem numberedName_injective (stem : String) : Function.Injective (numberedName stem) := by
  intro m n h
  have hcat : ∀ k, numberedName stem k = stem ++ k.repr := fun k => by
    simp [numberedName, toString]
  rw [hcat, hcat, String.append_right_inj] at h
  have hdigits : Nat.toDigits 10 m = Nat.toDigits 10 n := by
    simpa only [Nat.toList_repr] using congrArg String.toList h
  rw [← Nat.ofDigitChars_ten_toDigits (n := m), hdigits, Nat.ofDigitChars_ten_toDigits]
