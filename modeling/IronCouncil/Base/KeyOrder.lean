import IronCouncil.Base.OrdDict
import Mathlib.Data.List.Sort

/-!
# Listing by key

A list whose elements have distinct keys, written out in the order of the keys, depends on the elements alone and not on where they stood. So does a dictionary, and so does a dictionary that groups a list by a key, up to the order within each group.
-/

universe u v w

section Listing

variable {α : Type u} {β : Type v} {κ : Type w} [LinearOrder κ] {g : α → κ}

theorem pairwise_key_insertionSort (l : List α) :
    (l.insertionSort fun a b => g a ≤ g b).Pairwise fun a b => g a ≤ g b := by
  have : Std.Total fun a b : α => g a ≤ g b := ⟨fun a b => le_total (g a) (g b)⟩
  have : IsTrans α fun a b => g a ≤ g b := ⟨fun _ _ _ hab hbc => le_trans hab hbc⟩
  exact List.pairwise_insertionSort _ l

/-- Two lists in the order of their keys that hold the same elements are equal when keys are distinct. -/
theorem eq_of_key_ordered {k : β → κ} {l₁ l₂ : List β} (hperm : l₁.Perm l₂) (hnodup : (l₁.map k).Nodup)
    (h₁ : l₁.Pairwise fun a b => k a ≤ k b) (h₂ : l₂.Pairwise fun a b => k a ≤ k b) : l₁ = l₂ := by
  apply List.Perm.eq_of_pairwise _ h₁ h₂ hperm
  intro a b ha hb hab hba
  exact List.inj_on_of_nodup_map hnodup ha (hperm.mem_iff.2 hb) (le_antisymm hab hba)

theorem insertionSort_key_eq {l₁ l₂ : List α} (hperm : l₁.Perm l₂) (hnodup : (l₁.map g).Nodup) :
    (l₁.insertionSort fun a b => g a ≤ g b) = l₂.insertionSort fun a b => g a ≤ g b := by
  apply eq_of_key_ordered (k := g)
  · exact (List.perm_insertionSort _ l₁).trans (hperm.trans (List.perm_insertionSort _ l₂).symm)
  · exact ((List.perm_insertionSort _ l₁).map g).nodup_iff.2 hnodup
  · exact pairwise_key_insertionSort l₁
  · exact pairwise_key_insertionSort l₂

/-- What is listed of the elements that are picked out, seen through a view that shows the key, depends only on which views there are. -/
theorem listing_eq {v : α → β} {k : β → κ} (hkey : ∀ a, k (v a) = g a) {p : α → Bool} {l₁ l₂ : List α}
    (h₁ : (l₁.map g).Nodup) (h₂ : (l₂.map g).Nodup)
    (hsame : ∀ b, (∃ a ∈ l₁, p a ∧ v a = b) ↔ ∃ a ∈ l₂, p a ∧ v a = b) :
    ((l₁.insertionSort fun a b => g a ≤ g b).filter p).map v =
      ((l₂.insertionSort fun a b => g a ≤ g b).filter p).map v := by
  have hkeys : ∀ l : List α, (l.map g).Nodup →
      ((((l.insertionSort fun a b => g a ≤ g b).filter p).map v).map k).Nodup := by
    intro l hl
    have hview : k ∘ v = g := funext hkey
    rw [List.map_map, hview]
    apply List.Nodup.sublist (List.filter_sublist.map g)
    exact ((List.perm_insertionSort _ l).map g).nodup_iff.2 hl
  have hordered : ∀ l : List α,
      (((l.insertionSort fun a b => g a ≤ g b).filter p).map v).Pairwise fun a b => k a ≤ k b := by
    intro l
    rw [List.pairwise_map]
    simp only [hkey]
    exact (pairwise_key_insertionSort l).sublist List.filter_sublist
  apply eq_of_key_ordered _ (hkeys l₁ h₁) (hordered l₁) (hordered l₂)
  rw [List.perm_ext_iff_of_nodup (List.Nodup.of_map k (hkeys l₁ h₁)) (List.Nodup.of_map k (hkeys l₂ h₂))]
  intro b
  simpa only [List.mem_map, List.mem_filter, List.mem_insertionSort, and_assoc] using hsame b

/-- Of a list in the order of its keys, what comes before an element is what has a smaller key. -/
theorem filter_lt_of_split {first rest : List α} {a : α} (hsorted : (first ++ a :: rest).Pairwise fun a b => g a ≤ g b)
    (hnodup : ((first ++ a :: rest).map g).Nodup) : (first ++ a :: rest).filter (fun b => g b < g a) = first := by
  rw [List.pairwise_append, List.pairwise_cons] at hsorted
  obtain ⟨-, ⟨hrest, -⟩, hfirst⟩ := hsorted
  rw [List.map_append, List.map_cons, List.nodup_append] at hnodup
  obtain ⟨-, -, hapart⟩ := hnodup
  have hbefore : first.filter (fun b => g b < g a) = first := by
    rw [List.filter_eq_self]
    intro b hb
    have hne := hapart _ (List.mem_map_of_mem hb) _ List.mem_cons_self
    simpa using lt_of_le_of_ne (hfirst b hb a List.mem_cons_self) hne
  have hafter : rest.filter (fun b => g b < g a) = [] := by
    rw [List.filter_eq_nil_iff]
    intro b hb
    simpa using hrest b hb
  rw [List.filter_append, List.filter_cons_of_neg (by simp), hbefore, hafter, List.append_nil]

theorem le_of_insertionSort_eq_cons {l rest : List κ} {a b : κ} (h : l.insertionSort (· ≤ ·) = a :: rest)
    (hb : b ∈ a :: rest) : a ≤ b := by
  have hordered := List.pairwise_insertionSort (· ≤ ·) l
  rw [h, List.pairwise_cons] at hordered
  rcases List.mem_cons.1 hb with rfl | hrest
  · exact le_refl b
  · exact hordered.1 b hrest

theorem insertionSort_eq_of_perm {l₁ l₂ : List κ} (hperm : l₁.Perm l₂) :
    l₁.insertionSort (· ≤ ·) = l₂.insertionSort (· ≤ ·) := by
  apply List.Perm.eq_of_pairwise (fun a b _ _ hab hba => le_antisymm hab hba)
  · exact List.pairwise_insertionSort _ l₁
  · exact List.pairwise_insertionSort _ l₂
  · exact (List.perm_insertionSort _ l₁).trans (hperm.trans (List.perm_insertionSort _ l₂).symm)

theorem filter_insertionSort (p : κ → Bool) (l : List κ) :
    (l.insertionSort (· ≤ ·)).filter p = (l.filter p).insertionSort (· ≤ ·) := by
  apply List.Perm.eq_of_pairwise (fun a b _ _ hab hba => le_antisymm hab hba)
  · exact (List.pairwise_insertionSort _ l).sublist List.filter_sublist
  · exact List.pairwise_insertionSort _ _
  · exact ((List.perm_insertionSort _ l).filter p).trans (List.perm_insertionSort _ _).symm

/-- A comparison that falls back on another one is the order of pairs. -/
theorem isLE_then_compare {first second : κ} {rest : Ordering} :
    ((compare first second).then rest).isLE ↔ first < second ∨ first = second ∧ rest.isLE := by
  rcases lt_trichotomy first second with hlt | rfl | hgt
  · simp [compare_lt_iff_lt.2 hlt, hlt]
  · simp
  · simp [compare_gt_iff_gt.2 hgt, hgt.ne', not_lt.2 hgt.le]

theorem isLE_compare_iff {first second : κ} : (compare first second).isLE ↔ first ≤ second := by
  rw [← Ordering.ne_gt_iff_isLE]
  exact compare_le_iff_le

end Listing

namespace OrdDict

variable {κ : Type u} {α : Type v} {β : Type w} [LinearOrder κ]

/-- Two dictionaries with the same values under every key are listed alike. -/
theorem sorted_entries_eq {d e : OrdDict κ α} (h : ∀ k, d.get? k = e.get? k) :
    (d.entries.insertionSort fun a b => a.1 ≤ b.1) = e.entries.insertionSort fun a b => a.1 ≤ b.1 :=
  insertionSort_key_eq (entries_perm h) d.nodup

theorem map_sorted_entries (f : κ → α → β) (d : OrdDict κ α) :
    ((d.mapVals f).entries.insertionSort fun a b => a.1 ≤ b.1) =
      (d.entries.insertionSort fun a b => a.1 ≤ b.1).map fun e => (e.1, f e.1 e.2) := by
  symm
  apply List.map_insertionSort
  exact fun _ _ _ _ => Iff.rfl

/-- Grouping by a loop of `upsert`s: under each key stands what the list holds for it. -/
theorem get?_group (l : List (κ × α)) (k : κ) :
    (l.foldl (fun d e => d.upsert e.1 [e.2] (· ++ [e.2])) (empty : OrdDict κ (List α))).get? k =
      if l.filter (fun e => e.1 = k) = [] then none else some ((l.filter fun e => e.1 = k).map Prod.snd) := by
  have hloop : ∀ (group : List (κ × α)) (start : List α),
      group.foldl (fun o e => some (o.elim [e.2] (· ++ [e.2]))) (some start) = some (start ++ group.map Prod.snd) := by
    intro group
    induction group with
    | nil => simp
    | cons e group ih =>
        intro start
        rw [List.foldl_cons, Option.elim_some, ih, List.map_cons, List.append_assoc]
        rfl
  rw [get?_foldl_upsert Prod.fst (fun e => [e.2]) fun e group => group ++ [e.2], get?_empty]
  cases l.filter fun e => decide (e.1 = k) with
  | nil => rfl
  | cons e group =>
      rw [List.foldl_cons, Option.elim_none, hloop, if_neg (List.cons_ne_nil _ _)]
      rfl

/-- Grouping permuted lists puts permuted groups under the same keys. -/
theorem get?_group_perm [LinearOrder α] {l₁ l₂ : List (κ × α)} (hperm : l₁.Perm l₂) (k : κ) :
    ((l₁.foldl (fun d e => d.upsert e.1 [e.2] (· ++ [e.2])) (empty : OrdDict κ (List α))).mapVals
        fun _ group => group.insertionSort (· ≤ ·)).get? k =
      ((l₂.foldl (fun d e => d.upsert e.1 [e.2] (· ++ [e.2])) (empty : OrdDict κ (List α))).mapVals
        fun _ group => group.insertionSort (· ≤ ·)).get? k := by
  have hgroup := hperm.filter fun e => decide (e.1 = k)
  have hempty : l₁.filter (fun e => decide (e.1 = k)) = [] ↔ l₂.filter (fun e => decide (e.1 = k)) = [] :=
    ⟨fun h => (h ▸ hgroup).nil_eq.symm, fun h => (h ▸ hgroup).eq_nil⟩
  rw [get?_mapVals, get?_mapVals, get?_group, get?_group]
  by_cases h : l₁.filter (fun e => decide (e.1 = k)) = []
  · rw [if_pos h, if_pos (hempty.1 h)]
  · rw [if_neg h, if_neg fun h' => h (hempty.2 h'), Option.map_some, Option.map_some]
    congr 1
    apply List.Perm.eq_of_pairwise (fun a b _ _ hab hba => le_antisymm hab hba)
      (List.pairwise_insertionSort _ _) (List.pairwise_insertionSort _ _)
    exact (List.perm_insertionSort _ _).trans ((hgroup.map Prod.snd).trans (List.perm_insertionSort _ _).symm)

end OrdDict
