import Mathlib.Algebra.Order.BigOperators.Group.List
import Mathlib.Algebra.Order.Floor.Div
import Mathlib.Data.List.Sort

/-!
# Sharing out by largest remainders

A total is shared out over items in proportion to their weights. Every item takes the whole part of its exact share, and what is left over goes out by ones, the largest remainders first. The shares add up to the total, and each is its exact share rounded down or up.
-/

universe u v

namespace List

/-- Numbers below a bound that add up to `k` times the bound, in descending order, begin with `k` positive ones. -/
theorem pos_of_mem_take {l : List Nat} {k bound : Nat} (hsorted : l.Pairwise fun m n => n ≤ m)
    (hbound : ∀ n ∈ l, n < bound) (hsum : l.sum = k * bound) : ∀ n ∈ l.take k, 0 < n := by
  intro n hn
  by_contra hzero
  obtain rfl : n = 0 := by omega
  have hpos : 0 < bound := hbound 0 (take_subset k l hn)
  have hk : 0 < k := by
    by_contra hk
    obtain rfl : k = 0 := by omega
    simp at hn
  have hrest : (l.drop k).sum = 0 := by
    apply sum_eq_zero
    intro m hm
    rw [← take_append_drop k l, pairwise_append] at hsorted
    exact Nat.le_zero.1 (hsorted.2.2 0 hn m hm)
  have hfirst : (l.take k).sum ≤ (l.take k).length • (bound - 1) := by
    apply sum_le_card_nsmul
    intro m hm
    have hlt := hbound m (take_subset k l hm)
    omega
  have hlength : (l.take k).length • (bound - 1) ≤ k * (bound - 1) :=
    Nat.mul_le_mul_right _ (length_take_le k l)
  have hsplit : l.sum = (l.take k).sum + (l.drop k).sum := by
    rw [← sum_append, take_append_drop]
  have hless : k * (bound - 1) < k * bound := Nat.mul_lt_mul_of_pos_left (by omega) hk
  omega

theorem sum_map_ite_eq_countP {α : Type u} (p : α → Prop) [DecidablePred p] (l : List α) :
    (l.map fun a => if p a then 1 else 0).sum = l.countP fun a => p a := by
  induction l with
  | nil => rfl
  | cons a l ih =>
      rw [map_cons, sum_cons, ih, countP_cons]
      simp only [decide_eq_true_eq]
      omega

end List

namespace Apportion

variable {α : Type u} {κ : Type v} [LinearOrder κ]
variable (total : Nat) (key : α → κ) (weight : α → Nat) (items : List α)

def weightSum : Nat := (items.map weight).sum

def wholePart (item : α) : Nat := total * weight item / weightSum weight items

def remainder (item : α) : Nat := total * weight item % weightSum weight items

def leftOver : Nat := total - (items.map (wholePart total weight items)).sum

/-- The remainders under their items' keys, the largest first. -/
def ranking : List (Nat × κ) :=
  (items.map fun item => (remainder total weight items item, key item)).insertionSort
    fun first second => second.1 < first.1 ∨ (first.1 = second.1 ∧ first.2 ≤ second.2)

def favoured : List κ := ((ranking total key weight items).take (leftOver total weight items)).map Prod.snd

def share (item : α) : Nat :=
  wholePart total weight items item + if key item ∈ favoured total key weight items then 1 else 0

theorem sum_wholePart_add_remainder :
    weightSum weight items * (items.map (wholePart total weight items)).sum +
        (items.map (remainder total weight items)).sum = total * weightSum weight items := by
  have hsum : ∀ l : List α, weightSum weight items * (l.map (wholePart total weight items)).sum +
      (l.map (remainder total weight items)).sum = total * (l.map weight).sum := by
    intro l
    induction l with
    | nil => simp
    | cons item l ih =>
        have hdivide := Nat.div_add_mod (total * weight item) (weightSum weight items)
        simp only [List.map_cons, List.sum_cons, Nat.mul_add, wholePart, remainder] at ih ⊢
        omega
  exact hsum items

theorem ranking_perm : (ranking total key weight items).Perm
    (items.map fun item => (remainder total weight items item, key item)) :=
  List.perm_insertionSort _ _

variable {total key weight items}

theorem sum_wholePart_le (hpos : 0 < weightSum weight items) :
    (items.map (wholePart total weight items)).sum ≤ total := by
  have hsum := sum_wholePart_add_remainder total weight items
  rw [Nat.mul_comm total] at hsum
  exact Nat.le_of_mul_le_mul_left (by omega) hpos

theorem sum_remainder :
    (items.map (remainder total weight items)).sum = leftOver total weight items * weightSum weight items := by
  have hsum := sum_wholePart_add_remainder total weight items
  rw [Nat.mul_comm] at hsum
  rw [leftOver, Nat.sub_mul]
  omega

theorem ranking_sorted : ((ranking total key weight items).map Prod.fst).Pairwise fun m n => n ≤ m := by
  have htotal : Std.Total fun first second : Nat × κ =>
      second.1 < first.1 ∨ (first.1 = second.1 ∧ first.2 ≤ second.2) := by
    constructor
    intro first second
    rcases lt_trichotomy first.1 second.1 with hlt | heq | hgt
    · exact Or.inr (Or.inl hlt)
    · rcases le_total first.2 second.2 with hle | hle
      · exact Or.inl (Or.inr ⟨heq, hle⟩)
      · exact Or.inr (Or.inr ⟨heq.symm, hle⟩)
    · exact Or.inl (Or.inl hgt)
  have htrans : IsTrans (Nat × κ) fun first second =>
      second.1 < first.1 ∨ (first.1 = second.1 ∧ first.2 ≤ second.2) := by
    constructor
    intro first second third h h'
    rcases h with hlt | ⟨heq, hle⟩
    · rcases h' with hlt' | ⟨heq', -⟩
      · exact Or.inl (hlt'.trans hlt)
      · exact Or.inl (heq' ▸ hlt)
    · rcases h' with hlt' | ⟨heq', hle'⟩
      · exact Or.inl (heq ▸ hlt')
      · exact Or.inr ⟨heq.trans heq', hle.trans hle'⟩
  rw [List.pairwise_map]
  apply (List.pairwise_insertionSort _ _).imp
  intro first second h
  rcases h with hlt | ⟨heq, -⟩
  · exact hlt.le
  · exact heq.ge

theorem map_snd_ranking_perm : ((ranking total key weight items).map Prod.snd).Perm (items.map key) := by
  have hperm := (ranking_perm total key weight items).map Prod.snd
  rw [List.map_map] at hperm
  exact hperm

theorem map_fst_ranking_perm : ((ranking total key weight items).map Prod.fst).Perm
    (items.map (remainder total weight items)) := by
  have hperm := (ranking_perm total key weight items).map Prod.fst
  rw [List.map_map] at hperm
  exact hperm

theorem favoured_sublist : (favoured total key weight items).Sublist ((ranking total key weight items).map Prod.snd) :=
  (List.take_sublist _ _).map Prod.snd

theorem favoured_nodup (hnodup : (items.map key).Nodup) : (favoured total key weight items).Nodup :=
  (map_snd_ranking_perm.nodup_iff.2 hnodup).sublist favoured_sublist

theorem favoured_perm (hnodup : (items.map key).Nodup) :
    ((items.map key).filter (· ∈ favoured total key weight items)).Perm (favoured total key weight items) := by
  rw [List.perm_ext_iff_of_nodup (hnodup.filter _) (favoured_nodup hnodup)]
  intro k
  rw [List.mem_filter, decide_eq_true_eq]
  exact ⟨And.right, fun hk => ⟨map_snd_ranking_perm.mem_iff.1 (favoured_sublist.subset hk), hk⟩⟩

theorem ceilDiv_of_mod_pos {m n : Nat} (hn : 0 < n) (h : 0 < m % n) : m ⌈/⌉ n = m / n + 1 := by
  have hdivide := Nat.div_add_mod m n
  have hlt := Nat.mod_lt m hn
  rw [Nat.mul_comm] at hdivide
  rw [Nat.ceilDiv_eq_add_pred_div]
  apply Nat.div_eq_of_lt_le
  · rw [Nat.add_mul]
    omega
  · rw [Nat.add_mul, Nat.add_mul]
    omega

section Shares

variable (hpos : 0 < weightSum weight items)

include hpos

theorem remainder_lt (item : α) : remainder total weight items item < weightSum weight items := Nat.mod_lt _ hpos

theorem leftOver_le_length : leftOver total weight items ≤ items.length := by
  have hbound : (items.map (remainder total weight items)).sum ≤
      (items.map (remainder total weight items)).length • (weightSum weight items - 1) := by
    apply List.sum_le_card_nsmul
    intro n hn
    obtain ⟨item, -, rfl⟩ := List.mem_map.1 hn
    have hlt : remainder total weight items item < weightSum weight items := remainder_lt hpos item
    omega
  rw [sum_remainder, List.length_map, smul_eq_mul] at hbound
  have hless : items.length * (weightSum weight items - 1) ≤ items.length * weightSum weight items :=
    Nat.mul_le_mul_left _ (Nat.sub_le _ _)
  exact Nat.le_of_mul_le_mul_right (hbound.trans hless) hpos

theorem length_favoured : (favoured total key weight items).length = leftOver total weight items := by
  have hle : leftOver total weight items ≤ items.length := leftOver_le_length hpos
  have hlength := (ranking_perm total key weight items).length_eq
  rw [List.length_map] at hlength
  rw [favoured, List.length_map, List.length_take, hlength]
  omega

/-- The shares add up to the total. -/
theorem sum_share (hnodup : (items.map key).Nodup) : (items.map (share total key weight items)).sum = total := by
  have hfavoured : (items.map fun item => if key item ∈ favoured total key weight items then 1 else 0).sum =
      leftOver total weight items := by
    have hperm : ((items.map key).filter (· ∈ favoured total key weight items)).Perm (favoured total key weight items) :=
      favoured_perm hnodup
    have hcount := hperm.length_eq
    rw [length_favoured hpos, ← List.countP_eq_length_filter, List.countP_map] at hcount
    rw [← hcount, List.sum_map_ite_eq_countP]
    rfl
  have hle : (items.map (wholePart total weight items)).sum ≤ total := sum_wholePart_le hpos
  unfold share
  rw [List.sum_map_add, hfavoured, leftOver]
  omega

/-- An item that takes one more has something left of its exact share. -/
theorem remainder_pos (hnodup : (items.map key).Nodup) {item : α} (hitem : item ∈ items)
    (hfavoured : key item ∈ favoured total key weight items) : 0 < remainder total weight items item := by
  obtain ⟨entry, hentry, hkey⟩ := List.mem_map.1 hfavoured
  obtain ⟨item', hitem', rfl⟩ := List.mem_map.1 ((ranking_perm _ _ _ _).subset (List.take_subset _ _ hentry))
  obtain rfl := List.inj_on_of_nodup_map hnodup hitem' hitem hkey
  have hfirst : remainder total weight items item' ∈
      ((ranking total key weight items).map Prod.fst).take (leftOver total weight items) := by
    rw [← List.map_take]
    exact List.mem_map_of_mem hentry
  have hbound : ∀ n ∈ (ranking total key weight items).map Prod.fst, n < weightSum weight items := by
    intro n hn
    obtain ⟨item, -, rfl⟩ := List.mem_map.1 (map_fst_ranking_perm.subset hn)
    exact remainder_lt hpos item
  refine List.pos_of_mem_take ranking_sorted hbound ?_ _ hfirst
  rw [map_fst_ranking_perm.sum_eq, sum_remainder]

/-- Each share is the exact share rounded down or up. -/
theorem share_eq_or (hnodup : (items.map key).Nodup) {item : α} (hitem : item ∈ items) :
    share total key weight items item = total * weight item / weightSum weight items ∨
      share total key weight items item = total * weight item ⌈/⌉ weightSum weight items := by
  unfold share
  by_cases hfavoured : key item ∈ favoured total key weight items
  · have hremainder := remainder_pos hpos hnodup hitem hfavoured
    rw [if_pos hfavoured]
    exact Or.inr (ceilDiv_of_mod_pos hpos hremainder).symm
  · rw [if_neg hfavoured]
    exact Or.inl rfl

theorem share_le_weight (hnodup : (items.map key).Nodup) (htotal : total ≤ weightSum weight items) {item : α}
    (hitem : item ∈ items) : share total key weight items item ≤ weight item := by
  have hproduct : total * weight item ≤ weightSum weight items * weight item := Nat.mul_le_mul_right _ htotal
  have hdivide := Nat.div_add_mod (total * weight item) (weightSum weight items)
  unfold share
  by_cases hfavoured : key item ∈ favoured total key weight items
  · have hremainder := remainder_pos hpos hnodup hitem hfavoured
    rw [if_pos hfavoured]
    unfold remainder at hremainder
    have hlt : weightSum weight items * wholePart total weight items item < weightSum weight items * weight item := by
      unfold wholePart
      omega
    exact Nat.lt_of_mul_lt_mul_left hlt
  · rw [if_neg hfavoured, Nat.add_zero]
    unfold wholePart
    exact Nat.le_of_mul_le_mul_left (by omega) hpos

end Shares

end Apportion
