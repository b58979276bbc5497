import IronCouncil.Base.OrdDict
import Mathlib.Algebra.BigOperators.Group.List.Basic
import Mathlib.Algebra.BigOperators.Group.List.Lemmas
import Mathlib.Tactic.Abel

/-!
# Sums and groups by key

What a list of amounts under keys adds up to for one key, and the elements of a list that share a key. A loop that collects the amounts, or the groups, in a dictionary has under each key just that.
-/

universe u v w

variable {α : Type u} {κ : Type v} [DecidableEq κ]

def keyedSum (entries : List (κ × Nat)) (key : κ) : Nat := ((entries.filter fun entry => entry.1 = key).map Prod.snd).sum

@[simp] theorem keyedSum_nil (key : κ) : keyedSum [] key = 0 := rfl

theorem keyedSum_cons (entry : κ × Nat) (entries : List (κ × Nat)) (key : κ) :
    keyedSum (entry :: entries) key = (if entry.1 = key then entry.2 else 0) + keyedSum entries key := by
  unfold keyedSum
  rw [List.filter_cons]
  by_cases hkey : entry.1 = key
  · simp [hkey]
  · simp [hkey]

theorem keyedSum_append (first second : List (κ × Nat)) (key : κ) :
    keyedSum (first ++ second) key = keyedSum first key + keyedSum second key := by
  simp [keyedSum]

theorem keyedSum_flatMap (f : α → List (κ × Nat)) (l : List α) (key : κ) :
    keyedSum (l.flatMap f) key = (l.map fun a => keyedSum (f a) key).sum := by
  induction l with
  | nil => rfl
  | cons a l ih => rw [List.flatMap_cons, keyedSum_append, ih, List.map_cons, List.sum_cons]

theorem keyedSum_eq_zero {entries : List (κ × Nat)} {key : κ} (h : ∀ entry ∈ entries, entry.1 ≠ key) :
    keyedSum entries key = 0 := by
  unfold keyedSum
  rw [List.filter_eq_nil_iff.2 fun entry hentry => by simpa using h entry hentry]
  rfl

/-- Leaving out the empty amounts changes no sum. -/
theorem keyedSum_filter_pos (entries : List (κ × Nat)) (key : κ) :
    keyedSum (entries.filter fun entry => 0 < entry.2) key = keyedSum entries key := by
  induction entries with
  | nil => rfl
  | cons entry entries ih =>
      rw [List.filter_cons, keyedSum_cons]
      by_cases hpos : 0 < entry.2
      · rw [if_pos (decide_eq_true hpos), keyedSum_cons, ih]
      · have hzero : entry.2 = 0 := by omega
        rw [if_neg (by simpa using hpos), ih, hzero]
        simp

namespace List

variable {M : Type w} [AddCommMonoid M]

/-- A sum with one term that counts is that term. -/
theorem sum_map_eq_of_forall_ne {l : List α} {f : α → M} {a : α} (hnodup : l.Nodup) (ha : a ∈ l)
    (h : ∀ b ∈ l, b ≠ a → f b = 0) : (l.map f).sum = f a := by
  classical
  have hrest : ((l.erase a).map f).sum = 0 := by
    apply List.sum_eq_zero
    intro n hn
    obtain ⟨b, hb, rfl⟩ := List.mem_map.1 hn
    rw [hnodup.mem_erase_iff] at hb
    exact h b hb.2 hb.1
  rw [← List.sum_map_erase f ha, hrest, add_zero]

theorem sum_map_filter_eq (p : α → Bool) (f : α → M) (l : List α) :
    ((l.filter p).map f).sum = (l.map fun a => if p a then f a else 0).sum := by
  induction l with
  | nil => rfl
  | cons a l ih =>
      rw [filter_cons, map_cons, sum_cons, ← ih]
      by_cases hp : p a = true
      · rw [if_pos hp, if_pos hp, map_cons, sum_cons]
      · rw [if_neg hp, if_neg hp, zero_add]

theorem sum_map_sum_comm {β : Type*} (f : α → β → M) (l : List α) (l' : List β) :
    (l.map fun a => (l'.map (f a)).sum).sum = (l'.map fun b => (l.map fun a => f a b).sum).sum := by
  induction l with
  | nil => simp
  | cons a l ih => simp only [map_cons, sum_cons, ih, sum_map_add]

theorem sum_map_sub {G : Type w} [AddCommGroup G] (f g : α → G) (l : List α) :
    (l.map fun a => f a - g a).sum = (l.map f).sum - (l.map g).sum := by
  induction l with
  | nil => simp
  | cons a l ih =>
      simp only [map_cons, sum_cons, ih]
      abel

/-- Of the keys one at most is the key in question. -/
theorem sum_map_ite_some_eq {keys : List κ} (hnodup : keys.Nodup) (key : Option κ) (m : M) :
    (keys.map fun k => if key = some k then m else 0).sum = if key.any (· ∈ keys) then m else 0 := by
  by_cases hknown : key.any (· ∈ keys) = true
  · obtain ⟨k, rfl, hk⟩ := Option.any_eq_true _ _ |>.1 hknown
    rw [if_pos hknown, sum_map_eq_of_forall_ne hnodup (of_decide_eq_true hk), if_pos rfl]
    intro k' _ hne
    exact if_neg fun heq => hne (Option.some.inj heq).symm
  · rw [if_neg hknown]
    apply sum_eq_zero
    intro m' hm'
    obtain ⟨k, hk, rfl⟩ := mem_map.1 hm'
    apply if_neg
    rintro rfl
    exact hknown (by simpa using hk)

/-- Summing group by group is summing the elements that are in some group. -/
theorem sum_map_sum_filter_eq {keys : List κ} (hnodup : keys.Nodup) (g : α → Option κ) (f : α → M) (l : List α) :
    (keys.map fun k => ((l.filter fun a => g a = some k).map f).sum).sum =
      ((l.filter fun a => (g a).any (· ∈ keys)).map f).sum := by
  simp only [sum_map_filter_eq, decide_eq_true_eq]
  rw [sum_map_sum_comm]
  simp only [sum_map_ite_some_eq hnodup]

end List

namespace OrdDict

theorem keyedSum_entries (d : OrdDict κ Nat) (key : κ) : keyedSum d.entries key = (d.get? key).getD 0 := by
  unfold keyedSum
  cases hget : d.get? key with
  | none =>
      rw [get?_eq_none] at hget
      apply keyedSum_eq_zero
      intro entry hentry heq
      exact hget (heq ▸ List.mem_map_of_mem hentry)
  | some n =>
      have hentry : (key, n) ∈ d.entries := get?_eq_some.1 hget
      have hsingle : d.entries.filter (fun entry => entry.1 = key) = [(key, n)] := by
        rw [← List.perm_singleton, List.perm_ext_iff_of_nodup (d.entries_nodup.filter _) (List.nodup_singleton _)]
        intro entry
        rw [List.mem_filter, decide_eq_true_eq, List.mem_singleton]
        constructor
        · intro h
          obtain ⟨hmem, rfl⟩ := h
          rw [get?_eq_some.2 hmem] at hget
          rw [← Option.some.inj hget]
        · rintro rfl
          exact ⟨hentry, rfl⟩
      rw [hsingle]
      rfl

/-- Collecting amounts leaves under each key their sum. -/
theorem getD_foldl_upsert_add (entries : List (κ × Nat)) (key : κ) :
    ((entries.foldl (fun d entry => d.upsert entry.1 entry.2 (· + entry.2)) empty).get? key).getD 0 =
      keyedSum entries key := by
  have hget := get?_foldl_upsert (α := Nat) (fun entry : κ × Nat => entry.1) (fun entry => entry.2)
    (fun entry total => total + entry.2) entries empty key
  have hfold : ∀ (l : List (κ × Nat)) (start : Option Nat),
      (l.foldl (fun o entry => some (o.elim entry.2 (· + entry.2))) start).getD 0 =
        start.getD 0 + (l.map Prod.snd).sum := by
    intro l
    induction l with
    | nil => simp
    | cons entry l ih =>
        intro start
        rw [List.foldl_cons, ih, List.map_cons, List.sum_cons]
        cases start with
        | none => simp
        | some n => simp [Nat.add_assoc]
  rw [hget, hfold]
  simp [keyedSum]

/-- Grouping by a key leaves under each key the elements of that key, in their order. -/
theorem get?_foldl_upsert_group (g : α → κ) (l : List α) (key : κ) :
    (l.foldl (fun d a => d.upsert (g a) [a] (· ++ [a])) empty).get? key =
      if key ∈ l.map g then some (l.filter fun a => g a = key) else none := by
  have hget := get?_foldl_upsert (α := List α) g (fun a => [a]) (fun a group => group ++ [a]) l empty key
  have hfold : ∀ (group rest : List α),
      rest.foldl (fun o a => some (o.elim [a] (· ++ [a]))) (some group) = some (group ++ rest) := by
    intro group rest
    induction rest generalizing group with
    | nil => simp
    | cons a rest ih =>
        rw [List.foldl_cons, Option.elim_some, ih]
        simp
  rw [hget]
  cases hfilter : l.filter fun a => g a = key with
  | nil =>
      have hnone : key ∉ l.map g := by
        intro hmem
        obtain ⟨a, ha, hkey⟩ := List.mem_map.1 hmem
        exact absurd (decide_eq_true hkey) (List.filter_eq_nil_iff.1 hfilter a ha)
      rw [if_neg hnone]
      rfl
  | cons a rest =>
      have hmem : a ∈ l.filter fun a => g a = key := by
        rw [hfilter]
        exact List.mem_cons_self
      obtain ⟨ha, hkey⟩ := List.mem_filter.1 hmem
      rw [if_pos (List.mem_map.2 ⟨a, ha, of_decide_eq_true hkey⟩), List.foldl_cons]
      exact hfold [a] rest

end OrdDict
