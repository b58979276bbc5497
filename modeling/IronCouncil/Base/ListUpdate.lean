import Mathlib.Data.List.Sort
import Mathlib.Data.List.Nodup
import Mathlib.Algebra.BigOperators.Group.List.Basic
import Mathlib.Algebra.GroupWithZero.Nat
import Mathlib.Algebra.Ring.Int.Defs

/-!
# Updating one element of a list

Programs that hold references into a list update the element a reference points to. Here the reference is the first or the last element that satisfies a test, and the update keeps the list's length and the place of every element.
-/

universe u v

namespace List

variable {α : Type u} {κ : Type v}

def modifyFirstWhere (p : α → Bool) (f : α → α) : List α → List α
  | [] => []
  | a :: l => if p a then f a :: l else a :: modifyFirstWhere p f l

def modifyLastWhere (p : α → Bool) (f : α → α) : List α → List α
  | [] => []
  | a :: l => if l.any p then a :: modifyLastWhere p f l else if p a then f a :: l else a :: l

theorem mem_modifyFirstWhere {p : α → Bool} {f : α → α} {l : List α} {a : α}
    (h : a ∈ l.modifyFirstWhere p f) : a ∈ l ∨ ∃ b ∈ l, p b = true ∧ a = f b := by
  induction l with
  | nil => exact absurd h List.not_mem_nil
  | cons b l ih =>
      unfold modifyFirstWhere at h
      split at h
      · rename_i hb
        rcases List.mem_cons.1 h with rfl | h
        · exact Or.inr ⟨b, List.mem_cons_self, hb, rfl⟩
        · exact Or.inl (List.mem_cons_of_mem b h)
      · rcases List.mem_cons.1 h with rfl | h
        · exact Or.inl List.mem_cons_self
        · rcases ih h with h | ⟨c, hc, hpc, rfl⟩
          · exact Or.inl (List.mem_cons_of_mem b h)
          · exact Or.inr ⟨c, List.mem_cons_of_mem b hc, hpc, rfl⟩

/-- What the update does not concern stays in the list. -/
theorem mem_modifyFirstWhere_of_neg {p : α → Bool} {f : α → α} {l : List α} {a : α} (ha : a ∈ l) (hp : ¬ p a) :
    a ∈ l.modifyFirstWhere p f := by
  induction l with
  | nil => exact ha
  | cons b l ih =>
      unfold modifyFirstWhere
      rcases List.mem_cons.1 ha with rfl | ha
      · rw [if_neg hp]
        exact List.mem_cons_self
      · split
        · exact List.mem_cons_of_mem _ ha
        · exact List.mem_cons_of_mem _ (ih ha)

theorem mem_modifyLastWhere_of_neg {p : α → Bool} {f : α → α} {l : List α} {a : α} (ha : a ∈ l) (hp : ¬ p a) :
    a ∈ l.modifyLastWhere p f := by
  induction l with
  | nil => exact ha
  | cons b l ih =>
      unfold modifyLastWhere
      rcases List.mem_cons.1 ha with rfl | ha
      · split
        · exact List.mem_cons_self
        · exact List.mem_cons_self
      · split
        · exact List.mem_cons_of_mem _ (ih ha)
        · split
          · exact List.mem_cons_of_mem _ ha
          · exact List.mem_cons_of_mem _ ha

theorem mem_modifyLastWhere {p : α → Bool} {f : α → α} {l : List α} {a : α}
    (h : a ∈ l.modifyLastWhere p f) : a ∈ l ∨ ∃ b ∈ l, p b = true ∧ a = f b := by
  induction l with
  | nil => exact absurd h List.not_mem_nil
  | cons b l ih =>
      unfold modifyLastWhere at h
      split at h
      · rcases List.mem_cons.1 h with rfl | h
        · exact Or.inl List.mem_cons_self
        · rcases ih h with h | ⟨c, hc, hpc, rfl⟩
          · exact Or.inl (List.mem_cons_of_mem b h)
          · exact Or.inr ⟨c, List.mem_cons_of_mem b hc, hpc, rfl⟩
      · split at h
        · rename_i hb
          rcases List.mem_cons.1 h with rfl | h
          · exact Or.inr ⟨b, List.mem_cons_self, hb, rfl⟩
          · exact Or.inl (List.mem_cons_of_mem b h)
        · exact Or.inl h

/-- An update that keeps a projection keeps the list of projections. -/
theorem map_modifyFirstWhere {p : α → Bool} {f : α → α} {g : α → κ} (hf : ∀ a, g (f a) = g a)
    (l : List α) : (l.modifyFirstWhere p f).map g = l.map g := by
  induction l with
  | nil => rfl
  | cons a l ih =>
      unfold modifyFirstWhere
      split
      · rw [List.map_cons, List.map_cons, hf]
      · rw [List.map_cons, List.map_cons, ih]

/-- Where the projection tells the elements apart, at most one of them has a given key, and it is the one updated. -/
theorem modifyFirstWhere_eq_map [DecidableEq κ] {g : α → κ} {f : α → α} {key : κ} {l : List α}
    (hnodup : (l.map g).Nodup) :
    l.modifyFirstWhere (fun a => g a = key) f = l.map fun a => if g a = key then f a else a := by
  induction l with
  | nil => rfl
  | cons a l ih =>
      rw [List.map_cons, List.nodup_cons] at hnodup
      unfold modifyFirstWhere
      by_cases ha : g a = key
      · have hrest : ∀ b ∈ l, (if g b = key then f b else b) = b := by
          intro b hb
          apply if_neg
          intro hkey
          exact hnodup.1 (ha.trans hkey.symm ▸ List.mem_map_of_mem hb)
        simp [ha, List.map_congr_left hrest]
      · simp [ha, ih hnodup.2]

theorem map_modifyLastWhere {p : α → Bool} {f : α → α} {g : α → κ} (hf : ∀ a, g (f a) = g a)
    (l : List α) : (l.modifyLastWhere p f).map g = l.map g := by
  induction l with
  | nil => rfl
  | cons a l ih =>
      unfold modifyLastWhere
      split
      · rw [List.map_cons, List.map_cons, ih]
      · split
        · rw [List.map_cons, List.map_cons, hf]
        · rfl

theorem any_modifyLastWhere {p q : α → Bool} {f : α → α} (hf : ∀ a, q (f a) = q a) (l : List α) :
    (l.modifyLastWhere p f).any q = l.any q := by
  simpa only [List.any_map, Function.comp_def, id] using
    congrArg (List.any · id) (map_modifyLastWhere hf l)

theorem modifyLastWhere_comm {p q : α → Bool} {f g : α → α} (hpg : ∀ a, p (g a) = p a)
    (hqf : ∀ a, q (f a) = q a) (hpq : ∀ a, p a = true → q a = true → False) (l : List α) :
    (l.modifyLastWhere p f).modifyLastWhere q g = (l.modifyLastWhere q g).modifyLastWhere p f := by
  induction l with
  | nil => rfl
  | cons a l ih =>
      have hp : (l.modifyLastWhere q g).any p = l.any p := any_modifyLastWhere hpg l
      have hq : (l.modifyLastWhere p f).any q = l.any q := any_modifyLastWhere hqf l
      cases h1 : l.any p <;> cases h2 : l.any q <;> cases h3 : p a <;> cases h4 : q a <;>
        first
          | exact absurd h4 fun h => hpq a h3 h
          | simp only [modifyLastWhere, hp, hq, h1, h2, h3, h4, hpg, hqf, ih, if_true, if_false,
              Bool.false_eq_true]

/-! ### The last element that passes a test -/

/-- The element at an index passes the test, and none behind it does. -/
structure LastWhere (p : α → Bool) (l : List α) (i : Nat) (a : α) : Prop where
  getElem? : l[i]? = some a
  passes : p a = true
  later : ∀ (j : Nat) (b : α), i < j → l[j]? = some b → p b = false

theorem LastWhere.of_cons {p : α → Bool} {l : List α} {i : Nat} {a b : α} (h : LastWhere p (b :: l) (i + 1) a) :
    LastWhere p l i a where
  getElem? := h.getElem?
  passes := h.passes
  later := fun j c hij hc => h.later (j + 1) c (by omega) hc

theorem LastWhere.cons {p : α → Bool} {l : List α} {i : Nat} {a : α} (h : LastWhere p l i a) (b : α) :
    LastWhere p (b :: l) (i + 1) a where
  getElem? := h.getElem?
  passes := h.passes
  later := by
    intro j c hij hc
    obtain ⟨j, rfl⟩ : ∃ k, j = k + 1 := ⟨j - 1, by omega⟩
    exact h.later j c (by omega) hc

theorem getLast?_filter_eq_some_iff {p : α → Bool} {l : List α} {a : α} :
    (l.filter p).getLast? = some a ↔ ∃ i, LastWhere p l i a := by
  induction l with
  | nil =>
      constructor
      · intro h
        cases h
      · rintro ⟨i, h⟩
        cases h.getElem?
  | cons b l ih =>
      by_cases hlater : ∃ c ∈ l, p c = true
      · have hne : l.filter p ≠ [] := by
          obtain ⟨c, hc, hpc⟩ := hlater
          exact List.ne_nil_of_mem (List.mem_filter.2 ⟨hc, hpc⟩)
        have hlast : ((b :: l).filter p).getLast? = (l.filter p).getLast? := by
          by_cases hb : p b = true
          · rw [List.filter_cons_of_pos hb, List.getLast?_cons_of_ne_nil hne]
          · rw [List.filter_cons_of_neg hb]
        rw [hlast, ih]
        constructor
        · rintro ⟨i, h⟩
          exact ⟨i + 1, h.cons b⟩
        · rintro ⟨i, h⟩
          cases i with
          | zero =>
              obtain ⟨c, hc, hpc⟩ := hlater
              obtain ⟨j, hj⟩ := List.getElem?_of_mem hc
              have hfails := h.later (j + 1) c (by omega) hj
              rw [hpc] at hfails
              cases hfails
          | succ i => exact ⟨i, h.of_cons⟩
      · have hnone : l.filter p = [] := by
          apply List.filter_eq_nil_iff.2
          exact fun c hc hpc => hlater ⟨c, hc, hpc⟩
        have hfails : ∀ (j : Nat) (c : α), l[j]? = some c → p c = false := by
          intro j c hc
          exact Bool.eq_false_iff.2 fun hpc => hlater ⟨c, List.mem_of_getElem? hc, hpc⟩
        constructor
        · intro h
          by_cases hb : p b = true
          · rw [List.filter_cons_of_pos hb, hnone] at h
            cases h
            refine ⟨0, rfl, hb, ?_⟩
            intro j c hj hc
            obtain ⟨j, rfl⟩ : ∃ k, j = k + 1 := ⟨j - 1, by omega⟩
            exact hfails j c hc
          · rw [List.filter_cons_of_neg hb, hnone] at h
            cases h
        · rintro ⟨i, h⟩
          cases i with
          | zero =>
              cases h.getElem?
              rw [List.filter_cons_of_pos h.passes, hnone]
              rfl
          | succ i =>
              have hfound := hfails i a h.getElem?
              rw [h.passes] at hfound
              cases hfound

/-- The update changes the element at that index. -/
theorem LastWhere.modifyLastWhere_eq {p : α → Bool} {l : List α} {i : Nat} {a : α} (h : LastWhere p l i a)
    (f : α → α) : l.modifyLastWhere p f = l.set i (f a) := by
  induction l generalizing i with
  | nil => cases h.getElem?
  | cons b l ih =>
      unfold modifyLastWhere
      cases i with
      | zero =>
          cases h.getElem?
          have hnone : ¬ l.any p = true := by
            intro hany
            obtain ⟨c, hc, hpc⟩ := List.any_eq_true.1 hany
            obtain ⟨j, hj⟩ := List.getElem?_of_mem hc
            have hfails := h.later (j + 1) c (by omega) hj
            rw [hpc] at hfails
            cases hfails
          rw [if_neg hnone, if_pos h.passes, List.set_cons_zero]
      | succ i =>
          have hany : l.any p = true := List.any_eq_true.2 ⟨a, List.mem_of_getElem? h.of_cons.getElem?, h.passes⟩
          rw [if_pos hany, ih h.of_cons, List.set_cons_succ]

/-! ### What a reference finds after an update -/

/-- A reference to the last element that passes the test finds that element updated. -/
theorem getLast?_filter_modifyLastWhere {p : α → Bool} {f : α → α} (hf : ∀ a, p (f a) = p a) (l : List α) :
    ((l.modifyLastWhere p f).filter p).getLast? = (l.filter p).getLast?.map f := by
  induction l with
  | nil => rfl
  | cons a l ih =>
      unfold modifyLastWhere
      by_cases hlater : l.any p = true
      · have hne : l.filter p ≠ [] := by
          obtain ⟨b, hb, hpb⟩ := List.any_eq_true.1 hlater
          exact List.ne_nil_of_mem (List.mem_filter.2 ⟨hb, hpb⟩)
        have hne' : (l.modifyLastWhere p f).filter p ≠ [] := by
          intro hnil
          rw [hnil] at ih
          exact hne (List.getLast?_eq_none_iff.1 (Option.map_eq_none_iff.1 ih.symm))
        rw [if_pos hlater]
        by_cases ha : p a = true
        · rw [List.filter_cons_of_pos ha, List.filter_cons_of_pos ha, List.getLast?_cons_of_ne_nil hne',
            List.getLast?_cons_of_ne_nil hne, ih]
        · rw [List.filter_cons_of_neg ha, List.filter_cons_of_neg ha, ih]
      · have hnone : l.filter p = [] := by
          apply List.filter_eq_nil_iff.2
          intro b hb hpb
          exact hlater (List.any_eq_true.2 ⟨b, hb, hpb⟩)
        rw [if_neg hlater]
        by_cases ha : p a = true
        · have hfa : p (f a) = true := (hf a).trans ha
          rw [if_pos ha, List.filter_cons_of_pos hfa, List.filter_cons_of_pos ha, hnone]
          rfl
        · rw [if_neg ha, List.filter_cons_of_neg ha, hnone]
          rfl

/-- A test that no updated element passes sees nothing of the update. -/
theorem filter_modifyLastWhere {p q : α → Bool} {f : α → α} (hq : ∀ a, p a = true → q a = false ∧ q (f a) = false)
    (l : List α) : (l.modifyLastWhere p f).filter q = l.filter q := by
  induction l with
  | nil => rfl
  | cons a l ih =>
      unfold modifyLastWhere
      split
      · simp only [List.filter_cons, ih]
      · split
        · rename_i ha
          obtain ⟨hbefore, hafter⟩ := hq a ha
          simp [hbefore, hafter]
        · rfl

/-- An update that adds to the weight of the updated element adds as much to the whole. -/
theorem sum_map_modifyFirstWhere {p : α → Bool} {f : α → α} {w : α → Nat} {amount : Nat} {l : List α}
    (hw : ∀ a, p a = true → w (f a) = w a + amount) (hfound : ∃ a ∈ l, p a = true) :
    ((l.modifyFirstWhere p f).map w).sum = (l.map w).sum + amount := by
  induction l with
  | nil =>
      obtain ⟨a, ha, -⟩ := hfound
      exact absurd ha List.not_mem_nil
  | cons b l ih =>
      unfold modifyFirstWhere
      by_cases hb : p b = true
      · rw [if_pos hb, List.map_cons, List.map_cons, List.sum_cons, List.sum_cons, hw b hb]
        omega
      · have hlater : ∃ a ∈ l, p a = true := by
          obtain ⟨a, ha, hpa⟩ := hfound
          rcases List.mem_cons.1 ha with rfl | ha
          · exact absurd hpa hb
          · exact ⟨a, ha, hpa⟩
        rw [if_neg hb, List.map_cons, List.map_cons, List.sum_cons, List.sum_cons, ih hlater]
        omega

/-- Among the elements that pass another test, the update touches one element, or none if the updated element fails that test. -/
theorem filter_modifyFirstWhere {p q : α → Bool} {f : α → α} (hq : ∀ a, q (f a) = q a) (l : List α) :
    (l.modifyFirstWhere p f).filter q =
      if (l.find? p).any q then (l.filter q).modify ((l.takeWhile fun a => !p a).filter q).length f
      else l.filter q := by
  induction l with
  | nil => rfl
  | cons a l ih =>
      unfold modifyFirstWhere
      by_cases ha : p a = true
      · rw [if_pos ha, List.find?_cons_of_pos ha, List.takeWhile_cons_of_neg (by simp [ha])]
        by_cases hqa : q a = true
        · simp [hq, hqa]
        · simp [hq, hqa]
      · rw [if_neg ha, List.find?_cons_of_neg ha, List.takeWhile_cons_of_pos (by simpa using ha)]
        by_cases hqa : q a = true
        · rw [List.filter_cons_of_pos hqa, List.filter_cons_of_pos hqa, List.filter_cons_of_pos hqa, ih]
          split <;> simp
        · rw [List.filter_cons_of_neg hqa, List.filter_cons_of_neg hqa, List.filter_cons_of_neg hqa, ih]

/-- Where the updated element stands among the elements that pass another test. -/
theorem getElem?_filter_of_find? {p q : α → Bool} {l : List α} {a : α} (h : l.find? p = some a) (hq : q a = true) :
    (l.filter q)[((l.takeWhile fun b => !p b).filter q).length]? = some a := by
  induction l with
  | nil => cases h
  | cons b l ih =>
      by_cases hb : p b = true
      · rw [List.find?_cons_of_pos hb] at h
        cases h
        rw [List.takeWhile_cons_of_neg (by simp [hb]), List.filter_cons_of_pos hq]
        rfl
      · rw [List.find?_cons_of_neg hb] at h
        rw [List.takeWhile_cons_of_pos (by simpa using hb)]
        by_cases hqb : q b = true
        · rw [List.filter_cons_of_pos hqb, List.filter_cons_of_pos hqb, List.length_cons, List.getElem?_cons_succ]
          exact ih h
        · rw [List.filter_cons_of_neg hqb, List.filter_cons_of_neg hqb]
          exact ih h

theorem map_modify {g : α → κ} {f : α → α} {f' : κ → κ} (hf : ∀ a, g (f a) = f' (g a)) (l : List α) (i : Nat) :
    (l.modify i f).map g = (l.map g).modify i f' := by
  apply List.ext_getElem?
  intro j
  rw [List.getElem?_map, List.getElem?_modify, List.getElem?_modify, List.getElem?_map]
  cases l[j]? with
  | none => rfl
  | some a =>
      by_cases hij : i = j
      · simp [hij, hf]
      · simp [hij]

theorem map_modify_of_frame {g : α → κ} {f : α → α} (hf : ∀ a, g (f a) = g a) (l : List α) (i : Nat) :
    (l.modify i f).map g = l.map g := by
  apply List.ext_getElem?
  intro j
  rw [List.getElem?_map, List.getElem?_modify, List.getElem?_map]
  cases l[j]? with
  | none => rfl
  | some a =>
      by_cases hij : i = j
      · simp [hij, hf]
      · simp [hij]

end List
