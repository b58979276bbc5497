import Mathlib.Data.List.Dedup
import Mathlib.Data.List.Nodup
import Mathlib.Data.List.Perm.Basic

/-!
# Insertion-ordered dictionaries

An association list whose keys never repeat, in the order they were first inserted. Updating a key keeps its place; a new key goes to the end. The uniqueness of keys is a field, so a dictionary that holds a key twice cannot be built, and lookups determine a dictionary up to the order of its entries.
-/

universe u v w

structure OrdDict (κ : Type u) (α : Type v) where
  entries : List (κ × α)
  nodup : (entries.map Prod.fst).Nodup

namespace OrdDict

variable {κ : Type u} {α : Type v} {β : Type w}

@[ext] theorem ext {d e : OrdDict κ α} (h : d.entries = e.entries) : d = e := by
  cases d
  cases e
  cases h
  rfl

instance [DecidableEq κ] [DecidableEq α] : DecidableEq (OrdDict κ α) := fun d e =>
  decidable_of_iff (d.entries = e.entries) ⟨ext, fun h => by rw [h]⟩

def empty : OrdDict κ α := ⟨[], List.nodup_nil⟩

instance : Inhabited (OrdDict κ α) := ⟨empty⟩

def keys (d : OrdDict κ α) : List κ := d.entries.map Prod.fst

def values (d : OrdDict κ α) : List α := d.entries.map Prod.snd

theorem keys_nodup (d : OrdDict κ α) : d.keys.Nodup := d.nodup

@[simp] theorem keys_empty : (empty : OrdDict κ α).keys = [] := rfl

@[simp] theorem values_empty : (empty : OrdDict κ α).values = [] := rfl

def mapVals (f : κ → α → β) (d : OrdDict κ α) : OrdDict κ β where
  entries := d.entries.map fun e => (e.1, f e.1 e.2)
  nodup := by
    simpa only [List.map_map, Function.comp_def] using d.nodup

@[simp] theorem keys_mapVals (f : κ → α → β) (d : OrdDict κ α) : (d.mapVals f).keys = d.keys := by
  simp only [keys, mapVals, List.map_map, Function.comp_def]

section Lookup

variable [DecidableEq κ]

def get? (d : OrdDict κ α) (k : κ) : Option α := (d.entries.find? fun e => e.1 = k).map Prod.snd

@[simp] theorem get?_empty (k : κ) : (empty : OrdDict κ α).get? k = none := rfl

theorem get?_eq_some {d : OrdDict κ α} {k : κ} {a : α} : d.get? k = some a ↔ (k, a) ∈ d.entries := by
  obtain ⟨l, hl⟩ := d
  change (l.find? fun e => e.1 = k).map Prod.snd = some a ↔ (k, a) ∈ l
  induction l with
  | nil => simp
  | cons e l ih =>
      rw [List.map_cons, List.nodup_cons] at hl
      by_cases he : e.1 = k
      · rw [List.find?_cons_of_pos (by simpa using he), Option.map_some, List.mem_cons]
        constructor
        · intro h
          left
          rw [← he, ← Option.some.inj h]
        · rintro (h | h)
          · rw [← h]
          · exact absurd (List.mem_map_of_mem (f := Prod.fst) h) (he ▸ hl.1)
      · rw [List.find?_cons_of_neg (by simpa using he), ih hl.2, List.mem_cons]
        constructor
        · exact Or.inr
        · rintro (h | h)
          · exact absurd (congrArg Prod.fst h).symm he
          · exact h

theorem get?_eq_none {d : OrdDict κ α} {k : κ} : d.get? k = none ↔ k ∉ d.keys := by
  simp only [get?, Option.map_eq_none_iff, List.find?_eq_none, decide_eq_true_eq, keys, List.mem_map,
    not_exists, not_and]

theorem mem_keys {d : OrdDict κ α} {k : κ} : k ∈ d.keys ↔ ∃ a, d.get? k = some a := by
  rw [← Option.ne_none_iff_exists', Ne, get?_eq_none, not_not]

theorem mem_keys_of_get? {d : OrdDict κ α} {k : κ} {a : α} (h : d.get? k = some a) : k ∈ d.keys :=
  mem_keys.2 ⟨a, h⟩

theorem mem_values {d : OrdDict κ α} {a : α} : a ∈ d.values ↔ ∃ k, d.get? k = some a := by
  simp only [values, List.mem_map, get?_eq_some, Prod.exists, exists_eq_right]

omit [DecidableEq κ] in
theorem entries_nodup (d : OrdDict κ α) : d.entries.Nodup := List.Nodup.of_map _ d.nodup

@[simp] theorem get?_mapVals (f : κ → α → β) (d : OrdDict κ α) (k : κ) :
    (d.mapVals f).get? k = (d.get? k).map (f k) := by
  obtain ⟨l, hl⟩ := d
  change ((l.map fun e => (e.1, f e.1 e.2)).find? fun e => e.1 = k).map Prod.snd =
    ((l.find? fun e => e.1 = k).map Prod.snd).map (f k)
  clear hl
  induction l with
  | nil => rfl
  | cons e l ih =>
      by_cases he : e.1 = k
      · subst he
        simp
      · simpa [he] using ih

/-- Update the value under a key that is present; other keys and the order stay. -/
def modify (d : OrdDict κ α) (k : κ) (f : α → α) : OrdDict κ α :=
  d.mapVals fun key a => if key = k then f a else a

@[simp] theorem keys_modify (d : OrdDict κ α) (k : κ) (f : α → α) : (d.modify k f).keys = d.keys :=
  keys_mapVals _ d

theorem get?_modify (d : OrdDict κ α) (k : κ) (f : α → α) (key : κ) :
    (d.modify k f).get? key = if key = k then (d.get? key).map f else d.get? key := by
  rw [modify, get?_mapVals]
  by_cases h : key = k
  · simp only [h, if_true]
  · simp only [h, if_false, Option.map_id']

@[simp] theorem get?_modify_self (d : OrdDict κ α) (k : κ) (f : α → α) :
    (d.modify k f).get? k = (d.get? k).map f := by
  rw [get?_modify, if_pos rfl]

theorem get?_modify_of_ne (d : OrdDict κ α) {k key : κ} (f : α → α) (h : key ≠ k) :
    (d.modify k f).get? key = d.get? key := by
  rw [get?_modify, if_neg h]

theorem ext_get? {d e : OrdDict κ α} (hkeys : d.keys = e.keys) (h : ∀ k, d.get? k = e.get? k) : d = e := by
  apply ext
  apply List.ext_getElem
  · simpa only [keys, List.length_map] using congrArg List.length hkeys
  · intro i hd he
    have hkey : d.entries[i].1 = e.entries[i].1 := by
      have := List.getElem_of_eq hkeys (i := i) (by simpa [keys] using hd)
      simpa only [keys, List.getElem_map] using this
    have hval : d.get? d.entries[i].1 = some d.entries[i].2 := get?_eq_some.2 (List.getElem_mem hd)
    have hval' : e.get? e.entries[i].1 = some e.entries[i].2 := get?_eq_some.2 (List.getElem_mem he)
    rw [h, hkey, hval'] at hval
    exact Prod.ext hkey (Option.some.inj hval).symm

/-- Updates under one key that commute, or updates under different keys, may be exchanged. -/
theorem modify_comm (d : OrdDict κ α) {k l : κ} {f g : α → α}
    (h : k = l → ∀ a, f (g a) = g (f a)) :
    (d.modify k f).modify l g = (d.modify l g).modify k f := by
  apply ext_get?
  · simp only [keys_modify]
  · intro key
    simp only [get?_modify]
    by_cases hk : key = k
    · by_cases hl : key = l
      · subst hk
        have hcomm := h hl
        simp only [hl, if_true, Option.map_map]
        congr 1
        funext a
        exact (hcomm a).symm
      · rw [if_pos hk, if_neg hl, if_neg hl, if_pos hk]
    · rw [if_neg hk, if_neg hk]

def insert (d : OrdDict κ α) (k : κ) (a : α) : OrdDict κ α :=
  if h : k ∈ d.keys then d.modify k fun _ => a
  else
    { entries := d.entries ++ [(k, a)]
      nodup := by
        rw [List.map_append, List.map_singleton]
        exact List.Nodup.append d.nodup (List.nodup_singleton k) (by simpa [keys] using h) }

theorem get?_insert (d : OrdDict κ α) (k : κ) (a : α) (key : κ) :
    (d.insert k a).get? key = if key = k then some a else d.get? key := by
  unfold insert
  split
  · rename_i h
    rw [get?_modify]
    split
    · rename_i hk
      obtain ⟨b, hb⟩ := mem_keys.1 h
      rw [hk, hb, Option.map_some]
    · rfl
  · rename_i h
    obtain ⟨l, hl⟩ := d
    change ((l ++ [(k, a)]).find? fun e => e.1 = key).map Prod.snd = if key = k then some a else
      (l.find? fun e => e.1 = key).map Prod.snd
    rw [List.find?_append]
    by_cases hk : key = k
    · subst hk
      have hnone : (l.find? fun e => e.1 = key) = none := by
        simpa only [keys, List.find?_eq_none, decide_eq_true_eq, List.mem_map, not_exists, not_and] using h
      simp [hnone]
    · simp [hk, Ne.symm hk]

@[simp] theorem get?_insert_self (d : OrdDict κ α) (k : κ) (a : α) : (d.insert k a).get? k = some a := by
  rw [get?_insert, if_pos rfl]

theorem mem_keys_insert {d : OrdDict κ α} {k key : κ} {a : α} :
    key ∈ (d.insert k a).keys ↔ key = k ∨ key ∈ d.keys := by
  rw [mem_keys, mem_keys]
  simp only [get?_insert]
  by_cases h : key = k
  · simp [h]
  · simp [h]

theorem keys_insert_of_mem {d : OrdDict κ α} {k : κ} {a : α} (h : k ∈ d.keys) :
    (d.insert k a).keys = d.keys := by
  rw [insert, dif_pos h, keys_modify]

theorem keys_insert (d : OrdDict κ α) (k : κ) (a : α) :
    (d.insert k a).keys = if k ∈ d.keys then d.keys else d.keys ++ [k] := by
  unfold insert
  split
  · exact keys_modify d k _
  · simp only [keys, List.map_append, List.map_singleton]

/-- Store `init` under a new key, or pass the value already there through `f`. -/
def upsert (d : OrdDict κ α) (k : κ) (init : α) (f : α → α) : OrdDict κ α :=
  match d.get? k with
  | none => d.insert k init
  | some a => d.insert k (f a)

theorem get?_upsert (d : OrdDict κ α) (k : κ) (init : α) (f : α → α) (key : κ) :
    (d.upsert k init f).get? key =
      if key = k then some ((d.get? k).elim init f) else d.get? key := by
  unfold upsert
  split <;> rename_i h <;> rw [get?_insert, h] <;> rfl

theorem keys_upsert (d : OrdDict κ α) (k : κ) (init : α) (f : α → α) :
    (d.upsert k init f).keys = if k ∈ d.keys then d.keys else d.keys ++ [k] := by
  unfold upsert
  split <;> exact keys_insert d k _

theorem keys_foldl_upsert_prefix {γ : Type*} (key : γ → κ) (init : γ → α) (f : γ → α → α) (l : List γ)
    (d : OrdDict κ α) : d.keys <+: (l.foldl (fun d c => d.upsert (key c) (init c) (f c)) d).keys := by
  induction l generalizing d with
  | nil => exact List.prefix_refl _
  | cons c l ih =>
      apply List.IsPrefix.trans _ (ih _)
      rw [keys_upsert]
      split
      · exact List.prefix_refl _
      · exact List.prefix_append _ _

/-- A loop of `upsert`s leaves under each key what the elements of that key alone make of it. -/
theorem get?_foldl_upsert {γ : Type*} (key : γ → κ) (init : γ → α) (f : γ → α → α) (l : List γ)
    (d : OrdDict κ α) (k : κ) :
    (l.foldl (fun d c => d.upsert (key c) (init c) (f c)) d).get? k =
      (l.filter fun c => key c = k).foldl (fun o c => some (o.elim (init c) (f c))) (d.get? k) := by
  induction l generalizing d with
  | nil => rfl
  | cons c l ih =>
      rw [List.foldl_cons, ih, get?_upsert]
      by_cases hk : key c = k
      · rw [if_pos hk.symm, List.filter_cons_of_pos (by simpa using hk), List.foldl_cons, hk]
      · rw [if_neg (Ne.symm hk), List.filter_cons_of_neg (by simpa using hk)]

theorem entries_perm {d e : OrdDict κ α} (h : ∀ k, d.get? k = e.get? k) : d.entries.Perm e.entries := by
  rw [List.perm_ext_iff_of_nodup d.entries_nodup e.entries_nodup]
  rintro ⟨k, a⟩
  rw [← get?_eq_some, ← get?_eq_some, h]

theorem values_perm {d e : OrdDict κ α} (h : ∀ k, d.get? k = e.get? k) : d.values.Perm e.values :=
  (entries_perm h).map Prod.snd

def erase (d : OrdDict κ α) (k : κ) : OrdDict κ α where
  entries := d.entries.filter fun e => e.1 ≠ k
  nodup := d.nodup.sublist (List.filter_sublist.map _)

theorem get?_erase (d : OrdDict κ α) (k key : κ) :
    (d.erase k).get? key = if key = k then none else d.get? key := by
  apply Option.ext
  intro a
  rw [get?_eq_some, erase, List.mem_filter]
  by_cases h : key = k
  · simp [h]
  · simp [h, get?_eq_some]

/-- Erasing a key right after it was added gives the dictionary back. -/
theorem erase_insert {d : OrdDict κ α} {k : κ} (a : α) (h : d.get? k = none) : (d.insert k a).erase k = d := by
  have hkey : k ∉ d.keys := get?_eq_none.1 h
  apply ext
  rw [erase, insert, dif_neg hkey]
  simp only [List.filter_append]
  rw [List.filter_eq_self.2, List.filter_cons_of_neg, List.filter_nil, List.append_nil]
  · simp
  · intro e he
    simpa using fun hek : e.1 = k => hkey (hek ▸ List.mem_map_of_mem he)

theorem modify_modify_cancel (d : OrdDict κ α) (k : κ) {f g : α → α} (h : ∀ a, g (f a) = a) :
    (d.modify k f).modify k g = d := by
  refine ext_get? (by simp) fun key => ?_
  rw [get?_modify, get?_modify]
  split
  · rw [Option.map_map, show g ∘ f = id from funext h, Option.map_id]
    rfl
  · rfl

/-- The values that a partial function is defined on, under their keys. -/
def filterMapVals (f : α → Option β) (d : OrdDict κ α) : OrdDict κ β where
  entries := d.entries.filterMap fun e => (f e.2).map fun b => (e.1, b)
  nodup := by
    have hsub : ((d.entries.filterMap fun e => (f e.2).map fun b => (e.1, b)).map Prod.fst).Sublist
        (d.entries.map Prod.fst) := by
      induction d.entries with
      | nil => exact List.Sublist.slnil
      | cons e entries ih =>
          rw [List.filterMap_cons, List.map_cons]
          cases f e.2 with
          | none => exact ih.cons _
          | some b => exact ih.cons_cons _
    exact hsub.nodup d.nodup

theorem get?_filterMapVals (f : α → Option β) (d : OrdDict κ α) (k : κ) :
    (d.filterMapVals f).get? k = (d.get? k).bind f := by
  apply Option.ext
  intro b
  rw [get?_eq_some, Option.bind_eq_some_iff]
  unfold filterMapVals
  dsimp only
  rw [List.mem_filterMap]
  constructor
  · rintro ⟨e, he, hvalue⟩
    obtain ⟨found, hfound, heq⟩ := Option.map_eq_some_iff.1 hvalue
    cases heq
    exact ⟨e.2, get?_eq_some.2 he, hfound⟩
  · rintro ⟨a, ha, hvalue⟩
    exact ⟨(k, a), get?_eq_some.1 ha, by rw [hvalue]; rfl⟩

def ofList (l : List (κ × α)) : OrdDict κ α := l.foldl (fun d e => d.insert e.1 e.2) empty

theorem mem_keys_ofList {l : List (κ × α)} {k : κ} : k ∈ (ofList l).keys ↔ k ∈ l.map Prod.fst := by
  have hfold : ∀ d : OrdDict κ α, k ∈ (l.foldl (fun d e => d.insert e.1 e.2) d).keys ↔
      k ∈ d.keys ∨ k ∈ l.map Prod.fst := by
    induction l with
    | nil => simp
    | cons e l ih =>
        intro d
        rw [List.foldl_cons, ih, mem_keys_insert, List.map_cons, List.mem_cons]
        constructor
        · rintro ((rfl | hd) | hl)
          · exact Or.inr (Or.inl rfl)
          · exact Or.inl hd
          · exact Or.inr (Or.inr hl)
        · rintro (hd | rfl | hl)
          · exact Or.inl (Or.inr hd)
          · exact Or.inl (Or.inl rfl)
          · exact Or.inr hl
  have hall := hfold empty
  rw [keys_empty] at hall
  exact hall.trans (by simp)

/-- Every value of a dictionary built from a list comes from an item of the list. -/
theorem mem_of_get?_ofList {l : List (κ × α)} {k : κ} {a : α} (h : (ofList l).get? k = some a) : (k, a) ∈ l := by
  have hfold : ∀ d : OrdDict κ α, (l.foldl (fun d e => d.insert e.1 e.2) d).get? k = some a →
      d.get? k = some a ∨ (k, a) ∈ l := by
    clear h
    induction l with
    | nil => exact fun d hd => Or.inl hd
    | cons e l ih =>
        intro d hd
        rcases ih _ hd with hd | hl
        · rw [get?_insert] at hd
          split at hd
          · rename_i hk
            cases hd
            exact Or.inr (List.mem_cons.2 (Or.inl (Prod.ext hk rfl)))
          · exact Or.inl hd
        · exact Or.inr (List.mem_cons_of_mem e hl)
  rcases hfold empty h with hnone | hmem
  · rw [get?_empty] at hnone
    cases hnone
  · exact hmem

section Distinct

variable {l : List (κ × α)} (h : (l.map Prod.fst).Nodup)

include h

theorem get?_ofList_of_nodup {k : κ} {a : α} : (ofList l).get? k = some a ↔ (k, a) ∈ l := by
  constructor
  · exact mem_of_get?_ofList
  · intro hmem
    obtain ⟨found, hfound⟩ := mem_keys.1 (mem_keys_ofList.2 (List.mem_map_of_mem hmem))
    have hsame := List.inj_on_of_nodup_map h hmem (mem_of_get?_ofList hfound) rfl
    rw [hfound, ← (Prod.mk.inj hsame).2]

theorem length_keys_ofList : (ofList l).keys.length = l.length := by
  have hperm : (ofList l).keys.Perm (l.map Prod.fst) :=
    (List.perm_ext_iff_of_nodup (keys_nodup _) h).2 fun _ => mem_keys_ofList
  rw [hperm.length_eq, List.length_map]

end Distinct

end Lookup

end OrdDict
