import Mathlib.Data.List.Nodup
import Mathlib.Data.List.Perm.Basic

/-!
# Tables with a primary key

The rows of a table, in the order they were inserted. No two rows share their primary key, which is a field of the structure: an insertion of a key that is there fails, and an update keeps the key of the row it changes.
-/

universe u v

structure Table {κ : Type u} {α : Type v} (key : α → κ) where
  rows : List α
  nodup : (rows.map key).Nodup

namespace Table

variable {κ : Type u} {α : Type v} {key : α → κ}

@[ext] theorem ext {t t' : Table key} (h : t.rows = t'.rows) : t = t' := by
  cases t
  cases t'
  cases h
  rfl

instance [DecidableEq α] : DecidableEq (Table key) := fun t t' =>
  decidable_of_iff (t.rows = t'.rows) ⟨ext, fun h => by rw [h]⟩

def empty : Table key := ⟨[], List.nodup_nil⟩

instance : Inhabited (Table key) := ⟨empty⟩

def keys (t : Table key) : List κ := t.rows.map key

@[simp] theorem rows_empty : (empty : Table key).rows = [] := rfl

theorem eq_of_key {t : Table key} {a b : α} (ha : a ∈ t.rows) (hb : b ∈ t.rows) (h : key a = key b) : a = b :=
  List.inj_on_of_nodup_map t.nodup ha hb h

variable [DecidableEq κ]

def get? (t : Table key) (k : κ) : Option α := t.rows.find? fun a => key a = k

theorem get?_eq_some {t : Table key} {k : κ} {a : α} : t.get? k = some a ↔ a ∈ t.rows ∧ key a = k := by
  constructor
  · intro h
    exact ⟨List.mem_of_find?_eq_some h, by simpa using List.find?_some h⟩
  · intro h
    cases hfound : t.get? k with
    | none => exact absurd h.2 (by simpa using List.find?_eq_none.1 hfound a h.1)
    | some b =>
        have hkey : key b = k := by simpa using List.find?_some hfound
        exact congrArg some (eq_of_key (List.mem_of_find?_eq_some hfound) h.1 (hkey.trans h.2.symm))

theorem get?_eq_none {t : Table key} {k : κ} : t.get? k = none ↔ k ∉ t.keys := by
  simp only [get?, keys, List.find?_eq_none, decide_eq_true_eq, List.mem_map, not_exists, not_and]

theorem mem_rows_of_get? {t : Table key} {k : κ} {a : α} (h : t.get? k = some a) : a ∈ t.rows :=
  (get?_eq_some.1 h).1

theorem key_of_get? {t : Table key} {k : κ} {a : α} (h : t.get? k = some a) : key a = k :=
  (get?_eq_some.1 h).2

theorem mem_keys_of_get? {t : Table key} {k : κ} {a : α} (h : t.get? k = some a) : k ∈ t.keys :=
  List.mem_map.2 ⟨a, mem_rows_of_get? h, key_of_get? h⟩

/-- A row goes to the end, unless its key is taken. -/
def insert (t : Table key) (a : α) : Option (Table key) :=
  if h : key a ∈ t.keys then none
  else
    some
      { rows := t.rows ++ [a]
        nodup := by
          rw [List.map_append, List.map_singleton]
          exact List.Nodup.append t.nodup (List.nodup_singleton _) (by simpa [keys] using h) }

theorem insert_eq_some {t t' : Table key} {a : α} (h : t.insert a = some t') :
    key a ∉ t.keys ∧ t'.rows = t.rows ++ [a] := by
  unfold insert at h
  split at h
  · cases h
  · rename_i hkey
    cases h
    exact ⟨hkey, rfl⟩

theorem insert_of_not_mem {t : Table key} {a : α} (h : key a ∉ t.keys) :
    ∃ t', t.insert a = some t' ∧ t'.rows = t.rows ++ [a] := by
  unfold insert
  rw [dif_neg h]
  exact ⟨_, rfl, rfl⟩

theorem get?_append {t t' : Table key} {a : α} (hfresh : key a ∉ t.keys) (hrows : t'.rows = t.rows ++ [a]) (k : κ) :
    t'.get? k = if k = key a then some a else t.get? k := by
  unfold get?
  rw [hrows, List.find?_append]
  split
  · rename_i hk
    have hnone : t.get? k = none := get?_eq_none.2 (hk ▸ hfresh)
    rw [show t.rows.find? _ = none from hnone, Option.none_or, hk]
    simp
  · rename_i hk
    have hother : ¬ key a = k := fun heq => hk heq.symm
    simp [hother]

/-- Pass every row through a function that keeps its key. -/
def mapRows (t : Table key) (f : α → α) (hf : ∀ a, key (f a) = key a) : Table key where
  rows := t.rows.map f
  nodup := by
    have h : (key ∘ f) = key := funext hf
    rw [List.map_map, h]
    exact t.nodup

/-- Change the row that has the key, if there is one. -/
def update (t : Table key) (k : κ) (f : α → α) (hf : ∀ a, key (f a) = key a) : Table key :=
  t.mapRows (fun a => if key a = k then f a else a) fun a => by
    split
    · exact hf a
    · rfl

theorem mem_update {t : Table key} {k : κ} {f : α → α} (hf : ∀ a, key (f a) = key a) {a : α}
    (h : a ∈ (t.update k f hf).rows) : ∃ b ∈ t.rows, a = (if key b = k then f b else b) := by
  obtain ⟨b, hb, rfl⟩ := List.mem_map.1 h
  exact ⟨b, hb, rfl⟩

omit [DecidableEq κ] in
@[simp] theorem keys_mapRows (t : Table key) (f : α → α) (hf : ∀ a, key (f a) = key a) :
    (t.mapRows f hf).keys = t.keys := by
  have h : (key ∘ f) = key := funext hf
  unfold keys mapRows
  rw [List.map_map, h]

@[simp] theorem keys_update (t : Table key) (k : κ) (f : α → α) (hf : ∀ a, key (f a) = key a) :
    (t.update k f hf).keys = t.keys := keys_mapRows _ _ _

theorem get?_mapRows (t : Table key) (f : α → α) (hf : ∀ a, key (f a) = key a) (k : κ) :
    (t.mapRows f hf).get? k = (t.get? k).map f := by
  unfold get? mapRows
  rw [List.find?_map]
  congr 2
  funext a
  simp only [Function.comp_apply, hf]

theorem get?_update (t : Table key) (k : κ) (f : α → α) (hf : ∀ a, key (f a) = key a) (k' : κ) :
    (t.update k f hf).get? k' = if k' = k then (t.get? k').map f else t.get? k' := by
  unfold update
  rw [get?_mapRows]
  cases h : t.get? k' with
  | none => simp
  | some a =>
      rw [Option.map_some, Option.map_some, key_of_get? h]
      split
      · rfl
      · rfl

/-- What an update leaves of every row, it leaves of the table. -/
theorem map_update {β : Type*} (t : Table key) (k : κ) {f : α → α} (hf : ∀ a, key (f a) = key a) {g : α → β}
    (hg : ∀ a, g (f a) = g a) : (t.update k f hf).rows.map g = t.rows.map g := by
  unfold update mapRows
  rw [List.map_map]
  apply List.map_congr_left
  intro a _
  simp only [Function.comp_apply]
  split
  · exact hg a
  · rfl

/-- An update of a row that a filter drops, before and after, leaves what the filter keeps. -/
theorem filter_update {t : Table key} {k : κ} {p : α → Bool} (hnone : ∀ a ∈ t.rows, key a = k → p a = false) {f : α → α}
    (hf : ∀ a, key (f a) = key a) (hp : ∀ a, p (f a) = p a) : (t.update k f hf).rows.filter p = t.rows.filter p := by
  have hsame : (p ∘ fun a => if key a = k then f a else a) = p := by
    funext a
    simp only [Function.comp_apply]
    split
    · exact hp a
    · rfl
  change (t.rows.map fun a => if key a = k then f a else a).filter p = _
  rw [List.filter_map, hsame]
  conv_rhs => rw [← List.map_id (t.rows.filter p)]
  apply List.map_congr_left
  intro a ha
  obtain ⟨hrow, hkept⟩ := List.mem_filter.1 ha
  rw [if_neg fun hk => Bool.false_ne_true ((hnone a hrow hk).symm.trans hkept)]
  rfl

/-- A row that the filter drops of one table may be updated in every table that the filter keeps the same rows of. -/
theorem filter_update_of_kept {t t' : Table key} {p : α → Bool} (hkept : t'.rows.filter p = t.rows.filter p) {a : α}
    (ha : a ∈ t.rows) (hdropped : p a = false) {f : α → α} (hf : ∀ a, key (f a) = key a) (hp : ∀ a, p (f a) = p a) :
    (t'.update (key a) f hf).rows.filter p = t.rows.filter p := by
  rw [filter_update ?_ hf hp, hkept]
  intro b hb hkey
  by_contra hp'
  have hmem : b ∈ t.rows.filter p := hkept ▸ List.mem_filter.2 ⟨hb, by simpa using hp'⟩
  rw [eq_of_key (List.mem_filter.1 hmem).1 ha hkey] at hp'
  exact hp' hdropped

end Table
