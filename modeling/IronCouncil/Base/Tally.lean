import IronCouncil.Base.OrdDict
import Mathlib.Data.List.Count
import Mathlib.Order.MinMax

/-!
# Tallies

Counting the elements of a list in a dictionary, the largest count, and the sole leader: the element that alone has it. The leader and the largest count depend on the counts only, so renaming the elements apart renames the leader.
-/

universe u v

section Tally

variable {κ : Type u} {μ : Type v} [DecidableEq κ]

def countKey (counts : OrdDict κ Nat) (key : κ) : OrdDict κ Nat := counts.upsert key 1 (· + 1)

def tally (l : List κ) : OrdDict κ Nat := l.foldl countKey OrdDict.empty

omit [DecidableEq κ] in
def largestCount (counts : OrdDict κ Nat) : Nat := counts.values.foldr max 0

/-- The keys that hold the largest count. -/
def leadersOf (counts : OrdDict κ Nat) : List κ :=
  (counts.entries.filter fun entry => entry.2 = largestCount counts).map Prod.fst

def soleLeader (counts : OrdDict κ Nat) : Option κ :=
  match leadersOf counts with
  | [leader] => some leader
  | _ => none

theorem get?_foldl_countKey (l : List κ) (counts : OrdDict κ Nat) (k : κ) :
    (l.foldl countKey counts).get? k =
      if l.count k = 0 then counts.get? k else some ((counts.get? k).getD 0 + l.count k) := by
  induction l generalizing counts with
  | nil => simp
  | cons a l ih =>
      rw [List.foldl_cons, ih, countKey, OrdDict.get?_upsert, List.count_cons]
      by_cases hk : k = a
      · subst hk
        cases hget : counts.get? k with
        | none =>
            by_cases hzero : l.count k = 0
            · simp [hzero]
            · simp [hzero]
              omega
        | some n =>
            by_cases hzero : l.count k = 0
            · simp [hzero]
            · simp [hzero]
              omega
      · have hne : (a == k) = false := by simpa using Ne.symm hk
        simp [hk, hne]

theorem get?_tally (l : List κ) (k : κ) :
    (tally l).get? k = if l.count k = 0 then none else some (l.count k) := by
  rw [tally, get?_foldl_countKey]
  simp

omit [DecidableEq κ] in
theorem le_foldr_max {n : Nat} {l : List Nat} (hmem : n ∈ l) : n ≤ l.foldr max 0 := by
  induction l with
  | nil => exact absurd hmem List.not_mem_nil
  | cons m l ih =>
      rw [List.foldr_cons]
      rcases List.mem_cons.1 hmem with rfl | hmem
      · exact le_max_left _ _
      · exact (ih hmem).trans (le_max_right _ _)

omit [DecidableEq κ] in
theorem foldr_max_mem (l : List Nat) : l.foldr max 0 = 0 ∨ l.foldr max 0 ∈ l := by
  induction l with
  | nil => exact Or.inl rfl
  | cons m l ih =>
      rw [List.foldr_cons]
      rcases max_choice m (l.foldr max 0) with h | h
      · rw [h]
        exact Or.inr List.mem_cons_self
      · rw [h]
        exact ih.imp_right (List.mem_cons_of_mem m)

theorem mem_values_tally {l : List κ} {n : Nat} : n ∈ (tally l).values ↔ ∃ k ∈ l, l.count k = n := by
  rw [OrdDict.mem_values]
  constructor
  · rintro ⟨k, hk⟩
    rw [get?_tally] at hk
    split at hk
    · cases hk
    · rename_i hcount
      cases hk
      exact ⟨k, List.count_pos_iff.1 (Nat.pos_of_ne_zero hcount), rfl⟩
  · rintro ⟨k, hmem, rfl⟩
    have hpos := List.count_pos_iff.2 hmem
    exact ⟨k, by rw [get?_tally, if_neg (by omega)]⟩

theorem count_le_largestCount (l : List κ) (k : κ) : l.count k ≤ largestCount (tally l) := by
  by_cases hmem : k ∈ l
  · exact le_foldr_max (mem_values_tally.2 ⟨k, hmem, rfl⟩)
  · rw [List.count_eq_zero.2 hmem]
    exact Nat.zero_le _

/-- The largest count is attained, unless there is nothing to count. -/
theorem exists_count_eq_largestCount {l : List κ} (hne : l ≠ []) :
    ∃ k ∈ l, l.count k = largestCount (tally l) := by
  rcases foldr_max_mem (tally l).values with hzero | hmem
  · obtain ⟨k, hk⟩ := List.exists_mem_of_ne_nil l hne
    have hle := count_le_largestCount l k
    have hpos := List.count_pos_iff.2 hk
    unfold largestCount at hle
    omega
  · exact mem_values_tally.1 hmem

theorem largestCount_eq_zero_iff {l : List κ} : largestCount (tally l) = 0 ↔ l = [] := by
  constructor
  · intro h
    by_contra hne
    obtain ⟨k, hk, hcount⟩ := exists_count_eq_largestCount hne
    have hpos := List.count_pos_iff.2 hk
    omega
  · rintro rfl
    rfl

theorem mem_leadersOf_tally {l : List κ} {k : κ} :
    k ∈ leadersOf (tally l) ↔ k ∈ l ∧ l.count k = largestCount (tally l) := by
  unfold leadersOf
  rw [List.mem_map]
  constructor
  · rintro ⟨⟨key, n⟩, hentry, rfl⟩
    rw [List.mem_filter, ← OrdDict.get?_eq_some, get?_tally] at hentry
    obtain ⟨hget, hn⟩ := hentry
    split at hget
    · cases hget
    · rename_i hcount
      cases hget
      exact ⟨List.count_pos_iff.1 (Nat.pos_of_ne_zero hcount), of_decide_eq_true hn⟩
  · rintro ⟨hmem, hcount⟩
    have hpos := List.count_pos_iff.2 hmem
    refine ⟨(k, l.count k), ?_, rfl⟩
    rw [List.mem_filter, ← OrdDict.get?_eq_some, get?_tally, if_neg (by omega)]
    exact ⟨rfl, by simpa using hcount⟩

omit [DecidableEq κ] in
theorem leadersOf_nodup (counts : OrdDict κ Nat) : (leadersOf counts).Nodup :=
  counts.nodup.sublist (List.filter_sublist.map _)

omit [DecidableEq κ] in
theorem leadersOf_of_soleLeader {counts : OrdDict κ Nat} {leader : κ} (h : soleLeader counts = some leader) :
    leadersOf counts = [leader] := by
  unfold soleLeader at h
  split at h
  · rename_i first hleaders
    cases h
    exact hleaders
  · cases h

/-- An element leads alone when every other one is counted less often. -/
theorem soleLeader_tally_eq_some {l : List κ} {k : κ} :
    soleLeader (tally l) = some k ↔ 0 < l.count k ∧ ∀ other, other ≠ k → l.count other < l.count k := by
  have hnodup := leadersOf_nodup (tally l)
  constructor
  · intro h
    have hleaders := leadersOf_of_soleLeader h
    have hk : k ∈ leadersOf (tally l) := by
      rw [hleaders]
      exact List.mem_cons_self
    obtain ⟨hmem, hcount⟩ := mem_leadersOf_tally.1 hk
    refine ⟨List.count_pos_iff.2 hmem, fun other hother => ?_⟩
    have hle := count_le_largestCount l other
    rcases Nat.lt_or_ge (l.count other) (l.count k) with hlt | hge
    · exact hlt
    · have hpos := List.count_pos_iff.2 hmem
      have : other ∈ leadersOf (tally l) :=
        mem_leadersOf_tally.2 ⟨List.count_pos_iff.1 (by omega), by omega⟩
      rw [hleaders, List.mem_singleton] at this
      exact absurd this hother
  · rintro ⟨hpos, hless⟩
    have hne : l ≠ [] := List.ne_nil_of_mem (List.count_pos_iff.1 hpos)
    obtain ⟨top, htop, htopCount⟩ := exists_count_eq_largestCount hne
    have heq : top = k := by
      by_contra htopk
      have := hless top htopk
      have := count_le_largestCount l k
      omega
    subst heq
    have hk : top ∈ leadersOf (tally l) := mem_leadersOf_tally.2 ⟨htop, htopCount⟩
    have hall : ∀ other ∈ leadersOf (tally l), other = top := by
      intro other hother
      by_contra hne
      have := hless other hne
      have := (mem_leadersOf_tally.1 hother).2
      omega
    have hsingle : leadersOf (tally l) = [top] := by
      rw [List.eq_replicate_of_mem hall]
      have hlen : (leadersOf (tally l)).length = 1 := by
        have hreplicate := List.eq_replicate_of_mem hall
        rw [hreplicate, List.nodup_replicate] at hnodup
        have hpos : 0 < (leadersOf (tally l)).length := List.length_pos_of_mem hk
        omega
      rw [hlen]
      rfl
    unfold soleLeader
    rw [hsingle]

/-! ### Order and names do not count -/

theorem largestCount_perm {l l' : List κ} (h : l.Perm l') : largestCount (tally l) = largestCount (tally l') := by
  have hle : ∀ {l l' : List κ}, l.Perm l' → largestCount (tally l) ≤ largestCount (tally l') := by
    intro l l' h
    by_cases hne : l = []
    · rw [largestCount_eq_zero_iff.2 hne]
      exact Nat.zero_le _
    · obtain ⟨k, -, hcount⟩ := exists_count_eq_largestCount hne
      rw [← hcount, h.count_eq]
      exact count_le_largestCount l' k
  exact le_antisymm (hle h) (hle h.symm)

theorem soleLeader_perm {l l' : List κ} (h : l.Perm l') : soleLeader (tally l) = soleLeader (tally l') := by
  apply Option.ext
  intro k
  simp only [soleLeader_tally_eq_some, h.count_eq]

section Rename

variable [DecidableEq μ] {f : κ → μ} {l : List κ}

theorem count_map_of_injOn (hinj : ∀ a ∈ l, ∀ b ∈ l, f a = f b → a = b) {k : κ} (hk : k ∈ l) :
    (l.map f).count (f k) = l.count k := by
  rw [List.count_eq_countP, List.count_eq_countP, List.countP_map]
  apply List.countP_congr
  intro a ha
  simp only [Function.comp_apply, beq_iff_eq]
  exact ⟨hinj a ha k hk, congrArg f⟩

theorem largestCount_map (hinj : ∀ a ∈ l, ∀ b ∈ l, f a = f b → a = b) :
    largestCount (tally (l.map f)) = largestCount (tally l) := by
  by_cases hne : l = []
  · rw [hne]
    rfl
  · obtain ⟨k, hk, hcount⟩ := exists_count_eq_largestCount hne
    obtain ⟨name, hname, hcount'⟩ := exists_count_eq_largestCount (l := l.map f) (by simpa using hne)
    obtain ⟨k', hk', rfl⟩ := List.mem_map.1 hname
    rw [count_map_of_injOn hinj hk'] at hcount'
    have hle := count_le_largestCount l k'
    have hge := count_le_largestCount (l.map f) (f k)
    rw [count_map_of_injOn hinj hk] at hge
    omega

/-- Renaming the elements apart renames the leader. -/
theorem soleLeader_map (hinj : ∀ a ∈ l, ∀ b ∈ l, f a = f b → a = b) :
    soleLeader (tally (l.map f)) = (soleLeader (tally l)).map f := by
  apply Option.ext
  intro name
  rw [Option.map_eq_some_iff]
  simp only [soleLeader_tally_eq_some]
  constructor
  · rintro ⟨hpos, hless⟩
    obtain ⟨k, hk, rfl⟩ := List.mem_map.1 (List.count_pos_iff.1 hpos)
    rw [count_map_of_injOn hinj hk] at hpos hless
    refine ⟨k, ⟨hpos, fun other hother => ?_⟩, rfl⟩
    by_cases hmem : other ∈ l
    · have := hless (f other) fun h => hother (hinj other hmem k hk h)
      rwa [count_map_of_injOn hinj hmem] at this
    · rwa [List.count_eq_zero.2 hmem]
  · rintro ⟨k, ⟨hpos, hless⟩, rfl⟩
    have hk := List.count_pos_iff.1 hpos
    rw [count_map_of_injOn hinj hk]
    refine ⟨hpos, fun name hname => ?_⟩
    by_cases hmem : name ∈ l.map f
    · obtain ⟨other, hother, rfl⟩ := List.mem_map.1 hmem
      rw [count_map_of_injOn hinj hother]
      exact hless other fun h => hname (congrArg f h)
    · rwa [List.count_eq_zero.2 hmem]

end Rename

end Tally
