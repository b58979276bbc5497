import IronCouncil.Base.ListUpdate
import Mathlib.Data.List.Forall2
import Mathlib.Data.List.Chain

/-!
# Registers

A register is a list whose entries are amended in place and which grows at its end, so that an entry keeps its index for good. What an amendment and an admission keep holds of every register that is reached, and an entry that no amendment moves any more is final.
-/

universe u v

namespace List

variable {α : Type u} {β : Type v}

theorem Forall₂.exists_getElem? {R : α → β → Prop} {l : List α} {l' : List β} (h : Forall₂ R l l') {k : Nat} {b : β}
    (hb : l'[k]? = some b) : ∃ a, l[k]? = some a ∧ R a b := by
  induction h generalizing k with
  | nil => simp at hb
  | @cons a b' l l' hab _ ih =>
      cases k with
      | zero =>
          simp only [getElem?_cons_zero, Option.some.injEq] at hb
          exact ⟨a, rfl, hb ▸ hab⟩
      | succ k => simpa using ih (by simpa using hb)

/-- The entry that an update of the last match touches is the last match. -/
theorem forall₂_modifyLastWhere (p : α → Bool) (f : α → α) (l : List α) :
    Forall₂ (fun a b => b = a ∨ ((l.filter p).getLast? = some a ∧ b = f a)) l (l.modifyLastWhere p f) := by
  induction l with
  | nil => exact .nil
  | cons a l ih =>
      unfold modifyLastWhere
      by_cases hany : l.any p = true
      · rw [if_pos hany]
        refine .cons (Or.inl rfl) (ih.imp ?_)
        intro b c hbc
        rcases hbc with hbc | ⟨hlast, hbc⟩
        · exact Or.inl hbc
        · refine Or.inr ⟨?_, hbc⟩
          rw [filter_cons]
          split
          · rw [getLast?_cons, hlast, Option.getD_some]
          · exact hlast
      · have hnone : l.filter p = [] := by
          rw [filter_eq_nil_iff]
          intro b hb hpb
          exact hany (any_eq_true.2 ⟨b, hb, hpb⟩)
        have hkept : Forall₂ (fun b c => c = b ∨ (((a :: l).filter p).getLast? = some b ∧ c = f b)) l l :=
          forall₂_same.2 fun _ _ => Or.inl rfl
        rw [if_neg hany]
        by_cases hpa : p a = true
        · rw [if_pos hpa]
          refine .cons (Or.inr ⟨?_, rfl⟩) hkept
          rw [filter_cons_of_pos hpa, hnone, getLast?_singleton]
        · rw [if_neg hpa]
          exact .cons (Or.inl rfl) hkept

end List

namespace Register

variable {α : Type u} {κ : Type v} {move : α → α → Prop} {admissible : List α → α → Prop}

/-- The entries move, and at most one entry is admitted at the end. -/
def Amended (move : α → α → Prop) (admissible : List α → α → Prop) (before after : List α) : Prop :=
  ∃ moved, List.Forall₂ move before moved ∧ (after = moved ∨ ∃ a, admissible before a ∧ after = moved ++ [a])

theorem Amended.refl (hmove : ∀ a, move a a) (l : List α) : Amended move admissible l l :=
  ⟨l, List.forall₂_same.2 fun a _ => hmove a, Or.inl rfl⟩

theorem Amended.admitted (hmove : ∀ a, move a a) {l : List α} {a : α} (ha : admissible l a) :
    Amended move admissible l (l ++ [a]) :=
  ⟨l, List.forall₂_same.2 fun a _ => hmove a, Or.inr ⟨a, ha, rfl⟩⟩

theorem Amended.imp {move' : α → α → Prop} {admissible' : List α → α → Prop} (hmove : ∀ a a', move a a' → move' a a')
    (hadmissible : ∀ l a, admissible l a → admissible' l a) {before after : List α} (h : Amended move admissible before after) :
    Amended move' admissible' before after := by
  obtain ⟨moved, hmoved, hafter⟩ := h
  refine ⟨moved, hmoved.imp hmove, ?_⟩
  rcases hafter with rfl | ⟨a, ha, rfl⟩
  · exact Or.inl rfl
  · exact Or.inr ⟨a, hadmissible before a ha, rfl⟩

/-- Where an entry comes from. -/
theorem Amended.origin {before after : List α} (h : Amended move admissible before after) {k : Nat} {a' : α}
    (ha' : after[k]? = some a') :
    (∃ a, before[k]? = some a ∧ move a a') ∨ (before[k]? = none ∧ k = before.length ∧ admissible before a') := by
  obtain ⟨moved, hmoved, rfl | ⟨added, hadded, rfl⟩⟩ := h
  · exact Or.inl (hmoved.exists_getElem? ha')
  · rw [List.getElem?_append] at ha'
    split at ha'
    · exact Or.inl (hmoved.exists_getElem? ha')
    · rename_i hk
      rw [← hmoved.length_eq] at hk ha'
      have hzero : k - before.length = 0 := by
        by_contra hne
        rw [List.getElem?_eq_none (by simp only [List.length_singleton]; omega)] at ha'
        cases ha'
      rw [hzero, List.getElem?_cons_zero, Option.some.injEq] at ha'
      exact Or.inr ⟨List.getElem?_eq_none (by omega), by omega, ha' ▸ hadded⟩

/-- An entry keeps its index. -/
theorem Amended.successor {before after : List α} (h : Amended move admissible before after) {k : Nat} {a : α}
    (ha : before[k]? = some a) : ∃ a', after[k]? = some a' ∧ move a a' := by
  obtain ⟨moved, hmoved, hafter⟩ := h
  obtain ⟨a', ha', hmove⟩ := hmoved.flip.exists_getElem? ha
  have hk : k < moved.length := (List.getElem?_eq_some_iff.1 ha').1
  rcases hafter with rfl | ⟨added, -, rfl⟩
  · exact ⟨a', ha', hmove⟩
  · exact ⟨a', by rw [List.getElem?_append_left hk, ha'], hmove⟩

/-- What moves keep and admitted entries have holds of every entry. -/
theorem Amended.forall_mem {P Q : α → Prop} (hmove : ∀ a a', move a a' → P a → Q a')
    {before after : List α} (hadmissible : ∀ a, admissible before a → Q a) (h : Amended move admissible before after)
    (hP : ∀ a ∈ before, P a) : ∀ a ∈ after, Q a := by
  intro a' hmem
  obtain ⟨k, hk⟩ := List.mem_iff_getElem?.1 hmem
  rcases h.origin hk with ⟨a, ha, hmoved⟩ | ⟨-, -, hadmitted⟩
  · exact hmove a a' hmoved (hP a (List.mem_of_getElem? ha))
  · exact hadmissible a' hadmitted

/-! ### One live entry for each key -/

/-- Only the last entry of a key may be live. -/
def LatestLive (key : α → κ) (live : α → Prop) (l : List α) : Prop :=
  l.Pairwise fun earlier later => key earlier = key later → ¬ live earlier

theorem LatestLive.amended {key : α → κ} {live : α → Prop} (hkey : ∀ a a', move a a' → key a' = key a)
    (hlive : ∀ a a', move a a' → live a' → live a) {before after : List α}
    (hadmissible : ∀ a, admissible before a → ∀ earlier ∈ before, key earlier = key a → ¬ live earlier)
    (h : Amended move admissible before after) (hbefore : LatestLive key live before) : LatestLive key live after := by
  obtain ⟨moved, hmoved, hafter⟩ := h
  have hkept : LatestLive key live moved := by
    clear hafter hadmissible
    induction hmoved with
    | nil => exact List.Pairwise.nil
    | @cons a a' before moved ha hrest ih =>
        obtain ⟨hhead, htail⟩ := List.pairwise_cons.1 hbefore
        refine List.pairwise_cons.2 ⟨?_, ih htail⟩
        intro later' hlater' hsame hlive'
        obtain ⟨k, hk⟩ := List.mem_iff_getElem?.1 hlater'
        obtain ⟨later, hlater, hmove⟩ := hrest.exists_getElem? hk
        apply hhead later (List.mem_of_getElem? hlater) _ (hlive a a' ha hlive')
        rw [← hkey a a' ha, hsame, hkey later later' hmove]
  rcases hafter with rfl | ⟨added, hadded, rfl⟩
  · exact hkept
  · refine List.pairwise_append.2 ⟨hkept, List.pairwise_singleton _ _, ?_⟩
    intro earlier' hearlier' last hlast hsame hlive'
    rw [List.mem_singleton.1 hlast] at hsame
    obtain ⟨k, hk⟩ := List.mem_iff_getElem?.1 hearlier'
    obtain ⟨earlier, hearlier, hmove⟩ := hmoved.exists_getElem? hk
    apply hadmissible added hadded earlier (List.mem_of_getElem? hearlier) _ (hlive earlier earlier' hmove hlive')
    rw [← hsame, hkey earlier earlier' hmove]

/-- If the last entry of a key is not live, none of them is. -/
theorem LatestLive.not_live [DecidableEq κ] {key : α → κ} {live : α → Prop} {l : List α} (h : LatestLive key live l)
    {k : κ} (hlast : ∀ a, (l.filter fun a => key a = k).getLast? = some a → ¬ live a) :
    ∀ a ∈ l, key a = k → ¬ live a := by
  have hfiltered : LatestLive key live (l.filter fun a => key a = k) := h.filter _
  intro a hmem hkey hlive
  have hfound : a ∈ l.filter fun a => key a = k := List.mem_filter.2 ⟨hmem, by simpa using hkey⟩
  generalize hsame : (l.filter fun a => key a = k) = same at hlast hfiltered hfound
  obtain ⟨last, hsplit⟩ : ∃ last, same.getLast? = some last :=
    Option.ne_none_iff_exists'.1 fun hnone => List.ne_nil_of_mem hfound (List.getLast?_eq_none_iff.1 hnone)
  obtain ⟨init, rfl⟩ := List.getLast?_eq_some_iff.1 hsplit
  rcases List.mem_append.1 hfound with hinit | hlast'
  · have hmemLast : last ∈ l.filter fun a => key a = k := by simp [hsame]
    have hlastKey : key last = k := by simpa using (List.mem_filter.1 hmemLast).2
    have hbefore := (List.pairwise_append.1 hfiltered).2.2 a hinit last (List.mem_singleton_self last)
    exact hbefore (hkey.trans hlastKey.symm) hlive
  · rw [List.mem_singleton.1 hlast'] at hlive
    exact hlast last hsplit hlive

/-! ### Histories -/

section History

variable {history : List (List α)} (hchain : history.IsChain (Amended move admissible))
include hchain

/-- What every move keeps of an entry is kept at its index from then on. -/
theorem pairwise_kept {Q : α → Prop} (hmove : ∀ a a', move a a' → Q a → Q a') :
    history.Pairwise fun earlier later => ∀ (k : Nat) (a : α), earlier[k]? = some a → Q a → ∃ a', later[k]? = some a' ∧ Q a' := by
  let kept : List α → List α → Prop := fun earlier later =>
    ∀ (k : Nat) (a : α), earlier[k]? = some a → Q a → ∃ a', later[k]? = some a' ∧ Q a'
  have : Trans kept kept kept := ⟨fun hfirst hsecond k a ha hQ => by
    obtain ⟨b, hb, hQb⟩ := hfirst k a ha hQ
    exact hsecond k b hb hQb⟩
  apply List.isChain_iff_pairwise.1
  refine hchain.imp ?_
  intro before after hamended k a ha hQ
  obtain ⟨a', ha', hmoved⟩ := hamended.successor ha
  exact ⟨a', ha', hmove a a' hmoved hQ⟩

/-- An entry that no move changes is final. -/
theorem pairwise_final {F : α → Prop} (hmove : ∀ a a', move a a' → F a → a' = a) :
    history.Pairwise fun earlier later => ∀ (k : Nat) (a : α), earlier[k]? = some a → F a → later[k]? = some a := by
  let kept : List α → List α → Prop := fun earlier later =>
    ∀ (k : Nat) (a : α), earlier[k]? = some a → F a → later[k]? = some a
  have : Trans kept kept kept := ⟨fun hfirst hsecond k a ha hfinal => hsecond k a (hfirst k a ha hfinal) hfinal⟩
  apply List.isChain_iff_pairwise.1
  refine hchain.imp ?_
  intro before after hamended k a ha hfinal
  obtain ⟨a', ha', hmoved⟩ := hamended.successor ha
  rw [ha', hmove a a' hmoved hfinal]

/-- An entry has the mark if it was marked, where only being marked gives the mark. -/
theorem exists_marked {Q M : α → Prop} (hmove : ∀ a a', move a a' → Q a' → Q a ∨ M a')
    (hadmissible : ∀ l a, admissible l a → ¬ Q a)
    (hfirst : ∀ hne : history ≠ [], ∀ a ∈ history.head hne, ¬ Q a) :
    ∀ l ∈ history, ∀ (k : Nat) (a : α), l[k]? = some a → Q a → ∃ earlier ∈ history, ∃ b, earlier[k]? = some b ∧ M b := by
  refine (List.IsChain.iff_mem.1 hchain).induction
    (fun l => ∀ (k : Nat) (a : α), l[k]? = some a → Q a → ∃ earlier ∈ history, ∃ b, earlier[k]? = some b ∧ M b) _ ?_ ?_
  · rintro before after ⟨-, hafter, hamended⟩ hbefore k a ha hQ
    rcases hamended.origin ha with ⟨b, hb, hmoved⟩ | ⟨-, -, hadmitted⟩
    · rcases hmove b a hmoved hQ with hQb | hmarked
      · exact hbefore k b hb hQb
      · exact ⟨after, hafter, a, ha, hmarked⟩
    · exact absurd hQ (hadmissible before a hadmitted)
  · intro hne k a ha hQ
    exact absurd hQ (hfirst hne a (List.mem_of_getElem? ha))

end History

end Register
