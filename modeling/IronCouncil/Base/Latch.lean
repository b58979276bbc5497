import Mathlib.Data.List.Basic
import Mathlib.Data.List.Perm.Basic

/-!
# Items that the first matching event settles

Events arrive one after another. An event settles every item it hits and is announced for each of them, and a settled item is hit by nothing any more. So an item's fate is decided by the first event that hits it, and the announcements are one for each item that was hit at all.
-/

universe u v w

namespace Latch

variable {τ : Type u} {ε : Type v} {μ : Type w}
variable (hits : ε → τ → Bool) (settle : ε → τ → τ) (announce : ε → τ → μ)

def step (state : List τ × List μ) (event : ε) : List τ × List μ :=
  (state.1.map fun item => if hits event item then settle event item else item,
    state.2 ++ (state.1.filter (hits event)).map (announce event))

def firstHit (events : List ε) (item : τ) : Option ε := events.find? fun event => hits event item

def fate (events : List ε) (item : τ) : τ :=
  match firstHit hits events item with
  | none => item
  | some event => settle event item

def announced (events : List ε) (items : List τ) : List μ :=
  items.filterMap fun item => (firstHit hits events item).map fun event => announce event item

variable {hits settle announce}

theorem firstHit_cons (event : ε) (events : List ε) (item : τ) :
    firstHit hits (event :: events) item = if hits event item then some event else firstHit hits events item := by
  unfold firstHit
  rw [List.find?_cons]
  cases hits event item <;> rfl

theorem firstHit_eq_none_of_settled {item : τ} (h : ∀ event, hits event item = false) (events : List ε) :
    firstHit hits events item = none := by
  rw [firstHit, List.find?_eq_none]
  intro event _
  simp [h event]

/-- A list split in two by a test gives the announcements of either part, in another order. -/
theorem filterMap_ite_perm {p : τ → Bool} {f : τ → μ} {g : τ → Option μ} (items : List τ) :
    (items.filterMap fun item => if p item then some (f item) else g item).Perm
      ((items.filter p).map f ++ items.filterMap fun item => if p item then none else g item) := by
  induction items with
  | nil => exact List.Perm.refl _
  | cons item items ih =>
      by_cases hp : p item = true
      · simpa [List.filterMap_cons, hp] using ih
      · cases hg : g item with
        | none => simpa [List.filterMap_cons, hp, hg] using ih
        | some message =>
            simp only [List.filterMap_cons, hp, hg, Bool.false_eq_true, if_false, List.filter_cons]
            exact (ih.cons message).trans List.perm_middle.symm

section Run

variable (hsettled : ∀ event event' item, hits event' (settle event item) = false)

include hsettled

theorem fate_step (event : ε) (events : List ε) (item : τ) :
    fate hits settle events (if hits event item then settle event item else item) =
      fate hits settle (event :: events) item := by
  unfold fate
  rw [firstHit_cons]
  by_cases hhit : hits event item = true
  · rw [if_pos hhit, if_pos hhit, firstHit_eq_none_of_settled fun event' => hsettled event event' item]
  · rw [if_neg hhit, if_neg hhit]

theorem items_foldl (events : List ε) (state : List τ × List μ) :
    (events.foldl (step hits settle announce) state).1 = state.1.map (fate hits settle events) := by
  induction events generalizing state with
  | nil =>
      show state.1 = state.1.map fun item => item
      rw [List.map_id']
  | cons event events ih =>
      rw [List.foldl_cons, ih, step, List.map_map]
      apply List.map_congr_left
      intro item _
      exact fate_step hsettled event events item

theorem announced_step (event : ε) (events : List ε) (items : List τ) :
    ((items.filter (hits event)).map (announce event) ++ announced hits announce events
        (items.map fun item => if hits event item then settle event item else item)).Perm
      (announced hits announce (event :: events) items) := by
  have hcons : announced hits announce (event :: events) items = items.filterMap fun item =>
      if hits event item then some (announce event item)
      else (firstHit hits events item).map fun event' => announce event' item := by
    unfold announced
    apply List.filterMap_congr
    intro item _
    rw [firstHit_cons]
    split <;> rfl
  have hrest : announced hits announce events (items.map fun item => if hits event item then settle event item else item) =
      items.filterMap fun item =>
        if hits event item then none else (firstHit hits events item).map fun event' => announce event' item := by
    unfold announced
    rw [List.filterMap_map]
    apply List.filterMap_congr
    intro item _
    by_cases hhit : hits event item = true
    · simp only [Function.comp_apply, hhit, if_true]
      rw [firstHit_eq_none_of_settled fun event' => hsettled event event' item]
      rfl
    · simp only [Function.comp_apply, hhit, Bool.false_eq_true, if_false]
  rw [hcons, hrest]
  exact (filterMap_ite_perm items).symm

theorem log_foldl (events : List ε) (state : List τ × List μ) :
    (events.foldl (step hits settle announce) state).2.Perm (state.2 ++ announced hits announce events state.1) := by
  induction events generalizing state with
  | nil => simp [announced, firstHit]
  | cons event events ih =>
      rw [List.foldl_cons]
      apply (ih _).trans
      rw [step, List.append_assoc]
      exact (announced_step hsettled event events state.1).append_left state.2

end Run

/-- Events that all agree on whom they concern settle an item alike, whichever comes first. -/
theorem firstHit_congr {events events' : List ε} (hmem : ∀ event, event ∈ events ↔ event ∈ events') {item : τ}
    (hagree : ∀ event ∈ events, ∀ event' ∈ events, hits event item = true → hits event' item = true → event = event') :
    firstHit hits events item = firstHit hits events' item := by
  unfold firstHit
  cases hfirst : events.find? (fun event => hits event item) with
  | none =>
      rw [List.find?_eq_none] at hfirst
      symm
      rw [List.find?_eq_none]
      exact fun event hevent => hfirst event ((hmem event).2 hevent)
  | some event =>
      have hhit := List.find?_some hfirst
      have hevent := List.mem_of_find?_eq_some hfirst
      cases hfirst' : events'.find? (fun event => hits event item) with
      | none => exact absurd hhit (List.find?_eq_none.1 hfirst' event ((hmem event).1 hevent))
      | some event' =>
          have hhit' : hits event' item = true := by simpa using List.find?_some hfirst'
          have hevent' := (hmem event').2 (List.mem_of_find?_eq_some hfirst')
          rw [hagree event hevent event' hevent' (by simpa using hhit) hhit']

end Latch
