import Mathlib.Algebra.Order.Group.Defs
import Mathlib.Algebra.Order.Sub.Basic
import Mathlib.Data.List.Induction
import Mathlib.Data.List.Sort

/-!
# A sliding window of admissions

A limiter keeps the times it has admitted, and drops the expired ones from the front when it is asked again. On times that do not decrease it refuses exactly when the window that ends now is full.
-/

universe u

namespace SlidingWindow

variable {T : Type u} [AddCommGroup T] [LinearOrder T] (limit : Nat) (width : T)

def live (times : List T) (now : T) : List T := times.dropWhile (· ≤ now - width)

def admits (times : List T) (now : T) : Bool := decide ((live width times now).length < limit)

def next (times : List T) (now : T) : List T :=
  if admits limit width times now then live width times now ++ [now] else live width times now

/-- The times that are kept, and all that were ever admitted. -/
def run (nows : List T) : List T × List T :=
  nows.foldl (fun state now => (next limit width state.1 now,
    if admits limit width state.1 now then state.2 ++ [now] else state.2)) ([], [])

def kept (nows : List T) : List T := (run limit width nows).1

def admitted (nows : List T) : List T := (run limit width nows).2

@[simp] theorem kept_nil : kept limit width ([] : List T) = [] := rfl

@[simp] theorem admitted_nil : admitted limit width ([] : List T) = [] := rfl

theorem kept_append (nows : List T) (now : T) :
    kept limit width (nows ++ [now]) = next limit width (kept limit width nows) now := by
  unfold kept run
  rw [List.foldl_append]
  rfl

theorem admitted_append (nows : List T) (now : T) :
    admitted limit width (nows ++ [now]) =
      if admits limit width (kept limit width nows) now then admitted limit width nows ++ [now]
      else admitted limit width nows := by
  unfold admitted kept run
  rw [List.foldl_append]
  rfl

theorem admitted_sublist (nows : List T) : (admitted limit width nows).Sublist nows := by
  induction nows using List.reverseRecOn with
  | nil => exact List.Sublist.refl _
  | append_singleton nows now ih =>
      rw [admitted_append]
      split
      · exact ih.append (List.Sublist.refl _)
      · exact ih.trans (List.sublist_append_left _ _)

variable {limit width}

theorem live_eq_filter {times : List T} (h : times.Pairwise (· ≤ ·)) (now : T) :
    live width times now = times.filter (now - width < ·) := by
  induction times with
  | nil => rfl
  | cons time times ih =>
      obtain ⟨hle, htimes⟩ := List.pairwise_cons.1 h
      by_cases hlive : now - width < time
      · have hall : ∀ later ∈ time :: times, now - width < later := by
          intro later hlater
          rcases List.mem_cons.1 hlater with rfl | hlater
          · exact hlive
          · exact hlive.trans_le (hle later hlater)
        rw [List.filter_eq_self.2 (by simpa using hall), live, List.dropWhile_cons_of_neg (by simpa using hlive)]
      · rw [List.filter_cons_of_neg (by simpa using hlive), ← ih htimes, live,
          List.dropWhile_cons_of_pos (by simpa using hlive), live]

section Ordered

variable [IsOrderedAddMonoid T] {nows : List T}

/-- What counts at a later time is what was admitted within the window that ends there. -/
theorem live_kept (h : nows.Pairwise (· ≤ ·)) {now : T} (hnow : ∀ time ∈ nows, time ≤ now) :
    live width (kept limit width nows) now = (admitted limit width nows).filter (now - width < ·) := by
  induction nows using List.reverseRecOn generalizing now with
  | nil => rfl
  | append_singleton nows last ih =>
      obtain ⟨hnows, -, hlast⟩ := List.pairwise_append.1 h
      have hbefore : ∀ time ∈ nows, time ≤ last := fun time htime => hlast time htime last (List.mem_singleton.2 rfl)
      have hle : last ≤ now := hnow last (by simp)
      have hsorted : (admitted limit width nows).Pairwise (· ≤ ·) := hnows.sublist (admitted_sublist limit width nows)
      have hcount : ((admitted limit width nows).filter (last - width < ·)).filter (now - width < ·) =
          (admitted limit width nows).filter (now - width < ·) := by
        rw [List.filter_filter]
        refine List.filter_congr fun time _ => ?_
        have hstart : last - width ≤ now - width := sub_le_sub_right hle width
        simpa using fun hlive : now - width < time => hstart.trans_lt hlive
      rw [kept_append, admitted_append, next, ih hnows hbefore]
      split
      · rw [live_eq_filter, List.filter_append, List.filter_append, hcount]
        refine List.pairwise_append.2 ⟨hsorted.filter _, List.pairwise_singleton _ _, ?_⟩
        intro time htime later hlater
        rw [List.mem_singleton.1 hlater]
        exact hbefore time ((admitted_sublist limit width nows).subset (List.mem_filter.1 htime).1)
      · rw [live_eq_filter (hsorted.filter _), hcount]

/-- Times that all lie within one width of each other hold no more admissions than the limit. -/
theorem length_filter_le (h : nows.Pairwise (· ≤ ·)) {inside : T → Bool}
    (hspan : ∀ time last, inside time = true → inside last = true → last - width < time) :
    ((admitted limit width nows).filter inside).length ≤ limit := by
  induction nows using List.reverseRecOn with
  | nil => exact Nat.zero_le _
  | append_singleton nows last ih =>
      obtain ⟨hnows, -, hlast⟩ := List.pairwise_append.1 h
      have hbefore : ∀ time ∈ nows, time ≤ last := fun time htime => hlast time htime last (List.mem_singleton.2 rfl)
      rw [admitted_append]
      split
      · rename_i hadmits
        rw [List.filter_append]
        by_cases hin : inside last = true
        · have hlength : ((admitted limit width nows).filter (last - width < ·)).length < limit := by
            rw [← live_kept hnows hbefore]
            exact of_decide_eq_true hadmits
          have hsub : ((admitted limit width nows).filter inside).length ≤
              ((admitted limit width nows).filter (last - width < ·)).length :=
            (List.monotone_filter_right _ fun time htime => decide_eq_true (hspan time last htime hin)).length_le
          rw [List.filter_cons_of_pos hin, List.length_append]
          simp only [List.filter_nil, List.length_singleton]
          omega
        · rw [List.filter_cons_of_neg hin, List.filter_nil, List.append_nil]
          exact ih hnows
      · exact ih hnows

theorem length_window_le (h : nows.Pairwise (· ≤ ·)) (stop : T) :
    ((admitted limit width nows).filter fun time => stop - width < time ∧ time ≤ stop).length ≤ limit := by
  refine length_filter_le h fun time last htime hlast => ?_
  simp only [decide_eq_true_eq] at htime hlast
  exact (sub_le_sub_right hlast.2 width).trans_lt htime.1

theorem length_window_from_le (h : nows.Pairwise (· ≤ ·)) (start : T) :
    ((admitted limit width nows).filter fun time => start ≤ time ∧ time < start + width).length ≤ limit := by
  refine length_filter_le h fun time last htime hlast => ?_
  simp only [decide_eq_true_eq] at htime hlast
  exact (sub_lt_iff_lt_add.2 hlast.2).trans_le htime.1

/-- A request is refused exactly when the window that ends with it is full. -/
theorem refused_iff (h : nows.Pairwise (· ≤ ·)) {now : T} (hnow : ∀ time ∈ nows, time ≤ now) :
    admits limit width (kept limit width nows) now = false ↔
      ((admitted limit width nows).filter fun time => now - width < time ∧ time ≤ now).length = limit := by
  have hwindow : (admitted limit width nows).filter (fun time => now - width < time ∧ time ≤ now) =
      (admitted limit width nows).filter (now - width < ·) := by
    refine List.filter_congr fun time htime => ?_
    simp [hnow time ((admitted_sublist limit width nows).subset htime)]
  have hle : ((admitted limit width nows).filter fun time => now - width < time ∧ time ≤ now).length ≤ limit :=
    length_window_le h now
  rw [hwindow] at hle ⊢
  rw [admits, live_kept h hnow, decide_eq_false_iff_not]
  omega

/-- Requests that were refused leave no trace in later answers. -/
theorem admits_admitted (h : nows.Pairwise (· ≤ ·)) :
    admitted limit width (admitted limit width nows) = admitted limit width nows ∧
      ∀ now, (∀ time ∈ nows, time ≤ now) → admits limit width (kept limit width (admitted limit width nows)) now =
        admits limit width (kept limit width nows) now := by
  have hanswers : ∀ nows : List T, nows.Pairwise (· ≤ ·) →
      admitted limit width (admitted limit width nows) = admitted limit width nows →
      ∀ now, (∀ time ∈ nows, time ≤ now) → admits limit width (kept limit width (admitted limit width nows)) now =
        admits limit width (kept limit width nows) now := by
    intro nows hnows hsame now hnow
    have hsub := admitted_sublist limit width nows
    rw [admits, admits, live_kept hnows hnow, live_kept (hnows.sublist hsub) fun time htime => hnow time (hsub.subset htime),
      hsame]
  suffices hsame : admitted limit width (admitted limit width nows) = admitted limit width nows from
    ⟨hsame, hanswers nows h hsame⟩
  induction nows using List.reverseRecOn with
  | nil => rfl
  | append_singleton nows last ih =>
      obtain ⟨hnows, -, hlast⟩ := List.pairwise_append.1 h
      have hbefore : ∀ time ∈ nows, time ≤ last := fun time htime => hlast time htime last (List.mem_singleton.2 rfl)
      rw [admitted_append]
      split
      · rename_i hadmits
        rw [admitted_append, hanswers nows hnows (ih hnows) last hbefore, if_pos hadmits, ih hnows]
      · exact ih hnows

end Ordered

end SlidingWindow
