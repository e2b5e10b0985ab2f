import Mathlib.Data.List.Basic

/-! # Counting in a sliding window

A counter keeps the times it was called at, as far as its window still covers them, and no more than a cap. As long as
time does not go back, its length is the number of calls in the window, up to the cap. Calls that are let through only
below a limit stay below it in every window.
-/

namespace SlidingWindow

open List

/-- A window that ends now still covers this time. -/
def covers (window now time : ℕ) : Bool := now < time + window

/-- The calls in the window that ends now. -/
def count (window now : ℕ) (past : List ℕ) : ℕ := past.countP fun time => covers window now time && time ≤ now

/-- Drop what the window has left behind, add this time at the end, and keep the newest. -/
def record (window cap now : ℕ) (times : List ℕ) : List ℕ :=
  let times := times.filter (covers window now) ++ [now]
  if cap < times.length then times.drop (times.length - cap) else times

variable {window cap now limit : ℕ} {times past passed : List ℕ}

theorem filter_take_of_upward {p : ℕ → Bool} {l : List ℕ} (upward : l.Pairwise fun a b => p b = true → p a = true)
    (n : ℕ) : (l.take n).filter p = (l.filter p).take n := by
  induction l generalizing n with
  | nil => simp
  | cons a l ih =>
    obtain ⟨head, tail⟩ := pairwise_cons.mp upward
    cases n with
    | zero => simp
    | succ n =>
      by_cases now : p a = true
      · rw [take_succ_cons, filter_cons_of_pos now, filter_cons_of_pos now, take_succ_cons, ih tail]
      · have none : l.filter p = [] := by
          rw [filter_eq_nil_iff]
          exact fun b member holds => now (head b member holds)
        rw [take_succ_cons, filter_cons_of_neg now, filter_cons_of_neg now, ih tail, none, take_nil,
          take_nil]

theorem record_reverse (window cap now : ℕ) (times : List ℕ) :
    (record window cap now times).reverse = (now :: (times.reverse.filter (covers window now))).take cap := by
  unfold record
  have reversed : (times.filter (covers window now) ++ [now]).reverse =
      now :: times.reverse.filter (covers window now) := by
    rw [reverse_append, filter_reverse, reverse_singleton, singleton_append]
  rw [← reversed]
  dsimp only
  split_ifs with long
  · rw [take_reverse]
  · rw [take_of_length_le (by simpa using long)]

/-- Of the past, newest first, the counter holds the newest calls that the window at the last one covers. -/
structure Tracks (window cap : ℕ) (times past : List ℕ) : Prop where
  ordered : past.Pairwise (· ≥ ·)
  kept : times.reverse = (past.filter (covers window (past.headD 0))).take cap

theorem Tracks.start : Tracks window cap [] [] where
  ordered := .nil
  kept := by simp

theorem covers_upward (window now : ℕ) (ordered : past.Pairwise (· ≥ ·)) :
    past.Pairwise fun a b => covers window now b = true → covers window now a = true := by
  apply ordered.imp
  intro a b older covered
  simp only [covers, decide_eq_true_eq] at covered ⊢
  omega

theorem covers_earlier {first time : ℕ} (later : first ≤ now) (covered : covers window now time = true) :
    covers window first time = true := by
  simp only [covers, decide_eq_true_eq] at covered ⊢
  omega

theorem headD_le (later : ∀ time ∈ past, time ≤ now) : past.headD 0 ≤ now := by
  cases past with
  | nil => exact Nat.zero_le _
  | cons head tail => exact later head mem_cons_self

/-- A call that does not go back in time is tracked. -/
theorem Tracks.record (tracks : Tracks window cap times past) (positive : 0 < window) (later : ∀ time ∈ past, time ≤ now) :
    Tracks window cap (record window cap now times) (now :: past) where
  ordered := pairwise_cons.mpr ⟨later, tracks.ordered⟩
  kept := by
    have twice : (past.filter (covers window (past.headD 0))).filter (covers window now) =
        past.filter (covers window now) := by
      rw [filter_filter]
      apply filter_congr
      intro time _
      cases covered : covers window now time with
      | false => rfl
      | true => exact covers_earlier (headD_le later) covered
    have own : covers window now now = true := by
      simp only [covers, decide_eq_true_eq]
      omega
    have upward := (covers_upward window now tracks.ordered).filter (covers window (past.headD 0))
    rw [record_reverse, tracks.kept, filter_take_of_upward upward, twice, headD_cons, filter_cons_of_pos own]
    cases cap with
    | zero => simp
    | succ n => rw [take_succ_cons, take_succ_cons, take_take, Nat.min_eq_left (Nat.le_succ n)]

/-- The counter shows the calls in the window, up to its cap. -/
theorem Tracks.length (tracks : Tracks window cap times (now :: past)) : times.length = min cap (count window now (now :: past)) := by
  have lengths := congrArg List.length tracks.kept
  rw [length_reverse, length_take, ← countP_eq_length_filter, headD_cons] at lengths
  rw [lengths, count]
  congr 1
  apply countP_congr
  intro time member
  have before : time ≤ now := by
    rcases mem_cons.mp member with rfl | older
    · exact Nat.le_refl _
    · exact (pairwise_cons.mp tracks.ordered).1 time older
  simp [before]

theorem count_sublist (sublist : passed.Sublist past) : count window now passed ≤ count window now past :=
  sublist.countP_le

/-- A call that is let through below the limit leaves every window below it. -/
theorem limited_cons (sublist : passed.Sublist past) (later : ∀ time ∈ past, time ≤ now)
    (limited : ∀ time, count window time passed ≤ limit) (below : count window now (now :: past) ≤ limit) (time : ℕ) :
    count window time (now :: passed) ≤ limit := by
  by_cases earlier : time < now
  · have outside : count window time (now :: passed) = count window time passed := by
      rw [count, count, countP_cons_of_neg]
      simp only [Bool.and_eq_true, decide_eq_true_eq, not_and]
      omega
    rw [outside]
    exact limited time
  · calc
      count window time (now :: passed) ≤ count window now (now :: passed) := by
        apply countP_mono_left
        intro other member inside
        have before : other ≤ now := by
          rcases mem_cons.mp member with rfl | older
          · exact Nat.le_refl _
          · exact later other (sublist.subset older)
        simp only [covers, Bool.and_eq_true, decide_eq_true_eq] at inside ⊢
        omega
      _ ≤ count window now (now :: past) := count_sublist (sublist.cons_cons now)
      _ ≤ limit := below

end SlidingWindow
