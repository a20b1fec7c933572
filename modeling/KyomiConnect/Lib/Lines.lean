import Mathlib.Data.List.Count
import Mathlib.Data.List.TakeWhile
import Mathlib.Tactic.Common

/-! # Lines and columns

A text is a list, and one of its elements breaks the lines. The line of a position is
counted by the breaks before it, the column by what follows the last of them; both are
counted from one. What stands before the last break is kept apart from what follows it, so
that a text can be extended at its end (`after_append_of_not_mem`) and at its start
(`column_append`).
-/

namespace KyomiConnect.Lines

variable {α : Type*} [DecidableEq α] (b : α)

/-- What follows the last break, backwards. -/
def after (cs : List α) : List α := cs.reverse.takeWhile (· ≠ b)

/-- What there is up to the last break, backwards. -/
def upTo (cs : List α) : List α := cs.reverse.dropWhile (· ≠ b)

/-- The line of the element at an index. -/
def line (cs : List α) (k : ℕ) : ℕ := (cs.take k).count b + 1

/-- Its column. -/
def column (cs : List α) (k : ℕ) : ℕ := (after b (cs.take k)).length + 1

variable {b}

theorem after_append_upTo (cs : List α) : after b cs ++ upTo b cs = cs.reverse :=
  List.takeWhile_append_dropWhile

theorem length_after_add (cs : List α) :
    (after b cs).length + (upTo b cs).length = cs.length := by
  rw [← List.length_append, after_append_upTo, List.length_reverse]

theorem after_of_not_mem {cs : List α} (h : b ∉ cs) : after b cs = cs.reverse := by
  unfold after
  rw [List.takeWhile_eq_self_iff]
  intro c hc
  rw [decide_eq_true_eq]
  rintro rfl
  exact h (List.mem_reverse.1 hc)

theorem upTo_of_not_mem {cs : List α} (h : b ∉ cs) : upTo b cs = [] := by
  have happend := after_append_upTo (b := b) cs
  rw [after_of_not_mem h] at happend
  exact List.append_right_eq_self.1 happend

/-- What stands on the last line is appended to it. -/
theorem after_append_of_not_mem {gap : List α} (h : b ∉ gap) (cs : List α) :
    after b (cs ++ gap) = gap.reverse ++ after b cs := by
  unfold after
  rw [List.reverse_append, List.takeWhile_append_of_pos]
  intro c hc
  rw [decide_eq_true_eq]
  rintro rfl
  exact h (List.mem_reverse.1 hc)

theorem upTo_append_of_not_mem {gap : List α} (h : b ∉ gap) (cs : List α) :
    upTo b (cs ++ gap) = upTo b cs := by
  unfold upTo
  rw [List.reverse_append, List.dropWhile_append_of_pos]
  intro c hc
  rw [decide_eq_true_eq]
  rintro rfl
  exact h (List.mem_reverse.1 hc)

/-- A break starts a line of its own, whatever is before it. -/
theorem upTo_append_of_mem {gap : List α} (h : b ∈ gap) (cs : List α) :
    upTo b (cs ++ gap) = upTo b gap ++ cs.reverse := by
  unfold upTo
  rw [List.reverse_append, List.dropWhile_append, if_neg]
  rw [List.isEmpty_iff, List.dropWhile_eq_nil_iff]
  intro hall
  exact absurd (hall b (List.mem_reverse.2 h)) (by simp)

theorem after_append_of_mem {gap : List α} (h : b ∈ gap) (cs : List α) :
    after b (cs ++ gap) = after b gap := by
  have hwhole := after_append_upTo (b := b) (cs ++ gap)
  rw [upTo_append_of_mem h, List.reverse_append, ← after_append_upTo (b := b) gap,
    List.append_assoc] at hwhole
  exact List.append_cancel_right hwhole

/-- A text put before another adds its breaks to every line. -/
theorem line_append (before cs : List α) (k : ℕ) :
    line b (before ++ cs) (before.length + k) = before.count b + line b cs k := by
  unfold line
  rw [List.take_length_add_append, List.count_append, Nat.add_assoc]

/-- It moves the columns of the first line only. -/
theorem column_append (before cs : List α) (k : ℕ) :
    column b (before ++ cs) (before.length + k) =
      if b ∈ cs.take k then column b cs k else (after b before).length + column b cs k := by
  unfold column
  rw [List.take_length_add_append]
  split
  · rename_i h
    rw [after_append_of_mem h]
  · rename_i h
    rw [after_append_of_not_mem h, after_of_not_mem h, List.length_append]
    omega

end KyomiConnect.Lines
