import Mathlib.Data.List.Infix
import Mathlib.Tactic.Common

/-! # Cutting a sequence into chunks

`ChunkedBy n xs css` says that `css` cuts `xs` into consecutive chunks of `n`
elements, where only the last chunk may be shorter and none is empty.

A consumer that fills one chunk at a time meets it by three rules: nothing to
cut (`ChunkedBy.nil`), what is left when the input ends (`ChunkedBy.single`),
and a full chunk in front of the chunks of the rest (`ChunkedBy.cons`). The
chunks exist for every chunk size but zero (`exists_chunkedBy`).
-/

namespace Chunking

universe u

variable {α : Type u} {n : ℕ}

/-- `css` cuts `xs` into chunks of `n` elements, the last possibly shorter. -/
structure ChunkedBy (n : ℕ) (xs : List α) (css : List (List α)) : Prop where
  flatten : css.flatten = xs
  full : ∀ c ∈ css.dropLast, c.length = n
  nonempty : ∀ c ∈ css, c ≠ []
  le : ∀ c ∈ css, c.length ≤ n

namespace ChunkedBy

theorem nil : ChunkedBy n ([] : List α) [] where
  flatten := rfl
  full := by simp
  nonempty := by simp
  le := by simp

/-- What is left at the end is one chunk. -/
theorem single {c : List α} (hne : c ≠ []) (hle : c.length ≤ n) : ChunkedBy n c [c] where
  flatten := by simp
  full := by simp
  nonempty := by simpa using hne
  le := by simpa using hle

/-- A full chunk in front of the chunks of the rest. -/
theorem cons (hn : 0 < n) {c xs : List α} {css : List (List α)} (hc : c.length = n)
    (h : ChunkedBy n xs css) : ChunkedBy n (c ++ xs) (c :: css) where
  flatten := by rw [List.flatten_cons, h.flatten]
  full := by
    intro d hd
    cases css with
    | nil => simp at hd
    | cons c' css =>
        rw [List.dropLast_cons_cons] at hd
        rcases List.mem_cons.1 hd with rfl | hd
        · exact hc
        · exact h.full d hd
  nonempty := by
    intro d hd
    rcases List.mem_cons.1 hd with rfl | hd
    · rintro rfl
      simp at hc
      omega
    · exact h.nonempty d hd
  le := by
    intro d hd
    rcases List.mem_cons.1 hd with rfl | hd
    · exact hc.le
    · exact h.le d hd

/-- Chunks of `n` are at least as many as fit the elements. -/
theorem length_le {xs : List α} {css : List (List α)} (h : ChunkedBy n xs css) :
    xs.length ≤ css.length * n := by
  have hle := h.le
  rw [← h.flatten]
  clear h
  induction css with
  | nil => simp
  | cons c css ih =>
      have hc := hle c (by simp)
      have hrest := ih fun d hd => hle d (by simp [hd])
      rw [List.flatten_cons, List.length_append, List.length_cons, Nat.succ_mul]
      omega

end ChunkedBy

/-- The chunks of a sequence exist for every chunk size but zero. -/
theorem exists_chunkedBy (hn : 0 < n) (xs : List α) : ∃ css, ChunkedBy n xs css := by
  -- on the length: a chunk is taken off the front
  induction hlen : xs.length using Nat.strongRecOn generalizing xs with
  | ind len ih =>
      by_cases hle : xs.length ≤ n
      · by_cases hnil : xs = []
        · exact ⟨[], hnil ▸ .nil⟩
        · exact ⟨[xs], .single hnil hle⟩
      · -- cut off the first chunk
        have hlt : (xs.drop n).length < len := by
          rw [List.length_drop]
          omega
        rcases ih _ hlt (xs.drop n) rfl with ⟨css, hcss⟩
        have htake : (xs.take n).length = n := by
          rw [List.length_take]
          omega
        have h := ChunkedBy.cons hn htake hcss
        rw [List.take_append_drop] at h
        exact ⟨_, h⟩

end Chunking
