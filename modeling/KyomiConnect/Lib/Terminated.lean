import Mathlib.Data.List.Basic
import Mathlib.Data.List.Infix

/-! # Lines that end with two elements

A text is a list of lines, each with an end of two different elements behind it, as texts with
a carriage return and a line feed are. A line may have either of the two in it, but not one
behind the other. The lines of a text are determined by it; a block, which a reader takes in
element by element until it ends with a blank line, is the text of some lines that are not
blank behind a first one; and a reader that ends lines at the second element alone finds the
same lines where that element is in none of them.
-/

namespace KyomiConnect.Terminated

variable {α : Type*} {a b : α}

/-- A line: the end of lines is not in it. -/
def IsLine (a b : α) (l : List α) : Prop := ¬ [a, b] <:+: l

/-- The lines, each with its end. -/
def text (a b : α) (ls : List (List α)) : List α := ls.flatMap (· ++ [a, b])

@[simp] theorem text_nil : text a b [] = [] := rfl

@[simp] theorem text_cons (l : List α) (ls : List (List α)) :
    text a b (l :: ls) = l ++ a :: b :: text a b ls := by
  simp [text]

@[simp] theorem text_append (ls ms : List (List α)) :
    text a b (ls ++ ms) = text a b ls ++ text a b ms := by
  simp [text]

/-! ## Lines -/

/-- An empty line is a line. -/
theorem isLine_nil : IsLine a b [] := by
  rintro ⟨front, rest, h⟩
  simp at h

/-- The first item does not begin an end, and neither do the others. -/
theorem isLine_cons_iff {c : α} {l : List α} :
    IsLine a b (c :: l) ↔ ¬ (c = a ∧ l.head? = some b) ∧ IsLine a b l := by
  unfold IsLine
  rw [List.infix_cons_iff, not_or]
  refine and_congr_left fun _ => not_congr ?_
  constructor
  · rintro ⟨rest, hrest⟩
    obtain ⟨rfl, rfl⟩ := List.cons_eq_cons.1 hrest
    exact ⟨rfl, rfl⟩
  · rintro ⟨rfl, hhead⟩
    obtain ⟨rest, rfl⟩ := List.head?_eq_some_iff.1 hhead
    exact ⟨rest, rfl⟩

/-- What has no second half of an end in it is a line. -/
theorem isLine_of_not_mem {l : List α} (h : b ∉ l) : IsLine a b l := by
  intro hinside
  exact h (hinside.subset (by simp))

/-- A part of a line is a line. -/
theorem IsLine.of_inside {l m : List α} (h : IsLine a b m) (hinside : l <:+: m) : IsLine a b l := by
  intro hend
  exact h (hend.trans hinside)

section Ends

variable (hab : a ≠ b)
include hab

/-- The first end of a text is that of its first line. -/
theorem eq_of_append_end {l q r rest : List α} (hl : IsLine a b l)
    (h : q ++ a :: b :: r = l ++ a :: b :: rest) :
    (q = l ∧ r = rest) ∨ ∃ q', q = l ++ a :: b :: q' ∧ q' ++ a :: b :: r = rest := by
  -- over the line, in which no end begins
  induction l generalizing q with
  | nil =>
      match q with
      | [] =>
          left
          simpa using h
      | [c] =>
          simp only [List.singleton_append, List.nil_append, List.cons.injEq] at h
          exact absurd h.2.1 hab
      | c :: d :: q =>
          right
          simp only [List.cons_append, List.nil_append, List.cons.injEq] at h
          obtain ⟨rfl, rfl, h⟩ := h
          exact ⟨q, rfl, h⟩
  | cons c l ih =>
      obtain ⟨hhead, htail⟩ := isLine_cons_iff.1 hl
      cases q with
      | nil =>
          -- the end of the text at the front would be an end in the line, or overlap with its end
          cases l with
          | nil =>
              simp only [List.nil_append, List.cons_append, List.cons.injEq] at h
              exact absurd h.2.1.symm hab
          | cons d l =>
              simp only [List.nil_append, List.cons_append, List.cons.injEq] at h
              obtain ⟨rfl, rfl, -⟩ := h
              exact absurd ⟨rfl, rfl⟩ hhead
      | cons d q =>
          simp only [List.cons_append, List.cons.injEq] at h
          obtain ⟨rfl, hrest⟩ := h
          rcases ih htail hrest with ⟨rfl, rfl⟩ | ⟨q', rfl, hq'⟩
          · exact .inl ⟨rfl, rfl⟩
          · exact .inr ⟨q', rfl, hq'⟩

/-- The lines of a text are determined by it. -/
theorem text_inj {ls ms : List (List α)} (hls : ∀ l ∈ ls, IsLine a b l)
    (hms : ∀ l ∈ ms, IsLine a b l) (h : text a b ls = text a b ms) : ls = ms := by
  -- line by line: the first end is the same in both
  induction ls generalizing ms with
  | nil =>
      cases ms with
      | nil => rfl
      | cons m ms => simp at h
  | cons l ls ih =>
      cases ms with
      | nil => simp at h
      | cons m ms =>
          rw [text_cons, text_cons] at h
          rw [List.forall_mem_cons] at hls hms
          rcases eq_of_append_end hab hms.1 h with ⟨rfl, hrest⟩ | ⟨q', rfl, -⟩
          · rw [ih hls.2 hms.2 hrest]
          · exact absurd ⟨m, q', by simp⟩ hls.1

/-- What is behind the lines of a text that ends with a line is nothing. -/
theorem eq_nil_of_text_append {ls : List (List α)} {tail q : List α}
    (hls : ∀ l ∈ ls, IsLine a b l) (htail : IsLine a b tail)
    (h : q ++ [a, b] = text a b ls ++ tail) : tail = [] := by
  -- line by line, up to the tail
  induction ls generalizing q with
  | nil => exact absurd ⟨q, [], by simpa using h⟩ htail
  | cons l ls ih =>
      rw [List.forall_mem_cons] at hls
      rw [text_cons, List.append_assoc, List.cons_append, List.cons_append] at h
      rcases eq_of_append_end hab hls.1 h with ⟨-, hrest⟩ | ⟨q', -, h⟩
      · exact (List.append_eq_nil_iff.1 hrest.symm).2
      · exact ih hls.2 h

end Ends

/-- Every list is a text, with a line behind it that is not ended. -/
theorem exists_lines (a b : α) (cs : List α) :
    ∃ ls tail, cs = text a b ls ++ tail ∧ (∀ l ∈ ls, IsLine a b l) ∧ IsLine a b tail := by
  classical
  match cs with
  | [] => exact ⟨[], [], rfl, by simp, isLine_nil⟩
  | c :: cs =>
      by_cases hend : c = a ∧ cs.head? = some b
      · obtain ⟨rfl, hhead⟩ := hend
        obtain ⟨rest, rfl⟩ := List.head?_eq_some_iff.1 hhead
        obtain ⟨ls, tail, rfl, hls, htail⟩ := exists_lines c b rest
        refine ⟨[] :: ls, tail, by simp, ?_, htail⟩
        rw [List.forall_mem_cons]
        exact ⟨isLine_nil, hls⟩
      · obtain ⟨ls, tail, hcs, hls, htail⟩ := exists_lines a b cs
        cases ls with
        | nil =>
            refine ⟨[], c :: tail, by simp [hcs], hls, isLine_cons_iff.2 ⟨?_, htail⟩⟩
            simpa [hcs] using hend
        | cons l ls =>
            rw [List.forall_mem_cons] at hls
            refine ⟨(c :: l) :: ls, tail, by simp [hcs], ?_, htail⟩
            rw [List.forall_mem_cons]
            refine ⟨isLine_cons_iff.2 ⟨?_, hls.1⟩, hls.2⟩
            rintro ⟨rfl, hhead⟩
            obtain ⟨rest, rfl⟩ := List.head?_eq_some_iff.1 hhead
            exact hend ⟨rfl, by simp [hcs]⟩
termination_by cs.length

/-! ## Blocks -/

/-- What a reader takes in that stops as soon as there is a blank line. -/
def IsBlock (a b : α) (cs : List α) : Prop :=
  [a, b, a, b] <:+ cs ∧ ∀ front, front <+: cs → [a, b, a, b] <:+ front → front = cs

section Blocks

variable (hab : a ≠ b)
include hab

/-- Nothing follows the blank line behind lines that are not blank. -/
theorem eq_nil_of_blank {l : List α} {ls : List (List α)} {q r : List α} (hl : IsLine a b l)
    (hls : ∀ l ∈ ls, IsLine a b l ∧ l ≠ [])
    (h : q ++ a :: b :: a :: b :: r = text a b (l :: ls) ++ [a, b]) : r = [] := by
  -- line by line: an empty line comes last only
  induction ls generalizing l q with
  | nil =>
      rw [text_cons, text_nil, List.append_assoc, List.cons_append, List.cons_append] at h
      rcases eq_of_append_end hab hl h with ⟨-, hrest⟩ | ⟨q', -, hq'⟩
      · simpa using hrest
      · have hlen := congrArg List.length hq'
        simp at hlen
        omega
  | cons m ls ih =>
      rw [List.forall_mem_cons] at hls
      rw [text_cons, List.append_assoc, List.cons_append, List.cons_append] at h
      rcases eq_of_append_end hab hl h with ⟨-, hrest⟩ | ⟨q', -, hq'⟩
      · -- the next line would be blank
        exfalso
        rw [text_cons, List.append_assoc, List.cons_append, List.cons_append] at hrest
        rcases eq_of_append_end hab hls.1.1 (q := []) hrest with ⟨hblank, -⟩ | ⟨q', hblank, -⟩
        · exact hls.1.2 hblank.symm
        · simp at hblank
      · exact ih hls.1.1 hls.2 hq'

/-- A block is the text of lines that are not blank, but for the first, and a blank line. -/
theorem isBlock_iff {cs : List α} :
    IsBlock a b cs ↔ ∃ l ls, IsLine a b l ∧ (∀ l ∈ ls, IsLine a b l ∧ l ≠ []) ∧
      cs = text a b (l :: ls) ++ [a, b] := by
  constructor
  · rintro ⟨⟨q, hq⟩, hfirst⟩
    have hend : q ++ [a, b] ++ [a, b] = cs := by rw [← hq]; simp
    obtain ⟨ls, tail, hcs, hls, htail⟩ := exists_lines a b cs
    rw [hcs] at hend
    obtain rfl := eq_nil_of_text_append hab hls htail hend
    rw [List.append_nil] at hcs hend
    obtain rfl | ⟨ms, m, rfl⟩ := List.eq_nil_or_concat' ls
    · simp at hend
    · rw [List.forall_mem_append, List.forall_mem_singleton] at hls
      have hlast : text a b (ms ++ [m]) = text a b ms ++ m ++ [a, b] := by simp
      rw [hlast] at hend hcs
      have hend' := List.append_cancel_right hend
      obtain rfl := eq_nil_of_text_append hab hls.1 hls.2 hend'
      rw [List.append_nil] at hend' hcs
      cases ms with
      | nil => simp at hend'
      | cons l ls =>
          rw [List.forall_mem_cons] at hls
          refine ⟨l, ls, hls.1.1, ?_, hcs⟩
          intro m hm
          refine ⟨hls.1.2 m hm, ?_⟩
          rintro rfl
          -- the block would have ended at the blank line
          obtain ⟨us, vs, rfl⟩ := List.append_of_mem hm
          obtain ⟨front, hfront⟩ : ∃ front, text a b (l :: us) = front ++ [a, b] := by
            obtain ⟨us', u, hu⟩ := (List.eq_nil_or_concat' (l :: us)).resolve_left (by simp)
            exact ⟨text a b us' ++ u, by rw [hu]; simp⟩
          have hshort := hfirst (text a b (l :: us) ++ [a, b])
            ⟨text a b vs ++ [a, b], by rw [hcs]; simp⟩ ⟨front, by rw [hfront]; simp⟩
          have hlen := congrArg List.length hshort
          rw [hcs] at hlen
          simp at hlen
  · rintro ⟨l, ls, hl, hls, rfl⟩
    constructor
    · obtain ⟨us, u, hu⟩ := (List.eq_nil_or_concat' (l :: ls)).resolve_left (by simp)
      exact ⟨text a b us ++ u, by rw [hu]; simp⟩
    · rintro front ⟨rest, hrest⟩ ⟨q, rfl⟩
      have hblank : q ++ a :: b :: a :: b :: rest = text a b (l :: ls) ++ [a, b] := by
        rw [← hrest]
        simp
      obtain rfl := eq_nil_of_blank hab hl hls hblank
      rw [← hrest, List.append_nil]

end Blocks

/-! ## Readers that end lines at the second element -/

/-- One of the first elements dropped at the end. -/
def strip [DecidableEq α] (a : α) (l : List α) : List α :=
  if l.getLast? = some a then l.dropLast else l

section Strip

variable [DecidableEq α]

/-- The first half of an end is stripped. -/
theorem strip_append_singleton (l : List α) : strip a (l ++ [a]) = l := by
  unfold strip
  rw [if_pos List.getLast?_concat, List.dropLast_concat]

/-- Anything else is not. -/
theorem strip_of_ne {l : List α} (h : l.getLast? ≠ some a) : strip a l = l := if_neg h

/-- Stripping adds nothing. -/
theorem strip_subset (l : List α) : strip a l ⊆ l := by
  unfold strip
  split
  · exact List.dropLast_subset l
  · exact List.Subset.refl l

/-- The parts of a text have none of what they are split on. -/
theorem not_mem_of_mem_splitOn {l m : List α} (hm : m ∈ l.splitOn b) : b ∉ m := by
  -- on the length: the text is shorter behind a part
  induction hlen : l.length using Nat.strong_induction_on generalizing l with
  | _ n ih =>
  by_cases hb : b ∈ l
  · obtain ⟨front, rest, rfl, hfront⟩ := List.eq_append_cons_of_mem hb
    rw [List.splitOn_append_cons_self_of_not_mem hfront, List.mem_cons] at hm
    rcases hm with rfl | hm
    · exact hfront
    · have hshort : rest.length < n := by
        rw [← hlen, List.length_append, List.length_cons]
        omega
      exact ih _ hshort hm rfl
  · rw [List.splitOn_eq_singleton hb, List.mem_singleton] at hm
    rw [hm]
    exact hb

/-- Without an end in it, a line and the first element behind it are split as the line is. -/
theorem map_strip_splitOn (hab : a ≠ b) {l : List α} (hl : IsLine a b l) :
    ((l ++ [a]).splitOn b).map (strip a) = l.splitOn b := by
  -- on the length: the text is shorter behind a part
  induction hlen : l.length using Nat.strong_induction_on generalizing l with
  | _ n ih =>
  by_cases hb : b ∈ l
  · obtain ⟨front, rest, rfl, hfront⟩ := List.eq_append_cons_of_mem hb
    have hshort : rest.length < n := by
      rw [← hlen, List.length_append, List.length_cons]
      omega
    have hlast : front.getLast? ≠ some a := by
      intro hlast
      obtain ⟨init, rfl⟩ := List.getLast?_eq_some_iff.1 hlast
      exact hl ⟨init, rest, by simp⟩
    have hrest : IsLine a b rest := hl.of_inside ⟨front ++ [b], [], by simp⟩
    rw [List.append_assoc, List.cons_append, List.splitOn_append_cons_self,
      List.splitOn_append_cons_self, List.map_append, ih _ hshort hrest rfl,
      List.splitOn_eq_singleton hfront, List.map_singleton, strip_of_ne hlast]
  · have hb' : b ∉ l ++ [a] := by
      rw [List.mem_append, List.mem_singleton]
      rintro (h | h)
      · exact hb h
      · exact hab h.symm
    rw [List.splitOn_eq_singleton hb', List.splitOn_eq_singleton hb, List.map_singleton,
      strip_append_singleton]

/-- The lines of a text, as a reader sees them that ends lines at the second element. -/
theorem map_strip_splitOn_text (hab : a ≠ b) {ls : List (List α)} (hls : ∀ l ∈ ls, IsLine a b l)
    (last : List α) :
    ((text a b ls ++ last).splitOn b).map (strip a) =
      ls.flatMap (·.splitOn b) ++ (last.splitOn b).map (strip a) := by
  -- line by line; the first half of each end is stripped
  induction ls with
  | nil => simp
  | cons l ls ih =>
      rw [List.forall_mem_cons] at hls
      have hend : text a b (l :: ls) ++ last = (l ++ [a]) ++ b :: (text a b ls ++ last) := by simp
      rw [hend, List.splitOn_append_cons_self, List.map_append,
        map_strip_splitOn hab hls.1, ih hls.2, List.flatMap_cons, List.append_assoc]

end Strip

end KyomiConnect.Terminated
