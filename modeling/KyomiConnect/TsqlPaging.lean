import KyomiConnect.OrderByDepth
import KyomiConnect.SelectServer

/-! # T-SQL pagination

`apply_tsql_pagination` asks for a page by OFFSET-FETCH where `has_main_order_by` finds an
`ORDER BY`, and by a window over `_row_num` where it does not; `selects_window_iff` says
when the page is the one that is meant.
-/

namespace KyomiConnect

/-! ## Windows -/

/-- The rows of a query numbered from 1, and of these the ones numbered from `offset + 1`
to `last`. -/
def rowNumberWindow (sql : String) (offset last : UInt32) : String :=
  "SELECT * FROM (" ++
    "SELECT *, ROW_NUMBER() OVER (ORDER BY (SELECT NULL)) AS _row_num " ++
    "FROM (" ++ sql ++ ") AS _inner" ++
  ") AS _outer " ++
  "WHERE _row_num > " ++ toString offset ++ " AND _row_num <= " ++ toString last

/-- The offset and the limit of a text that is `sql` with OFFSET-FETCH appended. -/
def readOffsetFetch (sql text : String) : Option (ℕ × ℕ) := do
  let numbers ← afterPrefix (sql.toList ++ " OFFSET ".toList) text.toList
  let limit ← afterPrefix " ROWS FETCH NEXT ".toList (numbers.dropWhile Char.isDigit)
  guard (limit.dropWhile Char.isDigit = " ROWS ONLY".toList)
  return (Nat.ofDigitChars 10 (numbers.takeWhile Char.isDigit) 0,
    Nat.ofDigitChars 10 (limit.takeWhile Char.isDigit) 0)

/-- What comes before and after a query in the window over its row numbers. -/
def windowBefore : List Char :=
  ("SELECT * FROM (" ++ "SELECT *, ROW_NUMBER() OVER (ORDER BY (SELECT NULL)) AS _row_num " ++
    "FROM (").toList

def windowAfter : List Char := (") AS _inner" ++ ") AS _outer " ++ "WHERE _row_num > ").toList

/-- The numbers between which a text asks for the rows of `sql`. -/
def readWindow (sql text : String) : Option (ℕ × ℕ) := do
  let numbers ← afterPrefix (windowBefore ++ sql.toList ++ windowAfter) text.toList
  let last ← afterPrefix " AND _row_num <= ".toList (numbers.dropWhile Char.isDigit)
  return (Nat.ofDigitChars 10 (numbers.takeWhile Char.isDigit) 0, Nat.ofDigitChars 10 last 0)

/-- A query on a SQL Server. -/
structure TsqlQuery (R : Type) where
  sql : String
  /-- its result, in the order in which the server numbers the rows -/
  rows : List R
  /-- how OFFSET-FETCH is read after it -/
  appended : Reading
  /-- it is accepted as a derived table -/
  derived : Bool

namespace TsqlQuery

variable {R : Type} (q : TsqlQuery R)

/-- The rows with a number above `offset` and up to `last`. -/
def numbered (offset last : ℕ) : List R :=
  ((q.rows.zipIdx 1).filter fun row => offset < row.2 ∧ row.2 ≤ last).map (·.1)

/-- The answer of the server to a text; none if it is rejected, as a FETCH of no rows is. -/
def answer (text : String) : Option (List R) :=
  match readOffsetFetch q.sql text with
  | some (offset, limit) =>
      match q.appended with
      | .clause => if limit = 0 then none else some ((q.rows.drop offset).take limit)
      | .ignored => some q.rows
      | .rejected => none
  | none =>
      match readWindow q.sql text with
      | some (offset, last) => if q.derived then some (q.numbered offset last) else none
      | none => none

/-- The statement selects the rows numbered `offset + 1` to `offset + limit`, by
OFFSET-FETCH if the query has a main-level ORDER BY and by the row numbers otherwise. -/
structure SelectsWindow (limit offset : UInt32) : Prop where
  ordered : MainOrderBy q.sql →
    applyTsqlPagination q.sql limit offset = withOffsetFetch q.sql limit offset
  unordered : ¬ MainOrderBy q.sql →
    ∃ last, applyTsqlPagination q.sql limit offset = rowNumberWindow q.sql offset last
  rows : q.answer (applyTsqlPagination q.sql limit offset) =
    some ((q.rows.drop offset.toNat).take limit.toNat)

/-- What it takes: the ORDER BY is seen; OFFSET-FETCH is read, of one row at least, or
there is nothing to cut off; the query may be a derived table, and the last number fits
into 32 bits or there are no rows behind the offset. -/
structure InReach (limit offset : UInt32) : Prop where
  told : hasMainOrderBy q.sql = true ↔ MainOrderBy q.sql
  ordered : MainOrderBy q.sql → q.appended = .clause ∧ limit ≠ 0 ∨
    q.appended = .ignored ∧ (q.rows = [] ∨ offset = 0 ∧ q.rows.length ≤ limit.toNat)
  unordered : ¬ MainOrderBy q.sql → q.derived = true ∧
    (offset.toNat + limit.toNat < 2 ^ 32 ∨ q.rows.length ≤ offset.toNat)

end TsqlQuery

/-! ## Reading the statement -/

/-- A query with an ORDER BY of its own is paged by a clause. -/
theorem applyTsqlPagination_ordered {sql : String} (h : hasMainOrderBy sql = true)
    (limit offset : UInt32) :
    applyTsqlPagination sql limit offset = withOffsetFetch sql limit offset := by
  unfold applyTsqlPagination
  rw [if_pos h]

/-- Any other query is paged by a window of row numbers. -/
theorem applyTsqlPagination_unordered {sql : String} (h : ¬ hasMainOrderBy sql = true)
    (limit offset : UInt32) :
    applyTsqlPagination sql limit offset = rowNumberWindow sql offset (offset + limit) := by
  unfold applyTsqlPagination
  rw [if_neg h]
  rfl

/-- A number in decimal digits. -/
theorem toList_toString (n : UInt32) : (toString n).toList = Nat.toDigits 10 n.toNat := by
  simp [toString]

/-- Digits in front of a text that starts with none are read off it. -/
theorem takeWhile_digits (n : ℕ) {c : Char} (hc : c.isDigit = false) (cs : List Char) :
    (Nat.toDigits 10 n ++ c :: cs).takeWhile Char.isDigit = Nat.toDigits 10 n ∧
      (Nat.toDigits 10 n ++ c :: cs).dropWhile Char.isDigit = c :: cs := by
  have hdigits : ∀ c ∈ Nat.toDigits 10 n, c.isDigit = true := by
    intro c hc
    exact Nat.isDigit_of_mem_toDigits (by decide) (by decide) hc
  rw [List.takeWhile_append_of_pos hdigits, List.dropWhile_append_of_pos hdigits]
  simp [hc]

/-- What is behind the front of a text. -/
theorem append_of_afterPrefix {ps cs rest : List Char} (h : afterPrefix ps cs = some rest) :
    cs = ps ++ rest := by
  induction ps generalizing cs with
  | nil =>
      rw [afterPrefix] at h
      exact Option.some.inj h
  | cons p ps ih =>
      cases cs with
      | nil => cases h
      | cons c cs =>
          rw [afterPrefix] at h
          split at h
          · rename_i hp
            rw [hp, List.cons_append, ← ih h]
          · cases h

/-- The clause is read back with its two numbers. -/
theorem readOffsetFetch_withOffsetFetch (sql : String) (limit offset : UInt32) :
    readOffsetFetch sql (withOffsetFetch sql limit offset) = some (offset.toNat, limit.toNat) := by
  have htext : (withOffsetFetch sql limit offset).toList = (sql.toList ++ " OFFSET ".toList) ++
      (Nat.toDigits 10 offset.toNat ++ (" ROWS FETCH NEXT ".toList ++
        (Nat.toDigits 10 limit.toNat ++ " ROWS ONLY".toList))) := by
    simp only [withOffsetFetch, String.toList_append, toList_toString, List.append_assoc]
  have hblank : ' '.isDigit = false := rfl
  have hoffset := takeWhile_digits offset.toNat hblank
    ("ROWS FETCH NEXT ".toList ++ (Nat.toDigits 10 limit.toNat ++ " ROWS ONLY".toList))
  have hlimit := takeWhile_digits limit.toNat hblank "ROWS ONLY".toList
  have hbetween : " ROWS FETCH NEXT ".toList = ' ' :: "ROWS FETCH NEXT ".toList := rfl
  have hend : " ROWS ONLY".toList = ' ' :: "ROWS ONLY".toList := rfl
  rw [← List.cons_append, ← hbetween] at hoffset
  rw [← hend] at hlimit
  simp only [readOffsetFetch, htext, afterPrefix_append, Option.bind_eq_bind, Option.bind_some,
    hoffset.1, hoffset.2, hlimit.1, hlimit.2, Nat.ofDigitChars_ten_toDigits]
  rfl

/-- A text that ends in a digit asks for nothing by OFFSET-FETCH. -/
theorem readOffsetFetch_eq_none {sql text : String} {c : Char}
    (hlast : text.toList.getLast? = some c)
    (hdigit : c.isDigit = true) : readOffsetFetch sql text = none := by
  cases hread : readOffsetFetch sql text with
  | none => rfl
  | some page =>
      exfalso
      simp only [readOffsetFetch, Option.bind_eq_bind, Option.bind_eq_some_iff] at hread
      obtain ⟨numbers, hnumbers, limit, hlimit, ⟨⟩, hguard, _⟩ := hread
      have hend : limit.dropWhile Char.isDigit = " ROWS ONLY".toList := by
        by_contra hne
        rw [guard, if_neg hne] at hguard
        cases hguard
      have hsuffix : " ROWS ONLY".toList <:+ text.toList := by
        rw [append_of_afterPrefix hnumbers, ← hend]
        calc limit.dropWhile Char.isDigit
            <:+ limit := List.dropWhile_suffix _
          _ <:+ " ROWS FETCH NEXT ".toList ++ limit := List.suffix_append _ _
          _ = numbers.dropWhile Char.isDigit := (append_of_afterPrefix hlimit).symm
          _ <:+ numbers := List.dropWhile_suffix _
          _ <:+ _ := List.suffix_append _ _
      obtain ⟨before, hbefore⟩ := hsuffix
      rw [← hbefore, List.getLast?_append] at hlast
      have hy : c = 'Y' := by simpa using hlast.symm
      rw [hy] at hdigit
      exact absurd hdigit (by decide)

/-- The window, with its two numbers at the end. -/
theorem rowNumberWindow_toList (sql : String) (offset last : UInt32) :
    (rowNumberWindow sql offset last).toList = (windowBefore ++ sql.toList ++ windowAfter) ++
      (Nat.toDigits 10 offset.toNat ++ (" AND _row_num <= ".toList ++
        Nat.toDigits 10 last.toNat)) := by
  unfold rowNumberWindow windowBefore windowAfter
  generalize "SELECT * FROM (" = outer
  generalize "SELECT *, ROW_NUMBER() OVER (ORDER BY (SELECT NULL)) AS _row_num " = numbering
  generalize "FROM (" = inner
  generalize ") AS _inner" = innerEnd
  generalize ") AS _outer " = outerEnd
  generalize "WHERE _row_num > " = above
  generalize " AND _row_num <= " = upTo
  simp only [String.toList_append, toList_toString, List.append_assoc]

/-- A window is not taken for the clause. -/
theorem readOffsetFetch_rowNumberWindow (sql sql' : String) (offset last : UInt32) :
    readOffsetFetch sql' (rowNumberWindow sql offset last) = none := by
  have hne : Nat.toDigits 10 last.toNat ≠ [] := Nat.toDigits_ne_nil
  have hlast : (rowNumberWindow sql offset last).toList.getLast? =
      some ((Nat.toDigits 10 last.toNat).getLast hne) := by
    rw [rowNumberWindow_toList, ← List.append_assoc, ← List.append_assoc, List.getLast?_append,
      List.getLast?_eq_getLast_of_ne_nil hne]
    rfl
  exact readOffsetFetch_eq_none hlast
    (Nat.isDigit_of_mem_toDigits (by decide) (by decide) (List.getLast_mem hne))

/-- The window is read back with its two numbers. -/
theorem readWindow_rowNumberWindow (sql : String) (offset last : UInt32) :
    readWindow sql (rowNumberWindow sql offset last) = some (offset.toNat, last.toNat) := by
  have hblank : ' '.isDigit = false := rfl
  have hoffset := takeWhile_digits offset.toNat hblank
    ("AND _row_num <= ".toList ++ Nat.toDigits 10 last.toNat)
  have hbetween : " AND _row_num <= ".toList = ' ' :: "AND _row_num <= ".toList := rfl
  rw [← List.cons_append, ← hbetween] at hoffset
  simp only [readWindow, rowNumberWindow_toList, afterPrefix_append, Option.bind_eq_bind,
    Option.bind_some, hoffset.1, hoffset.2, Nat.ofDigitChars_ten_toDigits]
  rfl

/-- The rows numbered from `k` on whose number is above `offset` and up to `last`. -/
theorem numbered_from {R : Type} (rows : List R) (offset last k : ℕ) :
    ((rows.zipIdx k).filter fun row => offset < row.2 ∧ row.2 ≤ last).map (·.1) =
      (rows.drop (offset + 1 - k)).take (last + 1 - max (offset + 1) k) := by
  -- row by row: the number of the first is `k`
  induction rows generalizing k with
  | nil => simp
  | cons r rows ih =>
      rw [List.zipIdx_cons]
      by_cases hbelow : offset < k
      · have hdrop : offset + 1 - k = 0 := by omega
        have hdrop' : offset + 1 - (k + 1) = 0 := by omega
        by_cases habove : k ≤ last
        · have htake : last + 1 - max (offset + 1) k =
              (last + 1 - max (offset + 1) (k + 1)) + 1 := by
            omega
          rw [List.filter_cons_of_pos (by simp [hbelow, habove]), List.map_cons, ih, hdrop, hdrop',
            htake, List.drop_zero, List.drop_zero, List.take_succ_cons]
        · have htake : last + 1 - max (offset + 1) k = 0 := by omega
          have htake' : last + 1 - max (offset + 1) (k + 1) = 0 := by omega
          rw [List.filter_cons_of_neg (by simp [habove]), ih, htake, htake', List.take_zero,
            List.take_zero]
      · have hdrop : offset + 1 - k = (offset + 1 - (k + 1)) + 1 := by omega
        have htake : max (offset + 1) k = max (offset + 1) (k + 1) := by omega
        rw [List.filter_cons_of_neg (by simp [hbelow]), ih, hdrop, htake, List.drop_succ_cons]

/-- The rows with numbers in a window are a part of the rows. -/
theorem TsqlQuery.numbered_eq {R : Type} (q : TsqlQuery R) (offset last : ℕ) :
    q.numbered offset last = (q.rows.drop offset).take (last - offset) := by
  have hmax : max (offset + 1) 1 = offset + 1 := by omega
  rw [numbered, numbered_from, hmax, Nat.add_sub_cancel, Nat.add_sub_add_right]

/-- A window and a clause are different texts. -/
theorem rowNumberWindow_ne (sql : String) (offset last limit offset' : UInt32) :
    rowNumberWindow sql offset last ≠ withOffsetFetch sql limit offset' := by
  intro heq
  have hread := readOffsetFetch_rowNumberWindow sql sql offset last
  rw [heq, readOffsetFetch_withOffsetFetch] at hread
  cases hread

/-! ## The window that is selected -/

namespace TsqlQuery

variable {R : Type} (q : TsqlQuery R)

/-- What the server answers to the clause. -/
theorem answer_withOffsetFetch (limit offset : UInt32) :
    q.answer (withOffsetFetch q.sql limit offset) =
      match q.appended with
      | .clause =>
          if limit = 0 then none else some ((q.rows.drop offset.toNat).take limit.toNat)
      | .ignored => some q.rows
      | .rejected => none := by
  have hzero : limit.toNat = 0 ↔ limit = 0 := by rw [← UInt32.toNat_zero, UInt32.toNat_inj]
  unfold answer
  rw [readOffsetFetch_withOffsetFetch]
  cases q.appended <;> simp [hzero]

/-- What the server answers to the window. -/
theorem answer_rowNumberWindow (offset last : UInt32) :
    q.answer (rowNumberWindow q.sql offset last) =
      if q.derived then some ((q.rows.drop offset.toNat).take (last.toNat - offset.toNat))
      else none := by
  unfold answer
  rw [readOffsetFetch_rowNumberWindow, readWindow_rowNumberWindow]
  simp [numbered_eq]

/-- All rows are a page exactly if nothing is cut off on either side. -/
theorem eq_page_iff (rows : List R) (offset limit : ℕ) :
    rows = (rows.drop offset).take limit ↔ rows = [] ∨ offset = 0 ∧ rows.length ≤ limit := by
  constructor
  · intro heq
    have hlength := congrArg List.length heq
    rw [List.length_take, List.length_drop] at hlength
    by_cases hempty : rows = []
    · exact .inl hempty
    · have hpos := List.length_pos_iff.2 hempty
      right
      constructor
      · omega
      · omega
  · rintro (rfl | ⟨rfl, hle⟩)
    · simp
    · rw [List.drop_zero, List.take_of_length_le hle]

/-- The sum wraps to a number below the offset, so that the window is empty. -/
theorem window_eq_page_iff (rows : List R) (offset limit : UInt32) :
    (rows.drop offset.toNat).take ((offset + limit).toNat - offset.toNat) =
        (rows.drop offset.toNat).take limit.toNat ↔
      offset.toNat + limit.toNat < 2 ^ 32 ∨ rows.length ≤ offset.toNat := by
  have hoffset := offset.toNat_lt
  have hlimit := limit.toNat_lt
  rw [UInt32.toNat_add]
  by_cases hfits : offset.toNat + limit.toNat < 2 ^ 32
  · rw [Nat.mod_eq_of_lt hfits, Nat.add_sub_cancel_left]
    exact iff_of_true rfl (.inl hfits)
  · have hwrapped : (offset.toNat + limit.toNat) % 2 ^ 32 =
        offset.toNat + limit.toNat - 2 ^ 32 := by
      rw [Nat.mod_eq_sub_mod (by omega), Nat.mod_eq_of_lt (by omega)]
    have hbelow : offset.toNat + limit.toNat - 2 ^ 32 - offset.toNat = 0 := by omega
    rw [hwrapped, hbelow, List.take_zero]
    constructor
    · intro hempty
      right
      have hlength := congrArg List.length hempty
      rw [List.length_nil, List.length_take, List.length_drop] at hlength
      omega
    · rintro (hsum | hshort)
      · exact absurd hsum hfits
      · rw [List.drop_of_length_le hshort, List.take_nil]

/-- The requested window is selected exactly if it is in reach. -/
theorem selects_window_iff (limit offset : UInt32) :
    q.SelectsWindow limit offset ↔ q.InReach limit offset := by
  by_cases hseen : hasMainOrderBy q.sql = true
  · have htext := applyTsqlPagination_ordered hseen limit offset
    have hanswer := q.answer_withOffsetFetch limit offset
    constructor
    · rintro ⟨_, hunordered, hrows⟩
      have hmain : MainOrderBy q.sql := by
        by_contra hmain
        obtain ⟨last, hwindow⟩ := hunordered hmain
        exact rowNumberWindow_ne _ _ _ _ _ (hwindow.symm.trans htext)
      refine ⟨iff_of_true hseen hmain, fun _ => ?_, fun hnot => absurd hmain hnot⟩
      rw [htext, hanswer] at hrows
      cases happended : q.appended with
      | clause =>
          simp only [happended] at hrows
          left
          refine ⟨rfl, ?_⟩
          intro hzero
          rw [if_pos hzero] at hrows
          cases hrows
      | ignored =>
          simp only [happended, Option.some.injEq] at hrows
          rw [eq_page_iff, ← UInt32.toNat_zero, UInt32.toNat_inj] at hrows
          exact .inr ⟨rfl, hrows⟩
      | rejected =>
          simp only [happended] at hrows
          cases hrows
    · rintro ⟨htold, hordered, _⟩
      have hmain := htold.1 hseen
      refine ⟨fun _ => htext, fun hnot => absurd hmain hnot, ?_⟩
      rw [htext, hanswer]
      rcases hordered hmain with ⟨happended, hpos⟩ | ⟨happended, hwhole⟩
      · simp only [happended, if_neg hpos]
      · simp only [happended, Option.some.injEq]
        rw [eq_page_iff, ← UInt32.toNat_zero, UInt32.toNat_inj]
        exact hwhole
  · have htext := applyTsqlPagination_unordered hseen limit offset
    have hanswer := q.answer_rowNumberWindow offset (offset + limit)
    constructor
    · rintro ⟨hordered, _, hrows⟩
      have hmain : ¬ MainOrderBy q.sql := by
        intro hmain
        exact rowNumberWindow_ne _ _ _ _ _ (htext.symm.trans (hordered hmain))
      refine ⟨iff_of_false hseen hmain, fun hnot => absurd hnot hmain, fun _ => ?_⟩
      rw [htext, hanswer] at hrows
      cases hderived : q.derived with
      | false =>
          simp only [hderived, Bool.false_eq_true, if_false] at hrows
          cases hrows
      | true =>
          simp only [hderived, if_true, Option.some.injEq] at hrows
          exact ⟨rfl, (window_eq_page_iff q.rows offset limit).1 hrows⟩
    · rintro ⟨htold, _, hunordered⟩
      have hmain : ¬ MainOrderBy q.sql := fun hmain => hseen (htold.2 hmain)
      obtain ⟨hderived, hreach⟩ := hunordered hmain
      refine ⟨fun hnot => absurd hnot hmain, fun _ => ⟨_, htext⟩, ?_⟩
      rw [htext, hanswer, if_pos hderived, (window_eq_page_iff q.rows offset limit).2 hreach]

/-- Two rows of which the second is asked for, with the largest limit there is. -/
def twoRows : TsqlQuery ℕ where
  sql := "SELECT a FROM t"
  rows := [1, 2]
  appended := .rejected
  derived := true

/-- The end of the window is a number of 32 bits. -/
theorem window_end_wraps :
    ¬ ∀ limit offset : UInt32, twoRows.SelectsWindow limit offset := by
  intro hall
  have hrows := (hall 4294967295 1).rows
  have hseen : ¬ hasMainOrderBy twoRows.sql = true := by decide
  rw [applyTsqlPagination_unordered hseen, answer_rowNumberWindow] at hrows
  exact absurd hrows (by decide)

end TsqlQuery

end KyomiConnect
