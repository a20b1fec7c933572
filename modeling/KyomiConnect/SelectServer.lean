import KyomiConnect.Query
import Mathlib.Tactic.Common

/-! # A server that executes a SELECT

The code pages through a SELECT by appending ` LIMIT l OFFSET o` to its text. What
that asks for depends on the text: the appended words are a clause of the SELECT,
or they are not read at all (the text ends in a comment), or the statement is
rejected (the text ends in a clause that no LIMIT may follow). `selectAnswer` is
the answer of a server in each of these cases.
-/

namespace KyomiConnect

/-- How a server reads the words ` LIMIT l OFFSET o` after a SELECT. -/
inductive Reading where
  /-- as a clause: the rows from the `o`th on, at most `l` -/
  | clause
  /-- not at all: all rows -/
  | ignored
  /-- as a syntax error -/
  | rejected
deriving DecidableEq, Repr

/-- The rest of a text after a prefix. -/
def afterPrefix : List Char → List Char → Option (List Char)
  | [], cs => some cs
  | _ :: _, [] => none
  | p :: ps, c :: cs => if p = c then afterPrefix ps cs else none

/-- The limit and the offset of a text that is `sql` with ` LIMIT l OFFSET o`
appended. -/
def readPage (sql text : String) : Option (ℕ × ℕ) := do
  let numbers ← afterPrefix (sql.toList ++ " LIMIT ".toList) text.toList
  let offset ← afterPrefix " OFFSET ".toList (numbers.dropWhile Char.isDigit)
  return (Nat.ofDigitChars 10 (numbers.takeWhile Char.isDigit) 0, Nat.ofDigitChars 10 offset 0)

/-- The answer to a text by a server on which the SELECT `sql` has these rows; none
if the text is rejected. -/
def selectAnswer {R : Type} (sql : String) (reading : Reading) (rows : List R) (text : String) :
    Option (List R) :=
  if text = sql then some rows
  else match readPage sql text, reading with
    | some (limit, offset), .clause => some ((rows.drop offset).take limit)
    | some _, .ignored => some rows
    | some _, .rejected => none
    | none, _ => none

/-! ## Pages -/

theorem afterPrefix_append (ps cs : List Char) : afterPrefix ps (ps ++ cs) = some cs := by
  induction ps with
  | nil => rfl
  | cons p ps ih =>
      rw [List.cons_append, afterPrefix, if_pos rfl]
      exact ih

/-- The numbers of a page are read as they were written. -/
theorem readPage_page (sql : String) (limit offset : ℕ) :
    readPage sql (sql ++ " LIMIT " ++ toString limit ++ " OFFSET " ++ toString offset) =
      some (limit, offset) := by
  have htext : (sql ++ " LIMIT " ++ toString limit ++ " OFFSET " ++ toString offset).toList =
      (sql.toList ++ " LIMIT ".toList) ++
        (Nat.toDigits 10 limit ++ (" OFFSET ".toList ++ Nat.toDigits 10 offset)) := by
    simp [String.toList_append]
  have hdigits : ∀ c ∈ Nat.toDigits 10 limit, c.isDigit = true := fun c hc =>
    Nat.isDigit_of_mem_toDigits (by decide) (by decide) hc
  have hnumbers : (Nat.toDigits 10 limit ++ (" OFFSET ".toList ++ Nat.toDigits 10 offset)).dropWhile
      Char.isDigit = " OFFSET ".toList ++ Nat.toDigits 10 offset := by
    rw [List.dropWhile_append_of_pos hdigits]
    rfl
  have hlimit : (Nat.toDigits 10 limit ++ (" OFFSET ".toList ++ Nat.toDigits 10 offset)).takeWhile
      Char.isDigit = Nat.toDigits 10 limit := by
    rw [List.takeWhile_append_of_pos hdigits]
    exact List.append_nil _
  simp only [readPage, htext, afterPrefix_append, Option.bind_eq_bind, Option.bind_some, hnumbers,
    hlimit, Nat.ofDigitChars_ten_toDigits]
  rfl

/-- A page is not the statement without it. -/
theorem page_ne (sql : String) (limit offset : ℕ) :
    sql ++ " LIMIT " ++ toString limit ++ " OFFSET " ++ toString offset ≠ sql := by
  intro heq
  have hlen := congrArg (fun s => s.toList.length) heq
  simp [String.toList_append] at hlen

section Answers

variable {R : Type} (sql : String) (rows : List R)

theorem selectAnswer_self (reading : Reading) : selectAnswer sql reading rows sql = some rows :=
  if_pos rfl

theorem selectAnswer_page (reading : Reading) (limit offset : ℕ) :
    selectAnswer sql reading rows
        (sql ++ " LIMIT " ++ toString limit ++ " OFFSET " ++ toString offset) =
      match reading with
      | .clause => some ((rows.drop offset).take limit)
      | .ignored => some rows
      | .rejected => none := by
  unfold selectAnswer
  rw [if_neg (page_ne sql limit offset), readPage_page]
  cases reading <;> rfl

end Answers

end KyomiConnect
