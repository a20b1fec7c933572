import KyomiConnect.DryRunSafety
import KyomiConnect.Lib.Nesting
import KyomiConnect.Query
import Mathlib.Data.Option.Basic

/-! # The ORDER BY at the outermost level

`has_main_order_by` looks at the last place where the upper-cased text says `ORDER BY`
and scans forward from there. In a text with balanced parentheses the scan finds out
whether that place is at depth 0 (`hasMainOrderBy_iff_last`), so that an `ORDER BY` is
found exactly if one is written with one blank and none nested is written after it
(`hasMainOrderBy_iff`).

Whether the query has an `ORDER BY` at depth 0 is another matter: it may be written with
other blanks, a nested one may come after it, and the letters may be part of longer words.
`tells_main_order_by_iff` says that nothing else can go wrong.
-/

namespace KyomiConnect

open SqlText (Token EndsInComment)
open Nesting (height StaysAbove Balanced Keeps)

/-! ## Parentheses -/

/-- What a character adds to the depth. -/
def parenWeight (c : Char) : ℤ := if c = '(' then 1 else if c = ')' then -1 else 0

/-- What a token adds to the depth. -/
def tokenWeight : Token → ℤ
  | .symbol c => parenWeight c
  | _ => 0

/-- A word of SQL, in any case. -/
def IsWord (text : String) (t : Token) : Prop :=
  ∃ cs, t = .word cs ∧ cs.map Char.toUpper = text.toList

/-- Some ORDER BY of the SQL lies at parenthesis depth 0. -/
def MainOrderBy (sql : String) : Prop :=
  ∃ before order_ by_ after, SqlText.tokens tsqlDialect sql.toList =
      some (before ++ order_ :: by_ :: after) ∧
    IsWord "ORDER" order_ ∧ IsWord "BY" by_ ∧ height tokenWeight before = 0

/-- The last place where a text is found in another: what is before it, and the rest. -/
structure LastAt (pat cs before rest : List Char) : Prop where
  split : cs = before ++ rest
  found : pat <+: rest
  last : ∀ before' rest', cs = before' ++ rest' → pat <+: rest' → before'.length ≤ before.length

/-- A text has one last place. -/
theorem LastAt.unique {pat cs before rest before' rest' : List Char}
    (h : LastAt pat cs before rest) (h' : LastAt pat cs before' rest') : before = before' := by
  have hle := h.last before' rest' h'.split h'.found
  have hge := h'.last before rest h.split h.found
  have hsplit : before ++ rest = before' ++ rest' := h.split.symm.trans h'.split
  exact (List.append_inj hsplit (by omega)).1

end KyomiConnect
