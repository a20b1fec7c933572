import KyomiConnect.Catalog
import KyomiConnect.Query

/-! # The texts of the metadata queries

Every metadata query of the catalog discovery is a SELECT that ends in an ORDER BY of
one column. So nothing is stripped from its text, it is paginated as a SELECT is, and
the T-SQL pagination finds its ORDER BY. A name in it is all that may keep it from being
paginated: `prepareQuery` looks for LIMIT anywhere in the text, and `prepareTsql` for
OFFSET and TOP.
-/

namespace KyomiConnect

/-! ## Texts that are not stripped -/

/-- A text that neither begins nor ends with a blank, nor ends with a semicolon. -/
theorem stripSql_eq_self {sql : String} {first last : Char} {cs ds : List Char}
    (hcs : sql.toList = first :: cs) (hds : sql.toList = ds ++ [last])
    (hfirst : Text.isWhitespace first = false) (hlast : Text.isWhitespace last = false)
    (hsemi : last ≠ ';') : stripSql sql = sql := by
  have hfront : sql.toList.dropWhile Text.isWhitespace = sql.toList := by
    rw [hcs, List.dropWhile_cons_of_neg (by simp [hfirst])]
  have hend (p : Char → Bool) (hp : p last = false) :
      Text.dropEndWhile p sql.toList = sql.toList := by
    rw [hds]
    exact Text.dropEndWhile_append_singleton hp _
  have htrim : Text.trim sql = sql := by
    unfold Text.trim
    rw [hfront, hend _ hlast, String.ofList_toList]
  have hsemis : Text.trimEndMatches ';' sql = sql := by
    unfold Text.trimEndMatches
    rw [hend _ (by simpa using hsemi), String.ofList_toList]
  unfold stripSql
  rw [htrim, hsemis, htrim]

/-- The last occurrence in a text is the last one in its end, if there is one there. -/
theorem fromLast_append {pat ys rest : List Char} (h : fromLast pat ys = some rest)
    (xs : List Char) : fromLast pat (xs ++ ys) = some rest := by
  -- over the text in front; the last place is behind it
  induction xs with
  | nil => exact h
  | cons x xs ih => rw [List.cons_append, fromLast, ih]

/-! ## Queries with an ORDER BY -/

/-- The columns that the metadata queries order by. -/
def orderKeys : List String :=
  ["schema_name", "SCHEMA_NAME", "table_name", "TABLE_NAME", "ordinal_position",
    "ORDINAL_POSITION", "position", "name"]

/-- A SELECT that ends in an ORDER BY of one of the columns. -/
structure Ordered (sql : String) : Prop where
  select : "SELECT ".toList <+: sql.toList
  orderBy : ∃ key ∈ orderKeys, ("ORDER BY " ++ key).toList <:+ sql.toList

/-- A text that begins with SELECT still does with more behind it. -/
theorem select_append {s : String} (h : "SELECT ".toList <+: s.toList) (t : String) :
    "SELECT ".toList <+: (s ++ t).toList := by
  rw [String.toList_append]
  exact h.trans (List.prefix_append _ _)

/-- A query with an order at its end. -/
theorem ordered_append {s t key : String} (hselect : "SELECT ".toList <+: s.toList)
    (hkey : key ∈ orderKeys) (horder : ("ORDER BY " ++ key).toList <:+ t.toList) :
    Ordered (s ++ t) where
  select := select_append hselect t
  orderBy := by
    refine ⟨key, hkey, horder.trans ?_⟩
    rw [String.toList_append]
    exact List.suffix_append _ _

/-- Every key is a name: it ends neither in a blank nor in a semicolon, and behind the
ORDER BY no parenthesis is closed. -/
theorem orderKeys_spec : ∀ key ∈ orderKeys, ∃ cs last, ("ORDER BY " ++ key).toList = cs ++ [last] ∧
    Text.isWhitespace last = false ∧ last ≠ ';' ∧
    ∃ rest, fromLast "ORDER BY".toList (("ORDER BY " ++ key).toList.flatMap Text.upperChar) =
      some rest ∧ staysOpen 0 rest = true := by
  intro key hkey
  have hkeys : key = "schema_name" ∨ key = "SCHEMA_NAME" ∨ key = "table_name" ∨
      key = "TABLE_NAME" ∨ key = "ordinal_position" ∨ key = "ORDINAL_POSITION" ∨
      key = "position" ∨ key = "name" := by simpa [orderKeys] using hkey
  refine ⟨("ORDER BY " ++ key).toList.dropLast, ("ORDER BY " ++ key).toList.getLastD 'x', ?_⟩
  rcases hkeys with rfl | rfl | rfl | rfl | rfl | rfl | rfl | rfl
  all_goals exact ⟨by decide, by decide, by decide, _, rfl, by decide⟩

section Ordered

variable {sql : String} (h : Ordered sql)
include h

/-- There is nothing to strip. -/
theorem stripSql_ordered : stripSql sql = sql := by
  rcases h with ⟨⟨rest, hselect⟩, key, hkey, ⟨before, horder⟩⟩
  rcases orderKeys_spec key hkey with ⟨cs, last, hlast, hblank, hsemi, _⟩
  have hfirst : sql.toList = 'S' :: ("ELECT ".toList ++ rest) := hselect.symm
  rw [hlast, ← List.append_assoc] at horder
  exact stripSql_eq_self hfirst horder.symm (by decide) hblank hsemi

/-- It is taken for a query. -/
theorem isSelectText_ordered : isSelectText (Text.toUppercase sql) = true := by
  rcases h.select with ⟨rest, hselect⟩
  have hupper : "SELECT".toList <+: "SELECT ".toList.flatMap Text.upperChar := by decide
  have hstarts : Text.startsWith (Text.toUppercase sql) "SELECT" = true := by
    unfold Text.startsWith
    rw [List.isPrefixOf_iff_prefix, Text.toList_toUppercase, ← hselect, List.flatMap_append]
    exact hupper.trans (List.prefix_append _ _)
  unfold isSelectText
  rw [hstarts, Bool.true_or]

/-- Its order is found. -/
theorem hasMainOrderBy_ordered : hasMainOrderBy sql = true := by
  rcases h.orderBy with ⟨key, hkey, ⟨before, horder⟩⟩
  rcases orderKeys_spec key hkey with ⟨_, _, _, _, _, rest, hrest, hopen⟩
  have hlast : fromLast "ORDER BY".toList (Text.toUppercase sql).toList = some rest := by
    rw [Text.toList_toUppercase, ← horder, List.flatMap_append]
    exact fromLast_append hrest _
  unfold hasMainOrderBy
  rw [hlast]
  exact hopen

/-- The text has a LIMIT of its own, or seems to. -/
theorem prepareQuery_ordered : (prepareQuery sql none none).sql =
    if Text.contains (Text.toUppercase sql) "LIMIT" then sql else withLimitOffset sql 1000 0 := by
  unfold prepareQuery
  simp only [stripSql_ordered h, isSelectText_ordered h, Bool.true_and, Option.getD_none]
  cases Text.contains (Text.toUppercase sql) "LIMIT" <;> rfl

/-- `{sql} OFFSET {offset} ROWS FETCH NEXT {limit} ROWS ONLY` -/
theorem prepareTsql_ordered : prepareTsql sql 1000 0 =
    if Text.contains (Text.toUppercase sql) "OFFSET" ||
        Text.contains (Text.toUppercase sql) "TOP" then
      sql
    else sql ++ " OFFSET " ++ toString (0 : UInt32) ++ " ROWS FETCH NEXT " ++
      toString (1000 : UInt32) ++ " ROWS ONLY" := by
  unfold prepareTsql applyTsqlPagination
  simp only [stripSql_ordered h, isSelectText_ordered h, hasMainOrderBy_ordered h, Bool.true_and,
    if_true]
  cases Text.contains (Text.toUppercase sql) "OFFSET" <;>
    cases Text.contains (Text.toUppercase sql) "TOP" <;> rfl

end Ordered

/-! ## The discovery functions -/

/-- The functions of the catalog discovery. -/
inductive Discovery where
  | containers
  | tables (container : String)
  | columns (container tableName : String)
deriving DecidableEq, Repr

namespace Discovery

/-- The metadata query for a database type. -/
def sql (dbType : String) : Discovery → Option String
  | .containers => containersSql dbType
  | .tables container => tablesSql dbType container
  | .columns container tableName => columnsSql dbType container tableName

/-- How many columns the query selects. -/
def width : Discovery → ℕ
  | .containers => 1
  | .tables _ => 2
  | .columns _ _ => 3

/-- The query for the containers has an order, in every dialect. -/
theorem ordered_containersSql {dbType sql : String} (h : containersSql dbType = some sql) :
    Ordered sql := by
  unfold containersSql at h
  split at h <;> cases h
  · exact ordered_append (select_append (by decide) _) (by decide : "schema_name" ∈ orderKeys)
      (by decide)
  · exact ordered_append (select_append (select_append (select_append (by decide) _) _) _)
      (by decide : "schema_name" ∈ orderKeys) (by decide)
  · exact ordered_append (select_append (by decide) _) (by decide : "SCHEMA_NAME" ∈ orderKeys)
      (by decide)
  · exact ordered_append (select_append (by decide) _) (by decide : "name" ∈ orderKeys) (by decide)
  · exact ordered_append (select_append (by decide) _) (by decide : "SCHEMA_NAME" ∈ orderKeys)
      (by decide)
  · exact ordered_append (select_append (by decide) _) (by decide : "SCHEMA_NAME" ∈ orderKeys)
      (by decide)

/-- The query for the tables has an order, in every dialect. -/
theorem ordered_tablesSql {dbType container sql : String}
    (h : tablesSql dbType container = some sql) : Ordered sql := by
  unfold tablesSql at h
  dsimp only at h
  have hselect {s t u : String} (hs : "SELECT ".toList <+: s.toList) :
      "SELECT ".toList <+: (s ++ t ++ u).toList := select_append (select_append hs t) u
  split at h <;> cases h
  · exact ordered_append (hselect (by decide)) (by decide : "table_name" ∈ orderKeys) (by decide)
  · exact ordered_append (hselect (by decide)) (by decide : "table_name" ∈ orderKeys) (by decide)
  · exact ordered_append (hselect (by decide)) (by decide : "TABLE_NAME" ∈ orderKeys) (by decide)
  · exact ordered_append (hselect (by decide)) (by decide : "name" ∈ orderKeys) (by decide)
  · exact ordered_append (hselect (by decide)) (by decide : "TABLE_NAME" ∈ orderKeys) (by decide)
  · exact ordered_append (hselect (by decide)) (by decide : "TABLE_NAME" ∈ orderKeys) (by decide)

/-- The query for the columns has an order, in every dialect. -/
theorem ordered_columnsSql {dbType container tableName sql : String}
    (h : columnsSql dbType container tableName = some sql) : Ordered sql := by
  unfold columnsSql at h
  dsimp only at h
  have hselect {s t u v w x y : String} (hs : "SELECT ".toList <+: s.toList) :
      "SELECT ".toList <+: (s ++ t ++ u ++ v ++ w ++ x ++ y).toList :=
    select_append (select_append (select_append (select_append (select_append (select_append hs
      t) u) v) w) x) y
  split at h <;> cases h
  · exact ordered_append (hselect (by decide))
      (by decide : "ordinal_position" ∈ orderKeys) (by decide)
  · exact ordered_append (hselect (by decide))
      (by decide : "ordinal_position" ∈ orderKeys) (by decide)
  · exact ordered_append (hselect (by decide))
      (by decide : "ORDINAL_POSITION" ∈ orderKeys) (by decide)
  · exact ordered_append (hselect (by decide)) (by decide : "position" ∈ orderKeys) (by decide)
  · exact ordered_append (hselect (by decide))
      (by decide : "ORDINAL_POSITION" ∈ orderKeys) (by decide)
  · exact ordered_append (hselect (by decide))
      (by decide : "ORDINAL_POSITION" ∈ orderKeys) (by decide)

/-- Every metadata query is a SELECT that ends in an ORDER BY. -/
theorem ordered_sql {d : Discovery} {dbType sql : String} (h : d.sql dbType = some sql) :
    Ordered sql := by
  cases d with
  | containers => exact ordered_containersSql h
  | tables container => exact ordered_tablesSql h
  | columns container tableName => exact ordered_columnsSql h

end Discovery

end KyomiConnect
