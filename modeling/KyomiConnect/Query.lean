import KyomiConnect.Text

/-! # Query preparation

The SQL text a provider sends for a query: `prepare_query` (PostgreSQL, MySQL,
Redshift, ClickHouse, Snowflake), `prepare_query_databricks`, and the T-SQL
pagination of SQL Server and Synapse. The arithmetic on `u32` wraps, as it does
in the release build.
-/

namespace KyomiConnect

/-- Surrounding blanks and trailing semicolons removed. -/
def stripSql (sql : String) : String :=
  Text.trim (Text.trimEndMatches ';' (Text.trim sql))

/-- Whether the upper-cased SQL starts as a SELECT or WITH does. -/
def isSelectText (sqlUpper : String) : Bool :=
  Text.startsWith sqlUpper "SELECT" || Text.startsWith sqlUpper "WITH"

/-- `{sql} LIMIT {limit} OFFSET {offset}` -/
def withLimitOffset (sql : String) (limit offset : UInt32) : String :=
  sql ++ " LIMIT " ++ toString limit ++ " OFFSET " ++ toString offset

/-- Result of query preparation: the SQL with pagination applied, the SQL
without it, and whether it is a SELECT/WITH. -/
structure PreparedQuery where
  sql : String
  sqlStripped : String
  isSelect : Bool
deriving DecidableEq, Repr

/-- Strip trailing semicolons, detect SELECT/WITH, and apply LIMIT/OFFSET with a
default of 1000 rows unless the text has a LIMIT. -/
def prepareQuery (sql : String) (limit offset : Option UInt32) : PreparedQuery :=
  let sqlStripped := stripSql sql
  let sqlUpper := Text.toUppercase sqlStripped
  let isSelect := isSelectText sqlUpper
  let effectiveLimit := limit.getD 1000
  let effectiveOffset := offset.getD 0
  { sql :=
      -- a name with LIMIT in it counts as a limit
      if isSelect && !Text.contains sqlUpper "LIMIT" then
        withLimitOffset sqlStripped effectiveLimit effectiveOffset
      else sqlStripped
    sqlStripped
    isSelect }

/-- Result of Databricks query preparation. -/
structure PreparedQueryDatabricks where
  sql : String
  sqlStripped : String
  isSelect : Bool
  isMetadataCommand : Bool
deriving DecidableEq, Repr

/-- Databricks: LIMIT only when one is given, on any statement. -/
def prepareQueryDatabricks (sql : String) (limit offset : Option UInt32) :
    PreparedQueryDatabricks :=
  let sqlStripped := stripSql sql
  let sqlUpper := Text.toUppercase sqlStripped
  { sql :=
      match limit with
      | some lim =>
          -- a limit is appended to any statement, a SELECT or not
          if !Text.contains sqlUpper "LIMIT" then
            withLimitOffset sqlStripped lim (offset.getD 0)
          else sqlStripped
      | none => sqlStripped
    sqlStripped
    isSelect := isSelectText sqlUpper
    isMetadataCommand := Text.startsWith sqlUpper "SHOW " ||
      Text.startsWith sqlUpper "DESCRIBE " || Text.startsWith sqlUpper "DESC " }

/-! ## T-SQL -/

/-- The text from the last occurrence of `pat` on. -/
def fromLast (pat : List Char) : List Char → Option (List Char)
  | [] => if pat = [] then some [] else none
  | c :: cs =>
      match fromLast pat cs with
      -- there is one further on
      | some rest => some rest
      | none => if pat.isPrefixOf (c :: cs) then some (c :: cs) else none

/-- Whether no parenthesis closes that was not opened in the text. -/
def staysOpen : Int → List Char → Bool
  | _, [] => true
  | depth, '(' :: cs => staysOpen (depth + 1) cs
  | depth, ')' :: cs => if depth - 1 < 0 then false else staysOpen (depth - 1) cs
  | depth, _ :: cs => staysOpen depth cs

/-- Check if a query has an `ORDER BY` clause at the outermost level. -/
def hasMainOrderBy (sql : String) : Bool :=
  match fromLast "ORDER BY".toList (Text.toUppercase sql).toList with
  | none => false
  -- it is nested if a parenthesis closes behind it that was opened before
  | some afterOrderBy => staysOpen 0 afterOrderBy

/-- `{sql} OFFSET {offset} ROWS FETCH NEXT {limit} ROWS ONLY` -/
def withOffsetFetch (sql : String) (limit offset : UInt32) : String :=
  sql ++ " OFFSET " ++ toString offset ++ " ROWS FETCH NEXT " ++ toString limit ++ " ROWS ONLY"

/-- Apply T-SQL pagination: OFFSET-FETCH after a main-level ORDER BY, otherwise
a ROW_NUMBER wrapper. -/
def applyTsqlPagination (sql : String) (limit offset : UInt32) : String :=
  if hasMainOrderBy sql then
    withOffsetFetch sql limit offset
  else
    -- the sum is one of 32 bits
    let last := offset + limit
    "SELECT * FROM (" ++
      "SELECT *, ROW_NUMBER() OVER (ORDER BY (SELECT NULL)) AS _row_num " ++
      "FROM (" ++ sql ++ ") AS _inner" ++
    ") AS _outer " ++
    "WHERE _row_num > " ++ toString offset ++ " AND _row_num <= " ++ toString last

/-- The T-SQL statement for a query: paginated if it is a SELECT/WITH without an
OFFSET or TOP of its own. -/
def prepareTsql (sql : String) (limit offset : UInt32) : String :=
  let sqlStripped := stripSql sql
  let sqlUpper := Text.toUppercase sqlStripped
  if isSelectText sqlUpper && !Text.contains sqlUpper "OFFSET" && !Text.contains sqlUpper "TOP" then
    applyTsqlPagination sqlStripped limit offset
  else sqlStripped

example : (prepareQuery "  SELECT 1 ;  " none none).sql = "SELECT 1 LIMIT 1000 OFFSET 0" := by
  decide
example : hasMainOrderBy "SELECT * FROM (SELECT * FROM t ORDER BY id) sub" = false := by decide

end KyomiConnect
