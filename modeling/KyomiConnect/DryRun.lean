import KyomiConnect.Http
import KyomiConnect.Sqlx
import KyomiConnect.Tds

/-! # Dry runs

`dry_run` of PostgreSQL, Redshift and SQL Server: the SQL is put behind an EXPLAIN,
or between SET NOEXEC ON and SET NOEXEC OFF, and the text is sent as one statement.
The answer tells whether the SQL is valid, and where the error is.

An error's position is looked for in its text. The line and column of a position
are counted in the SQL up to there, which panics if the position is not one of a
character: the functions are `none` then.
-/

namespace KyomiConnect

variable {σ : Type}

/-! ## Positions -/

/-- What the code's regular expressions capture: the first group of the first
match. -/
structure Captures where
  /-- `(?i)Line\s+(\d+)` -/
  tsqlLine : String → Option String
  /-- `(?i)LINE\s+(\d+):` -/
  redshiftLine : String → Option String
  /-- `(?i)Position:\s*(\d+)` -/
  redshiftPosition : String → Option String

/-- Captures that find nothing. -/
def Captures.none : Captures where
  tsqlLine _ := .none
  redshiftLine _ := .none
  redshiftPosition _ := .none

/-- `str::parse` of an unsigned integer type with this many values. -/
def parseUnsigned (size : ℕ) (cs : List Char) : Option ℕ := (parseDigits cs).filter (· < size)

/-- The rest of a text after the first occurrence of `pat`. -/
def afterFirst (pat : List Char) : List Char → Option (List Char)
  | [] => if pat = [] then some [] else none
  | c :: cs =>
      if pat.isPrefixOf (c :: cs) then some ((c :: cs).drop pat.length) else afterFirst pat cs

/-- Extract a character position from a PostgreSQL error message. -/
def extractCharacterPosition (msg : String) : Option ℕ :=
  (afterFirst "at character ".toList msg.toList).bind fun rest =>
    parseUnsigned UInt64.size (rest.takeWhile Char.isDigit)

example : extractCharacterPosition "syntax error at character 42" = some 42 := by decide

/-- Line and column of an error, if they are known. -/
abbrev Position := Option UInt32 × Option UInt32

/-- The number of bytes after the last line break. -/
def bytesAfterBreak (cs : List Char) : ℕ :=
  Text.byteLen (cs.reverse.takeWhile (· ≠ '\n'))

/-- Convert a character position (1-indexed) to a line and a column; none if it
panics. -/
def charPositionToLineCol (sql : String) (charPos : ℕ) : Option Position :=
  if charPos = 0 ∨ Text.byteLen sql.toList < charPos then some (none, none)
  else
    (Text.splitAtByte sql.toList (charPos - 1)).map fun (before, _) =>
      (some (UInt32.ofNat (before.count '\n') + 1),
        some (UInt32.ofNat (bytesAfterBreak before + 1)))

example : charPositionToLineCol "SELECT\n  x" 10 = some (some 2, some 3) := by decide

/-- Parse PostgreSQL error for line/column position. -/
def parsePgErrorPosition (e : SqlxError) (sql : String) : Option Position :=
  match e.database with
  | none => some (none, none)
  | some msg =>
      match (extractCharacterPosition msg).or (extractCharacterPosition e.message) with
      | some pos => charPositionToLineCol sql pos
      | none => some (none, none)

/-- Parse Redshift error for line/column position. -/
def parseRedshiftErrorPosition (captures : Captures) (e : SqlxError) (sql : String) :
    Option Position :=
  let line := (captures.redshiftLine e.message).bind fun s => parseUnsigned UInt32.size s.toList
  let pos := (captures.redshiftPosition e.message).bind fun s => parseUnsigned UInt64.size s.toList
  match line, pos, extractCharacterPosition e.message with
  | some line, _, _ => some (some (UInt32.ofNat line), none)
  | none, some pos, _ => charPositionToLineCol sql pos
  | none, none, some pos => charPositionToLineCol sql pos
  | none, none, none => some (none, none)

/-- Parse a T-SQL error message for a line number. -/
def parseTsqlErrorLine (captures : Captures) (msg : String) : Option UInt32 :=
  ((captures.tsqlLine msg).bind fun s => parseUnsigned UInt32.size s.toList).map UInt32.ofNat

/-! ## The dry runs -/

def dryRunTimedOut : DryRunResult :=
  .failure ("Dry run timed out after " ++ toString DATASOURCE_TIMEOUT_DRY_RUN_SECS ++ "s") none none

/-- `EXPLAIN {sql}` -/
def explainSql (sql : String) : String := "EXPLAIN " ++ sql

/-- The dry run of a sqlx provider. `fetchAll` is the pool, `position` reads the
position of an error. -/
def explainDryRun (fetchAll : String → StateM σ SqlxAnswer)
    (position : SqlxError → String → Option Position) (sql : String) :
    StateM σ (Option DryRunResult) := do
  match ← fetchAll (explainSql sql) with
  | .rows _ => return some (.success "Query valid")
  | .error e => return (position e sql).map fun (line, column) => .failure e.message line column
  | .timedOut => return some dryRunTimedOut

/-- `PostgresProvider::dry_run`; `none` if it panics. -/
def PostgresProvider.dryRun (fetchAll : String → StateM σ SqlxAnswer) (sql : String) :
    StateM σ (Option DryRunResult) :=
  explainDryRun fetchAll parsePgErrorPosition sql

/-- `RedshiftProvider::dry_run`; `none` if it panics. -/
def RedshiftProvider.dryRun (captures : Captures) (fetchAll : String → StateM σ SqlxAnswer)
    (sql : String) : StateM σ (Option DryRunResult) :=
  explainDryRun fetchAll (parseRedshiftErrorPosition captures) sql

/-- `SET NOEXEC ON; {sql}; SET NOEXEC OFF;` -/
def showplanSql (sql : String) : String := "SET NOEXEC ON; " ++ sql ++ "; SET NOEXEC OFF;"

/-- `SqlServerProvider::dry_run`. `simpleQuery` is the client. -/
def SqlServerProvider.dryRun (captures : Captures) (simpleQuery : String → StateM σ TdsAnswer)
    (sql : String) : StateM σ DryRunResult := do
  match ← simpleQuery (showplanSql sql) with
  | .rows _ => return .success "Query valid"
  | .queryError e | .collectionError e => return .failure e (parseTsqlErrorLine captures e) none
  | .timedOut => return dryRunTimedOut

/-- A dry run sends its text, whatever the answer. -/
theorem explainDryRun_state (fetchAll : String → StateM σ SqlxAnswer)
    (position : SqlxError → String → Option Position) (sql : String) (s : σ) :
    (explainDryRun fetchAll position sql s).2 = (fetchAll (explainSql sql) s).2 := by
  unfold explainDryRun
  rw [step_bind]
  cases (fetchAll (explainSql sql) s).1 <;> rfl

theorem SqlServerProvider.dryRun_state (captures : Captures)
    (simpleQuery : String → StateM σ TdsAnswer) (sql : String) (s : σ) :
    (SqlServerProvider.dryRun captures simpleQuery sql s).2 =
      (simpleQuery (showplanSql sql) s).2 := by
  unfold SqlServerProvider.dryRun
  rw [step_bind]
  cases (simpleQuery (showplanSql sql) s).1 <;> rfl

end KyomiConnect
