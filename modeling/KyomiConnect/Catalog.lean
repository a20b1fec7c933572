import KyomiConnect.Provider
import KyomiConnect.Text

/-! # Catalog discovery

`discover_catalog`: containers, their tables and their columns, read with the
metadata queries of the database type through the provider's `execute_query`.

A handler is a `Handler`: it acts on the provider's state and ends with a value,
with an error text (`anyhow`), or with a panic. The only panic is indexing a
column a record batch does not have.
-/

namespace KyomiConnect

/-- A computation that ends with a value, an error text, or a panic (`none`). -/
abbrev Handler (σ α : Type) := ExceptT String (StateT σ Option) α

/-- Call a provider. -/
def Handler.call {σ α : Type} (x : StateM σ α) : Handler σ α :=
  ExceptT.lift fun s => some (x.run s)

def Handler.panic {σ α : Type} : Handler σ α := ExceptT.mk fun _ => none

/-- A provider's error under a context. -/
def Handler.ofExcept {σ α : Type} (context : String) : Except Error α → Handler σ α
  | .ok a => pure a
  | .error e => throw (context ++ e.toString)

/-- The computation ends without a panic. -/
def Handler.Returns {σ α : Type} (x : Handler σ α) : Prop :=
  ∀ s, ∃ outcome s', (ExceptT.run x).run s = some (outcome, s')

namespace Handler

variable {σ α β : Type}

theorem returns_pure (a : α) : Returns (pure a : Handler σ α) := fun s => ⟨.ok a, s, rfl⟩

theorem returns_throw (e : String) : Returns (throw e : Handler σ α) := fun s => ⟨.error e, s, rfl⟩

theorem returns_call (x : StateM σ α) : Returns (call x) :=
  fun s => ⟨.ok (x.run s).1, (x.run s).2, rfl⟩

theorem returns_ofExcept (context : String) (x : Except Error α) :
    Returns (ofExcept context x : Handler σ α) := by
  cases x with
  | ok a => exact returns_pure a
  | error e => exact returns_throw _

theorem Returns.bind {x : Handler σ α} {f : α → Handler σ β} (hx : Returns x)
    (hf : ∀ a, Returns (f a)) : Returns (x >>= f) := by
  intro s
  obtain ⟨outcome, s', hrun⟩ := hx s
  cases outcome with
  | error e =>
      refine ⟨.error e, s', ?_⟩
      simp [ExceptT.run_bind, hrun]
  | ok a =>
      obtain ⟨outcome', s'', hrun'⟩ := hf a s'
      refine ⟨outcome', s'', ?_⟩
      simp [ExceptT.run_bind, hrun, hrun']

end Handler

/-! ## Reading record batches -/

/-- The strings of a `StringArray`, `none` where it is null. Other arrays are
not string arrays. -/
def ArrowArray.strings (a : ArrowArray) : Option (List (Option String)) :=
  if a.dataType = .utf8 then
    some (a.cells.map fun | .utf8 s => some s | _ => none)
  else none

/-- Extract string values from a single column of a batch. -/
def extractStringColFromBatch (batch : Option RecordBatch) (colIdx : ℕ) : List String :=
  match batch with
  | none => []
  | some batch =>
      match batch.columns[colIdx]? with
      | none => []
      | some col => (col.strings.getD []).filterMap id

/-- `batch.column(i)`, which panics past the last column. -/
def columnStrings {σ : Type} (batch : RecordBatch) (i : ℕ) :
    Handler σ (Option (List (Option String))) :=
  match batch.columns[i]? with
  | some col => pure col.strings
  | none => Handler.panic

/-! ## Helpers -/

/-- Escape single quotes in SQL string literals. -/
def escapeSqlLiteral (s : String) : String := Text.replaceChar (Char.ofNat 0x27) "''" s

/-- Convert a query-level failure into an error. -/
def ensureQueryOk {σ : Type} (result : QueryResult) (context : String) : Handler σ Unit :=
  if result.status = .error ∨ result.error.isSome then
    throw (context ++ ": " ++ result.error.getD "query failed with no error message")
  else pure ()

def REDSHIFT_SYSTEM_SCHEMAS : List String :=
  ["pg_catalog", "pg_internal", "information_schema", "pg_toast", "pg_automv", "pg_auto_copy",
    "pg_mv", "pg_s3", "catalog_history"]

def REDSHIFT_SYSTEM_SCHEMA_PREFIXES : List String := ["pg_temp_"]

/-- Check if a schema name is a Redshift system schema (case-insensitive). -/
def isRedshiftSystemSchema (name : String) : Bool :=
  let lower := Text.toLowercase name
  REDSHIFT_SYSTEM_SCHEMAS.any (lower == ·) ||
    REDSHIFT_SYSTEM_SCHEMA_PREFIXES.any (Text.startsWith lower ·)

/-- Restrict a discovered container list to a requested scope; `none` and the
empty scope mean all containers. -/
def filterContainersToScope (containers : List String) : Option (List String) → List String
  | some (s :: scope) =>
      containers.filter fun name => (s :: scope).any (Text.eqIgnoreAsciiCase · name)
  | _ => containers

/-! ## The metadata queries -/

section Discovery

variable {σ Bytes : Type} (provider : DatasourceProvider σ Bytes) (dbType : String)

/-- The query that lists the containers, for the database types that have one. -/
def containersSql : Option String :=
  match dbType with
  | "postgres" => some <|
      "SELECT schema_name FROM information_schema.schemata " ++
      "WHERE schema_name NOT IN ('pg_catalog', 'information_schema', 'pg_toast') " ++
      "ORDER BY schema_name"
  | "redshift" => some <|
      "SELECT schema_name FROM svv_all_schemas " ++
      "WHERE database_name = current_database() " ++
      "AND schema_name NOT IN ('information_schema', 'pg_catalog', 'pg_internal', 'pg_toast', " ++
      "'pg_automv', 'pg_auto_copy', 'pg_mv', 'pg_s3', 'catalog_history') " ++
      "ORDER BY schema_name"
  | "mysql" => some <|
      "SELECT SCHEMA_NAME FROM information_schema.SCHEMATA " ++
      "WHERE SCHEMA_NAME NOT IN ('mysql', 'information_schema', 'performance_schema', 'sys') " ++
      "ORDER BY SCHEMA_NAME"
  | "clickhouse" => some <|
      "SELECT name FROM system.databases " ++
      "WHERE name NOT IN ('system', 'INFORMATION_SCHEMA', 'information_schema') " ++
      "ORDER BY name"
  | "sqlserver" | "synapse" => some <|
      "SELECT SCHEMA_NAME FROM INFORMATION_SCHEMA.SCHEMATA " ++
      "WHERE SCHEMA_NAME NOT IN ('sys', 'INFORMATION_SCHEMA', 'guest') " ++
      "ORDER BY SCHEMA_NAME"
  | _ => none

/-- The query that lists the tables of a container. -/
def tablesSql (container : String) : Option String :=
  let literal := "'" ++ escapeSqlLiteral container ++ "'"
  match dbType with
  | "postgres" | "redshift" => some <|
      "SELECT table_name, table_type FROM information_schema.tables " ++
      "WHERE table_schema = " ++ literal ++ " ORDER BY table_name"
  | "mysql" => some <|
      "SELECT TABLE_NAME, TABLE_TYPE FROM information_schema.TABLES " ++
      "WHERE TABLE_SCHEMA = " ++ literal ++ " ORDER BY TABLE_NAME"
  | "clickhouse" => some <|
      "SELECT name, engine FROM system.tables " ++
      "WHERE database = " ++ literal ++ " ORDER BY name"
  | "sqlserver" | "synapse" => some <|
      "SELECT TABLE_NAME, TABLE_TYPE FROM INFORMATION_SCHEMA.TABLES " ++
      "WHERE TABLE_SCHEMA = " ++ literal ++ " ORDER BY TABLE_NAME"
  | _ => none

/-- The query that lists the columns of a table. -/
def columnsSql (container tableName : String) : Option String :=
  let escContainer := "'" ++ escapeSqlLiteral container ++ "'"
  let escTable := "'" ++ escapeSqlLiteral tableName ++ "'"
  match dbType with
  | "postgres" | "redshift" => some <|
      "SELECT column_name, data_type, '' as description " ++
      "FROM information_schema.columns " ++
      "WHERE table_schema = " ++ escContainer ++ " AND table_name = " ++ escTable ++ " " ++
      "ORDER BY ordinal_position"
  | "mysql" => some <|
      "SELECT COLUMN_NAME, DATA_TYPE, COLUMN_COMMENT " ++
      "FROM information_schema.COLUMNS " ++
      "WHERE TABLE_SCHEMA = " ++ escContainer ++ " AND TABLE_NAME = " ++ escTable ++ " " ++
      "ORDER BY ORDINAL_POSITION"
  | "clickhouse" => some <|
      "SELECT name, type, comment " ++
      "FROM system.columns " ++
      "WHERE database = " ++ escContainer ++ " AND table = " ++ escTable ++ " " ++
      "ORDER BY position"
  | "sqlserver" | "synapse" => some <|
      "SELECT COLUMN_NAME, DATA_TYPE, '' as description " ++
      "FROM INFORMATION_SCHEMA.COLUMNS " ++
      "WHERE TABLE_SCHEMA = " ++ escContainer ++ " AND TABLE_NAME = " ++ escTable ++ " " ++
      "ORDER BY ORDINAL_POSITION"
  | _ => none

/-- Run a metadata query; `context` starts the text of its errors. -/
def metadataQuery (sql context : String) : Handler σ QueryResult := do
  let result ← Handler.call (provider.executeQuery sql none none false none)
  let result ← Handler.ofExcept (context ++ ": ") result
  ensureQueryOk result context
  return result

/-- Discover containers (schemas/databases) for the datasource type. -/
def discoverContainers : Handler σ (List String) := do
  match containersSql dbType with
  | none => throw ("Unsupported database type for catalog discovery: " ++ dbType)
  | some sql =>
      let result ← metadataQuery provider sql "Failed to list containers"
      let items := extractStringColFromBatch result.recordBatch 0
      return if dbType = "redshift" then items.filter fun n => !isRedshiftSystemSchema n else items

/-- The table rows of a batch: name and type, rows without a name left out. -/
def tableEntries (names types : List (Option String)) : List (String × String) :=
  (names.zip types).filterMap fun
    | (some name, type) => some (name, type.getD "TABLE")
    | (none, _) => none

/-- Discover tables in a container: pairs of table name and table type. -/
def discoverTables (container : String) : Handler σ (List (String × String)) := do
  match tablesSql dbType container with
  | none => throw ("Unsupported database type: " ++ dbType)
  | some sql =>
      let result ← metadataQuery provider sql ("Failed to list tables in '" ++ container ++ "'")
      match result.recordBatch with
      | none => return []
      | some batch =>
          let names ← columnStrings batch 0
          let types ← columnStrings batch 1
          match names, types with
          | some names, some types => return tableEntries names types
          | _, _ => return []

/-- The column rows of a batch: name, type and comment. -/
def columnEntries (names types descs : List (Option String)) : List CatalogColumn :=
  (names.zip (types.zip descs)).filterMap fun
    | (some name, type, desc) =>
        some { name, nativeType := type.getD "unknown",
               description := desc.filter fun s => s ≠ "" }
    | (none, _, _) => none

/-- Discover columns for a specific table. -/
def discoverColumns (container tableName : String) : Handler σ (List CatalogColumn) := do
  match columnsSql dbType container tableName with
  | none => throw ("Unsupported database type: " ++ dbType)
  | some sql =>
      let result ← metadataQuery provider sql
        ("Failed to list columns for '" ++ container ++ "." ++ tableName ++ "'")
      match result.recordBatch with
      | none => return []
      | some batch =>
          let names ← columnStrings batch 0
          let types ← columnStrings batch 1
          let descs ← columnStrings batch 2
          match names, types, descs with
          | some names, some types, some descs => return columnEntries names types descs
          | _, _, _ => return []

/-! ## The crawl -/

/-- Run a step of the crawl and keep its failure as a value. -/
def Handler.attempt {α : Type} (x : Handler σ α) : Handler σ (Except String α) :=
  ExceptT.lift x.run

/-- Crawl the tables of a container: what was discovered, and one message for
each table that was not. -/
def crawlTables (container : String) :
    List (String × String) → Handler σ (List CatalogTable × List String)
  | [] => pure ([], [])
  | (name, type) :: rest => do
      let columns ← Handler.attempt (discoverColumns provider dbType container name)
      let (tables, errors) ← crawlTables container rest
      match columns with
      | .ok columns => return ({ name, nativeType := some type, columns } :: tables, errors)
      | .error e => return (tables, e :: errors)

/-- Crawl the containers. -/
def crawlContainers : List String → Handler σ (List CatalogContainer × List String)
  | [] => pure ([], [])
  | name :: rest => do
      match ← Handler.attempt (discoverTables provider dbType name) with
      | .ok listed =>
          let (tables, tableErrors) ← crawlTables provider dbType name listed
          let (containers, errors) ← crawlContainers rest
          return ({ name, tables } :: containers, tableErrors ++ errors)
      | .error e =>
          let (containers, errors) ← crawlContainers rest
          return (containers, e :: errors)

/-- `handle_discover_catalog` once its parameters are decoded. -/
def discoverCatalog (params : DiscoverCatalogParams) : Handler σ CatalogResult := do
  let containers := filterContainersToScope (← discoverContainers provider dbType) params.containers
  if params.containersOnly then
    return { containers := containers.map fun name => { name, tables := [] }, errors := [] }
  let (catalogContainers, errors) ← crawlContainers provider dbType containers
  -- every container failed: a total failure, not an empty catalog
  if !containers.isEmpty && catalogContainers.isEmpty then
    throw (s!"discover_catalog failed for every container ({containers.length} attempted): " ++
      "; ".intercalate errors)
  return { containers := catalogContainers, errors }

end Discovery

end KyomiConnect
