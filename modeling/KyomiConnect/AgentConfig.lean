import KyomiConnect.DryRun
import KyomiConnect.Lib.TomlText

/-! # The agent's configuration

The agent takes each value of its configuration from an environment variable, from the file that
a variable with the suffix `_FILE` names, or from the configuration file. The configuration file
does not hold the password but the path of a file with it.

A path is its text, and a file is what reading it as text gives.
-/

namespace KyomiConnect

/-! ## The machine -/

/-- What is at a path. -/
inductive PathContent where
  | missing
  | unreadable
  | text (s : String)
deriving DecidableEq, Repr

abbrev FileSystem := String → PathContent

namespace FileSystem

/-- `Path::exists` -/
def pathExists (files : FileSystem) (path : String) : Bool := files path != .missing

/-- `std::fs::read_to_string(..).ok()` -/
def readToString (files : FileSystem) (path : String) : Option String :=
  match files path with
  | .text s => some s
  | _ => none

/-- `std::fs::write` -/
def write (path text : String) (files : FileSystem) : FileSystem :=
  fun p => if p = path then .text text else files p

theorem write_self (path text : String) (files : FileSystem) :
    files.write path text path = .text text := if_pos rfl

/-- The other files stay as they are. -/
theorem write_of_ne {path p : String} (h : p ≠ path) (text : String) (files : FileSystem) :
    files.write path text p = files p := if_neg h

end FileSystem

/-- `PathBuf::join` with a relative path. -/
def joinPath (dir name : String) : String :=
  if dir.toList.getLast?.any (· ≠ '/') then dir ++ "/" ++ name else dir ++ name

/-- The variables, the files and the user's configuration directory, as a process finds them. -/
structure Machine where
  /-- `std::env::var(..).ok()` -/
  env : String → Option String
  files : FileSystem
  /-- `dirs::config_dir()` -/
  configDir : Option String

/-! ## The configuration file -/

structure ConfigFile where
  token : String
  dbHost : String
  dbPort : UInt16
  dbName : String
  dbUser : String
  /-- Path to file containing password (not the password itself) -/
  dbPasswordFile : Option String
  dbSslMode : Option String
  dbSslCa : Option String
  healthPort : Option UInt16
deriving DecidableEq, Repr

/-- The `toml` crate for configuration files: a file that was written is read back. -/
structure Toml where
  /-- `toml::to_string_pretty` -/
  toStringPretty : ConfigFile → String
  /-- `toml::from_str(..).ok()` -/
  fromStr : String → Option ConfigFile
  fromStr_toStringPretty (config : ConfigFile) : fromStr (toStringPretty config) = some config

namespace ConfigFile

/-! ### As a document -/

section Document

open TomlText

def text (key : String) (s : String) : List Char × Value := (key.toList, .string s.toList)

def port (key : String) (n : UInt16) : List Char × Value := (key.toList, .integer n.toNat)

/-- The entries of a configuration file; a value that is not there has none. -/
def entries (config : ConfigFile) : List (List Char × Value) :=
  [text "token" config.token, text "db_host" config.dbHost, port "db_port" config.dbPort,
      text "db_name" config.dbName, text "db_user" config.dbUser] ++
    ((config.dbPasswordFile.map (text "db_password_file")).toList ++
      ((config.dbSslMode.map (text "db_ssl_mode")).toList ++
        ((config.dbSslCa.map (text "db_ssl_ca")).toList ++
          (config.healthPort.map (port "health_port")).toList)))

/-- A string, if the value is one. -/
def asText : Value → Option String
  | .string content => some (.ofList content)
  | .integer _ => none

/-- A port, if the value is one. -/
def asPort : Value → Option UInt16
  | .string _ => none
  | .integer n => if n < UInt16.size then some (.ofNat n) else none

/-- The value of a key that need not be there; none if it is of another type. -/
def optional {α : Type} (convert : Value → Option α) : Option Value → Option (Option α)
  | some value => (convert value).map some
  | none => some none

/-- The configuration that the entries of a document give. -/
def ofEntries (entries : List (List Char × Value)) : Option ConfigFile := do
  let token ← (lookup "token".toList entries).bind asText
  let dbHost ← (lookup "db_host".toList entries).bind asText
  let dbPort ← (lookup "db_port".toList entries).bind asPort
  let dbName ← (lookup "db_name".toList entries).bind asText
  let dbUser ← (lookup "db_user".toList entries).bind asText
  let dbPasswordFile ← optional asText (lookup "db_password_file".toList entries)
  let dbSslMode ← optional asText (lookup "db_ssl_mode".toList entries)
  let dbSslCa ← optional asText (lookup "db_ssl_ca".toList entries)
  let healthPort ← optional asPort (lookup "health_port".toList entries)
  return { token, dbHost, dbPort, dbName, dbUser, dbPasswordFile, dbSslMode, dbSslCa, healthPort }

/-- A text in the file is read as the text. -/
theorem asText_string (s : String) : asText (.string s.toList) = some s := by
  rw [asText, String.ofList_toList]

/-- A port in the file is in range. -/
theorem asPort_integer (n : UInt16) : asPort (.integer n.toNat) = some n := by
  rw [asPort, if_pos n.toNat_lt, UInt16.ofNat_toNat]

/-- A field that may be missing is read if every value of it is. -/
theorem optional_map {α β : Type} {convert : Value → Option α} {value : β → Value} {f : β → α}
    (h : ∀ b, convert (value b) = some (f b)) (b : Option β) :
    optional convert (b.map value) = some (b.map f) := by
  cases b with
  | none => rfl
  | some b => exact congrArg (Option.map some) (h b)

/-- The entries of a configuration are read as the configuration. -/
theorem ofEntries_entries (config : ConfigFile) : ofEntries (entries config) = some config := by
  have hlast (key k : List Char) (a : Option UInt16) :
      lookup key ((a.map fun n => (k, Value.integer n.toNat)).toList) =
        if k = key then (a.map fun n => Value.integer n.toNat).or none else none := by
    have h := lookup_toList key k (fun n : UInt16 => Value.integer n.toNat) a []
    rwa [List.append_nil] at h
  have htext (a : Option String) :
      optional asText (a.map fun s => Value.string s.toList) = some a := by
    rw [optional_map (f := id) asText_string, Option.map_id_apply]
  have hport (a : Option UInt16) :
      optional asPort (a.map fun n => Value.integer n.toNat) = some a := by
    rw [optional_map (f := id) asPort_integer, Option.map_id_apply]
  unfold entries ofEntries text port
  simp only [List.cons_append, List.nil_append, lookup_cons, lookup_toList, hlast,
    String.toList_inj, String.reduceEq, if_true, if_false, Option.or_none, Option.bind_some,
    asText_string, asPort_integer, htext, hport, Option.bind_eq_bind]
  rfl

/-- Configuration files in documents of assignments. -/
def documents : Toml where
  toStringPretty config := .ofList (render (entries config))
  fromStr content := (parse content.toList).bind ofEntries
  fromStr_toStringPretty config := by
    have hkeys : ∀ e ∈ entries config, ' ' ∉ e.1 := by
      intro e he
      have hkey : e.1 ∈ ["token", "db_host", "db_port", "db_name", "db_user", "db_password_file",
          "db_ssl_mode", "db_ssl_ca", "health_port"].map String.toList := by
        simp only [entries, List.mem_append, Option.mem_toList, Option.map_eq_some_iff,
          List.mem_cons, List.not_mem_nil, or_false] at he
        rcases he with (rfl | rfl | rfl | rfl | rfl) | ⟨_, -, rfl⟩ | ⟨_, -, rfl⟩ | ⟨_, -, rfl⟩ |
          ⟨_, -, rfl⟩ <;> simp [text, port]
      intro hspace
      have hnone : (["token", "db_host", "db_port", "db_name", "db_user", "db_password_file",
          "db_ssl_mode", "db_ssl_ca", "health_port"].map String.toList).all
          (fun key => !key.contains ' ') = true := by decide
      have hfree := List.all_eq_true.1 hnone e.1 hkey
      simp [hspace] at hfree
    rw [String.toList_ofList, parse_render hkeys, Option.bind_some, ofEntries_entries]

example : documents.toStringPretty
    { token := "eyJ", dbHost := "localhost", dbPort := 5432, dbName := "db", dbUser := "a",
      dbPasswordFile := none, dbSslMode := some "prefer", dbSslCa := none, healthPort := none } =
    "token = \"eyJ\"\ndb_host = \"localhost\"\ndb_port = 5432\ndb_name = \"db\"\n" ++
      "db_user = \"a\"\ndb_ssl_mode = \"prefer\"\n" := by decide

end Document

/-! ### Its place -/

/-- `ConfigFile::default_config_dir` -/
def defaultConfigDir (m : Machine) : Except String String :=
  match m.configDir with
  | some dir => .ok (joinPath dir "kyomi-connect")
  | none => .error "Could not determine config directory"

/-- `ConfigFile::config_paths` -/
def configPaths (m : Machine) : List String :=
  (m.configDir.map fun dir => joinPath (joinPath dir "kyomi-connect") "config.toml").toList ++
    ["/etc/kyomi-connect/config.toml"]

/-- `ConfigFile::load` from these paths: the first of them that exists decides. -/
def loadFrom (toml : Toml) (files : FileSystem) : List String → Option ConfigFile
  | [] => none
  | path :: paths =>
      if files.pathExists path then (files.readToString path).bind toml.fromStr
      else loadFrom toml files paths

/-- `ConfigFile::load` -/
def load (toml : Toml) (m : Machine) : Option ConfigFile :=
  loadFrom toml m.files (configPaths m)

/-- `ConfigFile::save_to` -/
def saveTo (toml : Toml) (config : ConfigFile) (dir : String) (files : FileSystem) :
    String × FileSystem :=
  let path := joinPath dir "config.toml"
  (path, files.write path (toml.toStringPretty config))

/-- `ConfigFile::save_password_to` -/
def savePasswordTo (dir password : String) (files : FileSystem) : String × FileSystem :=
  let path := joinPath dir ".db-password"
  (path, files.write path password)

end ConfigFile

/-! ## Tokens -/

/-- The claims of a token that the agent reads. -/
structure ConnectClaims where
  /-- Database type (e.g., "postgres") -/
  db : String
  /-- WebSocket URL -/
  url : String
  /-- Issuer -/
  iss : String
deriving DecidableEq, Repr, Inhabited

/-- The `jsonwebtoken` crate, and what the issuer's server answers. A key is given by the
coordinates of its point. -/
structure Jwt where
  /-- `jsonwebtoken::decode_header`, its `kid` -/
  decodeHeader : String → Except String (Option String)
  /-- `jsonwebtoken::decode` without a check of the signature -/
  decodeInsecure : String → Except String Json
  /-- `jsonwebtoken::decode::<ConnectClaims>` without a check of the signature -/
  decodeClaimsInsecure : String → Except String ConnectClaims
  /-- `DecodingKey::from_jwk` -/
  fromJwk : String → String → Except String Unit
  /-- `jsonwebtoken::decode` with a key -/
  decode : String → String → String → Except String Json
  /-- `jsonwebtoken::decode::<ConnectClaims>` with a key -/
  decodeClaims : String → String → String → Except String ConnectClaims
  /-- `reqwest::get`, and `json` of its response -/
  get : String → Except String (Except String Json)

/-- `map_err` with a text that the error is put behind. -/
def withContext {α : Type} (context : String) (result : Except String α) : Except String α :=
  result.mapError (context ++ ·)

/-- `ok_or_else` -/
def okOrElse {α : Type} (error : String) : Option α → Except String α
  | some a => .ok a
  | none => .error error

/-- Where the keys of an issuer are. -/
def jwksUrl (iss : String) : String := Text.trimEndMatches '/' iss ++ "/.well-known/jwks.json"

/-- The verification of the token in `ConnectConfig::from_env`. -/
def verifyToken (jwt : Jwt) (token : String) : Except String ConnectClaims := do
  let header ← withContext "Invalid JWT token: " (jwt.decodeHeader token)
  let unsafeClaims ← jwt.decodeClaimsInsecure token
  let url := jwksUrl unsafeClaims.iss
  let response ← withContext ("Failed to fetch JWKS from " ++ url ++ ": ") (jwt.get url)
  let jwks ← withContext "Failed to parse JWKS response: " response
  let kid ← okOrElse "JWT has no 'kid' header" header
  let keys ← okOrElse "JWKS has no 'keys' array" (jwks.getArray "keys")
  let jwk ← okOrElse ("No matching key found in JWKS for kid '" ++ kid ++ "'")
    (keys.find? fun k => k.getStr "kid" == some kid)
  let x ← okOrElse "JWK missing 'x' coordinate" (jwk.getStr "x")
  let y ← okOrElse "JWK missing 'y' coordinate" (jwk.getStr "y")
  jwt.fromJwk x y
  withContext "JWT verification failed: " (jwt.decodeClaims x y token)

/-! ## Reading the values -/

/-- `read_env_or_file` -/
def readEnvOrFile (m : Machine) (name : String) : Option String :=
  match m.env name with
  | some val => some val
  | none =>
      match m.env (name ++ "_FILE") with
      | some path => (m.files.readToString path).map Text.trim
      | none => none

/-- Default database port for each datasource type. -/
def defaultPort (dbType : String) : UInt16 :=
  match dbType with
  | "postgres" | "redshift" => 5432
  | "mysql" => 3306
  | "clickhouse" => 8123
  | "sqlserver" | "synapse" => 1433
  | "snowflake" => 443
  | "databricks" => 443
  | _ => 5432

/-- `u16`'s `to_string` -/
def portText (port : UInt16) : String := toString port.toNat

/-- `str::parse::<u16>` -/
def parsePort (s : String) : Option UInt16 :=
  (parseUnsigned UInt16.size
    (match s.toList with
      | '+' :: ds => ds
      | ds => ds)).map UInt16.ofNat

example : parsePort "+5432" = some 5432 := by decide
example : parsePort "65536" = none := by decide

/-- The values as they are found: from a variable, from a file it names, or from the
configuration file. -/
structure Fields where
  token : Option String
  dbHost : Option String
  dbPort : Option String
  dbUser : Option String
  dbPassword : Option String
  dbName : Option String
  dbSslMode : Option String
  dbSslCa : Option String
  healthPort : Option String
deriving DecidableEq, Repr

/-- The password in the file that the configuration file names. -/
def ConfigFile.password (files : FileSystem) (config : ConfigFile) : Option String :=
  (config.dbPasswordFile.bind files.readToString).map Text.trim

/-- What `ConnectConfig::from_env` reads, with this configuration file. -/
def readFields (m : Machine) (fileConfig : Option ConfigFile) : Fields where
  token := (m.env "KYOMI_TOKEN").or (fileConfig.map ConfigFile.token)
  dbHost := (readEnvOrFile m "DB_HOST").or (fileConfig.map ConfigFile.dbHost)
  dbPort := (readEnvOrFile m "DB_PORT").or (fileConfig.map fun cf => portText cf.dbPort)
  dbUser := (readEnvOrFile m "DB_USER").or (fileConfig.map ConfigFile.dbUser)
  dbPassword := (readEnvOrFile m "DB_PASSWORD").or (fileConfig.bind (ConfigFile.password m.files))
  dbName := (readEnvOrFile m "DB_NAME").or (fileConfig.map ConfigFile.dbName)
  dbSslMode := (readEnvOrFile m "DB_SSL_MODE").or (fileConfig.bind ConfigFile.dbSslMode)
  dbSslCa := (readEnvOrFile m "DB_SSL_CA").or (fileConfig.bind ConfigFile.dbSslCa)
  healthPort :=
    (readEnvOrFile m "HEALTH_PORT").or ((fileConfig.bind ConfigFile.healthPort).map portText)

/-! ## The configuration -/

/-- A JSON integer from a Rust `u16`. -/
def Json.ofU16 (n : UInt16) : Json := .number (.posInt n.toUInt64)

structure ConnectConfig where
  /-- The raw JWT token (from KYOMI_TOKEN env var) -/
  token : String
  /-- Database type from JWT payload (e.g., "postgres", "mysql") -/
  dbType : String
  /-- WebSocket URL from JWT payload (e.g., "wss://api.kyomi.ai/connect/v1") -/
  wsUrl : String
  dbHost : String
  dbPort : UInt16
  dbUser : String
  dbPassword : String
  dbName : String
  dbSslMode : Option String
  dbSslCa : Option String
  /-- Health check port (default 9090) -/
  healthPort : UInt16
deriving DecidableEq, Repr

namespace ConnectConfig

/-- The checks of `ConnectConfig::from_env`, and what it makes of the values. -/
def fromFields (jwt : Jwt) (fields : Fields) : Except String ConnectConfig := do
  let token ← okOrElse ("KYOMI_TOKEN not set. Run 'kyomi-connect setup' to configure, " ++
    "or set KYOMI_TOKEN env var.") fields.token
  let claims ← verifyToken jwt token
  let dbHost ← okOrElse "DB_HOST (or DB_HOST_FILE) is required" fields.dbHost
  let dbPort ← okOrElse "DB_PORT must be a valid port number"
    (parsePort (fields.dbPort.getD (portText (defaultPort claims.db))))
  let dbUser ← okOrElse "DB_USER (or DB_USER_FILE) is required" fields.dbUser
  let dbPassword ← okOrElse "DB_PASSWORD (or DB_PASSWORD_FILE) is required" fields.dbPassword
  let dbName ← okOrElse "DB_NAME (or DB_NAME_FILE) is required" fields.dbName
  let healthPort ← okOrElse "HEALTH_PORT must be a valid port number"
    (parsePort (fields.healthPort.getD "9090"))
  return { token, dbType := claims.db, wsUrl := claims.url, dbHost, dbPort, dbUser, dbPassword,
           dbName, dbSslMode := fields.dbSslMode, dbSslCa := fields.dbSslCa, healthPort }

/-- `ConnectConfig::from_env` with this configuration file. -/
def fromEnvWith (jwt : Jwt) (m : Machine) (fileConfig : Option ConfigFile) :
    Except String ConnectConfig :=
  fromFields jwt (readFields m fileConfig)

/-- `ConnectConfig::from_env` -/
def fromEnv (jwt : Jwt) (toml : Toml) (m : Machine) : Except String ConnectConfig :=
  fromEnvWith jwt m (ConfigFile.load toml m)

/-- Build the connection_config JSON that kyomi-datasource providers expect. -/
def connectionConfig (config : ConnectConfig) : Json :=
  let entries : List (String × Json) :=
    [("database", .string config.dbName), ("host", .string config.dbHost),
      ("port", .ofU16 config.dbPort), ("ssl_mode", .string (config.dbSslMode.getD "prefer"))]
  match config.dbSslCa with
  | some sslCa => .object (insertKey "ssl_ca" (.string sslCa) entries)
  | none => .object entries

/-- Build the credentials JSON that kyomi-datasource providers expect. -/
def credentials (config : ConnectConfig) : Json :=
  .object [("password", .string config.dbPassword), ("username", .string config.dbUser)]

end ConnectConfig

/-! ## Ports -/

/-- A port in decimal digits. -/
theorem toList_portText (port : UInt16) : (portText port).toList = Nat.toDigits 10 port.toNat := by
  change (Nat.repr port.toNat).toList = _
  simp

/-- A port is written in digits. -/
theorem isDigit_of_mem_portText {port : UInt16} {c : Char} (h : c ∈ (portText port).toList) :
    c.isDigit = true := by
  rw [toList_portText] at h
  exact Nat.isDigit_of_mem_toDigits (by decide) (by decide) h

/-- A number is read back from its digits. -/
theorem parseDigits_toDigits (n : ℕ) : parseDigits (Nat.toDigits 10 n) = some n := by
  have hdigits : (Nat.toDigits 10 n).all Char.isDigit = true :=
    List.all_eq_true.2 fun c hc => Nat.isDigit_of_mem_toDigits (by decide) (by decide) hc
  unfold parseDigits
  rw [if_pos ⟨Nat.toDigits_ne_nil, hdigits⟩]
  exact congrArg some Nat.ofDigitChars_ten_toDigits

/-- A port that is written is read back. -/
theorem parsePort_portText (port : UInt16) : parsePort (portText port) = some port := by
  have hdigits : (portText port).toList = Nat.toDigits 10 port.toNat := toList_portText port
  -- the digits do not begin with a sign, which the parser would skip
  have hnosign : ∀ ds, (portText port).toList ≠ '+' :: ds := by
    intro ds h
    have hplus : '+'.isDigit = true :=
      isDigit_of_mem_portText (h ▸ List.mem_cons_self ..)
    exact absurd hplus (by decide)
  have hparsed : parseUnsigned UInt16.size (portText port).toList = some port.toNat := by
    rw [hdigits, parseUnsigned, parseDigits_toDigits, Option.filter_some,
      if_pos (decide_eq_true port.toNat_lt)]
  unfold parsePort
  split
  · rename_i ds heq
    exact absurd heq (hnosign ds)
  · rw [hparsed, Option.map_some, UInt16.ofNat_toNat]

/-! ## What is read -/

/-- No variable of the database connection is set. -/
def NoDbVariables (env : String → Option String) : Prop :=
  ∀ name : String, "DB_".toList <+: name.toList → env name = none

/-- A process without variables. -/
def Machine.bare (files : FileSystem) (configDir : Option String) : Machine where
  env _ := none
  files := files
  configDir := configDir

/-- A machine without an environment has no variables of the database. -/
theorem Machine.noDbVariables_bare (files : FileSystem) (configDir : Option String) :
    NoDbVariables (Machine.bare files configDir).env := by
  intro name _
  rfl

/-- Without such variables nothing is read for the database. -/
theorem readEnvOrFile_eq_none {m : Machine} (h : NoDbVariables m.env) {name : String}
    (hname : "DB_".toList <+: name.toList) : readEnvOrFile m name = none := by
  have hfile : "DB_".toList <+: (name ++ "_FILE").toList := by
    rw [String.toList_append]
    exact hname.trans (List.prefix_append ..)
  simp only [readEnvOrFile, h name hname, h _ hfile]

/-- The text that the health port is read from. -/
def healthPortText (m : Machine) (config : ConfigFile) : String :=
  ((readEnvOrFile m "HEALTH_PORT").or (config.healthPort.map portText)).getD "9090"

/-- Without variables of the connection the values of the file are used. -/
theorem readFields_of_noDbVariables {m : Machine} (h : NoDbVariables m.env) (config : ConfigFile) :
    readFields m (some config) =
      { token := some ((m.env "KYOMI_TOKEN").getD config.token)
        dbHost := some config.dbHost
        dbPort := some (portText config.dbPort)
        dbUser := some config.dbUser
        dbPassword := config.password m.files
        dbName := some config.dbName
        dbSslMode := config.dbSslMode
        dbSslCa := config.dbSslCa
        healthPort := (readEnvOrFile m "HEALTH_PORT").or (config.healthPort.map portText) } := by
  have htoken : (m.env "KYOMI_TOKEN").or (some config.token) =
      some ((m.env "KYOMI_TOKEN").getD config.token) := by
    cases m.env "KYOMI_TOKEN" <;> rfl
  simp only [readFields, readEnvOrFile_eq_none h (by decide : "DB_".toList <+: "DB_HOST".toList),
    readEnvOrFile_eq_none h (by decide : "DB_".toList <+: "DB_PORT".toList),
    readEnvOrFile_eq_none h (by decide : "DB_".toList <+: "DB_USER".toList),
    readEnvOrFile_eq_none h (by decide : "DB_".toList <+: "DB_PASSWORD".toList),
    readEnvOrFile_eq_none h (by decide : "DB_".toList <+: "DB_NAME".toList),
    readEnvOrFile_eq_none h (by decide : "DB_".toList <+: "DB_SSL_MODE".toList),
    readEnvOrFile_eq_none h (by decide : "DB_".toList <+: "DB_SSL_CA".toList),
    Option.none_or, Option.map_some, Option.bind_some, htoken]

namespace ConnectConfig

/-- Without variables of the connection the agent's configuration is the file's. -/
theorem fromEnvWith_of_noDbVariables (jwt : Jwt) {m : Machine} (h : NoDbVariables m.env)
    (config : ConfigFile) :
    fromEnvWith jwt m (some config) = (do
      let token := (m.env "KYOMI_TOKEN").getD config.token
      let claims ← verifyToken jwt token
      let dbPassword ← okOrElse "DB_PASSWORD (or DB_PASSWORD_FILE) is required"
        (config.password m.files)
      let healthPort ← okOrElse "HEALTH_PORT must be a valid port number"
        (parsePort (healthPortText m config))
      return { token, dbType := claims.db, wsUrl := claims.url, dbHost := config.dbHost
               dbPort := config.dbPort, dbUser := config.dbUser, dbPassword
               dbName := config.dbName, dbSslMode := config.dbSslMode
               dbSslCa := config.dbSslCa, healthPort }) := by
  -- no variable is set, so each value comes from the file
  rw [fromEnvWith, readFields_of_noDbVariables h, fromFields]
  simp only [Option.getD_some, parsePort_portText]
  rfl

end ConnectConfig

/-! ## Loading -/

/-- Two files in one directory have two paths. -/
theorem joinPath_inj {dir a b : String} (h : joinPath dir a = joinPath dir b) : a = b := by
  unfold joinPath at h
  split at h
  · exact (String.append_right_inj _).1 h
  · exact (String.append_right_inj _).1 h

/-- A configuration that was saved is loaded. -/
theorem ConfigFile.load_of_written {toml : Toml} {m : Machine} {dir : String} {config : ConfigFile}
    (hdir : m.configDir = some dir)
    (hfile : m.files (joinPath (joinPath dir "kyomi-connect") "config.toml") =
      .text (toml.toStringPretty config)) :
    ConfigFile.load toml m = some config := by
  have hexists : m.files.pathExists (joinPath (joinPath dir "kyomi-connect") "config.toml") =
      true := by
    simp [FileSystem.pathExists, hfile]
  have hread : m.files.readToString (joinPath (joinPath dir "kyomi-connect") "config.toml") =
      some (toml.toStringPretty config) := by
    simp only [FileSystem.readToString, hfile]
  simp only [ConfigFile.load, ConfigFile.configPaths, hdir, Option.map_some, Option.toList_some,
    List.singleton_append, ConfigFile.loadFrom]
  rw [if_pos hexists, hread, Option.bind_some, toml.fromStr_toStringPretty]

end KyomiConnect
