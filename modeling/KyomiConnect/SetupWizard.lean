import KyomiConnect.AgentConfig

/-! # The setup wizard

`run_setup` collects the token and the values of the database connection, from its arguments,
from the prompts or from the configuration that is there, tests a connection with them, and saves
them. The agent reads the saved files when it starts.
-/

namespace KyomiConnect

/-! ## Database types -/

namespace DatasourceType

/-- `DatasourceType::as_str` -/
def asStr : DatasourceType → String
  | bigQuery => "bigquery"
  | clickHouse => "clickhouse"
  | snowflake => "snowflake"
  | databricks => "databricks"
  | redshift => "redshift"
  | postgres => "postgres"
  | mySql => "mysql"
  | sqlServer => "sqlserver"
  | synapse => "synapse"
  | flareDb => "flaredb"

def ALL_TYPES : List DatasourceType :=
  [bigQuery, clickHouse, snowflake, databricks, redshift, postgres, mySql, sqlServer, synapse,
    flareDb]

/-- `DatasourceType::from_str` -/
def fromStr (s : String) : Except Error DatasourceType :=
  match ALL_TYPES.find? fun t => t.asStr == s with
  | some t => .ok t
  | none =>
      .error (.internal ("unsupported datasource type: '" ++ s ++ "'. Must be one of: " ++
        ", ".intercalate (ALL_TYPES.map asStr)))

end DatasourceType

namespace Wizard

/-- SSL mode options presented to the user. -/
def SSL_OPTIONS : List (String × String) :=
  [("prefer", "Try TLS, fall back to unencrypted (recommended)"),
    ("require", "Require TLS (cloud databases)"),
    ("disable", "No TLS (local/trusted network)"),
    ("verify-ca", "Require TLS + verify CA certificate"),
    ("verify-full", "Require TLS + verify CA + hostname")]

/-! ## What setup runs with -/

/-- The command line. -/
structure Args where
  token : Option String
  tokenFile : Option String
  dbHost : Option String
  dbPort : Option UInt16
  dbName : Option String
  dbUser : Option String
  dbPasswordFile : Option String
  dbSslMode : Option String

/-- A command line without flags. -/
def Args.none : Args := ⟨.none, .none, .none, .none, .none, .none, .none, .none⟩

/-- The prompts, and what the operator makes of them. A prompt for a text or for a password is
shown again until something was entered. -/
structure Operator where
  /-- `Input`, with the text that is there to begin with -/
  inputText : String → String → Except String String
  inputText_ne_empty {prompt initial line : String} :
    inputText prompt initial = .ok line → line ≠ ""
  /-- `Input` of a `u16` -/
  inputPort : String → String → Except String UInt16
  password : String → Except String String
  password_ne_empty {prompt line : String} : password prompt = .ok line → line ≠ ""
  /-- `Select`, with the number of items and the item that is selected to begin with -/
  select : String → (items : ℕ) → Fin items → Except String (Fin items)
  /-- `resolve_token_interactive` -/
  newToken : Except String String

/-- What setup reaches over the network. -/
structure Services where
  jwt : Jwt
  /-- `fetch_connect_info_safe`: the default port in the answer -/
  connectInfo : String → String → Option (Option UInt16)
  /-- `create_provider` and `test_connection` -/
  testConnection : DatasourceType → Json → Json → Except String Unit

/-! ## The token -/

/-- Lightweight peek at JWT claims without cryptographic verification. -/
structure TokenPeek where
  iss : String
  db : String
  url : String

/-- `peek_token_safe` -/
def peekTokenSafe (jwt : Jwt) (token : String) : Option TokenPeek := do
  let claims ← (jwt.decodeInsecure token).toOption
  let iss ← claims.getStr "iss"
  let db ← claims.getStr "db"
  let url ← claims.getStr "url"
  return { iss, db, url }

/-- Whether one of the keys that may have signed the token did. -/
def signedByAny (jwt : Jwt) (token : String) (tokenKid : Option String) : List Json → Bool
  | [] => false
  | key :: keys =>
      if (key.getStr "crv").getD "" ≠ "P-256" then signedByAny jwt token tokenKid keys
      else if tokenKid.any fun kid => (key.getStr "kid").getD "" ≠ kid then
        signedByAny jwt token tokenKid keys
      else
        let x := (key.getStr "x").getD ""
        let y := (key.getStr "y").getD ""
        match jwt.fromJwk x y with
        | .error _ => signedByAny jwt token tokenKid keys
        | .ok () =>
            match jwt.decode x y token with
            | .ok _ => true
            | .error _ => signedByAny jwt token tokenKid keys

/-- Verify the JWT signature against the JWKS endpoint of the issuer. -/
def verifyTokenSignature (jwt : Jwt) (token iss : String) : Except String Unit := do
  let url := jwksUrl iss
  let response ← withContext ("Failed to fetch JWKS from " ++ url ++ ": ") (jwt.get url)
  let jwks ← withContext "Failed to parse JWKS response: " response
  let keys ← okOrElse "Invalid JWKS response: no 'keys' array" (jwks.getArray "keys")
  if keys.isEmpty then throw "JWKS has no keys"
  let tokenKid ← withContext "Invalid JWT header: " (jwt.decodeHeader token)
  if signedByAny jwt token tokenKid keys then return ()
  else throw "Token signature verification failed — token was not signed by Kyomi"

/-- What `resolve_token` gives: a token, or the wish for the browser flow. -/
inductive Resolved where
  | token (t : String)
  | useBrowserFlow

/-- Resolve token from CLI args or interactive browser flow. -/
def resolveToken (m : Machine) (isInteractive : Bool) (args : Args) : Except String Resolved :=
  match args.token with
  | some token =>
      if Text.trim token = "" then .error "--token value is empty"
      else .ok (.token (Text.trim token))
  | none =>
      match args.tokenFile with
      | some path => do
          let content ← okOrElse ("Failed to read token file '" ++ path ++ "'")
            (m.files.readToString path)
          if Text.trim content = "" then throw ("Token file '" ++ path ++ "' is empty")
          else return .token (Text.trim content)
      | none =>
          if isInteractive then .ok .useBrowserFlow
          else .error ("No token provided. Use --token <TOKEN> or --token-file <PATH>, " ++
            "or run interactively to open browser-based setup.")

/-- Step 1: get the token. -/
def getToken (m : Machine) (isInteractive : Bool) (args : Args) (op : Operator)
    (existing : Option ConfigFile) : Except String String := do
  match ← resolveToken m isInteractive args with
  | .token t => return t
  | .useBrowserFlow =>
      match existing with
      | some cfg => do
          let keep ← withContext "Failed to read selection: " (op.select "  Token" 2 0)
          if keep = 0 then return cfg.token else op.newToken
      | none => op.newToken

/-! ## The values of the connection -/

/-- A text from its flag, from a prompt, or from the existing configuration. -/
def collectText (flag prompt default : String) (arg : Option String) (isInteractive : Bool)
    (op : Operator) (existing : Option String) : Except String String :=
  match arg with
  | some text => .ok text
  | none =>
      if isInteractive then op.inputText prompt (existing.getD default)
      else okOrElse (flag ++ " is required in non-interactive mode") existing

def collectPort (portDefault : UInt16) (arg : Option UInt16) (isInteractive : Bool)
    (op : Operator) (existing : Option UInt16) : Except String UInt16 :=
  match arg with
  | some port => .ok port
  | none =>
      if isInteractive then op.inputPort "  Port" (portText (existing.getD portDefault))
      else .ok (existing.getD portDefault)

/-- The password from a file, from a prompt, or the existing one. -/
def collectPassword (m : Machine) (arg : Option String) (isInteractive : Bool) (op : Operator)
    (existing : Option String) : Except String String :=
  match arg with
  | some path => do
      let content ← okOrElse ("Failed to read password file '" ++ path ++ "'")
        (m.files.readToString path)
      return Text.trim content
  | none =>
      if isInteractive then
        match existing with
        | some password => do
            let keep ← withContext "Failed to read selection: " (op.select "  Password" 2 0)
            if keep = 0 then return password
            else withContext "Failed to read password: " (op.password "  New password")
        | none => withContext "Failed to read password: " (op.password "  Password")
      else okOrElse "--db-password-file is required in non-interactive mode" existing

/-- The index that the prompt for the mode starts with. -/
def defaultIdx (existing : Option String) : Fin SSL_OPTIONS.length :=
  ((existing.bind fun m => SSL_OPTIONS.findFinIdx? fun (mode, _) => mode == m).getD
    ⟨0, by decide⟩)

def collectSslMode (arg : Option String) (isInteractive : Bool) (op : Operator)
    (existing : Option String) : Except String String :=
  match arg with
  | some mode => .ok mode
  | none =>
      if isInteractive then do
        let selection ← withContext "Failed to read SSL mode: "
          (op.select "  SSL mode" SSL_OPTIONS.length (defaultIdx existing))
        return (SSL_OPTIONS.get selection).1
      else .ok (existing.getD "prefer")

/-- What setup has collected before it tests the connection. -/
structure Collected where
  token : String
  dbType : String
  dbHost : String
  dbPort : UInt16
  dbName : String
  dbUser : String
  dbPassword : String
  dbSslMode : String
deriving DecidableEq, Repr

/-- Steps 1 to 5. -/
def collect (services : Services) (m : Machine) (isInteractive : Bool) (args : Args)
    (op : Operator) (existing : Option ConfigFile) : Except String Collected := do
  let token ← getToken m isInteractive args op existing
  let peek ← okOrElse "Invalid token format" (peekTokenSafe services.jwt token)
  verifyTokenSignature services.jwt token peek.iss
  let info ← okOrElse
    ("Could not reach Kyomi at " ++ peek.iss ++ ". Check that the token is valid.")
    (services.connectInfo peek.iss token)
  let portDefault := info.getD (defaultPort peek.db)
  let dbHost ← collectText "--db-host" "  Host" "localhost" args.dbHost isInteractive op
    (existing.map ConfigFile.dbHost)
  let dbPort ← collectPort portDefault args.dbPort isInteractive op
    (existing.map ConfigFile.dbPort)
  let dbName ← collectText "--db-name" "  Database" "" args.dbName isInteractive op
    (existing.map ConfigFile.dbName)
  let dbUser ← collectText "--db-user" "  Username" "" args.dbUser isInteractive op
    (existing.map ConfigFile.dbUser)
  let dbPassword ← collectPassword m args.dbPasswordFile isInteractive op
    (existing.bind (ConfigFile.password m.files))
  if dbPassword = "" then throw "Password cannot be empty"
  let dbSslMode ← collectSslMode args.dbSslMode isInteractive op
    (existing.bind ConfigFile.dbSslMode)
  return { token, dbType := peek.db, dbHost, dbPort, dbName, dbUser, dbPassword, dbSslMode }

/-! ## The test -/

/-- The configuration and the credentials that the connection is tested with. -/
def tested (c : Collected) : Json × Json :=
  (.object [("database", .string c.dbName), ("host", .string c.dbHost),
      ("port", .ofU16 c.dbPort), ("ssl_mode", .string c.dbSslMode)],
    .object [("password", .string c.dbPassword), ("username", .string c.dbUser)])

/-- Test a database connection with the given credentials. -/
def testDatabaseConnection (services : Services) (c : Collected) : Except String Unit :=
  match DatasourceType.fromStr c.dbType with
  | .error e => .error ("Unsupported database type '" ++ c.dbType ++ "': " ++ e.toString)
  | .ok dsType => services.testConnection dsType (tested c).1 (tested c).2

/-- The text after the last `": "`. -/
def afterLastColon : List Char → Option (List Char)
  | [] => none
  | c :: cs =>
      match afterLastColon cs with
      | some root => some root
      | none => if [':', ' '].isPrefixOf (c :: cs) then some (cs.drop 1) else none

/-- The root cause of a chain of errors. -/
def rootCause (msg : String) : String := (afterLastColon msg.toList).elim msg .ofList

example : rootCause "connection failed: a: b" = "b" := by decide

/-! ## Setup -/

/-- How setup ended: what it has collected, the outcome of the test, and the files. -/
structure Setup where
  collected : Collected
  connected : Except String Unit
  files : FileSystem

/-- Step 7: save the password and the configuration. -/
def save (toml : Toml) (m : Machine) (c : Collected) : Except String FileSystem := do
  let dir ← ConfigFile.defaultConfigDir m
  let (passwordPath, files) := ConfigFile.savePasswordTo dir c.dbPassword m.files
  let config : ConfigFile :=
    { token := c.token, dbHost := c.dbHost, dbPort := c.dbPort, dbName := c.dbName
      dbUser := c.dbUser, dbPasswordFile := some passwordPath, dbSslMode := some c.dbSslMode
      dbSslCa := none, healthPort := none }
  return (ConfigFile.saveTo toml config dir files).2

/-- A failed test ends setup if nobody is there to be told. -/
def heedTest (isInteractive : Bool) : Except String Unit → Except String Unit
  | .ok () => .ok ()
  | .error e =>
      if isInteractive then .ok ()
      else .error ("Database connection test failed: " ++ rootCause e)

/-- `run_setup` -/
def runSetup (services : Services) (toml : Toml) (m : Machine) (isInteractive : Bool)
    (args : Args) (op : Operator) : Except String Setup := do
  let collected ← collect services m isInteractive args op (ConfigFile.load toml m)
  let connected := testDatabaseConnection services collected
  heedTest isInteractive connected
  let files ← save toml m collected
  return { collected, connected, files }

/-! ## The saved files -/

/-- A result of two computations in turn comes from a result of the first. -/
theorem bind_eq_ok {α β : Type} {x : Except String α} {f : α → Except String β} {b : β}
    (h : x >>= f = .ok b) : ∃ a, x = .ok a ∧ f a = .ok b := by
  cases x with
  | error e => cases h
  | ok a => exact ⟨a, rfl, h⟩

variable {services : Services} {toml : Toml} {m : Machine} {isInteractive : Bool} {args : Args}
  {op : Operator} {setup : Setup}

/-- Where the password is saved. -/
def passwordPath (dir : String) : String := joinPath (joinPath dir "kyomi-connect") ".db-password"

/-- Where the configuration is saved. -/
def configPath (dir : String) : String := joinPath (joinPath dir "kyomi-connect") "config.toml"

/-- The configuration that is saved. -/
def savedConfig (dir : String) (c : Collected) : ConfigFile where
  token := c.token
  dbHost := c.dbHost
  dbPort := c.dbPort
  dbName := c.dbName
  dbUser := c.dbUser
  dbPasswordFile := some (passwordPath dir)
  dbSslMode := some c.dbSslMode
  dbSslCa := none
  healthPort := none

/-- The password and the configuration are two files. -/
theorem passwordPath_ne_configPath (dir : String) : passwordPath dir ≠ configPath dir := by
  intro h
  have hname := joinPath_inj h
  exact absurd hname (by decide)

/-- What a setup that ends has done. -/
theorem runSetup_eq_ok (h : runSetup services toml m isInteractive args op = .ok setup) :
    collect services m isInteractive args op (ConfigFile.load toml m) = .ok setup.collected ∧
      ∃ dir, m.configDir = some dir ∧
        setup.files = (m.files.write (passwordPath dir) setup.collected.dbPassword).write
          (configPath dir) (toml.toStringPretty (savedConfig dir setup.collected)) := by
  unfold runSetup at h
  obtain ⟨collected, hcollect, h⟩ := bind_eq_ok h
  obtain ⟨-, -, h⟩ := bind_eq_ok h
  obtain ⟨files, hsave, h⟩ := bind_eq_ok h
  cases h
  refine ⟨hcollect, ?_⟩
  obtain ⟨parent, hparent, hsave⟩ := bind_eq_ok hsave
  cases hdir : m.configDir with
  | none =>
      simp only [ConfigFile.defaultConfigDir, hdir] at hparent
      cases hparent
  | some dir =>
      simp only [ConfigFile.defaultConfigDir, hdir] at hparent
      cases hparent
      exact ⟨dir, rfl, (Except.ok.inj hsave).symm⟩

/-- The machine as the agent finds it after setup, with these variables. -/
def after (env : String → Option String) (setup : Setup) (m : Machine) : Machine where
  env := env
  files := setup.files
  configDir := m.configDir

/-- The agent loads what was saved. -/
theorem load_after {env : String → Option String} {dir : String} (hdir : m.configDir = some dir)
    (hfiles : setup.files = (m.files.write (passwordPath dir) setup.collected.dbPassword).write
      (configPath dir) (toml.toStringPretty (savedConfig dir setup.collected))) :
    ConfigFile.load toml (after env setup m) = some (savedConfig dir setup.collected) := by
  have hagent : (after env setup m).configDir = some dir := hdir
  apply ConfigFile.load_of_written hagent
  change setup.files (configPath dir) = _
  rw [hfiles, FileSystem.write_self]

/-- The agent reads the password that was saved, and trims it. -/
theorem password_after {dir : String}
    (hfiles : setup.files = (m.files.write (passwordPath dir) setup.collected.dbPassword).write
      (configPath dir) (toml.toStringPretty (savedConfig dir setup.collected))) :
    (savedConfig dir setup.collected).password setup.files =
      some (Text.trim setup.collected.dbPassword) := by
  have hfile : setup.files (passwordPath dir) = .text setup.collected.dbPassword := by
    rw [hfiles, FileSystem.write_of_ne (passwordPath_ne_configPath dir), FileSystem.write_self]
  simp only [ConfigFile.password, savedConfig, Option.bind_some, FileSystem.readToString, hfile,
    Option.map_some]

/-- The agent's configuration after setup, if none of its variables is about the connection. -/
theorem fromEnv_after (jwt : Jwt) (h : runSetup services toml m isInteractive args op = .ok setup)
    {env : String → Option String} (henv : NoDbVariables env) :
    ConnectConfig.fromEnv jwt toml (after env setup m) = (do
      let token := (env "KYOMI_TOKEN").getD setup.collected.token
      let claims ← verifyToken jwt token
      let healthPort ← okOrElse "HEALTH_PORT must be a valid port number"
        (parsePort ((readEnvOrFile (after env setup m) "HEALTH_PORT").getD "9090"))
      return { token, dbType := claims.db, wsUrl := claims.url
               dbHost := setup.collected.dbHost, dbPort := setup.collected.dbPort
               dbUser := setup.collected.dbUser
               dbPassword := Text.trim setup.collected.dbPassword
               dbName := setup.collected.dbName
               dbSslMode := some setup.collected.dbSslMode, dbSslCa := none, healthPort }) := by
  obtain ⟨-, dir, hdir, hfiles⟩ := runSetup_eq_ok h
  -- the health port is not among the prompts, so the environment decides
  have hhealth : healthPortText (after env setup m) (savedConfig dir setup.collected) =
      (readEnvOrFile (after env setup m) "HEALTH_PORT").getD "9090" := by
    simp [healthPortText, savedConfig]
  have hdb : NoDbVariables (after env setup m).env := henv
  have hpassword : (savedConfig dir setup.collected).password (after env setup m).files =
      some (Text.trim setup.collected.dbPassword) := password_after hfiles
  rw [ConnectConfig.fromEnv, load_after hdir hfiles,
    ConnectConfig.fromEnvWith_of_noDbVariables jwt hdb, hhealth]
  simp only [hpassword]
  rfl

/-! ## What was tested is what is used -/

/-- Whether the port for the health check that the agent finds is one. -/
def healthPortValid (agent : Machine) : Bool :=
  (parsePort ((readEnvOrFile agent "HEALTH_PORT").getD "9090")).isSome

/-- The agent uses what setup tested exactly if the token it finds is verified, the port for its
health check is one, and the password has no blanks around it. -/
theorem agent_uses_tested_iff (jwt : Jwt)
    (h : runSetup services toml m isInteractive args op = .ok setup)
    {env : String → Option String} (henv : NoDbVariables env) :
    (∃ config, ConnectConfig.fromEnv jwt toml (after env setup m) = .ok config ∧
      config.connectionConfig = (tested setup.collected).1 ∧
      config.credentials = (tested setup.collected).2) ↔
    (∃ claims, verifyToken jwt ((env "KYOMI_TOKEN").getD setup.collected.token) = .ok claims) ∧
      healthPortValid (after env setup m) ∧
      Text.trim setup.collected.dbPassword = setup.collected.dbPassword := by
  rw [fromEnv_after jwt h henv]
  constructor
  · -- the agent started, so its token and its port were read; the credentials give the password
    rintro ⟨config, hconfig, -, hcredentials⟩
    obtain ⟨claims, hclaims, hconfig⟩ := bind_eq_ok hconfig
    obtain ⟨port, hport, hconfig⟩ := bind_eq_ok hconfig
    cases hconfig
    refine ⟨⟨claims, hclaims⟩, ?_, ?_⟩
    · unfold healthPortValid
      -- a port that does not parse stops the start
      cases hparsed : parsePort
          ((readEnvOrFile (after env setup m) "HEALTH_PORT").getD "9090") with
      | none =>
          rw [hparsed] at hport
          cases hport
      | some port => rfl
    · simpa [ConnectConfig.credentials, tested] using hcredentials
  · -- with the three, what the agent reads is what was tested
    rintro ⟨⟨claims, hclaims⟩, hhealth, htrim⟩
    obtain ⟨port, hport⟩ := Option.isSome_iff_exists.1 hhealth
    simp only [hclaims, hport, htrim, okOrElse]
    exact ⟨_, rfl, rfl, rfl⟩

/-! ### A run -/

/-- A server with one key, which signed the token. -/
def exampleJwt : Jwt where
  decodeHeader _ := .ok (some "k1")
  decodeInsecure _ := .ok (.object [("db", .string "postgres"), ("iss", .string "https://kyomi.ai"),
    ("url", .string "wss://kyomi.ai/connect/v1")])
  decodeClaimsInsecure _ :=
    .ok { db := "postgres", url := "wss://kyomi.ai/connect/v1", iss := "https://kyomi.ai" }
  fromJwk _ _ := .ok ()
  decode _ _ _ := .ok .null
  decodeClaims _ _ _ :=
    .ok { db := "postgres", url := "wss://kyomi.ai/connect/v1", iss := "https://kyomi.ai" }
  get _ := .ok (.ok (.object [("keys", .array [.object [("crv", .string "P-256"),
    ("kid", .string "k1"), ("x", .string "x"), ("y", .string "y")]])]))

def exampleServices : Services where
  jwt := exampleJwt
  connectInfo _ _ := some (some 5432)
  testConnection _ _ _ := .ok ()

/-- An operator who enters this password, and keeps what the prompts start with. -/
def entering (password : String) : Operator where
  inputText _ initial := if initial = "" then .ok "app" else .ok initial
  inputText_ne_empty {_ initial line} h := by
    split at h
    · cases h
      decide
    · rename_i hne
      cases h
      exact hne
  inputPort _ _ := .ok 5432
  password _ := if password = "" then .error "read interrupted" else .ok password
  password_ne_empty {_ line} h := by
    split at h
    · cases h
    · rename_i hne
      cases h
      exact hne
  select _ _ selected := .ok selected
  newToken := .ok "eyJ"

/-- A machine without files. -/
def freshMachine : Machine := Machine.bare (fun _ => .missing) (some "/home/app/.config")

/-- How setup ends there. -/
def exampleSetup (password : String) : Setup where
  collected :=
    { token := "eyJ", dbType := "postgres", dbHost := "localhost", dbPort := 5432, dbName := "app"
      dbUser := "app", dbPassword := password, dbSslMode := "prefer" }
  connected := .ok ()
  files := (freshMachine.files.write "/home/app/.config/kyomi-connect/.db-password" password).write
    "/home/app/.config/kyomi-connect/config.toml"
    (ConfigFile.documents.toStringPretty
      { token := "eyJ", dbHost := "localhost", dbPort := 5432, dbName := "app", dbUser := "app"
        dbPasswordFile := some "/home/app/.config/kyomi-connect/.db-password"
        dbSslMode := some "prefer", dbSslCa := none, healthPort := none })

/-- The setup of the example, with any password. -/
theorem runSetup_example {password : String} (h : password ≠ "") :
    runSetup exampleServices ConfigFile.documents freshMachine true .none (entering password) =
      .ok (exampleSetup password) := by
  have hpassword : collectPassword freshMachine none true (entering password) none =
      .ok password := by
    simp [collectPassword, entering, withContext, h, Except.mapError]
  have hcollect : collect exampleServices freshMachine true .none (entering password) none =
      .ok (exampleSetup password).collected := by
    change (do
      let dbPassword ← collectPassword freshMachine none true (entering password) none
      if dbPassword = "" then throw "Password cannot be empty"
      return _) = _
    rw [hpassword]
    change (do
      if password = "" then throw "Password cannot be empty"
      return _) = _
    rw [if_neg h]
    rfl
  change (do
    let collected ← collect exampleServices freshMachine true .none (entering password) none
    _) = _
  rw [hcollect]
  rfl

/-- A password without blanks around it is used as it was tested. -/
theorem secret_used :
    ∃ config, ConnectConfig.fromEnv exampleJwt ConfigFile.documents
        (after (fun _ => none) (exampleSetup "secret") freshMachine) = .ok config ∧
      config.connectionConfig = (tested (exampleSetup "secret").collected).1 ∧
      config.credentials = (tested (exampleSetup "secret").collected).2 :=
  (agent_uses_tested_iff exampleJwt (runSetup_example (by decide)) (fun _ _ => rfl)).2
    ⟨⟨_, rfl⟩, rfl, by decide⟩

/-- A password with a blank before it is tested, and used without the blank. -/
theorem padded_password_not_used :
    runSetup exampleServices ConfigFile.documents freshMachine true .none (entering " secret") =
        .ok (exampleSetup " secret") ∧
      ¬ ∃ config, ConnectConfig.fromEnv exampleJwt ConfigFile.documents
            (after (fun _ => none) (exampleSetup " secret") freshMachine) = .ok config ∧
          config.connectionConfig = (tested (exampleSetup " secret").collected).1 ∧
          config.credentials = (tested (exampleSetup " secret").collected).2 := by
  have hrun := runSetup_example (by decide : " secret" ≠ "")
  refine ⟨hrun, ?_⟩
  rintro ⟨config, hconfig, -, hcredentials⟩
  rw [fromEnv_after exampleJwt hrun fun _ _ => rfl] at hconfig
  cases hconfig
  simp only [ConnectConfig.credentials, tested, Json.object.injEq, List.cons.injEq, Prod.mk.injEq,
    Json.string.injEq] at hcredentials
  exact absurd hcredentials.1.2 (by decide)

/-! ## Keeping everything -/

/-- An operator who answers every prompt with what it starts with. -/
structure Operator.Keeps (op : Operator) : Prop where
  inputText {prompt initial line : String} : op.inputText prompt initial = .ok line →
    line = initial
  inputPort {prompt : String} {port p : UInt16} : op.inputPort prompt (portText port) = .ok p →
    p = port
  select {prompt : String} {items : ℕ} {selected i : Fin items} :
    op.select prompt items selected = .ok i → i = selected

/-- `map_err` does not change what is no error. -/
theorem withContext_eq_ok {α : Type} {context : String} {x : Except String α} {a : α}
    (h : withContext context x = .ok a) : x = .ok a := by
  cases x with
  | error e => cases h
  | ok b => exact h

/-- An answer that keeps the value gives it back. -/
theorem collectText_kept (hkeeps : op.Keeps) {flag prompt default text value : String}
    (h : collectText flag prompt default none true op (some value) = .ok text) :
    text = value :=
  hkeeps.inputText h

/-- An answer that keeps the port gives it back. -/
theorem collectPort_kept (hkeeps : op.Keeps) {portDefault port value : UInt16}
    (h : collectPort portDefault none true op (some value) = .ok port) : port = value :=
  hkeeps.inputPort h

/-- An answer that keeps the password gives it back. -/
theorem collectPassword_kept (hkeeps : op.Keeps) {password value : String}
    (h : collectPassword m none true op (some value) = .ok password) : password = value := by
  obtain ⟨keep, hselect, h⟩ := bind_eq_ok h
  have hkeep : keep = 0 := hkeeps.select (withContext_eq_ok hselect)
  rw [if_pos hkeep] at h
  exact (Except.ok.inj h).symm

/-- The mode that the prompt starts with. -/
def defaultMode (existing : Option String) : String := (SSL_OPTIONS.get (defaultIdx existing)).1

/-- An answer that keeps the mode gives the one of the default. -/
theorem collectSslMode_kept (hkeeps : op.Keeps) {existing : Option String} {mode : String}
    (h : collectSslMode none true op existing = .ok mode) : mode = defaultMode existing := by
  obtain ⟨selection, hselect, h⟩ := bind_eq_ok h
  have hselection : selection = defaultIdx existing := hkeeps.select (withContext_eq_ok hselect)
  rw [hselection] at h
  exact (Except.ok.inj h).symm

/-- An answer that keeps the token gives it back. -/
theorem getToken_kept (hkeeps : op.Keeps) {config : ConfigFile} {token : String}
    (h : getToken m true .none op (some config) = .ok token) : token = config.token := by
  obtain ⟨resolved, hresolved, h⟩ := bind_eq_ok h
  cases hresolved
  obtain ⟨keep, hselect, h⟩ := bind_eq_ok h
  have hkeep : keep = 0 := hkeeps.select (withContext_eq_ok hselect)
  rw [if_pos hkeep] at h
  exact (Except.ok.inj h).symm

/-- What is collected if everything is kept. -/
theorem collect_kept (hkeeps : op.Keeps) {config : ConfigFile} {password : String}
    (hpassword : config.password m.files = some password) {c : Collected}
    (h : collect services m true .none op (some config) = .ok c) :
    c = { token := config.token, dbType := c.dbType, dbHost := config.dbHost
          dbPort := config.dbPort, dbName := config.dbName, dbUser := config.dbUser
          dbPassword := password, dbSslMode := defaultMode config.dbSslMode } := by
  -- each prompt in turn, with what it was shown
  obtain ⟨token, htoken, h⟩ := bind_eq_ok h
  obtain ⟨peek, -, h⟩ := bind_eq_ok h
  obtain ⟨-, -, h⟩ := bind_eq_ok h
  obtain ⟨info, -, h⟩ := bind_eq_ok h
  obtain ⟨host, hhost, h⟩ := bind_eq_ok h
  obtain ⟨port, hport, h⟩ := bind_eq_ok h
  obtain ⟨name, hname, h⟩ := bind_eq_ok h
  obtain ⟨user, huser, h⟩ := bind_eq_ok h
  obtain ⟨pw, hpw, h⟩ := bind_eq_ok h
  rw [Option.bind_some, hpassword] at hpw
  -- an empty password is refused before the SSL mode is asked for
  have hmode : ∃ mode, collectSslMode none true op config.dbSslMode = .ok mode ∧
      c = { token, dbType := peek.db, dbHost := host, dbPort := port, dbName := name
            dbUser := user, dbPassword := pw, dbSslMode := mode } := by
    split at h
    · cases h
    · obtain ⟨mode, hmode, h⟩ := bind_eq_ok h
      exact ⟨mode, hmode, (Except.ok.inj h).symm⟩
  obtain ⟨mode, hmode, rfl⟩ := hmode
  rw [getToken_kept hkeeps htoken, collectText_kept hkeeps hhost, collectPort_kept hkeeps hport,
    collectText_kept hkeeps hname, collectText_kept hkeeps huser,
    collectPassword_kept hkeeps hpw, collectSslMode_kept hkeeps hmode]

/-- The agent's configuration from the files alone. -/
def fromFiles (jwt : Jwt) (toml : Toml) (files : FileSystem) (configDir : Option String) :
    Except String ConnectConfig :=
  ConnectConfig.fromEnv jwt toml (Machine.bare files configDir)

/-- The agent's configuration from a file with a password. -/
def effective (config : ConfigFile) (password : String) (claims : ConnectClaims) :
    ConnectConfig where
  token := config.token
  dbType := claims.db
  wsUrl := claims.url
  dbHost := config.dbHost
  dbPort := config.dbPort
  dbUser := config.dbUser
  dbPassword := password
  dbName := config.dbName
  dbSslMode := config.dbSslMode
  dbSslCa := config.dbSslCa
  healthPort := config.healthPort.getD 9090

/-- What the agent makes of the files that were written. -/
theorem fromFiles_eq (jwt : Jwt) {files : FileSystem} {configDir : Option String}
    {config : ConfigFile}
    (hload : ConfigFile.load toml (Machine.bare files configDir) = some config)
    {password : String} (hpassword : config.password files = some password) :
    fromFiles jwt toml files configDir =
      (verifyToken jwt config.token).map (effective config password) := by
  -- the port that was written is read back
  have hport : parsePort (healthPortText (Machine.bare files configDir) config) =
      some (config.healthPort.getD 9090) := by
    have hunset : readEnvOrFile (Machine.bare files configDir) "HEALTH_PORT" = none := rfl
    rw [healthPortText, hunset, Option.none_or]
    cases config.healthPort with
    | none => decide
    | some port => exact parsePort_portText port
  have hbare : config.password (Machine.bare files configDir).files = some password := hpassword
  rw [fromFiles, ConnectConfig.fromEnv, hload,
    ConnectConfig.fromEnvWith_of_noDbVariables jwt (Machine.noDbVariables_bare files configDir)]
  have htoken : ((Machine.bare files configDir).env "KYOMI_TOKEN").getD config.token =
      config.token := rfl
  simp only [htoken, hbare, hport, okOrElse]
  cases verifyToken jwt config.token <;> rfl

/-- The configuration file after a setup in which everything was kept. -/
def keptConfig (dir : String) (config : ConfigFile) : ConfigFile :=
  { config with
    dbPasswordFile := some (passwordPath dir)
    dbSslMode := some (defaultMode config.dbSslMode)
    dbSslCa := none
    healthPort := none }

/-- What the agent's configuration is after a setup in which everything was kept. -/
theorem fromFiles_kept (jwt : Jwt) (hkeeps : op.Keeps) {config : ConfigFile}
    (hload : ConfigFile.load toml m = some config) {password : String}
    (hpassword : config.password m.files = some password)
    (h : runSetup services toml m true .none op = .ok setup) :
    ∃ dir, fromFiles jwt toml setup.files m.configDir =
      (verifyToken jwt config.token).map (effective (keptConfig dir config) password) := by
  obtain ⟨hcollect, dir, hdir, hfiles⟩ := runSetup_eq_ok h
  rw [hload] at hcollect
  -- what was kept is what the old file had, less what no prompt asks for
  have hcollected := collect_kept hkeeps hpassword hcollect
  have hsaved : savedConfig dir setup.collected = keptConfig dir config := by
    rw [hcollected]
    rfl
  have hafter : ConfigFile.load toml (after (fun _ => none) setup m) =
      some (keptConfig dir config) := hsaved ▸ load_after hdir hfiles
  have htrim : Text.trim setup.collected.dbPassword = password := by
    obtain ⟨content, -, rfl⟩ := Option.map_eq_some_iff.1 hpassword
    rw [hcollected]
    exact Text.trim_trim content
  have hread : (keptConfig dir config).password setup.files = some password := by
    rw [← hsaved, password_after hfiles, htrim]
  exact ⟨dir, fromFiles_eq jwt hafter hread⟩

/-- Two configurations are the same to an agent whose token is not accepted. -/
theorem map_effective_inj {x : Except String ConnectClaims} {c c' : ConfigFile}
    {password : String} :
    x.map (effective c password) = x.map (effective c' password) ↔
      (∀ claims, x ≠ .ok claims) ∨ ∀ claims, effective c password claims =
        effective c' password claims := by
  cases x with
  | error e => simp [Except.map]
  | ok claims =>
      -- the error of the token is the same on both sides
      constructor
      · intro h
        right
        intro other
        have heq := Except.ok.inj h
        simp only [effective, ConnectConfig.mk.injEq] at heq ⊢
        simp [heq]
      · rintro (h | h)
        · exact absurd rfl (h claims)
        · exact congrArg Except.ok (h claims)

/-- The mode that the prompt starts with is the one that is there exactly if it is one of the
options. -/
theorem some_defaultMode_eq_iff {mode : Option String} :
    some (defaultMode mode) = mode ↔ mode ∈ SSL_OPTIONS.map fun o => some o.1 := by
  constructor
  · intro h
    rw [← h]
    exact List.mem_map_of_mem (List.get_mem SSL_OPTIONS (defaultIdx mode))
  · intro h
    simp only [SSL_OPTIONS, List.map_cons, List.map_nil, List.mem_cons, List.not_mem_nil,
      or_false] at h
    rcases h with rfl | rfl | rfl | rfl | rfl <;> decide

/-- A setup in which everything is kept changes nothing exactly if there was no path of a CA
certificate, no port for the health check but the default one, and one of the modes that can be
selected; or if the token is not verified anyway. -/
theorem kept_unchanged_iff (jwt : Jwt) (hkeeps : op.Keeps) {config : ConfigFile}
    (hload : ConfigFile.load toml m = some config) {password : String}
    (hpassword : config.password m.files = some password)
    (h : runSetup services toml m true .none op = .ok setup) :
    fromFiles jwt toml setup.files m.configDir = fromFiles jwt toml m.files m.configDir ↔
      (∀ claims, verifyToken jwt config.token ≠ .ok claims) ∨
        (config.dbSslCa = none ∧ (config.healthPort = none ∨ config.healthPort = some 9090) ∧
          config.dbSslMode ∈ SSL_OPTIONS.map fun o => some o.1) := by
  obtain ⟨dir, hafter⟩ := fromFiles_kept jwt hkeeps hload hpassword h
  have hbefore : fromFiles jwt toml m.files m.configDir =
      (verifyToken jwt config.token).map (effective config password) :=
    fromFiles_eq jwt hload hpassword
  rw [hafter, hbefore, map_effective_inj, ← some_defaultMode_eq_iff]
  apply or_congr_right
  -- the health port is dropped, which the default stands in for
  have hhealth : 9090 = config.healthPort.getD 9090 ↔
      config.healthPort = none ∨ config.healthPort = some 9090 := by
    cases config.healthPort with
    | none => simp
    | some port => simp [eq_comm]
  rw [← hhealth]
  have hca : none = config.dbSslCa ↔ config.dbSslCa = none := eq_comm
  simp only [effective, keptConfig, Option.getD_none, ConnectConfig.mk.injEq, true_and,
    forall_const, hca]
  tauto

/-! ### A second run -/

/-- An operator who keeps everything; what cannot be kept is not answered. -/
def keeping : Operator where
  inputText _ initial := if initial = "" then .error "read interrupted" else .ok initial
  inputText_ne_empty {_ initial line} h := by
    split at h
    · cases h
    · rename_i hne
      cases h
      exact hne
  inputPort _ initial := okOrElse "read interrupted" (parsePort initial)
  password _ := .error "read interrupted"
  password_ne_empty h := by cases h
  select _ _ selected := .ok selected
  newToken := .error "Timed out waiting for token (10 minutes). Run setup again to retry."

/-- The operator of the example keeps every value. -/
theorem keeps_keeping : keeping.Keeps where
  inputText {_ initial line} h := by
    simp only [keeping] at h
    split at h
    · cases h
    · exact (Except.ok.inj h).symm
  inputPort {_ port p} h := by
    simp only [keeping, parsePort_portText] at h
    exact (Except.ok.inj h).symm
  select h := (Except.ok.inj h).symm

def exampleConfig (sslCa : Option String) : ConfigFile where
  token := "eyJ"
  dbHost := "localhost"
  dbPort := 5432
  dbName := "app"
  dbUser := "app"
  dbPasswordFile := some "/home/app/.config/kyomi-connect/.db-password"
  dbSslMode := some "verify-ca"
  dbSslCa := sslCa
  healthPort := none

/-- A machine with this configuration. -/
def configured (sslCa : Option String) : Machine where
  env _ := none
  files := (freshMachine.files.write (passwordPath "/home/app/.config") "secret").write
    (configPath "/home/app/.config")
    (ConfigFile.documents.toStringPretty (exampleConfig sslCa))
  configDir := some "/home/app/.config"

/-- The configuration of the example is loaded. -/
theorem load_configured (sslCa : Option String) :
    ConfigFile.load ConfigFile.documents (configured sslCa) = some (exampleConfig sslCa) := by
  have hdir : (configured sslCa).configDir = some "/home/app/.config" := rfl
  apply ConfigFile.load_of_written hdir
  exact FileSystem.write_self (configPath "/home/app/.config") _
    (freshMachine.files.write (passwordPath "/home/app/.config") "secret")

theorem password_configured (sslCa : Option String) :
    (exampleConfig sslCa).password (configured sslCa).files = some "secret" := rfl

/-- How setup ends there if everything is kept. -/
def keptSetup (sslCa : Option String) : Setup where
  collected :=
    { token := "eyJ", dbType := "postgres", dbHost := "localhost", dbPort := 5432, dbName := "app"
      dbUser := "app", dbPassword := "secret", dbSslMode := "verify-ca" }
  connected := .ok ()
  files := ((configured sslCa).files.write (passwordPath "/home/app/.config") "secret").write
    (configPath "/home/app/.config")
    (ConfigFile.documents.toStringPretty (keptConfig "/home/app/.config" (exampleConfig sslCa)))

/-- The setup of the example, with every value kept. -/
theorem runSetup_configured (sslCa : Option String) :
    runSetup exampleServices ConfigFile.documents (configured sslCa) true .none keeping =
      .ok (keptSetup sslCa) := by
  have hcollect : collect exampleServices (configured sslCa) true .none keeping
      (some (exampleConfig sslCa)) = .ok (keptSetup sslCa).collected := by
    have hport : collectPort 5432 none true keeping (some (exampleConfig sslCa).dbPort) =
        .ok 5432 := by
      simp only [collectPort, keeping, Option.getD_some, parsePort_portText, okOrElse, if_true,
        exampleConfig]
    change (do
      let dbPort ← collectPort 5432 none true keeping (some (exampleConfig sslCa).dbPort)
      return { (keptSetup sslCa).collected with dbPort } : Except String Collected) = _
    rw [hport]
    rfl
  unfold runSetup
  rw [load_configured, hcollect]
  rfl

/-- Without a CA certificate everything is as it was. -/
theorem configured_unchanged :
    fromFiles exampleJwt ConfigFile.documents (keptSetup none).files (some "/home/app/.config") =
      fromFiles exampleJwt ConfigFile.documents (configured none).files
        (some "/home/app/.config") :=
  (kept_unchanged_iff exampleJwt keeps_keeping (load_configured none) (password_configured none)
    (runSetup_configured none)).2 (Or.inr ⟨rfl, Or.inl rfl, by decide⟩)

/-- The path of a CA certificate is lost. -/
theorem ca_certificate_lost :
    keeping.Keeps ∧
      runSetup exampleServices ConfigFile.documents (configured (some "/etc/ssl/ca.pem")) true
        .none keeping = .ok (keptSetup (some "/etc/ssl/ca.pem")) ∧
      fromFiles exampleJwt ConfigFile.documents (keptSetup (some "/etc/ssl/ca.pem")).files
          (some "/home/app/.config") ≠
        fromFiles exampleJwt ConfigFile.documents (configured (some "/etc/ssl/ca.pem")).files
          (some "/home/app/.config") := by
  have hrun := runSetup_configured (some "/etc/ssl/ca.pem")
  refine ⟨keeps_keeping, hrun, ?_⟩
  obtain ⟨dir, hafter⟩ := fromFiles_kept exampleJwt keeps_keeping
    (load_configured (some "/etc/ssl/ca.pem")) (password_configured _) hrun
  have hbefore := fromFiles_eq exampleJwt (load_configured (some "/etc/ssl/ca.pem"))
    (password_configured _)
  intro heq
  have hconfigs := hafter.symm.trans (heq.trans hbefore)
  -- the certificate is in the file before and not after
  have hca := congrArg (Except.map ConnectConfig.dbSslCa) hconfigs
  cases hca

end Wizard

end KyomiConnect
