import KyomiConnect.AgentConfig
import KyomiConnect.Lib.EnvFile

/-! # The service's environment

`service::install` writes the values of the configuration file into an environment file, a line
for each, as they are. The service manager reads that file with its own rules for blanks, quotes
and backslashes, and the agent takes its configuration from the variables that come out.
-/

namespace KyomiConnect.Service

/-! ## The environment file -/

/-- The environment file that `install` writes for a configuration file. -/
def envContent (config : ConfigFile) : String :=
  let required := "KYOMI_TOKEN=" ++ config.token ++ "\nDB_HOST=" ++ config.dbHost ++
    "\nDB_PORT=" ++ portText config.dbPort ++ "\nDB_NAME=" ++ config.dbName ++
    "\nDB_USER=" ++ config.dbUser ++ "\n"
  let passwordFile := config.dbPasswordFile.elim "" fun path => "DB_PASSWORD_FILE=" ++ path ++ "\n"
  let sslMode := config.dbSslMode.elim "" fun mode => "DB_SSL_MODE=" ++ mode ++ "\n"
  let sslCa := config.dbSslCa.elim "" fun ca => "DB_SSL_CA=" ++ ca ++ "\n"
  let healthPort := config.healthPort.elim "" fun port =>
    "HEALTH_PORT=" ++ portText port ++ "\n"
  required ++ passwordFile ++ sslMode ++ sslCa ++ healthPort ++ "RUST_LOG=info\n"

/-- The variables that `install` writes, and their values. -/
def assignments (config : ConfigFile) : List (String × Option String) :=
  [("KYOMI_TOKEN", some config.token), ("DB_HOST", some config.dbHost),
    ("DB_PORT", some (portText config.dbPort)), ("DB_NAME", some config.dbName),
    ("DB_USER", some config.dbUser), ("DB_PASSWORD_FILE", config.dbPasswordFile),
    ("DB_SSL_MODE", config.dbSslMode), ("DB_SSL_CA", config.dbSslCa),
    ("HEALTH_PORT", config.healthPort.map portText), ("RUST_LOG", some "info")]

/-- The names of the variables. -/
def names : List String :=
  ["KYOMI_TOKEN", "DB_HOST", "DB_PORT", "DB_NAME", "DB_USER", "DB_PASSWORD_FILE", "DB_SSL_MODE",
    "DB_SSL_CA", "HEALTH_PORT", "RUST_LOG"]

/-- The lines of the environment file. -/
def lines (vars : List (String × Option String)) : List EnvFile.Entry :=
  vars.filterMap fun v => v.2.map fun value => (v.1.toList, value.toList)

/-- The lines are those of the variables that have a value. -/
theorem mem_lines {vars : List (String × Option String)} {e : EnvFile.Entry} :
    e ∈ lines vars ↔
      ∃ name value, (name, some value) ∈ vars ∧ e = (name.toList, value.toList) := by
  simp only [lines, List.mem_filterMap, Option.map_eq_some_iff, Prod.exists]
  constructor
  · rintro ⟨name, value, hmem, text, rfl, rfl⟩
    exact ⟨name, text, hmem, rfl⟩
  · rintro ⟨name, text, hmem, rfl⟩
    exact ⟨name, some text, hmem, text, rfl, rfl⟩

/-- A line, and the lines after it. -/
theorem render_lines_cons (name : String) (value : Option String)
    (more : List (String × Option String)) :
    EnvFile.render (lines ((name, value) :: more)) =
      (value.elim "" fun v => name ++ "=" ++ v ++ "\n").toList ++ EnvFile.render (lines more) := by
  cases value with
  | none => rfl
  | some v => simp [lines, EnvFile.render]

/-- The text of the file, with the names of the variables in place of what is written. -/
theorem toList_text (token host port dbName user password mode ca health log : String)
    (config : ConfigFile) :
    (token ++ "=" ++ config.token ++ ("\n" ++ host ++ "=") ++ config.dbHost ++
        ("\n" ++ port ++ "=") ++ portText config.dbPort ++ ("\n" ++ dbName ++ "=") ++
        config.dbName ++ ("\n" ++ user ++ "=") ++ config.dbUser ++ "\n" ++
        (config.dbPasswordFile.elim "" fun v => password ++ "=" ++ v ++ "\n") ++
        (config.dbSslMode.elim "" fun v => mode ++ "=" ++ v ++ "\n") ++
        (config.dbSslCa.elim "" fun v => ca ++ "=" ++ v ++ "\n") ++
        (config.healthPort.elim "" fun v => health ++ "=" ++ portText v ++ "\n") ++
        (log ++ "=" ++ "info" ++ "\n")).toList =
      EnvFile.render (lines [(token, some config.token), (host, some config.dbHost),
        (port, some (portText config.dbPort)), (dbName, some config.dbName),
        (user, some config.dbUser), (password, config.dbPasswordFile), (mode, config.dbSslMode),
        (ca, config.dbSslCa), (health, config.healthPort.map portText), (log, some "info")]) := by
  have hempty : EnvFile.render (lines []) = [] := rfl
  simp only [render_lines_cons, hempty, Option.elim_some, Option.elim_map, String.toList_append,
    List.append_assoc, List.append_nil]
  rfl

/-- The file is the rendering of its lines. -/
theorem toList_envContent (config : ConfigFile) :
    (envContent config).toList = EnvFile.render (lines (assignments config)) := by
  have htoken : "KYOMI_TOKEN=" = "KYOMI_TOKEN" ++ "=" := by decide
  have hhost : "\nDB_HOST=" = "\n" ++ "DB_HOST" ++ "=" := by decide
  have hport : "\nDB_PORT=" = "\n" ++ "DB_PORT" ++ "=" := by decide
  have hname : "\nDB_NAME=" = "\n" ++ "DB_NAME" ++ "=" := by decide
  have huser : "\nDB_USER=" = "\n" ++ "DB_USER" ++ "=" := by decide
  have hpassword : "DB_PASSWORD_FILE=" = "DB_PASSWORD_FILE" ++ "=" := by decide
  have hmode : "DB_SSL_MODE=" = "DB_SSL_MODE" ++ "=" := by decide
  have hca : "DB_SSL_CA=" = "DB_SSL_CA" ++ "=" := by decide
  have hhealth : "HEALTH_PORT=" = "HEALTH_PORT" ++ "=" := by decide
  have hlog : "RUST_LOG=info\n" = "RUST_LOG" ++ "=" ++ "info" ++ "\n" := by decide
  unfold envContent
  dsimp only
  rw [htoken, hhost, hport, hname, huser, hpassword, hmode, hca, hhealth, hlog]
  exact toList_text "KYOMI_TOKEN" "DB_HOST" "DB_PORT" "DB_NAME" "DB_USER" "DB_PASSWORD_FILE"
    "DB_SSL_MODE" "DB_SSL_CA" "HEALTH_PORT" "RUST_LOG" config

theorem map_fst_assignments (config : ConfigFile) : (assignments config).map Prod.fst = names := rfl

/-! ## What the service manager reads -/

/-- No variable comes twice. -/
theorem nodup_names : (names.map String.toList).Nodup := by decide

/-- Every variable has a proper name. -/
theorem isName_of_mem_names {name : String} (h : name ∈ names) :
    EnvFile.isName name.toList = true := by
  have hall : names.all (fun name => EnvFile.isName name.toList) = true := by decide
  exact List.all_eq_true.1 hall name h

/-- What is assigned is one of the variables. -/
theorem name_mem_names {config : ConfigFile} {name : String} {value : Option String}
    (h : (name, value) ∈ assignments config) : name ∈ names := by
  rw [← map_fst_assignments config]
  exact List.mem_map_of_mem h

/-- Every line has a proper name. -/
theorem isName_of_mem_lines {config : ConfigFile} :
    ∀ e ∈ lines (assignments config), EnvFile.isName e.1 = true := by
  intro e he
  obtain ⟨name, value, hmem, rfl⟩ := mem_lines.1 he
  exact isName_of_mem_names (name_mem_names hmem)

/-- The lines' names are among the variables', in their order. -/
theorem sublist_map_fst_lines (vars : List (String × Option String)) :
    ((lines vars).map Prod.fst).Sublist ((vars.map Prod.fst).map String.toList) := by
  induction vars with
  | nil => exact List.Sublist.slnil
  | cons v vars ih =>
      rcases v with ⟨name, value⟩
      cases value with
      | none => exact ih.cons _
      | some value => exact ih.cons_cons _

/-- No line comes twice. -/
theorem nodup_lines (config : ConfigFile) : ((lines (assignments config)).map Prod.fst).Nodup := by
  have hsublist := sublist_map_fst_lines (assignments config)
  rw [map_fst_assignments] at hsublist
  exact hsublist.nodup nodup_names

/-- A name has one value. -/
theorem value_unique {config : ConfigFile} {name : String} {value value' : Option String}
    (h : (name, value) ∈ assignments config) (h' : (name, value') ∈ assignments config) :
    value = value' := by
  have hnodup : ((assignments config).map Prod.fst).Nodup := by
    rw [map_fst_assignments]
    decide
  exact congrArg Prod.snd (List.inj_on_of_nodup_map hnodup h h' rfl)

/-- The variables of a process that the service manager starts with these assignments. -/
def serviceEnv (entries : List EnvFile.Entry) (name : String) : Option String :=
  (EnvFile.assigned entries name.toList).map String.ofList

/-- What the service has in its environment is assigned in the file. -/
theorem assigned_of_serviceEnv {entries : List EnvFile.Entry} {name value : String}
    (h : serviceEnv entries name = some value) :
    EnvFile.assigned entries name.toList = some value.toList := by
  obtain ⟨cs, hcs, rfl⟩ := Option.map_eq_some_iff.1 h
  rw [hcs, String.toList_ofList]

/-- A variable of a file that is read as it is written. -/
theorem serviceEnv_lines {config : ConfigFile} {name : String} {value : Option String}
    (h : (name, value) ∈ assignments config) :
    serviceEnv (lines (assignments config)) name = value := by
  cases value with
  | some value =>
      have hmem : (name.toList, value.toList) ∈ lines (assignments config) :=
        mem_lines.2 ⟨name, value, h, rfl⟩
      have hassigned := EnvFile.assigned_of_nodup (nodup_lines config) hmem
        (isName_of_mem_lines _ hmem)
      rw [serviceEnv, hassigned, Option.map_some, String.ofList_toList]
  | none =>
      have hnone : ∀ e ∈ lines (assignments config), e.1 ≠ name.toList := by
        intro e he hname
        obtain ⟨other, value, hmem, rfl⟩ := mem_lines.1 he
        have hother : other = name := String.toList_inj.1 hname
        rw [hother] at hmem
        cases value_unique hmem h
      rw [serviceEnv, EnvFile.assigned_eq_none hnone, Option.map_none]

/-- Nothing but the variables that `install` writes is assigned. -/
def OnlyNames (env : String → Option String) : Prop := ∀ name, env name ≠ none → name ∈ names

/-- The file assigns no other variables. -/
theorem onlyNames_lines (config : ConfigFile) :
    OnlyNames (serviceEnv (lines (assignments config))) := by
  intro name hassigned
  obtain ⟨value, hvalue⟩ := Option.ne_none_iff_exists'.1 hassigned
  have hmem := (EnvFile.isName_of_assigned (assigned_of_serviceEnv hvalue)).2
  obtain ⟨other, text, hother, heq⟩ := mem_lines.1 hmem
  have hname : name = other := String.toList_inj.1 (congrArg Prod.fst heq)
  rw [hname]
  exact name_mem_names hother

/-- Any other variable is not set. -/
theorem OnlyNames.eq_none {env : String → Option String} (h : OnlyNames env) {name : String}
    (hname : name ∉ names) : env name = none := by
  by_contra hne
  exact hname (h name hne)

/-! ## The fields -/

/-- The texts that come from the configuration file as they are. -/
def texts (config : ConfigFile) : List String :=
  [config.token, config.dbHost, config.dbName, config.dbUser] ++
    (config.dbPasswordFile.toList ++ (config.dbSslMode.toList ++ config.dbSslCa.toList))

/-- A process that has only these variables. -/
def process (env : String → Option String) (files : FileSystem) (configDir : Option String) :
    Machine := { env, files, configDir }

/-- What the agent reads, if nothing but the variables that `install` writes is assigned. -/
theorem readFields_process {env : String → Option String} (h : OnlyNames env)
    (files : FileSystem) (configDir : Option String) (fallback : Option ConfigFile) :
    readFields (process env files configDir) fallback =
      { token := (env "KYOMI_TOKEN").or (fallback.map ConfigFile.token)
        dbHost := (env "DB_HOST").or (fallback.map ConfigFile.dbHost)
        dbPort := (env "DB_PORT").or (fallback.map fun cf => portText cf.dbPort)
        dbUser := (env "DB_USER").or (fallback.map ConfigFile.dbUser)
        dbPassword :=
          ((env "DB_PASSWORD_FILE").bind fun path => (files.readToString path).map Text.trim).or
            (fallback.bind (ConfigFile.password files))
        dbName := (env "DB_NAME").or (fallback.map ConfigFile.dbName)
        dbSslMode := (env "DB_SSL_MODE").or (fallback.bind ConfigFile.dbSslMode)
        dbSslCa := (env "DB_SSL_CA").or (fallback.bind ConfigFile.dbSslCa)
        healthPort :=
          (env "HEALTH_PORT").or ((fallback.bind ConfigFile.healthPort).map portText) } := by
  have hplain {name : String} (hfile : name ++ "_FILE" ∉ names) :
      readEnvOrFile (process env files configDir) name = env name := by
    have hnone := h.eq_none hfile
    simp only [readEnvOrFile, process, hnone]
    cases env name <;> rfl
  have hpassword : readEnvOrFile (process env files configDir) "DB_PASSWORD" =
      (env "DB_PASSWORD_FILE").bind fun path => (files.readToString path).map Text.trim := by
    have hunset : env "DB_PASSWORD" = none := h.eq_none (by decide)
    have hname : "DB_PASSWORD" ++ "_FILE" = "DB_PASSWORD_FILE" := by decide
    simp only [readEnvOrFile, process, hunset, hname]
    cases env "DB_PASSWORD_FILE" <;> rfl
  have hhost : "DB_HOST" ++ "_FILE" ∉ names := by decide
  have hport : "DB_PORT" ++ "_FILE" ∉ names := by decide
  have huser : "DB_USER" ++ "_FILE" ∉ names := by decide
  have hname : "DB_NAME" ++ "_FILE" ∉ names := by decide
  have hmode : "DB_SSL_MODE" ++ "_FILE" ∉ names := by decide
  have hca : "DB_SSL_CA" ++ "_FILE" ∉ names := by decide
  have hhealth : "HEALTH_PORT" ++ "_FILE" ∉ names := by decide
  rw [readFields, hpassword, hplain hhost, hplain hport, hplain huser, hplain hname, hplain hmode,
    hplain hca, hplain hhealth]
  rfl

/-- A variable that is not set, and a file with nothing to fall back on. -/
theorem readFields_bare (files : FileSystem) (configDir : Option String) (config : ConfigFile) :
    readFields (Machine.bare files configDir) (some config) =
      { token := some config.token
        dbHost := some config.dbHost
        dbPort := some (portText config.dbPort)
        dbUser := some config.dbUser
        dbPassword := config.password files
        dbName := some config.dbName
        dbSslMode := config.dbSslMode
        dbSslCa := config.dbSslCa
        healthPort := config.healthPort.map portText } := rfl

/-- Two paths at which the same is read whatever the files are. -/
theorem path_eq {o o' : Option String}
    (h : ∀ files : FileSystem, (o.bind fun path => (files.readToString path).map Text.trim) =
      (o'.bind files.readToString).map Text.trim) : o = o' := by
  -- a file system with one file
  let only (path : String) : FileSystem := fun p => if p = path then .text "" else .missing
  have hread (path p : String) :
      (only path).readToString p = if p = path then some "" else none := by
    by_cases hp : p = path <;> simp [only, FileSystem.readToString, hp]
  cases o with
  | some path =>
      have hpath := h (only path)
      rw [Option.bind_some, hread, if_pos rfl] at hpath
      cases o' with
      | none => cases hpath
      | some path' =>
          rw [Option.bind_some, hread] at hpath
          split at hpath
          · rename_i heq
            rw [heq]
          · cases hpath
  | none =>
      cases o' with
      | none => rfl
      | some path' =>
          have hpath := h (only path')
          rw [Option.bind_some, hread, if_pos rfl] at hpath
          cases hpath

/-- What the variables have to be for the agent to read the values of the file. -/
theorem assignments_of_fields {env : String → Option String} (honly : OnlyNames env)
    {config : ConfigFile}
    (h : ∀ files configDir, readFields (process env files configDir) none =
      readFields (Machine.bare files configDir) (some config)) :
    ∀ v ∈ assignments config, v.1 = "RUST_LOG" ∨ env v.1 = v.2 := by
  simp only [readFields_process honly, readFields_bare, Option.map_none, Option.bind_none,
    Option.or_none, Fields.mk.injEq] at h
  have hfields := h (fun _ => .missing) none
  have hpath : env "DB_PASSWORD_FILE" = config.dbPasswordFile :=
    path_eq fun files => (h files none).2.2.2.2.1
  simp only [assignments, List.forall_mem_cons]
  refine ⟨Or.inr hfields.1, Or.inr hfields.2.1, Or.inr hfields.2.2.1,
    Or.inr hfields.2.2.2.2.2.1, Or.inr hfields.2.2.2.1, Or.inr hpath,
    Or.inr hfields.2.2.2.2.2.2.1, Or.inr hfields.2.2.2.2.2.2.2.1,
    Or.inr hfields.2.2.2.2.2.2.2.2, Or.inl trivial, by simp⟩

/-- A port is written in digits. -/
theorem isNameChar_portText {port : UInt16} {c : Char} (h : c ∈ (portText port).toList) :
    EnvFile.isNameChar c = true := by
  have hdigit := isDigit_of_mem_portText h
  simp [EnvFile.isNameChar, Char.isAlphanum, hdigit]

/-- A text of the configuration stands in one of the lines. -/
theorem mem_texts {config : ConfigFile} {s : String} (h : s ∈ texts config) :
    ∃ name, (name, some s) ∈ assignments config := by
  simp only [texts, List.mem_append, List.mem_cons, Option.mem_toList, List.not_mem_nil,
    or_false] at h
  rcases h with (rfl | rfl | rfl | rfl) | h | h | h
  · exact ⟨"KYOMI_TOKEN", by simp [assignments]⟩
  · exact ⟨"DB_HOST", by simp [assignments]⟩
  · exact ⟨"DB_NAME", by simp [assignments]⟩
  · exact ⟨"DB_USER", by simp [assignments]⟩
  · exact ⟨"DB_PASSWORD_FILE", by simp [assignments, h]⟩
  · exact ⟨"DB_SSL_MODE", by simp [assignments, h]⟩
  · exact ⟨"DB_SSL_CA", by simp [assignments, h]⟩

/-- The level `info` needs no quotes. -/
theorem bare_info : EnvFile.Bare "info".toList :=
  EnvFile.bare_of_isNameChar (List.all_eq_true.1 (by decide))

/-- A value that is written comes from the configuration file as it is, or is bare. -/
theorem texts_or_bare {config : ConfigFile} {name s : String}
    (h : (name, some s) ∈ assignments config) : s ∈ texts config ∨ EnvFile.Bare s.toList := by
  have hport {port : UInt16} : EnvFile.Bare (portText port).toList :=
    EnvFile.bare_of_isNameChar fun c hc => isNameChar_portText hc
  simp only [assignments, List.mem_cons, Prod.mk.injEq, Option.some.injEq, List.not_mem_nil,
    or_false] at h
  rcases h with ⟨-, rfl⟩ | ⟨-, rfl⟩ | ⟨-, rfl⟩ | ⟨-, rfl⟩ | ⟨-, rfl⟩ | ⟨-, h⟩ | ⟨-, h⟩ | ⟨-, h⟩ |
    ⟨-, h⟩ | ⟨-, rfl⟩
  · exact Or.inl (by simp [texts])
  · exact Or.inl (by simp [texts])
  · exact Or.inr hport
  · exact Or.inl (by simp [texts])
  · exact Or.inl (by simp [texts])
  · exact Or.inl (by simp [texts, ← h])
  · exact Or.inl (by simp [texts, ← h])
  · exact Or.inl (by simp [texts, ← h])
  · obtain ⟨port, -, rfl⟩ := Option.map_eq_some_iff.1 h.symm
    exact Or.inr hport
  · exact Or.inr bare_info

/-- If the texts of a configuration are plain, all values are. -/
theorem plain_lines {config : ConfigFile} (h : ∀ s ∈ texts config, EnvFile.Plain s.toList) :
    ∀ e ∈ lines (assignments config), EnvFile.Plain e.2 := by
  intro e he
  obtain ⟨name, value, hmem, rfl⟩ := mem_lines.1 he
  rcases texts_or_bare hmem with htext | hbare
  · exact h value htext
  · exact hbare.toPlain

/-- The fields that the service reads from its environment are the configuration's. -/
theorem serviceEnv_fields (config : ConfigFile) (files : FileSystem) (configDir : Option String)
    {fallback : Option ConfigFile} (hfallback : fallback = none ∨ fallback = some config) :
    readFields (process (serviceEnv (lines (assignments config))) files configDir) fallback =
      readFields (Machine.bare files configDir) (some config) := by
  have htoken : ("KYOMI_TOKEN", some config.token) ∈ assignments config := by simp [assignments]
  have hhost : ("DB_HOST", some config.dbHost) ∈ assignments config := by simp [assignments]
  have hport : ("DB_PORT", some (portText config.dbPort)) ∈ assignments config := by
    simp [assignments]
  have hname : ("DB_NAME", some config.dbName) ∈ assignments config := by simp [assignments]
  have huser : ("DB_USER", some config.dbUser) ∈ assignments config := by simp [assignments]
  have hpath : ("DB_PASSWORD_FILE", config.dbPasswordFile) ∈ assignments config := by
    simp [assignments]
  have hmode : ("DB_SSL_MODE", config.dbSslMode) ∈ assignments config := by simp [assignments]
  have hca : ("DB_SSL_CA", config.dbSslCa) ∈ assignments config := by simp [assignments]
  have hhealth : ("HEALTH_PORT", config.healthPort.map portText) ∈ assignments config := by
    simp [assignments]
  rw [readFields_process (onlyNames_lines config), readFields_bare, serviceEnv_lines htoken,
    serviceEnv_lines hhost, serviceEnv_lines hport, serviceEnv_lines hname, serviceEnv_lines huser,
    serviceEnv_lines hpath, serviceEnv_lines hmode, serviceEnv_lines hca, serviceEnv_lines hhealth]
  have hpassword : (config.dbPasswordFile.bind fun path =>
      (files.readToString path).map Text.trim) = config.password files := by
    rw [ConfigFile.password, Option.map_bind]
    rfl
  rw [hpassword]
  rcases hfallback with rfl | rfl
  · simp only [Option.map_none, Option.bind_none, Option.or_none]
  · simp only [Option.map_some, Option.bind_some, Option.or_self]

/-- The service's agent reads the values of the configuration file, and nothing else is assigned,
exactly if every text in it is plain. -/
theorem service_fields_iff (config : ConfigFile) :
    (∃ entries, EnvFile.load (envContent config).toList = some entries ∧
      OnlyNames (serviceEnv entries) ∧
      ∀ files configDir, readFields (process (serviceEnv entries) files configDir) none =
        readFields (Machine.bare files configDir) (some config)) ↔
    ∀ s ∈ texts config, EnvFile.Plain s.toList := by
  rw [toList_envContent]
  constructor
  · rintro ⟨entries, hload, honly, hfields⟩ s hs
    have hvars := assignments_of_fields honly hfields
    have hlines : ∀ e ∈ lines (assignments config),
        EnvFile.Bare e.2 ∨ EnvFile.assigned entries e.1 = some e.2 := by
      intro e he
      obtain ⟨name, value, hmem, rfl⟩ := mem_lines.1 he
      rcases hvars _ hmem with hlog | hassigned
      · left
        have hname : name = "RUST_LOG" := hlog
        subst hname
        have hinfo : ("RUST_LOG", some "info") ∈ assignments config := by simp [assignments]
        have hvalue : value = "info" := Option.some.inj (value_unique hmem hinfo)
        rw [hvalue]
        exact bare_info
      · exact Or.inr (assigned_of_serviceEnv hassigned)
    have hplain := EnvFile.plain_of_assigned isName_of_mem_lines (nodup_lines config) hload hlines
    obtain ⟨name, hmem⟩ := mem_texts hs
    exact hplain (name.toList, s.toList) (mem_lines.2 ⟨name, s, hmem, rfl⟩)
  · intro hplain
    refine ⟨lines (assignments config),
      EnvFile.load_render isName_of_mem_lines (plain_lines hplain),
      onlyNames_lines config, ?_⟩
    intro files configDir
    exact serviceEnv_fields config files configDir (Or.inl rfl)

/-- A login whose domain is separated by a backslash. -/
def domainConfig : ConfigFile where
  token := "eyJ"
  dbHost := "localhost"
  dbPort := 1433
  dbName := "app"
  dbUser := "CORP\\app"
  dbPasswordFile := none
  dbSslMode := none
  dbSslCa := none
  healthPort := none

/-- What the service manager makes of a user name with a backslash. -/
theorem load_domainConfig : EnvFile.load (envContent domainConfig).toList =
    some [("KYOMI_TOKEN".toList, "eyJ".toList), ("DB_HOST".toList, "localhost".toList),
      ("DB_PORT".toList, "1433".toList), ("DB_NAME".toList, "app".toList),
      ("DB_USER".toList, "CORPapp".toList), ("RUST_LOG".toList, "info".toList)] := by
  decide +kernel

/-- The service manager takes the backslash for an escape. -/
theorem domain_not_read :
    ¬∃ entries, EnvFile.load (envContent domainConfig).toList = some entries ∧
      OnlyNames (serviceEnv entries) ∧
      ∀ files configDir, readFields (process (serviceEnv entries) files configDir) none =
        readFields (Machine.bare files configDir) (some domainConfig) := by
  rintro ⟨entries, hload, honly, hfields⟩
  have huser := congrArg Fields.dbUser (hfields (fun _ => .missing) none)
  rw [readFields_process honly, readFields_bare] at huser
  rw [load_domainConfig] at hload
  cases hload
  exact absurd huser (by decide +kernel)

/-! ## The agent -/

/-- The agent of the service has the configuration that it would have from the file alone,
whether or not it finds the file as well. -/
theorem fromEnv_service (jwt : Jwt) {toml : Toml} {config : ConfigFile}
    (hplain : ∀ s ∈ texts config, EnvFile.Plain s.toList) (files : FileSystem)
    (configDir : Option String) :
    ∃ entries, EnvFile.load (envContent config).toList = some entries ∧
      ∀ fallback, ConfigFile.load toml (process (serviceEnv entries) files configDir) = fallback →
        fallback = none ∨ fallback = some config →
        ConnectConfig.fromEnv jwt toml (process (serviceEnv entries) files configDir) =
          ConnectConfig.fromEnvWith jwt (Machine.bare files configDir) (some config) := by
  refine ⟨lines (assignments config), ?_, ?_⟩
  · rw [toList_envContent]
    exact EnvFile.load_render isName_of_mem_lines (plain_lines hplain)
  · intro fallback hload hfallback
    rw [ConnectConfig.fromEnv, hload, ConnectConfig.fromEnvWith, ConnectConfig.fromEnvWith,
      serviceEnv_fields config files configDir hfallback]

end KyomiConnect.Service
