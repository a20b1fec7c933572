import KyomiConnect.Catalog
import KyomiConnect.Lib.SqlLiteral

/-! # Names in the catalog queries

`discover_tables` and `discover_columns` write the names of containers and tables into
string literals with `escape_sql_literal`, which doubles quotes, for every database
type. In MySQL, ClickHouse and Redshift a backslash is an escape character in such a
literal, and in T-SQL a literal without a leading `N` is converted to the code page of the
database: `names_quoted_iff` says for which names the query is about that name, and
otherwise the query that it should be.
-/

namespace KyomiConnect

open SqlLiteral (Dialect Piece Rules Sequence render double Separate)

/-! ## The literals of the dialects -/

/-- Standard string literals: PostgreSQL with `standard_conforming_strings`. -/
def standardLiterals : Rules where
  quote := Char.ofNat 0x27
  escape := none
  denotes c := .text [c]
  escape_ne := nofun
  denotes_quote := rfl
  hexDigit_quote := by decide
  denotes_text := nofun

/-- What a backslash and a character denote in MySQL's default mode. -/
def mysqlSequence (c : Char) : List Char :=
  match c with
  | '0' => [Char.ofNat 0]
  | 'b' => [Char.ofNat 8]
  | 'n' => ['\n']
  | 'r' => ['\r']
  | 't' => ['\t']
  | 'Z' => [Char.ofNat 0x1A]
  | '%' => ['\\', '%']
  | '_' => ['\\', '_']
  | c => [c]

def mysqlLiterals : Rules where
  quote := Char.ofNat 0x27
  escape := some '\\'
  denotes c := .text (mysqlSequence c)
  escape_ne := by decide
  denotes_quote := by decide
  hexDigit_quote := by decide
  denotes_text e c cs he hcs := by
    cases he
    cases hcs
    unfold mysqlSequence
    split <;> simp

/-- What a backslash and a character denote in ClickHouse. Before a character that is
not listed the backslash is literal. -/
def clickhouseSequence (c : Char) : Sequence :=
  match c with
  | 'x' => .byte
  | 'N' => .text []
  | '0' => .text [Char.ofNat 0]
  | 'a' => .text [Char.ofNat 7]
  | 'b' => .text [Char.ofNat 8]
  | 't' => .text ['\t']
  | 'n' => .text ['\n']
  | 'v' => .text [Char.ofNat 0xB]
  | 'f' => .text [Char.ofNat 0xC]
  | 'r' => .text ['\r']
  | 'e' => .text [Char.ofNat 0x1B]
  | c =>
      if c ∈ ['\\', Char.ofNat 0x27, '"', Char.ofNat 0x60, '/', '='] ∨ c.toNat < 0x20 then .text [c]
      else .text ['\\', c]

def clickhouseLiterals : Rules where
  quote := Char.ofNat 0x27
  escape := some '\\'
  denotes := clickhouseSequence
  escape_ne := by decide
  denotes_quote := by decide
  hexDigit_quote := by decide
  denotes_text e c cs he hcs := by
    cases he
    unfold clickhouseSequence at hcs
    split at hcs
    case h_1 => cases hcs
    case h_12 =>
      split at hcs
      · cases hcs
        exact .inr (le_refl 1)
      · cases hcs
        exact .inl rfl
    all_goals
      cases hcs
      right
      simp

/-- What a backslash and a character denote in Redshift, which has the literals of
PostgreSQL before `standard_conforming_strings`. A character that is not listed denotes
itself. -/
def redshiftSequence (c : Char) : Sequence :=
  match c with
  | 'b' => .text [Char.ofNat 8]
  | 'f' => .text [Char.ofNat 0xC]
  | 'n' => .text ['\n']
  | 'r' => .text ['\r']
  | 't' => .text ['\t']
  | c =>
      match SqlLiteral.octalDigit c with
      | some digit => .octal digit
      | none => .text [c]

/-- In Redshift a sequence denotes one character, whatever it is. -/
theorem length_redshiftSequence {c : Char} {cs : List Char}
    (h : redshiftSequence c = .text cs) : cs.length = 1 := by
  unfold redshiftSequence at h
  split at h
  case h_6 =>
    split at h
    · cases h
    · cases h
      rfl
  all_goals
    cases h
    rfl

def redshiftLiterals : Rules where
  quote := Char.ofNat 0x27
  escape := some '\\'
  denotes := redshiftSequence
  escape_ne := by decide
  denotes_quote := by decide
  hexDigit_quote := by decide
  denotes_text _ _ _ _ hcs := .inr (length_redshiftSequence hcs).le

/-! ### T-SQL -/

/-- How many code units a character has in UTF-16. -/
def unitsOf (c : Char) : ℕ := if c.toNat ≤ 0xFFFF then 1 else 2

/-- The length of a text in UTF-16. -/
def units (cs : List Char) : ℕ := (cs.map unitsOf).sum

/-- A code page, by what a character becomes that is converted to it: each of its code
units becomes one character of the code page. -/
structure CodePage where
  converts : Char → List Char
  units_converts : ∀ c, units (converts c) = units [c]

/-- A backslash before a line break continues a literal on the next line. -/
def joinLines : List Char → List Char
  | '\\' :: '\n' :: cs => joinLines cs
  | '\\' :: '\r' :: '\n' :: cs => joinLines cs
  | c :: cs => c :: joinLines cs
  | [] => []

/-- The literals of T-SQL without a leading `N`. -/
def tsqlLiterals (page : CodePage) : Dialect where
  rules := standardLiterals
  converts cs := (joinLines cs).flatMap page.converts
  plain := .inl rfl

/-- Literals that are taken as they are read. -/
def asRead (rules : Rules) : Dialect where
  rules := rules
  converts := id
  plain := .inr rfl

/-- The string literals of a database type. -/
def literalsOf (page : CodePage) (dbType : String) : Dialect :=
  match dbType with
  | "mysql" => asRead mysqlLiterals
  | "clickhouse" => asRead clickhouseLiterals
  | "redshift" => asRead redshiftLiterals
  | "sqlserver" | "synapse" => tsqlLiterals page
  | _ => asRead standardLiterals

/-! ## The names they denote -/

/-- A name that a literal with its quotes doubled denotes. -/
def denotesName (page : CodePage) (dbType name : String) : Bool :=
  (literalsOf page dbType).keeps name.toList

/-- Where literals are taken as they are read, escape sequences are all that matters. -/
theorem keeps_asRead (rules : Rules) (cs : List Char) :
    (asRead rules).keeps cs = SqlLiteral.keeps rules cs := by
  have hid : (asRead rules).converts cs = cs := rfl
  rw [Dialect.keeps, hid, beq_self_eq_true, Bool.and_true]
  rfl

/-- In MySQL: every backslash stands before a percent sign or an underscore. -/
theorem denotesName_mysql_iff (page : CodePage) (name : String) :
    denotesName page "mysql" name = true ↔ ∀ before after, name.toList = before ++ '\\' :: after →
      ∃ c, after.head? = some c ∧ (c = '%' ∨ c = '_') := by
  have hsequence (c : Char) : mysqlLiterals.denotes c = .text ['\\', c] ↔ c = '%' ∨ c = '_' := by
    change Sequence.text (mysqlSequence c) = _ ↔ _
    rw [Sequence.text.injEq]
    unfold mysqlSequence
    split <;> simp_all
  have hkeeps := @SqlLiteral.keeps_iff mysqlLiterals '\\' rfl (by decide) name.toList
  simp only [hsequence] at hkeeps
  rw [denotesName, literalsOf, keeps_asRead]
  exact hkeeps

/-- The characters that a backslash takes along in ClickHouse. -/
def clickhouseEscapes : List Char :=
  ['x', 'N', '0', 'a', 'b', 't', 'n', 'v', 'f', 'r', 'e', '\\', Char.ofNat 0x27, '"',
    Char.ofNat 0x60, '/', '=']

/-- In ClickHouse: every backslash stands before a character that it does not take along. -/
theorem denotesName_clickhouse_iff (page : CodePage) (name : String) :
    denotesName page "clickhouse" name = true ↔
      ∀ before after, name.toList = before ++ '\\' :: after →
        ∃ c, after.head? = some c ∧ c ∉ clickhouseEscapes ∧ 0x20 ≤ c.toNat := by
  have hsequence (c : Char) : clickhouseLiterals.denotes c = .text ['\\', c] ↔
      c ∉ clickhouseEscapes ∧ 0x20 ≤ c.toNat := by
    change clickhouseSequence c = _ ↔ _
    unfold clickhouseSequence
    split
    case h_12 hx hN h0 ha hb ht hn hv hf hr he =>
      have hcontrol : ¬ c.toNat < 0x20 ↔ 0x20 ≤ c.toNat := Nat.not_lt
      split
      · rename_i hlisted
        constructor
        · intro heq
          cases heq
        · rintro ⟨hnot, hle⟩
          rcases hlisted with hlisted | hlisted
          · exact absurd (List.mem_append_right ['x', 'N', '0', 'a', 'b', 't', 'n', 'v', 'f', 'r',
              'e'] hlisted) hnot
          · omega
      · rename_i hlisted
        rw [not_or, hcontrol] at hlisted
        refine iff_of_true rfl ⟨?_, hlisted.2⟩
        intro hmem
        rcases List.mem_append.1
          (show c ∈ ['x', 'N', '0', 'a', 'b', 't', 'n', 'v', 'f', 'r', 'e'] ++
          ['\\', Char.ofNat 0x27, '"', Char.ofNat 0x60, '/', '='] from hmem) with hmem | hmem
        · simp only [List.mem_cons, List.not_mem_nil, or_false] at hmem
          tauto
        · exact hlisted.1 hmem
    all_goals
      constructor
      · intro heq
        cases heq
      · rintro ⟨hnot, _⟩
        exact absurd (by decide) hnot
  have hkeeps := @SqlLiteral.keeps_iff clickhouseLiterals '\\' rfl (by decide) name.toList
  simp only [hsequence] at hkeeps
  rw [denotesName, literalsOf, keeps_asRead]
  exact hkeeps

/-- In Redshift: there is no backslash. -/
theorem denotesName_redshift_iff (page : CodePage) (name : String) :
    denotesName page "redshift" name = true ↔ '\\' ∉ name.toList := by
  have hsequence (c : Char) : redshiftLiterals.denotes c ≠ .text ['\\', c] := by
    intro h
    have hlength := length_redshiftSequence h
    cases hlength
  have hkeeps := @SqlLiteral.keeps_iff redshiftLiterals '\\' rfl (hsequence '\\') name.toList
  rw [denotesName, literalsOf, keeps_asRead, hkeeps]
  constructor
  · intro hall hmem
    obtain ⟨before, after, hsplit⟩ := List.append_of_mem hmem
    obtain ⟨c, _, hdenotes⟩ := hall before after hsplit
    exact hsequence c hdenotes
  · intro hnone before after hsplit
    exact absurd (by simp [hsplit]) hnone

/-- The empty name is kept by every dialect. -/
theorem keeps_nil (page : CodePage) (dbType : String) :
    (literalsOf page dbType).keeps [] = true := by
  unfold literalsOf
  split <;> rfl

/-- In PostgreSQL a doubled quote is all there is. -/
theorem denotesName_of_standard {page : CodePage} {dbType : String}
    (h : literalsOf page dbType = asRead standardLiterals) (name : String) :
    denotesName page dbType name = true := by
  rw [denotesName, h, keeps_asRead]
  exact SqlLiteral.keeps_of_none rfl _

section Tsql

/-- A character counts on its own. -/
theorem units_cons (c : Char) (cs : List Char) : units (c :: cs) = units [c] + units cs := by
  simp [units]

/-- Two texts count together. -/
theorem units_append (cs ds : List Char) : units (cs ++ ds) = units cs + units ds := by
  simp [units]

/-- Every character has a unit at least. -/
theorem units_singleton_pos (c : Char) : 0 < units [c] := by
  have hsize : 0 < unitsOf c := by
    unfold unitsOf
    split <;> decide
  simpa [units] using hsize

/-- Converting a text keeps its length. -/
theorem units_flatMap (page : CodePage) (cs : List Char) :
    units (cs.flatMap page.converts) = units cs := by
  -- character by character: a question mark stands for as many units as it replaces
  induction cs with
  | nil => rfl
  | cons c cs ih =>
      rw [List.flatMap_cons, units_append, page.units_converts, ih, ← units_cons]

/-- A text is converted to itself exactly if each of its characters is. -/
theorem flatMap_converts_eq_iff (page : CodePage) (cs : List Char) :
    cs.flatMap page.converts = cs ↔ ∀ c ∈ cs, page.converts c = [c] := by
  -- both sides have as many units, so the first characters are the same
  induction cs with
  | nil => simp
  | cons c cs ih =>
      rw [List.flatMap_cons, List.forall_mem_cons, ← ih]
      constructor
      · intro h
        -- what comes of `c` starts with it, and is not longer
        have hunits := page.units_converts c
        cases hconverts : page.converts c with
        | nil =>
            rw [hconverts] at hunits
            exact absurd hunits (units_singleton_pos c).ne
        | cons d ds =>
            rw [hconverts, List.cons_append] at h
            obtain ⟨rfl, hrest⟩ := List.cons.inj h
            rw [hconverts, units_cons] at hunits
            cases ds with
            | nil => exact ⟨rfl, hrest⟩
            | cons x xs =>
                have hpos := units_singleton_pos x
                rw [units_cons x xs] at hunits
                omega
      · rintro ⟨hc, hcs⟩
        rw [hc, hcs, List.singleton_append]

/-- No backslash before a line break. -/
def OnOneLine (cs : List Char) : Prop :=
  ¬ ['\\', '\n'] <:+: cs ∧ ¬ ['\\', '\r', '\n'] <:+: cs

/-- Joining lines shortens a text, or there is nothing to join. -/
theorem joinLines_cases (cs : List Char) :
    (OnOneLine cs ∧ joinLines cs = cs) ∨ (¬ OnOneLine cs ∧ units (joinLines cs) < units cs) := by
  have hle (ds : List Char) (h : (OnOneLine ds ∧ joinLines ds = ds) ∨
      (¬ OnOneLine ds ∧ units (joinLines ds) < units ds)) : units (joinLines ds) ≤ units ds := by
    rcases h with ⟨_, heq⟩ | ⟨_, hlt⟩
    · rw [heq]
    · exact hlt.le
  -- over the code's own recursion, which takes a backslash and its line break together
  induction cs using joinLines.induct with
  | case1 cs ih =>
      right
      refine ⟨fun hone => hone.1 ⟨[], cs, rfl⟩, ?_⟩
      have hcs := hle cs ih
      have hslash := units_singleton_pos '\\'
      rw [joinLines, units_cons, units_cons '\n']
      omega
  | case2 cs ih =>
      right
      refine ⟨fun hone => hone.2 ⟨[], cs, rfl⟩, ?_⟩
      have hcs := hle cs ih
      have hslash := units_singleton_pos '\\'
      rw [joinLines, units_cons, units_cons '\r', units_cons '\n']
      omega
  | case3 c cs hlf hcrlf ih =>
      rw [joinLines.eq_3 c cs hlf hcrlf]
      have hcons : OnOneLine (c :: cs) ↔ OnOneLine cs := by
        have hnlf : ¬ ['\\', '\n'] <+: c :: cs := by
          rintro ⟨ds, hds⟩
          obtain ⟨rfl, rfl⟩ := List.cons.inj hds
          exact hlf ds rfl rfl
        have hncrlf : ¬ ['\\', '\r', '\n'] <+: c :: cs := by
          rintro ⟨ds, hds⟩
          obtain ⟨rfl, rfl⟩ := List.cons.inj hds
          exact hcrlf ds rfl rfl
        rw [OnOneLine, OnOneLine, List.infix_cons_iff, List.infix_cons_iff, or_iff_right hnlf,
          or_iff_right hncrlf]
      rcases ih with ⟨hone, heq⟩ | ⟨hnot, hlt⟩
      · exact .inl ⟨hcons.2 hone, by rw [heq]⟩
      · refine .inr ⟨fun h => hnot (hcons.1 h), ?_⟩
        rw [units_cons, units_cons c cs]
        omega
  | case4 => exact .inl ⟨⟨by simp, by simp⟩, rfl⟩

/-- In T-SQL: the name has no line that is continued, and is in the code page. -/
theorem keeps_tsqlLiterals_iff (page : CodePage) (cs : List Char) :
    (tsqlLiterals page).keeps cs = true ↔
      OnOneLine cs ∧ ∀ c ∈ cs, page.converts c = [c] := by
  have hkeeps : SqlLiteral.keeps (tsqlLiterals page).rules cs = true :=
    SqlLiteral.keeps_of_none rfl cs
  rw [Dialect.keeps, hkeeps, Bool.true_and, beq_iff_eq]
  change (joinLines cs).flatMap page.converts = cs ↔ _
  rcases joinLines_cases cs with ⟨hone, heq⟩ | ⟨hnot, hlt⟩
  · rw [heq, flatMap_converts_eq_iff]
    exact (and_iff_right hone).symm
  · refine iff_of_false ?_ (fun h => hnot h.1)
    intro heq
    have hunits := congrArg units heq
    rw [units_flatMap] at hunits
    exact hlt.ne hunits

end Tsql

/-! ## The statements that are meant -/

/-- Code with names in it, each with the code that follows it. -/
def statement (before : String) (names : List (String × String)) : List Piece :=
  before.toList.map .code ++
    names.flatMap fun (name, after) => .literal name.toList :: after.toList.map .code

/-- The query for the tables of a container. -/
def tablesStatement (dbType container : String) : List Piece :=
  match dbType with
  | "postgres" | "redshift" =>
      statement ("SELECT table_name, table_type FROM information_schema.tables " ++
        "WHERE table_schema = ") [(container, " ORDER BY table_name")]
  | "mysql" =>
      statement ("SELECT TABLE_NAME, TABLE_TYPE FROM information_schema.TABLES " ++
        "WHERE TABLE_SCHEMA = ") [(container, " ORDER BY TABLE_NAME")]
  | "clickhouse" =>
      statement ("SELECT name, engine FROM system.tables " ++
        "WHERE database = ") [(container, " ORDER BY name")]
  | "sqlserver" | "synapse" =>
      statement ("SELECT TABLE_NAME, TABLE_TYPE FROM INFORMATION_SCHEMA.TABLES " ++
        "WHERE TABLE_SCHEMA = ") [(container, " ORDER BY TABLE_NAME")]
  | _ => []

/-- The query for the columns of a table. Where there are no comments the description
is an empty literal. -/
def columnsStatement (dbType container tableName : String) : List Piece :=
  match dbType with
  | "postgres" | "redshift" =>
      statement "SELECT column_name, data_type, "
        [("", " as description " ++ "FROM information_schema.columns " ++ "WHERE table_schema = "),
          (container, " AND table_name = "), (tableName, " " ++ "ORDER BY ordinal_position")]
  | "mysql" =>
      statement ("SELECT COLUMN_NAME, DATA_TYPE, COLUMN_COMMENT " ++
          "FROM information_schema.COLUMNS " ++ "WHERE TABLE_SCHEMA = ")
        [(container, " AND TABLE_NAME = "), (tableName, " " ++ "ORDER BY ORDINAL_POSITION")]
  | "clickhouse" =>
      statement ("SELECT name, type, comment " ++ "FROM system.columns " ++ "WHERE database = ")
        [(container, " AND table = "), (tableName, " " ++ "ORDER BY position")]
  | "sqlserver" | "synapse" =>
      statement "SELECT COLUMN_NAME, DATA_TYPE, "
        [("", " as description " ++ "FROM INFORMATION_SCHEMA.COLUMNS " ++ "WHERE TABLE_SCHEMA = "),
          (container, " AND TABLE_NAME = "), (tableName, " " ++ "ORDER BY ORDINAL_POSITION")]
  | _ => []

section Statement

variable {rules : Rules} {before : String} {names : List (String × String)}

/-- Code that can stand between literals: without quotes, and not empty. -/
def IsCode (rules : Rules) (text : String) : Prop := text.toList ≠ [] ∧ rules.quote ∉ text.toList

/-- Code comes between the names of a statement, so they are separate literals. -/
theorem separate_statement (hbefore : IsCode rules before)
    (hnames : ∀ p ∈ names, IsCode rules p.2) : Separate rules (statement before names) := by
  refine SqlLiteral.separate_code hbefore.2 ?_
  induction names with
  | nil => trivial
  | cons p names ih =>
      obtain ⟨hne, hnone⟩ := hnames p (List.mem_cons_self ..)
      rw [List.flatMap_cons]
      exact SqlLiteral.separate_literal hne hnone
        (ih fun q hq => hnames q (List.mem_cons_of_mem p hq)) _

/-- A statement as it is written. -/
theorem render_statement :
    render rules (statement before names) = before.toList ++ names.flatMap fun p =>
      rules.quote :: double rules p.1.toList ++ rules.quote :: p.2.toList := by
  rw [statement, SqlLiteral.render_code]
  congr 1
  -- name by name, with the code behind each
  induction names with
  | nil => rfl
  | cons p names ih =>
      rw [List.flatMap_cons, List.flatMap_cons, List.cons_append, render,
        SqlLiteral.render_code, ih]
      simp

/-- The literals of a statement are its names. -/
theorem literal_mem_statement {cs : List Char} :
    .literal cs ∈ statement before names ↔ ∃ p ∈ names, cs = p.1.toList := by
  simp only [statement, List.mem_append, List.mem_map, reduceCtorEq, and_false, exists_false,
    false_or, List.mem_flatMap, List.mem_cons, Piece.literal.injEq, or_false]

/-- A statement is read as it was meant exactly if its names are denoted. -/
theorem read_statement_iff {d : Dialect} (hbefore : IsCode d.rules before)
    (hnames : ∀ p ∈ names, IsCode d.rules p.2) :
    d.read (render d.rules (statement before names)) = some (statement before names) ↔
      ∀ p ∈ names, d.keeps p.1.toList = true := by
  rw [Dialect.read_render_iff (separate_statement hbefore hnames)]
  constructor
  · intro hall p hp
    exact hall _ (literal_mem_statement.2 ⟨p, hp, rfl⟩)
  · intro hall cs hcs
    obtain ⟨p, hp, rfl⟩ := literal_mem_statement.1 hcs
    exact hall p hp

end Statement

/-! ## The statements that are built -/

/-- A quoted name as the code writes it. -/
theorem escapeSqlLiteral_toList {rules : Rules} (hquote : rules.quote = Char.ofNat 0x27)
    (name : String) :
    ("'" ++ escapeSqlLiteral name ++ "'").toList =
      rules.quote :: double rules name.toList ++ [rules.quote] := by
  have hdoubled : (escapeSqlLiteral name).toList = double rules name.toList := by
    rw [escapeSqlLiteral, Text.replaceChar, String.toList_ofList, double, hquote]
    congr 1
    funext c
    by_cases hc : c = Char.ofNat 0x27
    · simp [hc]
    · simp [hc]
  rw [String.toList_append, String.toList_append, hdoubled, hquote]
  rfl

/-- Every dialect quotes with an apostrophe. -/
theorem quote_literalsOf (page : CodePage) (dbType : String) :
    (literalsOf page dbType).rules.quote = Char.ofNat 0x27 := by
  unfold literalsOf
  split <;> rfl

section Written

variable {rules : Rules} (hquote : rules.quote = Char.ofNat 0x27)
include hquote

/-- A statement with one name, as the code puts it together. -/
theorem written_one (before after name : String) :
    (before ++ ("'" ++ escapeSqlLiteral name ++ "'") ++ after).toList =
      render rules (statement before [(name, after)]) := by
  rw [render_statement, String.toList_append, String.toList_append,
    escapeSqlLiteral_toList hquote]
  simp

/-- A statement with two names. -/
theorem written_two (before between blank after name name' : String) :
    (before ++ ("'" ++ escapeSqlLiteral name ++ "'") ++ between ++
        ("'" ++ escapeSqlLiteral name' ++ "'") ++ blank ++ after).toList =
      render rules (statement before [(name, between), (name', blank ++ after)]) := by
  rw [render_statement, String.toList_append, String.toList_append, String.toList_append,
    String.toList_append, String.toList_append, escapeSqlLiteral_toList hquote,
    escapeSqlLiteral_toList hquote]
  simp

/-- The code before the names may have an empty literal in it. -/
theorem written_description {columns description select : String}
    (hselect : select.toList =
      columns.toList ++ Char.ofNat 0x27 :: Char.ofNat 0x27 :: description.toList)
    (tables between : String) (names : List (String × String)) :
    render rules (statement (select ++ tables ++ between) names) =
      render rules (statement columns (("", description ++ tables ++ between) :: names)) := by
  rw [render_statement, render_statement, String.toList_append, String.toList_append, hselect,
    hquote]
  simp [double, String.toList_append]

end Written

/-- The statement for the tables is the rendering of its pieces. -/
theorem toList_tablesSql {rules : Rules} (hquote : rules.quote = Char.ofNat 0x27)
    {dbType container sql : String} (h : tablesSql dbType container = some sql) :
    sql.toList = render rules (tablesStatement dbType container) := by
  unfold tablesSql at h
  dsimp only at h
  split at h <;> cases h
  · exact written_one hquote _ _ _
  · exact written_one hquote _ _ _
  · exact written_one hquote _ _ _
  · exact written_one hquote _ _ _
  · exact written_one hquote _ _ _
  · exact written_one hquote _ _ _

/-- The statement for the columns is the rendering of its pieces. -/
theorem toList_columnsSql {rules : Rules} (hquote : rules.quote = Char.ofNat 0x27)
    {dbType container tableName sql : String}
    (h : columnsSql dbType container tableName = some sql) :
    sql.toList = render rules (columnsStatement dbType container tableName) := by
  unfold columnsSql at h
  dsimp only at h
  split at h <;> cases h
  · exact (written_two hquote _ _ _ _ _ _).trans (written_description hquote (by decide) _ _ _)
  · exact (written_two hquote _ _ _ _ _ _).trans (written_description hquote (by decide) _ _ _)
  · exact written_two hquote _ _ _ _ _ _
  · exact written_two hquote _ _ _ _ _ _
  · exact (written_two hquote _ _ _ _ _ _).trans (written_description hquote (by decide) _ _ _)
  · exact (written_two hquote _ _ _ _ _ _).trans (written_description hquote (by decide) _ _ _)

/-! ## What the statements are about -/

/-- A text without apostrophes is code. -/
theorem isCode_of {rules : Rules} (hquote : rules.quote = Char.ofNat 0x27) {text : String}
    (h : (!text.toList.isEmpty && text.toList.all (· ≠ Char.ofNat 0x27)) = true) :
    IsCode rules text := by
  rw [Bool.and_eq_true, List.all_eq_true] at h
  constructor
  · intro hnil
    simp [hnil] at h
  · intro hmem
    have hne := h.2 _ (hquote ▸ hmem)
    simp at hne

/-- The statement for the tables is read as it is meant if and only if the container's name is
denoted. -/
theorem read_tablesSql_iff {page : CodePage} {dbType container sql : String}
    (h : tablesSql dbType container = some sql) :
    (literalsOf page dbType).read sql.toList = some (tablesStatement dbType container) ↔
      denotesName page dbType container = true := by
  have hquote := quote_literalsOf page dbType
  have hone {before after : String} (hbefore : IsCode (literalsOf page dbType).rules before)
      (hafter : IsCode (literalsOf page dbType).rules after) :
      (literalsOf page dbType).read (render (literalsOf page dbType).rules
          (statement before [(container, after)])) = some (statement before [(container, after)]) ↔
        denotesName page dbType container = true := by
    rw [read_statement_iff hbefore (by simpa using hafter)]
    simp [denotesName]
  rw [toList_tablesSql hquote h]
  unfold tablesSql at h
  unfold tablesStatement
  dsimp only at h
  split at h
  case h_7 => cases h
  all_goals exact hone (isCode_of hquote (by decide)) (isCode_of hquote (by decide))

/-- The statement for the columns is read as it is meant if and only if both names are denoted. -/
theorem read_columnsSql_iff {page : CodePage} {dbType container tableName sql : String}
    (h : columnsSql dbType container tableName = some sql) :
    (literalsOf page dbType).read sql.toList =
        some (columnsStatement dbType container tableName) ↔
      denotesName page dbType container = true ∧ denotesName page dbType tableName = true := by
  have hquote := quote_literalsOf page dbType
  have hempty : (literalsOf page dbType).keeps [] = true := keeps_nil page dbType
  rw [toList_columnsSql hquote h]
  unfold denotesName
  generalize literalsOf page dbType = d at hquote hempty
  have htwo {before between after : String} (hbefore : IsCode d.rules before)
      (hbetween : IsCode d.rules between) (hafter : IsCode d.rules after) :
      d.read (render d.rules (statement before [(container, between), (tableName, after)])) =
          some (statement before [(container, between), (tableName, after)]) ↔
        d.keeps container.toList = true ∧ d.keeps tableName.toList = true := by
    rw [read_statement_iff hbefore (by simp [hbetween, hafter])]
    simp
  -- the empty description is denoted in any dialect
  have hthree {before description between after : String} (hbefore : IsCode d.rules before)
      (hdescription : IsCode d.rules description) (hbetween : IsCode d.rules between)
      (hafter : IsCode d.rules after) :
      d.read (render d.rules
          (statement before [("", description), (container, between), (tableName, after)])) =
            some (statement before [("", description), (container, between), (tableName, after)]) ↔
        d.keeps container.toList = true ∧ d.keeps tableName.toList = true := by
    rw [read_statement_iff hbefore (by simp [hdescription, hbetween, hafter])]
    simp [hempty]
  have hcode {text : String}
      (h : (!text.toList.isEmpty && text.toList.all (· ≠ Char.ofNat 0x27)) = true) :
      IsCode d.rules text := isCode_of hquote h
  unfold columnsSql at h
  unfold columnsStatement
  dsimp only at h
  split at h
  · exact hthree (hcode (by decide)) (hcode (by decide)) (hcode (by decide)) (hcode (by decide))
  · exact hthree (hcode (by decide)) (hcode (by decide)) (hcode (by decide)) (hcode (by decide))
  · exact htwo (hcode (by decide)) (hcode (by decide)) (hcode (by decide))
  · exact htwo (hcode (by decide)) (hcode (by decide)) (hcode (by decide))
  · exact hthree (hcode (by decide)) (hcode (by decide)) (hcode (by decide)) (hcode (by decide))
  · exact hthree (hcode (by decide)) (hcode (by decide)) (hcode (by decide)) (hcode (by decide))
  · cases h

/-- The names that come out of a literal as they are. In MySQL and ClickHouse a backslash
may stand where it starts no escape sequence; in Redshift it always starts one. In T-SQL
no line may be continued, and the characters are those of the code page. -/
def Denotable (page : CodePage) (dbType name : String) : Prop :=
  match dbType with
  | "mysql" => ∀ before after, name.toList = before ++ '\\' :: after →
      ∃ c, after.head? = some c ∧ (c = '%' ∨ c = '_')
  | "clickhouse" => ∀ before after, name.toList = before ++ '\\' :: after →
      ∃ c, after.head? = some c ∧ c ∉ clickhouseEscapes ∧ 0x20 ≤ c.toNat
  | "redshift" => '\\' ∉ name.toList
  | "sqlserver" | "synapse" =>
      OnOneLine name.toList ∧ ∀ c ∈ name.toList, page.converts c = [c]
  | _ => True

/-- The test of a name, in terms of what can be written in its dialect. -/
theorem denotesName_iff (page : CodePage) (dbType name : String) :
    denotesName page dbType name = true ↔ Denotable page dbType name := by
  unfold Denotable
  split
  · exact denotesName_mysql_iff page name
  · exact denotesName_clickhouse_iff page name
  · exact denotesName_redshift_iff page name
  · exact keeps_tsqlLiterals_iff page name.toList
  · exact keeps_tsqlLiterals_iff page name.toList
  · rename_i hmysql hclickhouse hredshift hsqlserver hsynapse
    have hstandard : literalsOf page dbType = asRead standardLiterals := by
      unfold literalsOf
      split
      · exact absurd rfl hmysql
      · exact absurd rfl hclickhouse
      · exact absurd rfl hredshift
      · exact absurd rfl hsqlserver
      · exact absurd rfl hsynapse
      · rfl
    exact iff_of_true (denotesName_of_standard hstandard name) trivial

/-- The statements about a container and its tables are about the names they are given
exactly if the literals of the database type can denote these names. -/
theorem names_quoted_iff (page : CodePage) (dbType : String) :
    (∀ container sql, tablesSql dbType container = some sql →
      ((literalsOf page dbType).read sql.toList = some (tablesStatement dbType container) ↔
        Denotable page dbType container)) ∧
    (∀ container tableName sql, columnsSql dbType container tableName = some sql →
      ((literalsOf page dbType).read sql.toList =
          some (columnsStatement dbType container tableName) ↔
        Denotable page dbType container ∧ Denotable page dbType tableName)) := by
  constructor
  · intro container sql h
    rw [read_tablesSql_iff h, denotesName_iff]
  · intro container tableName sql h
    rw [read_columnsSql_iff h, denotesName_iff, denotesName_iff]

/-- A code page of the characters up to `U+00FF`; another becomes a question mark for
each of its code units. -/
def latin : CodePage where
  converts c :=
    if c.toNat < 0x100 then [c] else List.replicate (unitsOf c) '?'
  units_converts c := by
    split
    · rfl
    · have hmark : unitsOf '?' = 1 := by decide
      simp [units, hmark]

/-- A quote in a name is no trouble, in MySQL either, and in SQL Server neither is a letter
of the code page. -/
theorem names_quoted_apostrophe :
    (∃ sql, tablesSql "mysql" "o'hare" = some sql ∧
      (literalsOf latin "mysql").read sql.toList = some (tablesStatement "mysql" "o'hare")) ∧
    ∃ sql, columnsSql "sqlserver" "o'hare" "café" = some sql ∧
      (literalsOf latin "sqlserver").read sql.toList =
        some (columnsStatement "sqlserver" "o'hare" "café") := by
  constructor
  · refine ⟨_, rfl, ((names_quoted_iff latin "mysql").1 "o'hare" _ rfl).2 ?_⟩
    exact (denotesName_iff latin "mysql" "o'hare").1 (by decide)
  · refine ⟨_, rfl, ((names_quoted_iff latin "sqlserver").2 "o'hare" "café" _ rfl).2 ?_⟩
    exact ⟨(denotesName_iff latin "sqlserver" "o'hare").1 (by decide),
      (denotesName_iff latin "sqlserver" "café").1 (by decide)⟩

/-- A backslash is in MySQL and Redshift, and in SQL Server a letter outside the code
page. -/
theorem backslash_not_quoted :
    (¬ ∀ container sql, tablesSql "mysql" container = some sql →
      (literalsOf latin "mysql").read sql.toList = some (tablesStatement "mysql" container)) ∧
    (¬ ∀ container sql, tablesSql "redshift" container = some sql →
      (literalsOf latin "redshift").read sql.toList =
        some (tablesStatement "redshift" container)) ∧
    ¬ ∀ container sql, tablesSql "sqlserver" container = some sql →
      (literalsOf latin "sqlserver").read sql.toList =
        some (tablesStatement "sqlserver" container) := by
  refine ⟨fun hall => ?_, fun hall => ?_, fun hall => ?_⟩
  · have hread := hall "back\\slash" _ rfl
    rw [read_tablesSql_iff rfl] at hread
    exact absurd hread (by decide)
  · have hread := hall "back\\slash" _ rfl
    rw [read_tablesSql_iff rfl] at hread
    exact absurd hread (by decide)
  · have hread := hall "кино" _ rfl
    rw [read_tablesSql_iff rfl] at hread
    exact absurd hread (by decide)

end KyomiConnect
