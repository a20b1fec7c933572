import KyomiConnect.Statements
import KyomiConnect.TypeWrappers

/-! # Type names with parameters

Four mappers read a type name with parameters in parentheses: MySQL's has a second table for
the names that may have them, ClickHouse's knows some names only as a whole and others by
their beginning, Databricks' looks for four names with an opening parenthesis, and T-SQL's
drops the parameters first.
-/

namespace KyomiConnect

/-- A type name with its parameters. -/
def withParams (name params : String) : String := name ++ "(" ++ params ++ ")"

/-! ## T-SQL -/

/-- The T-SQL types. -/
def tdsBaseType (base : String) : SimpleType :=
  match base with
  | "int" | "bigint" | "smallint" | "tinyint" | "decimal" | "numeric" | "float" | "real"
  | "money" | "smallmoney" => .number
  | "varchar" | "nvarchar" | "char" | "nchar" | "text" | "ntext" | "xml" | "uniqueidentifier"
  | "binary" | "varbinary" | "image" => .string
  | "date" => .date
  | "time" => .time
  | "datetime" | "datetime2" | "smalldatetime" => .timestamp
  | "datetimeoffset" => .timestampTz
  | "bit" => .boolean
  | "sql_variant" => .string
  | _ => .unknown

/-- `map_tds_type` -/
def mapTdsType (typeName : String) : SimpleType :=
  let lower := Text.trim (Text.toLowercase typeName)
  tdsBaseType (if Text.contains lower "(" then baseTypeName lower else lower)

/-! ## Names and parentheses -/

/-- A bracket is no blank. -/
theorem isWhitespace_open : Text.isWhitespace '(' = false := by decide

/-- The test for a bracket, on the characters. -/
theorem contains_open_iff (s : String) : Text.contains s "(" = true ↔ '(' ∈ s.toList := by
  unfold Text.contains
  rw [decide_eq_true_eq]
  exact List.singleton_infix_iff '(' s.toList

/-- Only a parenthesis is mapped to one. -/
theorem open_mem_upperChar {c : Char} (h : '(' ∈ Text.upperChar c) : c = '(' := by
  have hascii : ∀ n : Fin 128, (Char.ofNat n).toUpper = '(' → Char.ofNat n = '(' := by decide
  unfold Text.upperChar at h
  split at h
  · rename_i hlower
    have hcode := hascii ⟨c.toNat, toNat_lt_of_isLower hlower⟩
    simp only [Char.ofNat_toNat] at hcode
    exact hcode (List.mem_singleton.1 h).symm
  · split at h
    case h_18 => exact (List.mem_singleton.1 h).symm
    all_goals exact absurd h (by decide)

/-- Nothing but a bracket has a bracket for its small letter. -/
theorem open_mem_lowerChar {c : Char} (h : '(' ∈ Text.lowerChar c) : c = '(' := by
  have hascii : ∀ n : Fin 128, (Char.ofNat n).toLower = '(' → Char.ofNat n = '(' := by decide
  unfold Text.lowerChar at h
  split at h
  · rename_i hupper
    have hcode := hascii ⟨c.toNat, toNat_lt_of_isUpper hupper⟩
    simp only [Char.ofNat_toNat] at hcode
    exact hcode (List.mem_singleton.1 h).symm
  · split at h
    case h_3 => exact (List.mem_singleton.1 h).symm
    all_goals exact absurd h (by decide)

/-- A change of case brings no bracket into a text. -/
theorem open_not_mem_flatMap {f : Char → List Char} (hf : ∀ c, '(' ∈ f c → c = '(')
    {cs : List Char} (h : '(' ∉ cs) : '(' ∉ cs.flatMap f := by
  intro hmem
  obtain ⟨c, hc, hopen⟩ := List.mem_flatMap.1 hmem
  rw [hf c hopen] at hc
  exact h hc

/-- Blanks in front of a name with parameters are trimmed, and none behind the name. -/
theorem toList_trim_params (cs ds : List Char) :
    (Text.trim (.ofList (cs ++ '(' :: (ds ++ [')'])))).toList =
      cs.dropWhile Text.isWhitespace ++ '(' :: (ds ++ [')']) := by
  have hend : cs.dropWhile Text.isWhitespace ++ '(' :: (ds ++ [')']) =
      (cs.dropWhile Text.isWhitespace ++ '(' :: ds) ++ [')'] := by simp
  rw [Text.toList_trim, String.toList_ofList, Text.dropWhile_append_cons isWhitespace_open, hend,
    Text.dropEndWhile_append_singleton (by decide)]

/-- The name before the parameters. -/
theorem baseTypeName_params {cs : List Char} (h : '(' ∉ cs) (ds : List Char) :
    baseTypeName (Text.trim (.ofList (cs ++ '(' :: (ds ++ [')'])))) = Text.trim (.ofList cs) := by
  have hfront : ∀ c ∈ cs.dropWhile Text.isWhitespace, decide (c ≠ '(') = true := by
    intro c hc
    rw [decide_eq_true_eq]
    rintro rfl
    exact h (List.dropWhile_subset _ hc)
  unfold baseTypeName
  rw [toList_trim_params, List.takeWhile_append_of_pos hfront,
    List.takeWhile_cons_of_neg (by decide), List.append_nil]
  unfold Text.trim
  rw [String.toList_ofList, String.toList_ofList, Text.dropWhile_front List.prefix_rfl]

section Params

variable (name params : String)

/-- The characters of a type with parameters. -/
theorem toList_withParams :
    (withParams name params).toList = name.toList ++ '(' :: (params.toList ++ [')']) := by
  simp [withParams]

/-- A type with parameters in capital letters. -/
theorem toUppercase_withParams :
    Text.toUppercase (withParams name params) =
      .ofList (name.toList.flatMap Text.upperChar ++
        '(' :: (params.toList.flatMap Text.upperChar ++ [')'])) := by
  unfold Text.toUppercase
  rw [toList_withParams, List.flatMap_append, List.flatMap_cons, List.flatMap_append]
  rfl

/-- A type with parameters in small letters. -/
theorem toLowercase_withParams :
    Text.toLowercase (withParams name params) =
      .ofList (name.toList.flatMap Text.lowerChar ++
        '(' :: (params.toList.flatMap Text.lowerChar ++ [')'])) := by
  unfold Text.toLowercase
  rw [toList_withParams, List.flatMap_append, List.flatMap_cons, List.flatMap_append]
  rfl

variable {name}

/-- T-SQL's mapper sees the same name with parameters and without. -/
theorem mapTdsType_withParams (hbare : '(' ∉ name.toList) :
    mapTdsType (withParams name params) = mapTdsType name := by
  -- the name has no parenthesis, so the text is cut where the parameters begin
  have hname := open_not_mem_flatMap (fun _ => open_mem_lowerChar) hbare
  unfold mapTdsType
  dsimp only
  rw [toLowercase_withParams, baseTypeName_params hname]
  have hopen : Text.contains (Text.trim (.ofList (name.toList.flatMap Text.lowerChar ++
      '(' :: (params.toList.flatMap Text.lowerChar ++ [')'])))) "(" = true := by
    rw [contains_open_iff, toList_trim_params]
    simp
  have hnone : ¬ Text.contains (Text.trim (Text.toLowercase name)) "(" = true := by
    rw [contains_open_iff, Text.toList_trim, Text.toList_toLowercase]
    intro hmem
    exact hname (List.dropWhile_subset _ ((Text.prefix_dropEndWhile _ _).subset hmem))
  rw [if_pos hopen, if_neg hnone]
  rfl

/-! ## MySQL -/

/-- MySQL's mapper knows no name with a blank or a parenthesis in it. -/
theorem mysqlBaseType_of_mem {s : String} {c : Char}
    (hc : Text.isWhitespace c = true ∨ c = '(') (h : c ∈ s.toList) :
    mysqlBaseType s = .unknown := by
  -- none of the words has the character
  have hletters : ∀ word : String,
      word.toList.all (fun c => !(Text.isWhitespace c || c == '(')) = true → s ≠ word := by
    rintro word hword rfl
    have hletter := List.all_eq_true.1 hword c h
    rcases hc with hc | rfl
    · rw [hc] at hletter
      cases hletter
    · exact absurd hletter (by decide)
  unfold mysqlBaseType
  split
  all_goals first
    | rfl
    | exact absurd rfl (hletters _ (by decide))

/-- A text that does not end with a suffix keeps it. -/
theorem trimEndText_of_not_suffix {pat s : String} (h : ¬ pat.toList <:+ s.toList) :
    Text.trimEndText pat s = s := by
  unfold Text.trimEndText
  cases s.length with
  | zero => rw [Text.dropEndText, String.ofList_toList]
  | succ n =>
      rw [Text.dropEndText, if_neg, String.ofList_toList]
      rw [List.isSuffixOf_iff_suffix]
      rintro ⟨-, hsuffix⟩
      exact h hsuffix

/-- A text is dropped as often as it is there, with any fuel that suffices. -/
theorem dropEndText_congr {pat : List Char} {n m : ℕ} {cs : List Char} (hn : cs.length ≤ n)
    (hm : cs.length ≤ m) : Text.dropEndText pat n cs = Text.dropEndText pat m cs := by
  have hnil : ∀ k, Text.dropEndText pat k [] = [] := by
    intro k
    cases k with
    | zero => rw [Text.dropEndText]
    | succ k =>
        rw [Text.dropEndText, List.take_nil, if_neg]
        rintro ⟨hpat, hsuffix⟩
        exact hpat (List.suffix_nil.1 (List.isSuffixOf_iff_suffix.1 hsuffix))
  -- on the fuel: each turn takes one character at least
  induction n generalizing m cs with
  | zero =>
      obtain rfl := List.length_eq_zero_iff.1 (Nat.le_zero.1 hn)
      rw [hnil, hnil]
  | succ n ih =>
      cases m with
      | zero =>
          obtain rfl := List.length_eq_zero_iff.1 (Nat.le_zero.1 hm)
          rw [hnil, hnil]
      | succ m =>
          rw [Text.dropEndText, Text.dropEndText]
          split
          · rename_i h
            have hpos := List.length_pos_iff.2 h.1
            apply ih
            · rw [List.length_take]
              omega
            · rw [List.length_take]
              omega
          · rfl

/-- A text is trimmed as often as it stands at the end. -/
theorem trimEndText_append_self {pat : String} (hpat : pat.toList ≠ []) (cs : List Char) :
    Text.trimEndText pat (.ofList (cs ++ pat.toList)) = Text.trimEndText pat (.ofList cs) := by
  have hlen : 0 < pat.toList.length := List.length_pos_iff.2 hpat
  -- the last characters are the pattern, and dropping them leaves a shorter text
  have hsuffix : pat.toList.isSuffixOf (cs ++ pat.toList) = true := by
    rw [List.isSuffixOf_iff_suffix]
    exact List.suffix_append _ _
  obtain ⟨n, hn⟩ : ∃ n, (cs ++ pat.toList).length = n + 1 :=
    ⟨cs.length + pat.toList.length - 1, by rw [List.length_append]; omega⟩
  unfold Text.trimEndText
  rw [String.toList_ofList, String.toList_ofList, String.length_ofList, String.length_ofList, hn,
    Text.dropEndText, if_pos ⟨hpat, hsuffix⟩, List.length_append, Nat.add_sub_cancel,
    List.take_left]
  rw [List.length_append] at hn
  rw [dropEndText_congr (m := cs.length) (by omega) le_rfl]

/-- Parameters do not end with UNSIGNED. -/
theorem not_suffix_params (cs ds : List Char) :
    ¬ " UNSIGNED".toList <:+
      (Text.trim (.ofList (cs ++ '(' :: (ds ++ [')'])))).toList := by
  have hend : cs.dropWhile Text.isWhitespace ++ '(' :: (ds ++ [')']) =
      (cs.dropWhile Text.isWhitespace ++ '(' :: ds) ++ [')'] := by simp
  rw [toList_trim_params, hend]
  rintro ⟨front, hfront⟩
  have hlast := congrArg List.getLast? hfront
  rw [List.getLast?_concat, List.getLast?_append] at hlast
  cases hlast

/-- With parameters MySQL's mapper looks the name up in its second table. -/
theorem mapMysqlTypeName_of_upper {typeName : String} {cs : List Char} (hcs : '(' ∉ cs)
    (ds : List Char)
    (hupper : Text.trimEndText " UNSIGNED" (Text.trim (Text.toUppercase typeName)) =
      Text.trim (.ofList (cs ++ '(' :: (ds ++ [')'])))) :
    mapMysqlTypeName typeName = mysqlBaseType (Text.trim (.ofList cs)) := by
  -- the parenthesis is there after the change to capitals
  have hopen : '(' ∈ (Text.trim (.ofList (cs ++ '(' :: (ds ++ [')'])))).toList := by
    rw [toList_trim_params]
    simp
  have hbase := baseTypeName_params hcs ds
  unfold mapMysqlTypeName
  dsimp only
  rw [hupper]
  generalize Text.trim (.ofList (cs ++ '(' :: (ds ++ [')']))) = upper at hopen hbase
  have hunknown := mysqlBaseType_of_mem (.inr rfl) hopen
  have hcontains := (contains_open_iff upper).2 hopen
  split
  all_goals first
    | exact absurd hopen (by decide)
    | skip
  rw [hunknown, if_pos hcontains, hbase]

/-- MySQL's types of dates and times, which the second table does not have. -/
def mysqlDateTypes : List String := ["DATE", "TIME", "DATETIME", "TIMESTAMP"]

/-- A name that MySQL's mapper knows with parameters too: no date or time, and not unsigned
already. -/
def MysqlKeeps (name : String) : Prop :=
  Text.trim (Text.toUppercase name) ∉ mysqlDateTypes ∧
    ¬ " UNSIGNED".toList <:+ (Text.trim (Text.toUppercase name)).toList

/-- A name with a blank behind it. -/
def BlankEnd (name : String) : Prop :=
  (Text.toUppercase name).toList.getLast?.any Text.isWhitespace = true

section Mysql

variable {name : String} (params : String) (hbare : '(' ∉ name.toList)
include hbare

/-- Of a type with parameters MySQL's mapping looks at the name only. -/
theorem mapMysqlTypeName_withParams :
    mapMysqlTypeName (withParams name params) =
      mysqlBaseType (Text.trim (Text.toUppercase name)) := by
  apply mapMysqlTypeName_of_upper (open_not_mem_flatMap (fun _ => open_mem_upperChar) hbare)
    (params.toList.flatMap Text.upperChar)
  rw [toUppercase_withParams]
  exact trimEndText_of_not_suffix (not_suffix_params _ _)

/-- So it does of one that is unsigned. -/
theorem mapMysqlTypeName_withParams_unsigned :
    mapMysqlTypeName (withParams name params ++ " UNSIGNED") =
      mysqlBaseType (Text.trim (Text.toUppercase name)) := by
  apply mapMysqlTypeName_of_upper (open_not_mem_flatMap (fun _ => open_mem_upperChar) hbare)
    (params.toList.flatMap Text.upperChar)
  have hupper : Text.trim (Text.toUppercase (withParams name params ++ " UNSIGNED")) =
      .ofList ((Text.trim (Text.toUppercase (withParams name params))).toList ++
        " UNSIGNED".toList) := by
    have hblank : " UNSIGNED".toList.flatMap Text.upperChar = " UNSIGNE".toList ++ ['D'] := rfl
    apply String.toList_inj.1
    rw [String.toList_ofList, toUppercase_withParams, toList_trim_params, Text.toList_trim,
      Text.toList_toUppercase, String.toList_append, List.flatMap_append,
      ← Text.toList_toUppercase, toUppercase_withParams, String.toList_ofList, hblank,
      List.append_assoc, List.cons_append, Text.dropWhile_append_cons isWhitespace_open]
    generalize (name.toList.flatMap Text.upperChar).dropWhile Text.isWhitespace = cs
    generalize params.toList.flatMap Text.upperChar = ds
    have hend : cs ++ '(' :: (ds ++ [')'] ++ (" UNSIGNE".toList ++ ['D'])) =
        cs ++ '(' :: (ds ++ [')'] ++ " UNSIGNE".toList) ++ ['D'] := by simp
    have hword : " UNSIGNED".toList = " UNSIGNE".toList ++ ['D'] := rfl
    rw [hend, Text.dropEndWhile_append_singleton (by decide), ← hend, hword]
    simp
  rw [hupper, trimEndText_append_self (by decide), String.ofList_toList, toUppercase_withParams]
  exact trimEndText_of_not_suffix (not_suffix_params _ _)

/-- The name alone is mapped as the type is, unless it is unsigned. -/
theorem mysqlBaseType_eq_iff (hknown : mapMysqlTypeName name ≠ .unknown) :
    mysqlBaseType (Text.trim (Text.toUppercase name)) = mapMysqlTypeName name ↔
      MysqlKeeps name := by
  constructor
  · intro heq
    rw [← heq] at hknown
    constructor
    · -- a date type is looked up as a whole and is no base type
      intro hdate
      apply hknown
      simp only [mysqlDateTypes, List.mem_cons, List.not_mem_nil, or_false] at hdate
      rcases hdate with h | h | h | h
      all_goals rw [h]; rfl
    · -- no base type has a blank
      intro hsuffix
      exact hknown (mysqlBaseType_of_mem (c := ' ') (.inl (by decide)) (hsuffix.subset (by decide)))
  · rintro ⟨hdate, hsuffix⟩
    have hopen : '(' ∉ (Text.trim (Text.toUppercase name)).toList := by
      rw [Text.toList_trim, Text.toList_toUppercase]
      intro hmem
      exact open_not_mem_flatMap (fun _ => open_mem_upperChar) hbare
        (List.dropWhile_subset _ ((Text.prefix_dropEndWhile _ _).subset hmem))
    have hcontains := mt (contains_open_iff _).1 hopen
    unfold mapMysqlTypeName
    dsimp only
    rw [trimEndText_of_not_suffix hsuffix]
    generalize Text.trim (Text.toUppercase name) = upper at hdate hcontains
    rw [if_neg hcontains]
    split
    · exact absurd (by decide) hdate
    · exact absurd (by decide) hdate
    · exact absurd (by decide) hdate
    · exact absurd (by decide) hdate
    · split
      all_goals rfl

omit hbare in
/-- With UNSIGNED behind a known name only the blanks in front of it are trimmed. -/
theorem trim_toUppercase_unsigned
    (hname : (Text.toUppercase name).toList.dropWhile Text.isWhitespace ≠ []) :
    Text.trim (Text.toUppercase (name ++ " UNSIGNED")) =
      .ofList
        ((Text.toUppercase name).toList.dropWhile Text.isWhitespace ++ " UNSIGNED".toList) := by
  have hword : " UNSIGNED".toList.flatMap Text.upperChar = " UNSIGNED".toList := rfl
  have hend : " UNSIGNED".toList = " UNSIGNE".toList ++ ['D'] := rfl
  apply String.toList_inj.1
  rw [Text.toList_trim, String.toList_ofList, Text.toList_toUppercase, String.toList_append,
    List.flatMap_append, hword, ← Text.toList_toUppercase, List.dropWhile_append, if_neg, hend,
    ← List.append_assoc, Text.dropEndWhile_append_singleton (by decide)]
  rw [List.isEmpty_iff]
  exact hname

omit hbare in
/-- A text with a blank in it is no name that MySQL's mapper knows. -/
theorem mapMysqlTypeName_of_blank {cs : List Char} {c : Char} (hc : Text.isWhitespace c = true)
    (hmem : c ∈ cs) (hopen : '(' ∉ cs)
    (h : Text.trimEndText " UNSIGNED" (Text.trim (Text.toUppercase name)) = .ofList cs) :
    mapMysqlTypeName name = .unknown := by
  have hcontains : ¬ Text.contains (.ofList cs) "(" = true := by
    rw [contains_open_iff, String.toList_ofList]
    exact hopen
  have hblank : c ∈ (String.ofList cs).toList := by
    rw [String.toList_ofList]
    exact hmem
  unfold mapMysqlTypeName
  dsimp only
  rw [h]
  generalize String.ofList cs = upper at hcontains hblank
  -- no date type has a blank in its name
  have hdates : ∀ word ∈ mysqlDateTypes,
      word.toList.all (fun c => !Text.isWhitespace c) = true := by decide
  have hdate : upper ∉ mysqlDateTypes := by
    intro hupper
    have hletter := List.all_eq_true.1 (hdates upper hupper) c hblank
    rw [hc] at hletter
    cases hletter
  split
  all_goals first
    | exact absurd (by decide) hdate
    | skip
  rw [mysqlBaseType_of_mem (.inl hc) hblank, if_neg hcontains]
  exact mysqlBaseType_of_mem (.inl hc) hblank

/-- A name with a blank behind it is not trimmed in front of UNSIGNED. -/
theorem mapMysqlTypeName_unsigned_eq_iff (hknown : mapMysqlTypeName name ≠ .unknown) :
    mapMysqlTypeName (name ++ " UNSIGNED") = mapMysqlTypeName name ↔ ¬ BlankEnd name := by
  have hopen : '(' ∉ (Text.toUppercase name).toList.dropWhile Text.isWhitespace := by
    intro hmem
    rw [Text.toList_toUppercase] at hmem
    exact open_not_mem_flatMap (fun _ => open_mem_upperChar) hbare (List.dropWhile_subset _ hmem)
  have hname : (Text.toUppercase name).toList.dropWhile Text.isWhitespace ≠ [] := by
    intro hempty
    apply hknown
    have htrim : Text.trim (Text.toUppercase name) = "" := by
      apply String.toList_inj.1
      rw [Text.toList_trim, hempty]
      rfl
    unfold mapMysqlTypeName
    rw [htrim]
    decide
  -- one UNSIGNED more is cut off with those that are there
  have hunsigned :
      Text.trimEndText " UNSIGNED" (Text.trim (Text.toUppercase (name ++ " UNSIGNED"))) =
        Text.trimEndText " UNSIGNED"
          (.ofList ((Text.toUppercase name).toList.dropWhile Text.isWhitespace)) := by
    rw [trim_toUppercase_unsigned hname, trimEndText_append_self (by decide)]
  have htrim := Text.toList_trim (Text.toUppercase name)
  obtain ⟨front, c, hupper⟩ : ∃ front c, (Text.toUppercase name).toList = front ++ [c] := by
    rcases List.eq_nil_or_concat' (Text.toUppercase name).toList with hnil | h
    · rw [hnil] at hname
      exact absurd rfl hname
    · exact h
  unfold BlankEnd
  rw [hupper] at htrim hname hopen hunsigned ⊢
  rw [List.getLast?_concat, Option.any_some]
  cases hblank : Text.isWhitespace c with
  | false =>
      refine iff_of_true ?_ Bool.false_ne_true
      rw [Text.dropWhile_append_cons hblank, Text.dropEndWhile_append_singleton hblank] at htrim
      rw [Text.dropWhile_append_cons hblank, ← htrim, String.ofList_toList] at hunsigned
      unfold mapMysqlTypeName
      rw [hunsigned]
  | true =>
      refine iff_of_false ?_ (not_not.2 rfl)
      have hcs : (front ++ [c]).dropWhile Text.isWhitespace =
          front.dropWhile Text.isWhitespace ++ [c] := by
        rw [List.dropWhile_append] at hname ⊢
        split
        · rename_i hempty
          rw [if_pos hempty, List.dropWhile_cons_of_pos hblank] at hname
          exact absurd rfl hname
        · rfl
      rw [hcs] at hunsigned hopen
      have hsuffix : ¬ " UNSIGNED".toList <:+
          (String.ofList (front.dropWhile Text.isWhitespace ++ [c])).toList := by
        rintro ⟨before, hbefore⟩
        have hlast := congrArg List.getLast? (hbefore.trans String.toList_ofList)
        rw [List.getLast?_concat, List.getLast?_append] at hlast
        obtain rfl : 'D' = c := Option.some_inj.1 hlast
        exact absurd hblank (by decide)
      rw [trimEndText_of_not_suffix hsuffix] at hunsigned
      rw [mapMysqlTypeName_of_blank hblank (by simp) hopen hunsigned]
      exact hknown.symm

end Mysql

/-! ## Databricks -/

/-- A name that Databricks' mapper knows with parameters too: one of four with nothing between
it and the parenthesis, or a type with its elements in angle brackets. -/
def DatabricksKeeps (name : String) : Prop :=
  (name.toList.flatMap Text.upperChar).dropWhile Text.isWhitespace ∈
      ["DECIMAL".toList, "VARCHAR".toList, "CHAR".toList] ∨
    ∃ pat ∈ ["ARRAY<", "MAP<", "STRUCT<"],
      pat.toList <+: (name.toList.flatMap Text.upperChar).dropWhile Text.isWhitespace

/-- What stands in front of the first bracket. -/
theorem takeWhile_open {cs : List Char} (h : '(' ∉ cs) (ds : List Char) :
    (cs ++ '(' :: ds).takeWhile (· ≠ '(') = cs := by
  have hfront : ∀ c ∈ cs, decide (c ≠ '(') = true := by
    intro c hc
    rw [decide_eq_true_eq]
    rintro rfl
    exact h hc
  rw [List.takeWhile_append_of_pos hfront, List.takeWhile_cons_of_neg (by decide),
    List.append_nil]

/-- A word is looked for in front of a character that it does not have. -/
theorem prefix_append_cons_iff {pat cs : List Char} {c : Char} (hpat : c ∉ pat) (ds : List Char) :
    pat <+: cs ++ c :: ds ↔ pat <+: cs := by
  constructor
  · rintro ⟨rest, hrest⟩
    rcases List.append_eq_append_iff.1 hrest with ⟨gap, hcs, -⟩ | ⟨gap, hgap, hnext⟩
    · exact ⟨gap, hcs.symm⟩
    · cases gap with
      | nil => exact ⟨[], by rw [List.append_nil, hgap, List.append_nil]⟩
      | cons d gap =>
          obtain ⟨rfl, -⟩ := List.cons_eq_cons.1 hnext
          rw [hgap] at hpat
          simp at hpat
  · intro h
    exact h.trans (List.prefix_append _ _)

/-- A word with a parenthesis behind it is the whole name. -/
theorem prefix_open_iff {word cs : List Char} (hword : '(' ∉ word) (hcs : '(' ∉ cs)
    (ds : List Char) : word ++ ['('] <+: cs ++ '(' :: ds ↔ cs = word := by
  constructor
  · rintro ⟨rest, hrest⟩
    have hsame := congrArg (List.takeWhile (· ≠ '(')) hrest
    rw [takeWhile_open hcs, List.append_assoc, List.singleton_append, takeWhile_open hword] at hsame
    exact hsame.symm
  · rintro rfl
    exact ⟨ds, by simp⟩

/-- Blanks at the end are no part of a word at the front. -/
theorem prefix_dropEndWhile_of_prefix {p : Char → Bool} {front cs : List Char} {c : Char}
    (hc : p c = false) (h : front ++ [c] <+: cs) : front ++ [c] <+: Text.dropEndWhile p cs := by
  obtain ⟨rest, rfl⟩ := h
  have hreverse : (front ++ [c] ++ rest).reverse = rest.reverse ++ c :: front.reverse := by simp
  unfold Text.dropEndWhile
  rw [hreverse, Text.dropWhile_append_cons hc, List.reverse_append, List.reverse_cons,
    List.reverse_reverse]
  exact List.prefix_append _ _

section Databricks

variable {name : String} (params : String) (hbare : '(' ∉ name.toList)
include hbare

/-- What Databricks' mapper makes of a name with parameters. -/
theorem mapDatabricksType_withParams :
    mapDatabricksType (withParams name params) =
      let cs := (name.toList.flatMap Text.upperChar).dropWhile Text.isWhitespace
      if cs = "DECIMAL".toList ∨ cs = "NUMERIC".toList then .number
      else if "ARRAY<".toList <+: cs ∨ "MAP<".toList <+: cs ∨ "STRUCT<".toList <+: cs then .string
      else if cs = "VARCHAR".toList ∨ cs = "CHAR".toList then .string
      else .unknown := by
  have hname : '(' ∉ (name.toList.flatMap Text.upperChar).dropWhile Text.isWhitespace := by
    intro hmem
    exact open_not_mem_flatMap (fun _ => open_mem_upperChar) hbare (List.dropWhile_subset _ hmem)
  have hupper := congrArg String.ofList (toList_trim_params (name.toList.flatMap Text.upperChar)
    (params.toList.flatMap Text.upperChar))
  rw [String.ofList_toList, ← toUppercase_withParams] at hupper
  unfold mapDatabricksType
  rw [hupper]
  generalize (name.toList.flatMap Text.upperChar).dropWhile Text.isWhitespace = cs at hname
  generalize params.toList.flatMap Text.upperChar ++ [')'] = ds
  have hstarts : ∀ word : String, '(' ∉ word.toList →
      (Text.startsWith (.ofList (cs ++ '(' :: ds)) (word ++ "(") = true ↔ cs = word.toList) := by
    intro word hword
    rw [Text.startsWith, List.isPrefixOf_iff_prefix, String.toList_ofList, String.toList_append]
    exact prefix_open_iff hword hname ds
  have hangle : ∀ pat : String, '(' ∉ pat.toList →
      (Text.startsWith (.ofList (cs ++ '(' :: ds)) pat = true ↔ pat.toList <+: cs) := by
    intro pat hpat
    rw [Text.startsWith, List.isPrefixOf_iff_prefix, String.toList_ofList]
    exact prefix_append_cons_iff hpat ds
  have hopen : '(' ∈ (String.ofList (cs ++ '(' :: ds)).toList := by simp
  generalize String.ofList (cs ++ '(' :: ds) = upper at *
  dsimp only
  split
  all_goals first
    | exact absurd hopen (by decide)
    | skip
  have hdecimal : Text.startsWith upper "DECIMAL(" = true ↔ _ := hstarts "DECIMAL" (by decide)
  have hnumeric : Text.startsWith upper "NUMERIC(" = true ↔ _ := hstarts "NUMERIC" (by decide)
  have hvarchar : Text.startsWith upper "VARCHAR(" = true ↔ _ := hstarts "VARCHAR" (by decide)
  have hchar : Text.startsWith upper "CHAR(" = true ↔ _ := hstarts "CHAR" (by decide)
  simp only [Bool.or_eq_true, or_assoc, hdecimal, hnumeric, hvarchar, hchar,
    hangle "ARRAY<" (by decide), hangle "MAP<" (by decide), hangle "STRUCT<" (by decide)]

omit hbare in
/-- A name in capital letters, without the blanks around it. -/
theorem toList_trim_toUppercase :
    (Text.trim (Text.toUppercase name)).toList =
      Text.dropEndWhile Text.isWhitespace
        ((name.toList.flatMap Text.upperChar).dropWhile Text.isWhitespace) := by
  rw [Text.toList_trim, Text.toList_toUppercase]

omit hbare in
/-- A name that is one of the words as it stands. -/
theorem trim_toUppercase_of_word {word : String}
    (hword : Text.dropEndWhile Text.isWhitespace word.toList = word.toList)
    (h : (name.toList.flatMap Text.upperChar).dropWhile Text.isWhitespace = word.toList) :
    Text.trim (Text.toUppercase name) = word := by
  apply String.toList_inj.1
  rw [toList_trim_toUppercase, h, hword]

omit hbare in
/-- A name with its elements in angle brackets. -/
theorem mapDatabricksType_of_angle {pat : String} (hpat : pat ∈ ["ARRAY<", "MAP<", "STRUCT<"])
    (h : pat.toList <+: (name.toList.flatMap Text.upperChar).dropWhile Text.isWhitespace) :
    mapDatabricksType name = .string := by
  have hupper : pat.toList <+: (Text.trim (Text.toUppercase name)).toList := by
    obtain ⟨front, hfront⟩ : ∃ front, pat.toList = front ++ ['<'] := by
      simp only [List.mem_cons, List.not_mem_nil, or_false] at hpat
      rcases hpat with rfl | rfl | rfl
      · exact ⟨"ARRAY".toList, rfl⟩
      · exact ⟨"MAP".toList, rfl⟩
      · exact ⟨"STRUCT".toList, rfl⟩
    rw [toList_trim_toUppercase, hfront]
    rw [hfront] at h
    exact prefix_dropEndWhile_of_prefix (by decide) h
  unfold mapDatabricksType
  generalize Text.trim (Text.toUppercase name) = upper at hupper
  have hstarts : Text.startsWith upper pat = true := List.isPrefixOf_iff_prefix.2 hupper
  have hnot : ∀ word : String, ¬ word.toList <+: pat.toList → ¬ pat.toList <+: word.toList →
      ¬ Text.startsWith upper word = true := by
    intro word h1 h2 hword
    rcases List.prefix_or_prefix_of_prefix (List.isPrefixOf_iff_prefix.1 hword) hupper with h | h
    · exact h1 h
    · exact h2 h
  simp only [List.mem_cons, List.not_mem_nil, or_false] at hpat
  dsimp only
  split
  all_goals first
    | (exfalso
       rcases hpat with rfl | rfl | rfl <;> exact absurd hupper (by decide))
    | skip
  have hnumber :
      ¬ (Text.startsWith upper "DECIMAL(" || Text.startsWith upper "NUMERIC(") = true := by
    rw [Bool.or_eq_true]
    rintro (h | h)
    · exact hnot _ (by rcases hpat with rfl | rfl | rfl <;> decide)
        (by rcases hpat with rfl | rfl | rfl <;> decide) h
    · exact hnot _ (by rcases hpat with rfl | rfl | rfl <;> decide)
        (by rcases hpat with rfl | rfl | rfl <;> decide) h
  have hangle : (Text.startsWith upper "ARRAY<" || Text.startsWith upper "MAP<" ||
      Text.startsWith upper "STRUCT<") = true := by
    rcases hpat with rfl | rfl | rfl <;> simp [hstarts]
  rw [if_neg hnumber, if_pos hangle]

/-- Databricks' mapper, for a name that it knows. -/
theorem mapDatabricksType_withParams_eq_iff (hknown : mapDatabricksType name ≠ .unknown) :
    mapDatabricksType (withParams name params) = mapDatabricksType name ↔
      DatabricksKeeps name := by
  have hword : ∀ word : String,
      Text.dropEndWhile Text.isWhitespace word.toList = word.toList →
      (name.toList.flatMap Text.upperChar).dropWhile Text.isWhitespace = word.toList →
      Text.trim (Text.toUppercase name) = word := fun _ => trim_toUppercase_of_word
  have hparams := mapDatabricksType_withParams params hbare
  dsimp only at hparams
  constructor
  · intro heq
    rw [← heq, hparams] at hknown
    unfold DatabricksKeeps
    by_cases hnumeric : (name.toList.flatMap Text.upperChar).dropWhile Text.isWhitespace =
        "NUMERIC".toList
    · -- known with parameters only
      exfalso
      rw [← hparams, heq] at hknown
      apply hknown
      unfold mapDatabricksType
      rw [hword _ (by decide) hnumeric]
      decide
    · clear hparams hword heq hbare
      generalize (name.toList.flatMap Text.upperChar).dropWhile Text.isWhitespace = cs at *
      split at hknown
      case isTrue hnumber =>
        rcases hnumber with h | h
        · exact .inl (by rw [h]; decide)
        · exact absurd h hnumeric
      split at hknown
      case isTrue hangle =>
        right
        rcases hangle with h | h | h
        · exact ⟨_, by decide, h⟩
        · exact ⟨_, by decide, h⟩
        · exact ⟨_, by decide, h⟩
      split at hknown
      case isTrue hstring =>
        left
        rcases hstring with h | h
        · rw [h]
          decide
        · rw [h]
          decide
      exact absurd rfl hknown
  · rintro (hmem | ⟨pat, hpat, hangle⟩)
    · simp only [List.mem_cons, List.not_mem_nil, or_false] at hmem
      unfold mapDatabricksType at hparams ⊢
      rcases hmem with h | h | h
      all_goals
        rw [hparams, h, hword _ (by decide) h]
        decide
    · rw [mapDatabricksType_of_angle hpat hangle, hparams]
      simp only [List.mem_cons, List.not_mem_nil, or_false] at hpat
      have hne : ∀ word : String, ¬ pat.toList <+: word.toList →
          (name.toList.flatMap Text.upperChar).dropWhile Text.isWhitespace ≠ word.toList := by
        intro word hno heq
        rw [heq] at hangle
        exact hno hangle
      rw [if_neg, if_pos]
      · rcases hpat with rfl | rfl | rfl
        · exact .inl hangle
        · exact .inr (.inl hangle)
        · exact .inr (.inr hangle)
      · rintro (h | h)
        · exact hne _ (by rcases hpat with rfl | rfl | rfl <;> decide) h
        · exact hne _ (by rcases hpat with rfl | rfl | rfl <;> decide) h

end Databricks

/-! ## ClickHouse -/

/-- A name that ClickHouse's mapper knows with parameters too: it is not known as a whole text
only, and can be read with the parameters. -/
def ClickhouseKeeps (name params : String) : Prop :=
  Text.toUppercase (Text.trim name) ∉ clickhouseWholeTypes ∧ Readable (withParams name params)

section Clickhouse

variable {name : String} (params : String)

/-- A bare name has no wrapper. -/
theorem stripWrapper_bare {wrapper cs rest : List Char} (hcs : '(' ∉ cs)
    (h : stripWrapper wrapper cs = some rest) : rest = cs := by
  rcases stripWrapper_cases wrapper cs with ⟨-, hstrip⟩ | ⟨-, hstrip⟩ |
    ⟨before, rest', -, happend, -, -, hopen, -, -⟩
  · rw [hstrip] at h
    cases h
  · rw [hstrip] at h
    exact (Option.some_inj.1 h).symm
  · rw [happend] at hcs
    exact absurd (List.mem_append_right _ (List.mem_of_mem_head? hopen)) hcs

/-- A name with parameters has a wrapper only if it is the name of one. -/
theorem stripWrapper_params {wrapper cs rest : List Char}
    (hwrapper : '(' ∉ wrapper.map Char.toLower) (hcs : '(' ∉ cs) {ds : List Char}
    (h : stripWrapper wrapper (cs ++ '(' :: ds) = some rest) :
    rest = cs ++ '(' :: ds ∨ cs.map Char.toLower = wrapper.map Char.toLower := by
  rcases stripWrapper_cases wrapper (cs ++ '(' :: ds) with ⟨-, hstrip⟩ | ⟨-, hstrip⟩ |
    ⟨before, rest', -, happend, -, hname, hopen, -, -⟩
  · rw [hstrip] at h
    cases h
  · rw [hstrip] at h
    exact .inl (Option.some_inj.1 h).symm
  · right
    have hbefore : '(' ∉ before := by
      intro hmem
      rw [← hname] at hwrapper
      exact hwrapper (List.mem_map.2 ⟨'(', hmem, by decide⟩)
    obtain ⟨rest', rfl⟩ := List.head?_eq_some_iff.1 hopen
    have hprefix : before ++ ['('] <+: cs ++ '(' :: ds := ⟨rest', by rw [happend]; simp⟩
    rw [(prefix_open_iff hbefore hcs ds).1 hprefix]
    exact hname

/-- The name of a wrapper is no known type. -/
theorem mapClickhouseInnerType_of_wrapper {w : Wrapper}
    (h : (name.toList.dropWhile Text.isWhitespace).map Char.toLower = w.name.map Char.toLower) :
    mapClickhouseInnerType (Text.trim name) = .unknown := by
  have hprefix : (Text.trim name).toList <+: name.toList.dropWhile Text.isWhitespace := by
    rw [Text.toList_trim]
    exact Text.prefix_dropEndWhile _ _
  cases htrim : (Text.trim name).toList with
  | nil =>
      rw [String.toList_eq_nil_iff.1 htrim]
      decide
  | cons c cs =>
      rw [htrim] at hprefix
      obtain ⟨rest, hrest⟩ := hprefix
      rw [← hrest] at h
      have hhead := congrArg List.head? h
      cases w
      · exact mapClickhouseInnerType_of_letter htrim (.inl (Option.some_inj.1 hhead))
      · exact mapClickhouseInnerType_of_letter htrim (.inr (Option.some_inj.1 hhead))

variable (hbare : '(' ∉ name.toList)
include hbare

/-- What is left of a bare name for the table of types. -/
theorem bareText_bare {bare : String} (h : bareText name = some bare) : bare = Text.trim name := by
  have hname : '(' ∉ (Text.trim name).toList := by
    rw [Text.toList_trim]
    intro hmem
    exact hbare (List.dropWhile_subset _ ((Text.prefix_dropEndWhile _ _).subset hmem))
  unfold bareText at h
  obtain ⟨rest, hrest, rfl⟩ := Option.map_eq_some_iff.1 h
  obtain ⟨inner, hnullable, hlowCardinality⟩ := Option.bind_eq_some_iff.1 hrest
  obtain rfl := stripWrapper_bare hname hnullable
  obtain rfl := stripWrapper_bare hname hlowCardinality
  exact String.ofList_toList

/-- What is left of a known name with parameters. -/
theorem bareText_params {bare : String}
    (hknown : mapClickhouseInnerType (Text.trim name) ≠ .unknown)
    (h : bareText (withParams name params) = some bare) :
    bare.toList = name.toList.dropWhile Text.isWhitespace ++ '(' :: (params.toList ++ [')']) := by
  have hname : '(' ∉ name.toList.dropWhile Text.isWhitespace := by
    intro hmem
    exact hbare (List.dropWhile_subset _ hmem)
  have htrim : (Text.trim (withParams name params)).toList =
      name.toList.dropWhile Text.isWhitespace ++ '(' :: (params.toList ++ [')']) := by
    rw [← toList_trim_params, ← toList_withParams, String.ofList_toList]
  unfold bareText at h
  rw [htrim] at h
  obtain ⟨rest, hrest, rfl⟩ := Option.map_eq_some_iff.1 h
  obtain ⟨inner, hnullable, hlowCardinality⟩ := Option.bind_eq_some_iff.1 hrest
  rw [String.toList_ofList]
  rcases stripWrapper_params (by decide) hname hnullable with rfl | hwrapper
  · rcases stripWrapper_params (by decide) hname hlowCardinality with rfl | hwrapper
    · rfl
    · exact absurd (mapClickhouseInnerType_of_wrapper (w := .lowCardinality) hwrapper) hknown
  · exact absurd (mapClickhouseInnerType_of_wrapper (w := .nullable) hwrapper) hknown

omit hbare in
/-- A beginning is looked for in the name, whatever blanks and parameters follow it. -/
theorem startsWith_params {pat : String} (hpat : pat ∈ clickhouseFronts) {bare : String}
    (h : bare.toList = name.toList.dropWhile Text.isWhitespace ++ '(' :: (params.toList ++ [')'])) :
    Text.startsWith (Text.toUppercase bare) pat =
      Text.startsWith (Text.toUppercase (Text.trim name)) pat := by
  have hletters : ∀ word ∈ clickhouseFronts, '(' ∉ word.toList ∧
      word.toList.all (fun c => !Text.isWhitespace c) = true := by decide
  obtain ⟨hparens, hblanks⟩ := hletters pat hpat
  rw [Bool.eq_iff_iff, Text.startsWith, Text.startsWith, List.isPrefixOf_iff_prefix,
    List.isPrefixOf_iff_prefix, Text.toList_toUppercase, Text.toList_toUppercase, h,
    Text.toList_trim]
  generalize name.toList.dropWhile Text.isWhitespace = cs
  obtain ⟨blanks, hcs, hblank⟩ : ∃ blanks, cs = Text.dropEndWhile Text.isWhitespace cs ++ blanks ∧
      ∀ c ∈ blanks, Text.isWhitespace c = true := by
    refine ⟨(cs.reverse.takeWhile Text.isWhitespace).reverse, ?_, ?_⟩
    · unfold Text.dropEndWhile
      rw [← List.reverse_append, List.takeWhile_append_dropWhile, List.reverse_reverse]
    · intro c hc
      exact List.mem_takeWhile_imp (List.mem_reverse.1 hc)
  generalize Text.dropEndWhile Text.isWhitespace cs = front at hcs
  rw [hcs, List.append_assoc, List.flatMap_append]
  cases blanks with
  | nil => exact prefix_append_cons_iff hparens _
  | cons c blanks =>
      rw [List.cons_append, List.flatMap_cons, upperChar_of_isWhitespace (hblank c (by simp))]
      refine prefix_append_cons_iff ?_ _
      intro hmem
      have hletter := List.all_eq_true.1 hblanks c hmem
      rw [hblank c (by simp)] at hletter
      cases hletter

/-- A known name with parameters is no text of an object. -/
theorem toUppercase_params_ne_object {bare : String}
    (hknown : mapClickhouseInnerType (Text.trim name) ≠ .unknown)
    (h : bare.toList = name.toList.dropWhile Text.isWhitespace ++ '(' :: (params.toList ++ [')'])) :
    Text.toUppercase bare ≠ "OBJECT('JSON')" := by
  intro hobject
  apply hknown
  have hname : '(' ∉ (name.toList.dropWhile Text.isWhitespace).flatMap Text.upperChar := by
    refine open_not_mem_flatMap (fun _ => open_mem_upperChar) ?_
    intro hmem
    exact hbare (List.dropWhile_subset _ hmem)
  have hupper := congrArg String.toList hobject
  rw [Text.toList_toUppercase, h, List.flatMap_append, List.flatMap_cons] at hupper
  have hfront := congrArg (List.takeWhile (· ≠ '(')) hupper
  have hparen : Text.upperChar '(' = ['('] := by decide
  rw [hparen, List.singleton_append, takeWhile_open hname] at hfront
  have hprefix : (Text.toUppercase (Text.trim name)).toList <+: "OBJECT".toList := by
    have hobjectName : "OBJECT('JSON')".toList.takeWhile (· ≠ '(') = "OBJECT".toList := by decide
    rw [← hobjectName, ← hfront, Text.toList_toUppercase, Text.toList_trim]
    obtain ⟨rest, hrest⟩ := Text.prefix_dropEndWhile Text.isWhitespace
      (name.toList.dropWhile Text.isWhitespace)
    exact ⟨rest.flatMap Text.upperChar, by rw [← List.flatMap_append, hrest]⟩
  have hinits : ∀ cs ∈ "OBJECT".toList.inits,
      String.ofList cs ∉ "OBJECT('JSON')" :: clickhouseWholeTypes ∧
        clickhouseFrontType (.ofList cs) = .unknown := by decide
  obtain ⟨hwhole, hunknown⟩ := hinits _ ((List.mem_inits _ _).2 hprefix)
  rw [String.ofList_toList] at hwhole hunknown
  rw [mapClickhouseInnerType_eq_front hwhole, hunknown]

/-- A known name with parameters is known by its beginning, if at all. -/
theorem mapClickhouseInnerType_params {bare : String}
    (hknown : mapClickhouseInnerType (Text.trim name) ≠ .unknown)
    (h : bare.toList = name.toList.dropWhile Text.isWhitespace ++ '(' :: (params.toList ++ [')'])) :
    mapClickhouseInnerType bare = clickhouseFrontType (Text.toUppercase (Text.trim name)) := by
  have hopen : '(' ∈ (Text.toUppercase bare).toList := by
    rw [Text.toList_toUppercase, h]
    refine List.mem_flatMap.2 ⟨'(', by simp, by decide⟩
  have hwhole : ∀ word ∈ clickhouseWholeTypes, '(' ∉ word.toList := by decide
  rw [mapClickhouseInnerType_eq_front]
  · exact clickhouseFrontType_congr fun pat hpat => startsWith_params params hpat h
  · intro hmem
    rcases List.mem_cons.1 hmem with hobject | hmem
    · exact toUppercase_params_ne_object params hbare hknown h hobject
    · exact hwhole _ hmem hopen

/-- ClickHouse's mapper, for a name that it knows. -/
theorem mapClickhouseType_withParams_eq_iff {colType : SimpleType}
    (h : mapClickhouseType name = some colType) (hknown : colType ≠ .unknown) :
    mapClickhouseType (withParams name params) = some colType ↔ ClickhouseKeeps name params := by
  rw [mapClickhouseType_eq] at h
  obtain ⟨bare, hbareText, rfl⟩ := Option.map_eq_some_iff.1 h
  obtain rfl := bareText_bare hbare hbareText
  have hparams : ∀ bare, bareText (withParams name params) = some bare →
      mapClickhouseInnerType bare = clickhouseFrontType (Text.toUppercase (Text.trim name)) :=
    fun _ hbare' => mapClickhouseInnerType_params params hbare hknown
      (bareText_params params hbare hknown hbare')
  unfold ClickhouseKeeps
  rw [← mapClickhouseType_isSome_iff, mapClickhouseType_eq, Option.isSome_map,
    Option.isSome_iff_exists, Option.map_eq_some_iff]
  constructor
  · rintro ⟨bare, hbare', heq⟩
    refine ⟨?_, bare, hbare'⟩
    have hunknown : ∀ word ∈ clickhouseWholeTypes, clickhouseFrontType word = .unknown := by decide
    intro hwhole
    rw [hparams bare hbare', hunknown _ hwhole] at heq
    exact hknown heq.symm
  · rintro ⟨hwhole, bare, hbare'⟩
    refine ⟨bare, hbare', ?_⟩
    rw [hparams bare hbare', mapClickhouseInnerType_eq_front]
    intro hmem
    rcases List.mem_cons.1 hmem with hobject | hmem
    · -- a bare name has no parenthesis
      have hopen : '(' ∈ (Text.toUppercase (Text.trim name)).toList := by
        rw [hobject]
        decide
      rw [Text.toList_toUppercase, Text.toList_trim] at hopen
      refine open_not_mem_flatMap (fun _ => open_mem_upperChar) ?_ hopen
      intro hmem
      exact hbare (List.dropWhile_subset _ ((Text.prefix_dropEndWhile _ _).subset hmem))
    · exact hwhole hmem

end Clickhouse

end Params

/-! ## Names with parameters and without -/

/-- The name of a type, without parameters. -/
structure BaseName where
  text : String
  bare : '(' ∉ text.toList

/-- A name that a mapper knows has the same type with parameters, whatever they are: for T-SQL
always, for MySQL, ClickHouse and Databricks if and only if the second table of the mapper has
the name. In MySQL UNSIGNED may stand behind the parameters, and behind the bare name if and
only if there is no blank in between already. -/
theorem type_parameters_iff (name : BaseName) (params : String) :
    (mapMysqlTypeName name.text ≠ .unknown →
      ((mapMysqlTypeName (withParams name.text params) = mapMysqlTypeName name.text ↔
          MysqlKeeps name.text) ∧
        (mapMysqlTypeName (withParams name.text params ++ " UNSIGNED") =
          mapMysqlTypeName name.text ↔ MysqlKeeps name.text) ∧
        (mapMysqlTypeName (name.text ++ " UNSIGNED") = mapMysqlTypeName name.text ↔
          ¬ BlankEnd name.text))) ∧
      (∀ colType, mapClickhouseType name.text = some colType → colType ≠ .unknown →
        (mapClickhouseType (withParams name.text params) = some colType ↔
          ClickhouseKeeps name.text params)) ∧
      (mapDatabricksType name.text ≠ .unknown →
        (mapDatabricksType (withParams name.text params) = mapDatabricksType name.text ↔
          DatabricksKeeps name.text)) ∧
      mapTdsType (withParams name.text params) = mapTdsType name.text := by
  refine ⟨fun hknown => ⟨?_, ?_, ?_⟩, ?_, ?_, ?_⟩
  · rw [mapMysqlTypeName_withParams params name.bare]
    exact mysqlBaseType_eq_iff name.bare hknown
  · rw [mapMysqlTypeName_withParams_unsigned params name.bare]
    exact mysqlBaseType_eq_iff name.bare hknown
  · exact mapMysqlTypeName_unsigned_eq_iff name.bare hknown
  · intro colType hname hknown
    exact mapClickhouseType_withParams_eq_iff params name.bare hname hknown
  · exact mapDatabricksType_withParams_eq_iff params name.bare
  · exact mapTdsType_withParams params name.bare

/-- A decimal in two of the dialects. -/
theorem decimal_with_parameters :
    mapMysqlTypeName (withParams "DECIMAL" "10,2") = mapMysqlTypeName "DECIMAL" ∧
      mapDatabricksType (withParams "DECIMAL" "10,2") = mapDatabricksType "DECIMAL" := by
  obtain ⟨hmysql, -, hdatabricks, -⟩ := type_parameters_iff ⟨"DECIMAL", by decide⟩ "10,2"
  refine ⟨(hmysql (by decide)).1.2 ⟨by decide, by decide⟩, (hdatabricks (by decide)).2 (.inl ?_)⟩
  decide

/-- A date and time with its precision, which MySQL's second table does not have. -/
theorem datetime_precision_unknown :
    ¬ ∀ (name : BaseName) (params : String), mapMysqlTypeName name.text ≠ .unknown →
      mapMysqlTypeName (withParams name.text params) = mapMysqlTypeName name.text := by
  intro hsame
  have hdatetime := hsame ⟨"DATETIME", by decide⟩ "6" (by decide)
  revert hdatetime
  decide

end KyomiConnect
