import KyomiConnect.ClickHouse
import KyomiConnect.DryRun
import KyomiConnect.Lib.Lines

/-! # From a position to a line and a column

A database counts the position of an error in characters. `char_position_to_line_col` and
the last fallback of `parse_clickhouse_error_location` take it for a byte index: they slice
the text there, and count the column in bytes from the last line break before. On a line
that only ASCII lines precede this comes out right, as long as the slice does.
-/

namespace KyomiConnect

/-! ## ClickHouse's positions -/

/-- What the regular expressions of the ClickHouse provider capture: the groups of the first
match. -/
structure ClickHouseCaptures where
  /-- `(?i)\(line\s+(\d+),\s*col\s+(\d+)\)` -/
  lineCol : String → Option (String × String)
  /-- `(?i)\(line\s+(\d+)\)` -/
  line : String → Option String
  /-- `(?i)at position\s+(\d+)` -/
  position : String → Option String

/-- `str::parse::<u32>` -/
def parseU32 (s : String) : Option UInt32 :=
  (parseUnsigned UInt32.size s.toList).map UInt32.ofNat

/-- `str::parse::<usize>` -/
def parseUsize (s : String) : Option ℕ := parseUnsigned UInt64.size s.toList

/-- Parse ClickHouse error for line/column position; none if it panics. -/
def parseClickhouseErrorLocation (captures : ClickHouseCaptures) (errorMsg sql : String) :
    Option Position :=
  match (captures.lineCol errorMsg).bind fun (line, col) =>
      (parseU32 line).map fun line => (line, parseU32 col) with
  | some (line, col) => some (some line, col)
  | none =>
      match (captures.line errorMsg).bind parseU32 with
      | some line => some (some line, none)
      | none =>
          match (captures.position errorMsg).bind parseUsize with
          | some pos =>
              if 0 < pos ∧ pos ≤ Text.byteLen sql.toList then
                (Text.splitAtByte sql.toList (pos - 1)).map fun (before, _) =>
                  (some (UInt32.ofNat (before.count '\n') + 1),
                    some (UInt32.ofNat (bytesAfterBreak before + 1)))
              else some (none, none)
          | none => some (none, none)

/-- No line is read from a message: neither pattern captures a number that fits. -/
structure ClickHouseCaptures.NoLine (captures : ClickHouseCaptures) (errorMsg : String) : Prop where
  lineCol : (captures.lineCol errorMsg).bind (fun groups => parseU32 groups.1) = none
  line : (captures.line errorMsg).bind parseU32 = none

/-- The fallback is the conversion of the PostgreSQL provider. -/
theorem parseClickhouseErrorLocation_position {captures : ClickHouseCaptures} {errorMsg : String}
    (hnone : captures.NoLine errorMsg) {pos : ℕ}
    (hpos : (captures.position errorMsg).bind parseUsize = some pos) (sql : String) :
    parseClickhouseErrorLocation captures errorMsg sql = charPositionToLineCol sql pos := by
  have hlineCol : ((captures.lineCol errorMsg).bind fun (line, col) =>
      (parseU32 line).map fun line => (line, parseU32 col)) = none := by
    have hline := hnone.lineCol
    rw [Option.bind_eq_none_iff] at hline ⊢
    rintro ⟨line, col⟩ hgroups
    have hnot : parseU32 line = none := hline (line, col) hgroups
    simp only [hnot, Option.map_none]
  unfold parseClickhouseErrorLocation charPositionToLineCol
  rw [hlineCol, hnone.line]
  simp only [hpos]
  by_cases hout : pos = 0 ∨ Text.byteLen sql.toList < pos
  · rw [if_pos hout, if_neg (by omega)]
  · rw [if_neg hout, if_pos (by omega)]

/-! ## Positions that are located -/

/-- A result for the character at a position, counted from one: it is one, and for a position
inside the text it is the line and the column of the character. -/
structure Located (sql : String) (pos : ℕ) (result : Option Position) : Prop where
  returns : result.isSome = true
  inside : 1 ≤ pos → pos ≤ sql.toList.length → ∃ line col, result = some (some line, some col) ∧
    line.toNat = Lines.line '\n' sql.toList (pos - 1) ∧
    col.toNat = Lines.column '\n' sql.toList (pos - 1)

/-- When a position can be taken for a byte index: the slice ends between two characters, the
lines before that of the position are ASCII, and its line and column are 32-bit numbers. -/
structure Convertible (sql : String) (pos : ℕ) : Prop where
  boundary : 1 ≤ pos → pos ≤ Text.byteLen sql.toList →
    ∃ before, before <+: sql.toList ∧ Text.byteLen before = pos - 1
  narrow : 1 ≤ pos → pos ≤ sql.toList.length →
    ∀ c ∈ Lines.upTo '\n' (sql.toList.take (pos - 1)), c.utf8Size = 1
  line : 1 ≤ pos → pos ≤ sql.toList.length →
    Lines.line '\n' sql.toList (pos - 1) < UInt32.size
  column : 1 ≤ pos → pos ≤ sql.toList.length →
    Lines.column '\n' sql.toList (pos - 1) < UInt32.size

/-- A text has as many bytes as characters if and only if each has one. -/
theorem byteLen_eq_length_iff (cs : List Char) :
    Text.byteLen cs = cs.length ↔ ∀ c ∈ cs, c.utf8Size = 1 := by
  -- character by character: each has one byte at least
  induction cs with
  | nil => simp
  | cons c cs ih =>
      have hsize := c.utf8Size_pos
      have hlen := Text.length_le_byteLen cs
      rw [Text.byteLen_cons, List.length_cons, List.forall_mem_cons, ← ih]
      omega

section Slice

variable {before gap : List Char}

/-- The bytes of a text are those up to its last line break and those after it. -/
theorem bytesAfterBreak_add (cs : List Char) :
    bytesAfterBreak cs + Text.byteLen (Lines.upTo '\n' cs) = Text.byteLen cs := by
  have happend := congrArg Text.byteLen (Lines.after_append_upTo (b := '\n') cs)
  have hreverse : Text.byteLen cs.reverse = Text.byteLen cs := by
    simp [Text.byteLen]
  rw [Text.byteLen_append, hreverse] at happend
  exact happend

/-- The slice is the text before the position without some of its end, `gap`. Line and column
are the same for both if and only if what precedes the line is ASCII. -/
theorem slice_located_iff (hslice : Text.byteLen before = (before ++ gap).length) :
    before.count '\n' = (before ++ gap).count '\n' ∧
        bytesAfterBreak before = (Lines.after '\n' (before ++ gap)).length ↔
      ∀ c ∈ Lines.upTo '\n' (before ++ gap), c.utf8Size = 1 := by
  rw [← byteLen_eq_length_iff]
  have hbytes := bytesAfterBreak_add before
  have hchars := Lines.length_after_add (b := '\n') (before ++ gap)
  by_cases hgap : '\n' ∈ gap
  · -- the slice misses a line break, and is what must be ASCII
    have hcount : 0 < gap.count '\n' := List.count_pos_iff.2 hgap
    have hlength : 0 < gap.length := List.length_pos_of_mem hgap
    rw [List.count_append]
    constructor
    · rintro ⟨hsame, -⟩
      omega
    · intro hnarrow
      rw [byteLen_eq_length_iff, Lines.upTo_append_of_mem hgap] at hnarrow
      have hbefore := (byteLen_eq_length_iff before).2 fun c hc =>
        hnarrow c (List.mem_append_right _ (List.mem_reverse.2 hc))
      rw [List.length_append] at hslice
      omega
  · have hcount : gap.count '\n' = 0 := List.count_eq_zero.2 hgap
    rw [List.count_append, hcount, Lines.upTo_append_of_not_mem hgap]
    rw [Lines.upTo_append_of_not_mem hgap] at hchars
    omega

/-- A slice that misses no line break has no more bytes on its last line than the text before
the position has characters. -/
theorem bytesAfterBreak_le (hslice : Text.byteLen before = (before ++ gap).length)
    (hcount : before.count '\n' = (before ++ gap).count '\n') :
    bytesAfterBreak before ≤ (Lines.after '\n' (before ++ gap)).length := by
  have hgap : '\n' ∉ gap := by
    rw [List.count_append] at hcount
    exact List.count_eq_zero.1 (by omega)
  have hbytes := bytesAfterBreak_add before
  have hchars := Lines.length_after_add (b := '\n') (before ++ gap)
  have hupTo := Text.length_le_byteLen (Lines.upTo '\n' before)
  rw [Lines.upTo_append_of_not_mem hgap] at hchars
  omega

end Slice

/-- The numbers of a slice come out right as 32-bit numbers only if they do as numbers. -/
theorem toNat_ofNat_eq_iff {n m : ℕ} (hle : n ≤ m) :
    (UInt32.ofNat n).toNat = m ↔ n = m ∧ m < UInt32.size := by
  rw [UInt32.toNat_ofNat']
  have hsize : UInt32.size = 2 ^ 32 := rfl
  have hmod := Nat.mod_le n (2 ^ 32)
  constructor
  · intro h
    have hlt := Nat.mod_lt n (by decide : 0 < 2 ^ 32)
    omega
  · rintro ⟨rfl, hlt⟩
    exact Nat.mod_eq_of_lt (hsize ▸ hlt)

/-- The line and the column that are counted in a slice. -/
theorem numbers_located_iff {before gap : List Char}
    (hslice : Text.byteLen before = (before ++ gap).length) :
    (UInt32.ofNat (before.count '\n') + 1).toNat = (before ++ gap).count '\n' + 1 ∧
        (UInt32.ofNat (bytesAfterBreak before + 1)).toNat =
          (Lines.after '\n' (before ++ gap)).length + 1 ↔
      (∀ c ∈ Lines.upTo '\n' (before ++ gap), c.utf8Size = 1) ∧
        (before ++ gap).count '\n' + 1 < UInt32.size ∧
        (Lines.after '\n' (before ++ gap)).length + 1 < UInt32.size := by
  have hadd : UInt32.ofNat (before.count '\n') + 1 = UInt32.ofNat (before.count '\n' + 1) :=
    (UInt32.ofNat_add _ 1).symm
  have hle : before.count '\n' + 1 ≤ (before ++ gap).count '\n' + 1 := by
    rw [List.count_append]
    omega
  rw [hadd, toNat_ofNat_eq_iff hle, ← slice_located_iff hslice]
  constructor
  · rintro ⟨⟨hcount, hline⟩, hcol⟩
    have hcount' : before.count '\n' = (before ++ gap).count '\n' := Nat.succ.inj hcount
    have hbytes := bytesAfterBreak_le hslice hcount'
    obtain ⟨hcol', hcolumn⟩ := (toNat_ofNat_eq_iff (Nat.succ_le_succ hbytes)).1 hcol
    exact ⟨⟨hcount', Nat.succ.inj hcol'⟩, hline, hcolumn⟩
  · rintro ⟨⟨hcount, hcol⟩, hline, hcolumn⟩
    refine ⟨⟨by rw [hcount], hline⟩, ?_⟩
    rw [hcol]
    exact (toNat_ofNat_eq_iff (Nat.le_refl _)).2 ⟨rfl, hcolumn⟩

/-- The conversion locates a position if and only if it can be taken for a byte index. -/
theorem charPosition_located_iff (sql : String) (pos : ℕ) :
    Located sql pos (charPositionToLineCol sql pos) ↔ Convertible sql pos := by
  have hlength := Text.length_le_byteLen sql.toList
  unfold charPositionToLineCol
  by_cases hout : pos = 0 ∨ Text.byteLen sql.toList < pos
  · -- no character of the text is meant, and none is looked for
    rw [if_pos hout]
    refine iff_of_true ⟨rfl, fun h1 h2 => ?_⟩ ⟨fun h1 h2 => ?_, fun h1 h2 => ?_, fun h1 h2 => ?_,
      fun h1 h2 => ?_⟩
    all_goals omega
  rw [if_neg hout]
  cases hsplit : Text.splitAtByte sql.toList (pos - 1) with
  | none =>
      refine iff_of_false (fun h => Bool.false_ne_true h.returns) fun h => ?_
      obtain ⟨before, ⟨rest, happend⟩, hlen⟩ := h.boundary (by omega) (by omega)
      exact Text.splitAtByte_eq_none_iff.1 hsplit before rest happend.symm hlen
  | some parts =>
      obtain ⟨before, rest⟩ := parts
      obtain ⟨happend, hlen⟩ := Text.splitAtByte_eq_some_iff.1 hsplit
      have hboundary : ∃ before, before <+: sql.toList ∧ Text.byteLen before = pos - 1 :=
        ⟨before, ⟨rest, happend.symm⟩, hlen⟩
      by_cases hin : pos ≤ sql.toList.length
      · have hshort := Text.length_le_byteLen before
        obtain ⟨gap, htake⟩ : ∃ gap, sql.toList.take (pos - 1) = before ++ gap := by
          refine ⟨rest.take (pos - 1 - before.length), ?_⟩
          rw [happend, List.take_append, List.take_of_length_le (by omega)]
        have hslice : Text.byteLen before = (before ++ gap).length := by
          rw [← htake, List.length_take]
          omega
        have hnumbers := numbers_located_iff hslice
        rw [← htake] at hnumbers
        constructor
        · intro h
          obtain ⟨line, col, hresult, hline, hcol⟩ := h.inside (by omega) hin
          cases hresult
          obtain ⟨hnarrow, hline', hcol'⟩ := hnumbers.1 ⟨hline, hcol⟩
          exact ⟨fun _ _ => hboundary, fun _ _ => hnarrow, fun _ _ => hline', fun _ _ => hcol'⟩
        · intro h
          have h1 : 1 ≤ pos := by omega
          obtain ⟨hline, hcol⟩ :=
            hnumbers.2 ⟨h.narrow h1 hin, h.line h1 hin, h.column h1 hin⟩
          exact ⟨rfl, fun _ _ => ⟨_, _, rfl, hline, hcol⟩⟩
      · refine iff_of_true ⟨rfl, fun _ h => absurd h hin⟩ ?_
        exact ⟨fun _ _ => hboundary, fun _ h => absurd h hin, fun _ h => absurd h hin,
          fun _ h => absurd h hin⟩

/-- Both conversions locate a position that is reported without a line if and only if it can be
taken for a byte index. -/
theorem positions_located_iff {captures : ClickHouseCaptures} {errorMsg : String}
    (hnone : captures.NoLine errorMsg) {pos : ℕ}
    (hpos : (captures.position errorMsg).bind parseUsize = some pos) (sql : String) :
    (Located sql pos (charPositionToLineCol sql pos) ↔ Convertible sql pos) ∧
      (Located sql pos (parseClickhouseErrorLocation captures errorMsg sql) ↔
        Convertible sql pos) := by
  rw [parseClickhouseErrorLocation_position hnone hpos]
  exact ⟨charPosition_located_iff sql pos, charPosition_located_iff sql pos⟩

/-! ## Two positions -/

/-- What is captured of this message: its line is no 32-bit number, and its position is 13. -/
def hugeLine : String := "failed at position 13 (line 5000000000)"

def atThirteen : ClickHouseCaptures where
  lineCol _ := none
  line msg := if msg = hugeLine then some "5000000000" else none
  position msg := if msg = hugeLine then some "13" else none

/-- A letter of two bytes on the same line does not hurt. -/
theorem located_on_one_line :
    Located "SELECT 'é', x" 13 (charPositionToLineCol "SELECT 'é', x" 13) ∧
      Located "SELECT 'é', x" 13
        (parseClickhouseErrorLocation atThirteen hugeLine "SELECT 'é', x") := by
  have hbreak : '\n' ∉ "SELECT 'é', x".toList.take (13 - 1) := by decide
  have hnarrow : ∀ c ∈ Lines.upTo '\n' ("SELECT 'é', x".toList.take (13 - 1)),
      c.utf8Size = 1 := by
    rw [Lines.upTo_of_not_mem hbreak]
    nofun
  have hconvertible : Convertible "SELECT 'é', x" 13 :=
    ⟨fun _ _ => ⟨"SELECT 'é',".toList, by decide, by decide⟩, fun _ _ => hnarrow,
      fun _ _ => by decide, fun _ _ => by decide⟩
  have hnone : atThirteen.NoLine hugeLine := ⟨rfl, by decide⟩
  have hpos : (atThirteen.position hugeLine).bind parseUsize = some 13 := by decide
  have hboth := positions_located_iff hnone hpos "SELECT 'é', x"
  exact ⟨hboth.1.2 hconvertible, hboth.2.2 hconvertible⟩

/-- A letter of two bytes at the position before is cut in two. -/
theorem letter_cut_in_two :
    ¬ ∀ (sql : String) (pos : ℕ), Located sql pos (charPositionToLineCol sql pos) := by
  intro h
  have hreturns := (h "SELECT é x" 9).returns
  revert hreturns
  decide

end KyomiConnect
