import Mathlib.Data.List.Infix
import Mathlib.Tactic.Common

/-! # String literals of SQL

A statement is code and string literals. Dialects agree that a doubled quote in a
literal stands for one; some have an escape character besides, which may denote
something else together with the characters after it, and some convert a literal once it
is read.

`double` doubles the quotes and nothing else. `read_render_iff` says exactly when a
statement written with it is read as it was meant: when the escape character, wherever
it occurs in a literal, denotes itself together with the character after it.
`Dialect.read_render_iff` adds that the conversion changes none of the literals.
-/

namespace SqlLiteral

/-- What the escape character denotes together with the character after it. -/
inductive Sequence where
  | text (cs : List Char)
  /-- a byte, by two hexadecimal digits that follow -/
  | byte
  /-- a byte, by this octal digit and at most two more that follow -/
  | octal (digit : ℕ)
deriving DecidableEq, Repr

/-- The value of a hexadecimal digit. -/
def hexDigit (c : Char) : Option ℕ :=
  if c.isDigit then some (c.toNat - '0'.toNat)
  else if 'a' ≤ c ∧ c ≤ 'f' then some (c.toNat - 'a'.toNat + 10)
  else if 'A' ≤ c ∧ c ≤ 'F' then some (c.toNat - 'A'.toNat + 10)
  else none

/-- The value of an octal digit. -/
def octalDigit (c : Char) : Option ℕ := (hexDigit c).filter (· < 8)

/-- How a dialect reads string literals. A sequence denotes itself, or at most one
character. -/
structure Rules where
  quote : Char
  escape : Option Char
  denotes : Char → Sequence
  escape_ne : escape ≠ some quote
  denotes_quote : denotes quote = .text [quote]
  hexDigit_quote : hexDigit quote = none
  denotes_text : ∀ e c cs, escape = some e → denotes c = .text cs → cs = [e, c] ∨ cs.length ≤ 1

/-- A character of the code, or a literal by what it denotes. -/
inductive Piece where
  | code (c : Char)
  | literal (cs : List Char)
deriving DecidableEq, Repr

/-- Where the reader is; a literal is collected from the left. -/
inductive Mode where
  | code
  | body (content : List Char)
  | escaped (content : List Char)
  | byte (content : List Char)
  | nibble (content : List Char) (high : ℕ)
  /-- in an octal number, of which at most `left` digits are still to come -/
  | octal (content : List Char) (value left : ℕ)
  /-- after a quote in a literal, which is doubled or closes -/
  | quoted (content : List Char)
deriving DecidableEq, Repr

section Read

variable (rules : Rules)

/-- The pieces of a text; none if a literal is not closed or malformed. -/
def read : Mode → List Char → Option (List Piece)
  | .code, [] => some []
  | .code, c :: cs =>
      if c = rules.quote then read (.body []) cs else (read .code cs).map (.code c :: ·)
  | .body content, c :: cs =>
      if c = rules.quote then read (.quoted content) cs
      else if rules.escape = some c then read (.escaped content) cs
      else read (.body (content ++ [c])) cs
  | .escaped content, c :: cs =>
      match rules.denotes c with
      | .text ds => read (.body (content ++ ds)) cs
      | .byte => read (.byte content) cs
      | .octal digit => read (.octal content digit 2) cs
  | .byte content, c :: cs =>
      match hexDigit c with
      | some high => read (.nibble content high) cs
      | none => none
  | .nibble content high, c :: cs =>
      match hexDigit c with
      | some low => read (.body (content ++ [Char.ofNat (16 * high + low)])) cs
      | none => none
  | .octal content value left, c :: cs =>
      match left, octalDigit c with
      | left + 1, some digit => read (.octal content (8 * value + digit) left) cs
      | _, _ =>
          -- the number ends before `c`, which is read as in the body
          if c = rules.quote then read (.quoted (content ++ [Char.ofNat (value % 256)])) cs
          else if rules.escape = some c then
            read (.escaped (content ++ [Char.ofNat (value % 256)])) cs
          else read (.body (content ++ [Char.ofNat (value % 256)] ++ [c])) cs
  | .quoted content, [] => some [.literal content]
  | .quoted content, c :: cs =>
      if c = rules.quote then read (.body (content ++ [rules.quote])) cs
      else (read .code cs).map fun pieces => .literal content :: .code c :: pieces
  | .body _, [] | .escaped _, [] | .byte _, [] | .nibble _ _, [] | .octal _ _ _, [] => none

/-- Quotes doubled. -/
def double (cs : List Char) : List Char :=
  cs.flatMap fun c => if c = rules.quote then [c, c] else [c]

/-- The text of pieces, with the quotes in a literal doubled. -/
def render : List Piece → List Char
  | [] => []
  | .code c :: pieces => c :: render pieces
  | .literal cs :: pieces => rules.quote :: double rules cs ++ rules.quote :: render pieces

/-- The escape character denotes itself wherever it occurs; `escaped` says that it was
the last character. -/
def keepsFrom : Bool → List Char → Bool
  | false, [] => true
  | false, c :: cs => keepsFrom (rules.escape == some c) cs
  | true, [] => false
  | true, c :: cs => rules.denotes c == .text (rules.escape.toList ++ [c]) && keepsFrom false cs

/-- A literal that is read as it is written. -/
def keeps (cs : List Char) : Bool := keepsFrom rules false cs

/-- Code without quotes, and no two literals after one another. -/
def Separate : List Piece → Prop
  | [] => True
  | .code c :: pieces => c ≠ rules.quote ∧ Separate pieces
  | [.literal _] => True
  | .literal _ :: .code c :: pieces => c ≠ rules.quote ∧ Separate pieces
  | .literal _ :: .literal _ :: _ => False

end Read

variable {rules : Rules}

/-- One character, twice if it is a quote. -/
theorem double_cons (c : Char) (cs : List Char) :
    double rules (c :: cs) = (if c = rules.quote then [c, c] else [c]) ++ double rules cs :=
  List.flatMap_cons

/-- No other character is doubled. -/
theorem double_cons_of_ne {c : Char} (h : c ≠ rules.quote) (cs : List Char) :
    double rules (c :: cs) = c :: double rules cs := by
  rw [double_cons, if_neg h]
  rfl

/-- A quote is doubled. -/
theorem double_cons_quote (cs : List Char) :
    double rules (rules.quote :: cs) = rules.quote :: rules.quote :: double rules cs := by
  rw [double_cons, if_pos rfl]
  rfl

/-! ## One character -/

section Equations

variable (content : List Char) (c d : Char) (cs : List Char) (high : ℕ) (pieces : List Piece)

theorem read_code_nil : read rules .code [] = some [] := rfl

theorem read_code_cons : read rules .code (c :: cs) =
    if c = rules.quote then read rules (.body []) cs
    else (read rules .code cs).map (.code c :: ·) := rfl

/-- In a literal a quote may close it, and the escape character, if there is one, takes the next. -/
theorem read_body_cons : read rules (.body content) (c :: cs) =
    if c = rules.quote then read rules (.quoted content) cs
    else if rules.escape = some c then read rules (.escaped content) cs
    else read rules (.body (content ++ [c])) cs := rfl

/-- What an escape stands for: characters, or the start of a number. -/
theorem read_escaped_cons : read rules (.escaped content) (c :: cs) =
    match rules.denotes c with
    | .text ds => read rules (.body (content ++ ds)) cs
    | .byte => read rules (.byte content) cs
    | .octal digit => read rules (.octal content digit 2) cs := rfl

/-- The first digit of a byte. -/
theorem read_byte_cons : read rules (.byte content) (c :: cs) =
    match hexDigit c with
    | some high => read rules (.nibble content high) cs
    | none => none := rfl

/-- The second digit of a byte. -/
theorem read_nibble_cons : read rules (.nibble content high) (c :: cs) =
    match hexDigit c with
    | some low => read rules (.body (content ++ [Char.ofNat (16 * high + low)])) cs
    | none => none := rfl

/-- An octal number goes on with a digit, if it may have one more. -/
theorem read_octal_digit (value left : ℕ) {digit : ℕ} (h : octalDigit c = some digit) :
    read rules (.octal content value (left + 1)) (c :: cs) =
      read rules (.octal content (8 * value + digit) left) cs := by
  rw [read]
  simp only [h]

/-- It ends before any other character. -/
theorem read_octal_end (value : ℕ) {left : ℕ} (h : left = 0 ∨ octalDigit c = none) :
    read rules (.octal content value left) (c :: cs) =
      read rules (.body (content ++ [Char.ofNat (value % 256)])) (c :: cs) := by
  cases left with
  | zero => rfl
  | succ left =>
      have hnone : octalDigit c = none := h.resolve_left (Nat.succ_ne_zero left)
      unfold read
      simp only [hnone]

theorem read_quoted_nil : read rules (.quoted content) [] = some [.literal content] := rfl

theorem read_quoted_cons : read rules (.quoted content) (c :: cs) =
    if c = rules.quote then read rules (.body (content ++ [rules.quote])) cs
    else (read rules .code cs).map fun pieces => .literal content :: .code c :: pieces := rfl

theorem keeps_cons : keeps rules (c :: cs) = keepsFrom rules (rules.escape == some c) cs := rfl

theorem keepsFrom_cons : keepsFrom rules true (c :: cs) =
    (rules.denotes c == .text (rules.escape.toList ++ [c]) && keeps rules cs) := rfl

theorem keepsFrom_nil : keepsFrom rules true [] = false := rfl

theorem keepsFrom_false : keepsFrom rules false cs = keeps rules cs := rfl

theorem render_code_cons : render rules (.code c :: pieces) = c :: render rules pieces := rfl

theorem render_literal_cons : render rules (.literal cs :: pieces) =
    rules.quote :: double rules cs ++ rules.quote :: render rules pieces := rfl

end Equations

section Body

variable (content cs : List Char)

/-- A quote in a literal, by the rules. -/
theorem read_body_quote :
    read rules (.body content) (rules.quote :: cs) = read rules (.quoted content) cs := by
  rw [read_body_cons, if_pos rfl]

/-- The escape character in a literal. -/
theorem read_body_escape {e : Char} (h : rules.escape = some e) :
    read rules (.body content) (e :: cs) = read rules (.escaped content) cs := by
  have hne : e ≠ rules.quote := by
    rintro rfl
    exact rules.escape_ne h
  rw [read_body_cons, if_neg hne, if_pos h]

/-- Any other character in a literal. -/
theorem read_body_plain {c : Char} (hquote : c ≠ rules.quote) (hescape : rules.escape ≠ some c) :
    read rules (.body content) (c :: cs) = read rules (.body (content ++ [c])) cs := by
  rw [read_body_cons, if_neg hquote, if_neg hescape]

/-- A doubled quote is one quote of the literal. -/
theorem read_body_doubled :
    read rules (.body content) (rules.quote :: rules.quote :: cs) =
      read rules (.body (content ++ [rules.quote])) cs := by
  rw [read_body_quote, read_quoted_cons, if_pos rfl]

end Body

/-! ## A literal that is kept -/

/-- What follows a literal does not double its closing quote. -/
def Closes (rules : Rules) (after : List Char) : Prop := after.head? ≠ some rules.quote

/-- The closing quote ends the literal. -/
theorem read_quoted {after : List Char} (h : Closes rules after) (content : List Char) :
    read rules (.quoted content) after = (read rules .code after).map (.literal content :: ·) := by
  cases after with
  | nil => rw [read_quoted_nil, read_code_nil, Option.map_some]
  | cons c cs =>
      have hne : c ≠ rules.quote := fun heq => h (by rw [heq]; rfl)
      rw [read_quoted_cons, if_neg hne, read_code_cons, if_neg hne, Option.map_map]
      rfl

/-- A content that the escapes keep is read back from between its quotes. -/
theorem read_double_of_keeps {after : List Char} (hafter : Closes rules after)
    (cs content : List Char) (h : keeps rules cs = true) :
    read rules (.body content) (double rules cs ++ rules.quote :: after) =
      (read rules .code after).map (.literal (content ++ cs) :: ·) := by
  -- an escape character takes the character after it along
  -- over the content; the escape character takes the one behind it along
  induction hlength : cs.length using Nat.strong_induction_on generalizing cs content with
  | _ n ih =>
  cases cs with
  | nil =>
      have hnil : double rules [] = [] := rfl
      rw [hnil, List.nil_append, read_body_quote, read_quoted hafter, List.append_nil]
  | cons c cs =>
      by_cases hquote : c = rules.quote
      · subst hquote
        have hplain : (rules.escape == some rules.quote) = false := by
          simpa using rules.escape_ne
        rw [keeps_cons, hplain, keepsFrom_false] at h
        rw [double_cons_quote, List.cons_append, List.cons_append, read_body_doubled,
          ih cs.length (by rw [← hlength]; simp) cs _ h rfl,
          List.append_assoc, List.singleton_append]
      · rw [double_cons_of_ne hquote, List.cons_append]
        by_cases hescape : rules.escape = some c
        · rw [read_body_escape _ _ hescape]
          have hescaped : (rules.escape == some c) = true := by simpa using hescape
          rw [keeps_cons, hescaped] at h
          cases cs with
          | nil => exact absurd h (by simp [keepsFrom_nil])
          | cons d ds =>
              rw [keepsFrom_cons, hescape, Bool.and_eq_true, beq_iff_eq, Option.toList_some,
                List.singleton_append] at h
              have hne : d ≠ rules.quote := by
                rintro rfl
                rw [rules.denotes_quote] at h
                exact absurd h.1 (by simp)
              rw [double_cons_of_ne hne, List.cons_append, read_escaped_cons]
              simp only [h.1]
              have hlt : ds.length < n := by
                rw [← hlength, List.length_cons, List.length_cons]
                omega
              rw [ih ds.length hlt ds _ h.2 rfl, List.append_assoc]
              rfl
        · rw [read_body_plain _ _ hquote hescape]
          have hplain : (rules.escape == some c) = false := by simpa using hescape
          rw [keeps_cons, hplain, keepsFrom_false] at h
          rw [ih cs.length (by rw [← hlength]; simp) cs _ h rfl, List.append_assoc,
            List.singleton_append]

/-! ## A literal that is not kept -/

/-- What has been read of a literal. -/
def Mode.content : Mode → List Char
  | .code => []
  | .body content | .escaped content | .byte content | .nibble content _ | .octal content _ _
  | .quoted content => content

/-- What has been read of a literal stays. -/
theorem content_prefix {m : Mode} {text x : List Char} {pieces : List Piece} (hm : m ≠ .code)
    (h : read rules m text = some (.literal x :: pieces)) : m.content <+: x := by
  -- over the text: the content so far stays at the front
  induction text generalizing m with
  | nil =>
      cases m with
      | code => exact absurd rfl hm
      | quoted content =>
          rw [read_quoted_nil] at h
          cases h
          exact List.prefix_refl _
      | _ => exact absurd h nofun
  | cons c cs ih =>
      have grown {content more : List Char}
          (h : read rules (.body (content ++ more)) cs = some (.literal x :: pieces)) :
          content <+: x :=
        (List.prefix_append content more).trans (ih (by simp) h)
      have body {content : List Char}
          (h : read rules (.body content) (c :: cs) = some (.literal x :: pieces)) :
          content <+: x := by
        rw [read_body_cons] at h
        split at h
        · exact @ih (.quoted content) nofun h
        · split at h
          · exact @ih (.escaped content) nofun h
          · exact grown h
      cases m with
      | code => exact absurd rfl hm
      | body content => exact body h
      | escaped content =>
          rw [read_escaped_cons] at h
          split at h
          · exact grown h
          · exact @ih (.byte content) nofun h
          · rename_i digit _
            exact @ih (.octal content digit 2) nofun h
      | octal content value left =>
          -- a digit more, or the byte and what the body is read as
          have ended (hend : left = 0 ∨ octalDigit c = none) : content <+: x := by
            rw [read_octal_end _ _ _ _ hend] at h
            exact (List.prefix_append content _).trans (body h)
          cases left with
          | zero => exact ended (.inl rfl)
          | succ left =>
              cases hdigit : octalDigit c with
              | none => exact ended (.inr hdigit)
              | some digit =>
                  rw [read_octal_digit _ _ _ _ _ hdigit] at h
                  exact @ih (.octal content _ left) nofun h
      | byte content =>
          rw [read_byte_cons] at h
          split at h
          · rename_i high _
            exact @ih (.nibble content high) nofun h
          · exact absurd h nofun
      | nibble content high =>
          rw [read_nibble_cons] at h
          split at h
          · exact grown h
          · exact absurd h nofun
      | quoted content =>
          rw [read_quoted_cons] at h
          split at h
          · exact grown h
          · obtain ⟨pieces', _, hpieces⟩ := Option.map_eq_some_iff.1 h
            cases hpieces
            exact List.prefix_refl _

/-- The character after what has been read is the next of the literal. -/
theorem head_of_content {m : Mode} {text content rest : List Char} {c d : Char}
    {pieces : List Piece} (hm : m ≠ .code) (hcontent : m.content = content ++ [c])
    (h : read rules m text = some (.literal (content ++ d :: rest) :: pieces)) : d = c := by
  have hprefix := content_prefix hm h
  rw [hcontent, List.prefix_append_right_inj, List.cons_prefix_cons] at hprefix
  exact hprefix.1.symm

/-- A quote of the literal, doubled or escaped, is read as a quote. -/
theorem read_escaped_quote (content cs : List Char) :
    read rules (.escaped content) (rules.quote :: cs) =
      read rules (.body (content ++ [rules.quote])) cs := by
  rw [read_escaped_cons]
  simp only [rules.denotes_quote]

section Behind

variable {after : List Char}

/-- Two hexadecimal digits of the literal, or it is malformed. -/
theorem read_byte {cs content : List Char} {pieces : List Piece}
    (h : read rules (.byte content) (double rules cs ++ rules.quote :: after) = some pieces) :
    ∃ high low rest byte, cs = high :: low :: rest ∧ high ≠ rules.quote ∧ low ≠ rules.quote ∧
      read rules (.body (content ++ [byte])) (double rules rest ++ rules.quote :: after) =
        some pieces := by
  have hquote (m : List Char) (k : ℕ) (ds : List Char) :
      read rules (.byte m) (rules.quote :: ds) = none ∧
        read rules (.nibble m k) (rules.quote :: ds) = none := by
    constructor
    · rw [read_byte_cons, rules.hexDigit_quote]
    · rw [read_nibble_cons, rules.hexDigit_quote]
  cases cs with
  | nil =>
      exact absurd h (by rw [double, List.flatMap_nil, List.nil_append, (hquote _ 0 _).1]; simp)
  | cons high cs =>
      by_cases hhigh : high = rules.quote
      · subst hhigh
        rw [double_cons_quote, List.cons_append, (hquote _ 0 _).1] at h
        cases h
      · rw [double_cons_of_ne hhigh, List.cons_append, read_byte_cons] at h
        split at h
        · rename_i n _
          cases cs with
          | nil =>
              exact absurd h
                (by rw [double, List.flatMap_nil, List.nil_append, (hquote _ n _).2]; simp)
          | cons low cs =>
              by_cases hlow : low = rules.quote
              · subst hlow
                rw [double_cons_quote, List.cons_append, (hquote _ n _).2] at h
                cases h
              · rw [double_cons_of_ne hlow, List.cons_append, read_nibble_cons] at h
                split at h
                · exact ⟨high, low, cs, _, rfl, hhigh, hlow, h⟩
                · cases h
        · cases h

/-- An octal number takes no quote along. -/
theorem read_octal {cs content : List Char} {value left : ℕ} {pieces : List Piece}
    (h : read rules (.octal content value left) (double rules cs ++ rules.quote :: after) =
      some pieces) :
    ∃ taken rest byte, cs = taken ++ rest ∧ rules.quote ∉ taken ∧
      read rules (.body (content ++ [byte])) (double rules rest ++ rules.quote :: after) =
        some pieces := by
  have hquote : octalDigit rules.quote = none := by
    rw [octalDigit, rules.hexDigit_quote, Option.filter_none]
  -- the number may end before any character of the literal
  have ended {cs ds : List Char} {value left : ℕ} {d : Char}
      (h : read rules (.octal content value left) (double rules cs ++ rules.quote :: after) =
        some pieces)
      (hend : left = 0 ∨ octalDigit d = none)
      (hds : double rules cs ++ rules.quote :: after = d :: ds) :
      ∃ taken rest byte, cs = taken ++ rest ∧ rules.quote ∉ taken ∧
        read rules (.body (content ++ [byte])) (double rules rest ++ rules.quote :: after) =
          some pieces := by
    rw [hds, read_octal_end _ _ _ _ hend, ← hds] at h
    exact ⟨[], cs, _, rfl, List.not_mem_nil, h⟩
  -- on the digits that may still follow
  induction left generalizing cs value with
  | zero =>
      obtain ⟨d, ds, hds⟩ := List.exists_cons_of_ne_nil
        (show double rules cs ++ rules.quote :: after ≠ [] by simp)
      exact ended h (.inl rfl) hds
  | succ left ih =>
      cases cs with
      | nil => exact ended h (.inr hquote) rfl
      | cons c cs =>
          by_cases hc : c = rules.quote
          · subst hc
            exact ended h (.inr hquote) (by rw [double_cons_quote]; rfl)
          · have hcons : double rules (c :: cs) ++ rules.quote :: after =
                c :: (double rules cs ++ rules.quote :: after) := by
              rw [double_cons_of_ne hc, List.cons_append]
            cases hdigit : octalDigit c with
            | none => exact ended h (.inr hdigit) hcons
            | some digit =>
                rw [hcons, read_octal_digit _ _ _ _ _ hdigit] at h
                obtain ⟨taken, rest, byte, rfl, hnone, hread⟩ := ih h
                exact ⟨c :: taken, rest, byte, rfl, by simp [Ne.symm hc, hnone], hread⟩

/-- The escape character and a character of the literal after it: they denote
themselves, or together with what else belongs to them at most one character. -/
theorem read_sequence {e d : Char} {cs content : List Char} {pieces : List Piece}
    (he : rules.escape = some e) (hd : d ≠ rules.quote)
    (h : read rules (.escaped content) (double rules (d :: cs) ++ rules.quote :: after) =
      some pieces) :
    (rules.denotes d = .text [e, d] ∧
      read rules (.body (content ++ [e, d])) (double rules cs ++ rules.quote :: after) =
        some pieces) ∨
    ∃ taken rest short, cs = taken ++ rest ∧ rules.quote ∉ taken ∧ short.length ≤ 1 ∧
      read rules (.body (content ++ short)) (double rules rest ++ rules.quote :: after) =
        some pieces := by
  rw [double_cons_of_ne hd, List.cons_append, read_escaped_cons] at h
  cases hdenotes : rules.denotes d with
  | text ds =>
      simp only [hdenotes] at h
      rcases rules.denotes_text e d ds he hdenotes with rfl | hshort
      · exact .inl ⟨rfl, h⟩
      · exact .inr ⟨[], cs, ds, rfl, List.not_mem_nil, hshort, h⟩
  | byte =>
      simp only [hdenotes] at h
      obtain ⟨high, low, rest, byte, rfl, hhigh, hlow, hread⟩ := read_byte h
      refine .inr ⟨[high, low], rest, [byte], rfl, ?_, le_refl 1, hread⟩
      simp [Ne.symm hhigh, Ne.symm hlow]
  | octal digit =>
      simp only [hdenotes] at h
      obtain ⟨taken, rest, byte, rfl, hnone, hread⟩ := read_octal h
      exact .inr ⟨taken, rest, [byte], rfl, hnone, le_refl 1, hread⟩

/-- A quote is read where the literal should go on with another character. -/
theorem not_read_quote {cs content rest : List Char} {c : Char} {pieces : List Piece}
    (hc : c ≠ rules.quote)
    (h : read rules (.body (content ++ [rules.quote])) cs =
      some (.literal (content ++ c :: rest) :: pieces)) : False :=
  hc (head_of_content (m := .body _) nofun rfl h)

/-- What has been read and what is still behind it: as much of the literal. -/
theorem exists_behind (taken rest : List Char) {more content x cs : List Char}
    {pieces : List Piece}
    (h : read rules (.body (content ++ more)) cs = some (.literal x :: pieces))
    (hx : x = content ++ (taken ++ rest)) (hlength : more.length < taken.length) :
    ∃ behind, behind ≠ [] ∧ taken = more ++ behind ∧ x = content ++ more ++ (behind ++ rest) := by
  have hprefix : more <+: taken ++ rest := by
    have hcontent := content_prefix (m := .body _) nofun h
    rwa [hx, Mode.content, List.prefix_append_right_inj] at hcontent
  obtain ⟨behind, rfl⟩ := List.prefix_of_prefix_length_le hprefix (List.prefix_append _ _)
    (Nat.le_of_lt hlength)
  refine ⟨behind, ?_, rfl, by rw [hx]; simp⟩
  rintro rfl
  simp at hlength

/-- Once it is behind, the reader does not catch up: a literal never comes out with the
rest of its text and something before it that has not been read. -/
theorem not_read_of_behind (hafter : Closes rules after) {cs content behind : List Char}
    {pieces : List Piece} (hbehind : behind ≠ []) (hquote : rules.quote ∉ behind)
    (h : read rules (.body content) (double rules cs ++ rules.quote :: after) =
      some (.literal (content ++ (behind ++ cs)) :: pieces)) : False := by
  -- on the length, as an escape takes several characters
  induction hlength : cs.length using Nat.strong_induction_on generalizing cs content behind with
  | _ n ih =>
  -- what is taken of the literal is not more than what comes of it
  have advance {more rest : List Char} (taken : List Char) (hcs : cs = taken ++ rest)
      (htaken : taken ≠ [])
      (hnone : rules.quote ∉ taken) (hmore : more.length ≤ taken.length)
      (h : read rules (.body (content ++ more)) (double rules rest ++ rules.quote :: after) =
        some (.literal (content ++ (behind ++ cs)) :: pieces)) : False := by
    have hpos := List.length_pos_iff.2 hbehind
    obtain ⟨behind', hne, hsplit, hx⟩ := exists_behind (behind ++ taken) rest h
      (show content ++ (behind ++ cs) = content ++ ((behind ++ taken) ++ rest) by simp [hcs])
      (by rw [List.length_append]; omega)
    rw [hx] at h
    refine ih rest.length ?_ hne ?_ h rfl
    · have htaken' := List.length_pos_iff.2 htaken
      rw [← hlength, hcs, List.length_append]
      omega
    · intro hmem
      have hmem' : rules.quote ∈ behind ++ taken := hsplit ▸ List.mem_append_right more hmem
      rcases List.mem_append.1 hmem' with hmem' | hmem'
      · exact hquote hmem'
      · exact hnone hmem'
  -- the next character of the literal is one that is behind, not a quote
  have hread_quote {ds : List Char}
      (h : read rules (.body (content ++ [rules.quote])) ds =
        some (.literal (content ++ (behind ++ cs)) :: pieces)) : False := by
    obtain ⟨b, behind', rfl⟩ := List.exists_cons_of_ne_nil hbehind
    exact not_read_quote (fun heq => hquote (by simp [heq])) h
  cases cs with
  | nil =>
      rw [double, List.flatMap_nil, List.nil_append, read_body_quote, read_quoted hafter] at h
      obtain ⟨pieces', _, hpieces⟩ := Option.map_eq_some_iff.1 h
      have hcontent : content = content ++ (behind ++ []) :=
        (Piece.literal.inj (List.cons.inj hpieces).1)
      simp at hcontent
      exact hbehind hcontent
  | cons c cs =>
      by_cases hc : c = rules.quote
      · subst hc
        rw [double_cons_quote, List.cons_append, List.cons_append, read_body_doubled] at h
        exact hread_quote h
      · by_cases hescape : rules.escape = some c
        · rw [double_cons_of_ne hc, List.cons_append, read_body_escape _ _ hescape] at h
          cases cs with
          | nil =>
              rw [double, List.flatMap_nil, List.nil_append, read_escaped_quote] at h
              exact hread_quote h
          | cons d cs =>
              by_cases hd : d = rules.quote
              · subst hd
                rw [double_cons_quote, List.cons_append, List.cons_append, read_escaped_quote] at h
                exact hread_quote h
              · rcases read_sequence hescape hd h with ⟨_, hread⟩ |
                  ⟨taken, rest, short, hcs, hnone, hshort, hread⟩
                · refine advance [c, d] rfl (by simp) ?_ (by simp) hread
                  simp [Ne.symm hc, Ne.symm hd]
                · refine advance (c :: d :: taken) (by simp [hcs]) (by simp) ?_ ?_ hread
                  · simp [Ne.symm hc, Ne.symm hd, hnone]
                  · simp only [List.length_cons]
                    omega
        · rw [double_cons_of_ne hc, List.cons_append, read_body_plain _ _ hc hescape] at h
          refine advance [c] rfl (by simp) ?_ (by simp) h
          simp [Ne.symm hc]

/-- A literal that is read as it is written is kept. -/
theorem keeps_of_read (hafter : Closes rules after) {cs content : List Char}
    {pieces : List Piece}
    (h : read rules (.body content) (double rules cs ++ rules.quote :: after) =
      some (.literal (content ++ cs) :: pieces)) : keeps rules cs = true := by
  -- on the length, as an escape takes several characters
  induction hlength : cs.length using Nat.strong_induction_on generalizing cs content with
  | _ n ih =>
  cases cs with
  | nil => rfl
  | cons c cs =>
      by_cases hc : c = rules.quote
      · subst hc
        have hplain : (rules.escape == some rules.quote) = false := by simpa using rules.escape_ne
        rw [double_cons_quote, List.cons_append, List.cons_append, read_body_doubled] at h
        rw [keeps_cons, hplain, keepsFrom_false]
        rw [List.append_cons content _ cs] at h
        exact ih cs.length (by rw [← hlength]; simp) h rfl
      · by_cases hescape : rules.escape = some c
        · have hescaped : (rules.escape == some c) = true := by simpa using hescape
          rw [double_cons_of_ne hc, List.cons_append, read_body_escape _ _ hescape] at h
          rw [keeps_cons, hescaped]
          cases cs with
          | nil =>
              rw [double, List.flatMap_nil, List.nil_append, read_escaped_quote] at h
              exact (not_read_quote hc h).elim
          | cons d cs =>
              by_cases hd : d = rules.quote
              · subst hd
                rw [double_cons_quote, List.cons_append, List.cons_append, read_escaped_quote] at h
                exact (not_read_quote hc h).elim
              · rcases read_sequence hescape hd h with ⟨hdenotes, hread⟩ |
                  ⟨taken, rest, short, hcs, hnone, hshort, hread⟩
                · rw [keepsFrom_cons, hescape, hdenotes, Bool.and_eq_true]
                  have hread' : read rules (.body (content ++ [c, d]))
                      (double rules cs ++ rules.quote :: after) =
                        some (.literal (content ++ [c, d] ++ cs) :: pieces) := by
                    simpa using hread
                  have hlt : cs.length < n := by
                    rw [← hlength, List.length_cons, List.length_cons]
                    omega
                  exact ⟨by simp, ih cs.length hlt hread' rfl⟩
                · exfalso
                  obtain ⟨behind, hne, hsplit, hx⟩ := exists_behind (c :: d :: taken)
                    rest hread (by simp [hcs]) (by simp only [List.length_cons]; omega)
                  rw [hx] at hread
                  refine not_read_of_behind hafter hne ?_ hread
                  intro hmem
                  have hmem' : rules.quote ∈ c :: d :: taken := by
                    rw [hsplit]
                    exact List.mem_append_right _ hmem
                  simp [Ne.symm hc, Ne.symm hd, hnone] at hmem'
        · have hplain : (rules.escape == some c) = false := by simpa using hescape
          rw [double_cons_of_ne hc, List.cons_append, read_body_plain _ _ hc hescape] at h
          rw [keeps_cons, hplain, keepsFrom_false]
          rw [List.append_cons content c cs] at h
          exact ih cs.length (by rw [← hlength]; simp) h rfl

end Behind

/-! ## What is kept -/

/-- Without an escape character every literal is kept. -/
theorem keeps_of_none (h : rules.escape = none) (cs : List Char) : keeps rules cs = true := by
  induction cs with
  | nil => rfl
  | cons c cs ih =>
      have hplain : (rules.escape == some c) = false := by simp [h]
      rw [keeps_cons, hplain, keepsFrom_false]
      exact ih

/-- Where two escape characters denote one, a literal is kept exactly if each of its
escape characters denotes itself with the character after it. -/
theorem keeps_iff {e : Char} (he : rules.escape = some e) (hdouble : rules.denotes e ≠ .text [e, e])
    (cs : List Char) :
    keeps rules cs = true ↔ ∀ before after, cs = before ++ e :: after →
      ∃ c, after.head? = some c ∧ rules.denotes c = .text [e, c] := by
  -- on the length: the escape character takes the one behind it along
  induction hlength : cs.length using Nat.strong_induction_on generalizing cs with
  | _ n ih =>
  cases cs with
  | nil => exact ⟨fun _ before after hnil => by simp at hnil, fun _ => rfl⟩
  | cons c cs =>
      have hcs := ih cs.length (by rw [← hlength]; simp) cs rfl
      rw [keeps_cons, he]
      by_cases hc : e = c
      · subst hc
        rw [beq_self_eq_true]
        constructor
        · intro hkept before after hsplit
          cases cs with
          | nil => exact absurd hkept (by simp [keepsFrom_nil])
          | cons d ds =>
              rw [keepsFrom_cons, he, Bool.and_eq_true, beq_iff_eq] at hkept
              have hne : d ≠ e := by
                rintro rfl
                exact hdouble hkept.1
              cases before with
              | nil =>
                  cases hsplit
                  exact ⟨d, rfl, hkept.1⟩
              | cons x before =>
                  cases before with
                  | nil =>
                      cases hsplit
                      exact absurd rfl hne
                  | cons y before =>
                      have hlt : ds.length < n := by
                        rw [← hlength, List.length_cons, List.length_cons]
                        omega
                      have hds := ih ds.length hlt ds rfl
                      have hrest := (List.cons.inj (List.cons.inj hsplit).2).2
                      exact hds.1 hkept.2 before after hrest
        · intro hall
          obtain ⟨d, hd, hdenotes⟩ := hall [] cs rfl
          obtain ⟨ds, rfl⟩ := List.head?_eq_some_iff.1 hd
          have hds := ih ds.length
              (by rw [← hlength, List.length_cons, List.length_cons]; omega) ds rfl
          rw [keepsFrom_cons, he, Bool.and_eq_true, beq_iff_eq]
          refine ⟨hdenotes, hds.2 ?_⟩
          intro before after hsplit
          exact hall (e :: d :: before) after (by rw [hsplit]; rfl)
      · have hplain : (some e == some c) = false := by simpa using hc
        rw [hplain, keepsFrom_false]
        refine hcs.trans ⟨fun hall before after hsplit => ?_, fun hall before after hsplit => ?_⟩
        · cases before with
          | nil => exact absurd (List.cons.inj hsplit).1.symm hc
          | cons x before => exact hall before after (List.cons.inj hsplit).2
        · exact hall (c :: before) after (by rw [hsplit]; rfl)

/-! ## A statement -/

/-- What is rendered behind a literal does not double its closing quote. -/
theorem closes_render {cs : List Char} {pieces : List Piece}
    (h : Separate rules (.literal cs :: pieces)) : Closes rules (render rules pieces) := by
  cases pieces with
  | nil => exact nofun
  | cons p pieces =>
      cases p with
      | code c => exact fun heq => h.1 (Option.some.inj heq)
      | literal ds => exact h.elim

/-- What comes behind a piece is separate as well. -/
theorem separate_tail {p : Piece} {pieces : List Piece} (h : Separate rules (p :: pieces)) :
    Separate rules pieces := by
  cases p with
  | code c => exact h.2
  | literal cs =>
      cases pieces with
      | nil => trivial
      | cons q pieces =>
          cases q with
          | code c => exact ⟨h.1, h.2⟩
          | literal ds => exact h.elim

/-- A text without quotes is written as it is. -/
theorem render_code (cs : List Char) (pieces : List Piece) :
    render rules (cs.map .code ++ pieces) = cs ++ render rules pieces := by
  induction cs with
  | nil => rfl
  | cons c cs ih => rw [List.map_cons, List.cons_append, render_code_cons, ih, List.cons_append]

/-- A text without quotes is separate from whatever follows. -/
theorem separate_code {cs : List Char} (h : rules.quote ∉ cs) {pieces : List Piece}
    (hpieces : Separate rules pieces) : Separate rules (cs.map .code ++ pieces) := by
  induction cs with
  | nil => exact hpieces
  | cons c cs ih =>
      rw [List.mem_cons, not_or] at h
      exact ⟨Ne.symm h.1, ih h.2⟩

/-- A literal with code after it. -/
theorem separate_literal {cs : List Char} (hne : cs ≠ []) (h : rules.quote ∉ cs)
    {pieces : List Piece} (hpieces : Separate rules pieces) (name : List Char) :
    Separate rules (.literal name :: cs.map .code ++ pieces) := by
  have hcode := separate_code h hpieces
  cases cs with
  | nil => exact absurd rfl hne
  | cons c cs => exact ⟨hcode.1, hcode.2⟩

/-- A statement is read as it was meant exactly if its literals are kept. -/
theorem read_render_iff {pieces : List Piece} (h : Separate rules pieces) :
    read rules .code (render rules pieces) = some pieces ↔
      ∀ cs, .literal cs ∈ pieces → keeps rules cs = true := by
  -- piece by piece
  induction pieces with
  | nil => exact ⟨fun _ _ hmem => absurd hmem List.not_mem_nil, fun _ => rfl⟩
  | cons p pieces ih =>
      have ih := ih (separate_tail h)
      cases p with
      | code c =>
          have hc : c ≠ rules.quote := h.1
          have htail : (∀ cs, Piece.literal cs ∈ .code c :: pieces → keeps rules cs = true) ↔
              ∀ cs, Piece.literal cs ∈ pieces → keeps rules cs = true := by simp
          rw [render_code_cons, read_code_cons, if_neg hc, htail, ← ih, Option.map_eq_some_iff]
          constructor
          · rintro ⟨pieces', hread, hpieces⟩
            rwa [(List.cons.inj hpieces).2] at hread
          · intro hread
            exact ⟨pieces, hread, rfl⟩
      | literal cs =>
          have hafter := closes_render h
          have htail : (∀ ds, Piece.literal ds ∈ .literal cs :: pieces → keeps rules ds = true) ↔
              keeps rules cs = true ∧ ∀ ds, Piece.literal ds ∈ pieces → keeps rules ds = true := by
            simp
          rw [render_literal_cons, List.cons_append, read_code_cons, if_pos rfl, htail, ← ih]
          constructor
          · intro hread
            have hkeeps : keeps rules cs = true := keeps_of_read hafter hread
            refine ⟨hkeeps, ?_⟩
            rw [read_double_of_keeps hafter cs [] hkeeps] at hread
            obtain ⟨pieces', hread', hpieces⟩ := Option.map_eq_some_iff.1 hread
            rwa [(List.cons.inj hpieces).2] at hread'
          · rintro ⟨hkeeps, hread⟩
            rw [read_double_of_keeps hafter cs [] hkeeps, hread]
            rfl

/-! ## What becomes of a literal -/

/-- A literal replaced by what becomes of it. -/
def Piece.convert (f : List Char → List Char) : Piece → Piece
  | .code c => .code c
  | .literal cs => .literal (f cs)

/-- How literals are read, and what becomes of one that is read. A dialect with escape
sequences takes a literal as it is. -/
structure Dialect where
  rules : Rules
  converts : List Char → List Char
  plain : rules.escape = none ∨ converts = id

/-- The pieces of a text for the server. -/
def Dialect.read (d : Dialect) (text : List Char) : Option (List Piece) :=
  (SqlLiteral.read d.rules .code text).map (List.map (Piece.convert d.converts))

/-- A literal that is read as it is written and not converted to another. -/
def Dialect.keeps (d : Dialect) (cs : List Char) : Bool :=
  SqlLiteral.keeps d.rules cs && d.converts cs == cs

/-- Pieces stay the same if none of their literals becomes another. -/
theorem map_convert_eq_iff {f : List Char → List Char} {pieces : List Piece} :
    pieces.map (Piece.convert f) = pieces ↔ ∀ cs, .literal cs ∈ pieces → f cs = cs := by
  -- piece by piece; code is not converted
  induction pieces with
  | nil => exact ⟨fun _ _ hmem => absurd hmem List.not_mem_nil, fun _ => rfl⟩
  | cons p pieces ih =>
      rw [List.map_cons, List.cons.injEq, ih]
      cases p with
      | code c => simp [Piece.convert]
      | literal cs => simp [Piece.convert]

/-- The server is told what was meant exactly if the dialect keeps every literal. -/
theorem Dialect.read_render_iff {d : Dialect} {pieces : List Piece}
    (h : Separate d.rules pieces) :
    d.read (render d.rules pieces) = some pieces ↔
      ∀ cs, .literal cs ∈ pieces → d.keeps cs = true := by
  simp only [Dialect.keeps, Bool.and_eq_true, beq_iff_eq]
  rcases d.plain with hnone | hid
  · -- what is read is what was meant, and then converted
    have hread := (SqlLiteral.read_render_iff h).2 fun cs _ => keeps_of_none hnone cs
    rw [Dialect.read, hread, Option.map_some, Option.some.injEq, map_convert_eq_iff]
    simp only [keeps_of_none hnone, true_and]
  · have hsame (pieces : List Piece) : pieces.map (Piece.convert d.converts) = pieces := by
      rw [map_convert_eq_iff, hid]
      exact fun _ _ => rfl
    have hread : d.read (render d.rules pieces) =
        SqlLiteral.read d.rules .code (render d.rules pieces) := by
      rw [Dialect.read, funext hsame]
      exact Option.map_id'
    rw [hread, SqlLiteral.read_render_iff h, hid]
    simp only [id, and_true]

end SqlLiteral
