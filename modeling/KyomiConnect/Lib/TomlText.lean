import Mathlib.Data.List.Basic
import Mathlib.Tactic.Common

/-! # Documents of assignments

The part of TOML that a flat record is written in: a line for each key, with a string between
double quotes or a number in decimal digits. A quote and a backslash in a string are written
behind a backslash.

The reader goes over the text a character at a time. What a value is written as is read back
(`read_value`), and so is a document (`parse_render`).
-/

namespace TomlText

/-! ## Writing -/

inductive Value where
  | string (content : List Char)
  | integer (n : ℕ)
deriving DecidableEq, Repr

/-- A string's characters, with what would end it early behind a backslash. -/
def escape (content : List Char) : List Char :=
  content.flatMap fun c => if c = '"' ∨ c = '\\' then ['\\', c] else [c]

def Value.chars : Value → List Char
  | .string content => '"' :: (escape content ++ ['"'])
  | .integer n => Nat.toDigits 10 n

/-- The lines of a document. -/
def render (entries : List (List Char × Value)) : List Char :=
  entries.flatMap fun (key, value) => key ++ ([' ', '=', ' '] ++ (value.chars ++ ['\n']))

/-! ## Reading -/

/-- Where the reader is in a line. -/
inductive Mode where
  | key (key : List Char)
  | equals (key : List Char)
  | gap (key : List Char)
  | value (key : List Char)
  | string (key content : List Char)
  | escaped (key content : List Char)
  | integer (key : List Char) (n : ℕ)
  | lineEnd (key : List Char) (value : Value)

/-- The entries of a text; none if it is malformed. -/
def read : Mode → List Char → Option (List (List Char × Value))
  | .key [], [] => some []
  | .key key, c :: cs => if c = ' ' then read (.equals key) cs else read (.key (key ++ [c])) cs
  | .equals key, c :: cs => if c = '=' then read (.gap key) cs else none
  | .gap key, c :: cs => if c = ' ' then read (.value key) cs else none
  | .value key, c :: cs =>
      if c = '"' then read (.string key []) cs
      else if c.isDigit then read (.integer key (c.toNat - '0'.toNat)) cs
      else none
  | .string key content, c :: cs =>
      if c = '"' then read (.lineEnd key (.string content)) cs
      else if c = '\\' then read (.escaped key content) cs
      else read (.string key (content ++ [c])) cs
  | .escaped key content, c :: cs => read (.string key (content ++ [c])) cs
  | .integer key n, c :: cs =>
      if c = '\n' then (read (.key []) cs).map ((key, .integer n) :: ·)
      else if c.isDigit then read (.integer key (10 * n + (c.toNat - '0'.toNat))) cs
      else none
  | .lineEnd key value, c :: cs =>
      if c = '\n' then (read (.key []) cs).map ((key, value) :: ·) else none
  | _, [] => none

def parse (cs : List Char) : Option (List (List Char × Value)) := read (.key []) cs

/-- The value of a key. -/
def lookup (key : List Char) (entries : List (List Char × Value)) : Option Value :=
  (entries.find? fun e => e.1 == key).map Prod.snd

/-! ## What is written is read -/

theorem read_key {key : List Char} (h : ' ' ∉ key) (before rest : List Char) :
    read (.key before) (key ++ ' ' :: rest) = read (.equals (before ++ key)) rest := by
  induction key generalizing before with
  | nil =>
      rw [List.append_nil, List.nil_append]
      simp only [read, if_true]
  | cons c key ih =>
      rw [List.mem_cons, not_or] at h
      have hc : c ≠ ' ' := fun heq => h.1 heq.symm
      rw [List.cons_append]
      simp only [read, if_neg hc]
      rw [ih h.2, List.append_assoc, List.singleton_append]

theorem read_string (key content before rest : List Char) :
    read (.string key before) (escape content ++ '"' :: rest) =
      read (.lineEnd key (.string (before ++ content))) rest := by
  -- character by character, escaped or not
  induction content generalizing before with
  | nil =>
      rw [List.append_nil]
      simp only [escape, List.flatMap_nil, List.nil_append, read, if_true]
  | cons c content ih =>
      have htail (before : List Char) : read (.string key (before ++ [c]))
          (escape content ++ '"' :: rest) =
          read (.lineEnd key (.string (before ++ c :: content))) rest := by
        rw [ih, List.append_assoc, List.singleton_append]
      unfold escape at htail ⊢
      rw [List.flatMap_cons]
      split
      · have hslash : ('\\' : Char) ≠ '"' := by decide
        simp only [List.cons_append, List.nil_append, read, if_neg hslash, if_true]
        exact htail before
      · rename_i hplain
        rw [not_or] at hplain
        simp only [List.cons_append, List.nil_append, read, if_neg hplain.1, if_neg hplain.2]
        exact htail before

/-- The digits after those that have been read. -/
theorem read_digits {digits : List Char} (h : ∀ c ∈ digits, c.isDigit = true) (key : List Char)
    (n : ℕ) (rest : List Char) :
    read (.integer key n) (digits ++ '\n' :: rest) =
      (read (.key []) rest).map ((key, .integer (Nat.ofDigitChars 10 digits n)) :: ·) := by
  -- digit by digit, with the value so far
  induction digits generalizing n with
  | nil => simp only [List.nil_append, read, if_true, Nat.ofDigitChars_nil]
  | cons c digits ih =>
      have hdigit : c.isDigit = true := h c (List.mem_cons_self ..)
      have hc : c ≠ '\n' := by
        rintro rfl
        exact absurd hdigit (by decide)
      rw [List.cons_append]
      simp only [read, if_neg hc, if_pos hdigit]
      rw [ih fun d hd => h d (List.mem_cons_of_mem _ hd), Nat.ofDigitChars_cons]

theorem read_value (key : List Char) (value : Value) (rest : List Char) :
    read (.value key) (value.chars ++ '\n' :: rest) =
      (read (.key []) rest).map ((key, value) :: ·) := by
  cases value with
  | string content =>
      rw [Value.chars, List.cons_append, List.append_assoc, List.singleton_append]
      simp only [read, if_true]
      rw [read_string, List.nil_append]
      simp only [read, if_true]
  | integer n =>
      have hdigits : ∀ c ∈ Nat.toDigits 10 n, c.isDigit = true := fun c hc =>
        Nat.isDigit_of_mem_toDigits (by decide) (by decide) hc
      have hvalue : Nat.ofDigitChars 10 (Nat.toDigits 10 n) 0 = n := Nat.ofDigitChars_ten_toDigits
      rw [Value.chars]
      cases hchars : Nat.toDigits 10 n with
      | nil => exact absurd hchars Nat.toDigits_ne_nil
      | cons c cs =>
          rw [hchars] at hdigits hvalue
          have hdigit : c.isDigit = true := hdigits c (List.mem_cons_self ..)
          have hc : c ≠ '"' := by
            rintro rfl
            exact absurd hdigit (by decide)
          rw [Nat.ofDigitChars_cons, Nat.mul_zero, Nat.zero_add] at hvalue
          rw [List.cons_append]
          simp only [read, if_neg hc, if_pos hdigit]
          rw [read_digits fun d hd => hdigits d (List.mem_cons_of_mem _ hd), hvalue]

/-- A document is read as it was written. -/
theorem parse_render {entries : List (List Char × Value)} (h : ∀ e ∈ entries, ' ' ∉ e.1) :
    parse (render entries) = some entries := by
  unfold parse
  -- entry by entry, a line each
  induction entries with
  | nil => rfl
  | cons entry entries ih =>
      rcases entry with ⟨key, value⟩
      have hkey : ' ' ∉ key := h (key, value) (List.mem_cons_self ..)
      have hrest := ih fun e he => h e (List.mem_cons_of_mem _ he)
      have hline : render ((key, value) :: entries) =
          key ++ ' ' :: '=' :: ' ' :: (value.chars ++ '\n' :: render entries) := by
        simp [render]
      rw [hline, read_key hkey, List.nil_append]
      simp only [read, if_true]
      rw [read_value, hrest, Option.map_some]

/-! ## Looking up -/

theorem lookup_cons (key k : List Char) (value : Value) (entries : List (List Char × Value)) :
    lookup key ((k, value) :: entries) = if k = key then some value else lookup key entries := by
  unfold lookup
  rw [List.find?_cons]
  by_cases h : k = key
  · rw [if_pos h, beq_iff_eq.2 h]
    rfl
  · rw [if_neg h, beq_false_of_ne h]

/-- An entry that need not be there. -/
theorem lookup_toList {α : Type} (key k : List Char) (value : α → Value) (a : Option α)
    (entries : List (List Char × Value)) :
    lookup key ((a.map fun x => (k, value x)).toList ++ entries) =
      if k = key then (a.map value).or (lookup key entries) else lookup key entries := by
  cases a with
  | none =>
      rw [Option.map_none, Option.toList_none, List.nil_append, Option.map_none, Option.none_or,
        ite_self]
  | some x =>
      rw [Option.map_some, Option.toList_some, List.singleton_append, lookup_cons,
        Option.map_some, Option.some_or]

end TomlText
