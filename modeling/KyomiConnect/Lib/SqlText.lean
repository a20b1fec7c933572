import Mathlib.Data.List.Basic
import Mathlib.Tactic.Common

/-! # The lexical structure of SQL

The tokens of a SQL text: words, quotations and symbols, without blanks and comments.
A comment goes from two dashes to the end of the line, or between `/*` and `*/`,
which nest. What quotes and what makes a word is a matter of the `Dialect`.

The lexer is a machine that takes one character at a time, so reading a text and
then another is reading the one before the other (`read_append`).
`tokens_append_of_boundary` is what becomes of the tokens of a text when a semicolon or a
blank and more are written after it: they are followed by those of the rest, unless the
text ends in a comment that goes to the end of the line, which swallows the rest, or is
unterminated.
-/

namespace SqlText

/-- A lexical unit. -/
inductive Token where
  | word (cs : List Char)
  /-- a quotation, by the character that opens it and its content -/
  | quoted (opening : Char) (cs : List Char)
  | symbol (c : Char)
deriving DecidableEq, Repr

/-- What SQL dialects differ in. A semicolon is a symbol in all of them. -/
structure Dialect where
  /-- The character that closes a quotation opened by a character. -/
  closing : Char → Option Char
  isWordChar : Char → Bool
  isBlank : Char → Bool
  endsLine : Char → Bool
  semicolon_symbol : isWordChar ';' = false ∧ isBlank ';' = false ∧ endsLine ';' = false ∧
    closing ';' = none ∧ ∀ o, closing o ≠ some ';'

/-- Where the lexer is; words and quotations are collected last character first. -/
inductive Mode where
  | code (word : List Char)
  | dash
  | slash
  | line
  | block (depth : ℕ)
  | blockStar (depth : ℕ)
  | blockSlash (depth : ℕ)
  | quote (opening : Char) (content : List Char)
  | quoteEnd (opening : Char) (content : List Char)
deriving DecidableEq, Repr

def wordToken (word : List Char) : List Token := if word = [] then [] else [.word word.reverse]

section Read

variable (d : Dialect)

/-- A character that starts something new. -/
def start (c : Char) : List Token × Mode :=
  if d.isWordChar c then ([], .code [c])
  else if c = '-' then ([], .dash)
  else if c = '/' then ([], .slash)
  else if (d.closing c).isSome then ([], .quote c [])
  else if d.isBlank c then ([], .code [])
  else ([.symbol c], .code [])

/-- What has been read, and then a character that starts something new. -/
def startAfter (tokens : List Token) (c : Char) : List Token × Mode :=
  (tokens ++ (start d c).1, (start d c).2)

/-- One character: the tokens it completes, and the next mode. -/
def step : Mode → Char → List Token × Mode
  | .code word, c =>
      if d.isWordChar c then ([], .code (c :: word)) else startAfter d (wordToken word) c
  | .dash, c => if c = '-' then ([], .line) else startAfter d [.symbol '-'] c
  | .slash, c => if c = '*' then ([], .block 1) else startAfter d [.symbol '/'] c
  | .line, c => ([], if d.endsLine c then .code [] else .line)
  | .block depth, c =>
      ([],
        if c = '*' then .blockStar depth
        else if c = '/' then .blockSlash depth
        else .block depth)
  | .blockStar depth, c =>
      ([], if c = '/' then (if depth ≤ 1 then .code [] else .block (depth - 1))
        else if c = '*' then .blockStar depth else .block depth)
  | .blockSlash depth, c =>
      ([], if c = '*' then .block (depth + 1)
        else if c = '/' then .blockSlash depth else .block depth)
  | .quote o content, c =>
      ([], if d.closing o = some c then .quoteEnd o content else .quote o (c :: content))
  | .quoteEnd o content, c =>
      -- a doubled closing character stands for itself
      if d.closing o = some c then ([], .quote o (c :: content))
      else startAfter d [.quoted o content.reverse] c

/-- The tokens completed by some characters, and the mode after them. -/
def read : Mode → List Char → List Token × Mode
  | m, [] => ([], m)
  | m, c :: cs => ((step d m c).1 ++ (read (step d m c).2 cs).1, (read (step d m c).2 cs).2)

/-- What the end of the text completes; none if it cannot end here. -/
def Mode.finish : Mode → Option (List Token)
  | .code word => some (wordToken word)
  | .dash => some [.symbol '-']
  | .slash => some [.symbol '/']
  | .line => some []
  | .quoteEnd o content => some [.quoted o content.reverse]
  | .block _ | .blockStar _ | .blockSlash _ | .quote _ _ => none

/-- The tokens from a mode on, none if a comment or a quotation is unterminated. -/
def tokensFrom (m : Mode) (cs : List Char) : Option (List Token) :=
  (read d m cs).2.finish.map ((read d m cs).1 ++ ·)

/-- The tokens of a text. -/
def tokens (cs : List Char) : Option (List Token) := tokensFrom d (.code []) cs

/-- The text ends in a comment that goes to the end of the line. -/
def EndsInComment (cs : List Char) : Prop := (read d (.code []) cs).2 = .line

instance (cs : List Char) : Decidable (EndsInComment d cs) := inferInstanceAs (Decidable (_ = _))

/-- No comment and no quotation ends at any of these characters. -/
def Plain (cs : List Char) : Prop :=
  ∀ c ∈ cs, d.endsLine c = false ∧ c ≠ '*' ∧ c ≠ '/' ∧ ∀ o, d.closing o ≠ some c

end Read

variable {d : Dialect}

theorem read_append (m : Mode) (cs ds : List Char) :
    read d m (cs ++ ds) = ((read d m cs).1 ++ (read d (read d m cs).2 ds).1,
      (read d (read d m cs).2 ds).2) := by
  -- character by character; the mode is all that is carried over
  induction cs generalizing m with
  | nil => rfl
  | cons c cs ih => rw [List.cons_append, read, ih, read, List.append_assoc]

theorem tokensFrom_append (m : Mode) (cs ds : List Char) :
    tokensFrom d m (cs ++ ds) =
      (tokensFrom d (read d m cs).2 ds).map ((read d m cs).1 ++ ·) := by
  unfold tokensFrom
  rw [read_append, Option.map_map]
  congr 1
  funext us
  exact List.append_assoc _ _ _

theorem start_semicolon : start d ';' = ([.symbol ';'], .code []) := by
  rcases d.semicolon_symbol with ⟨hword, hblank, _, hclosing, _⟩
  simp [start, hword, hblank, hclosing]

/-- A character that ends every word and every quotation before it. -/
structure Boundary (d : Dialect) (c : Char) : Prop where
  word : d.isWordChar c = false
  dash : c ≠ '-'
  star : c ≠ '*'
  closing : ∀ o, d.closing o ≠ some c

theorem boundary_semicolon (d : Dialect) : Boundary d ';' where
  word := d.semicolon_symbol.1
  dash := by decide
  star := by decide
  closing := d.semicolon_symbol.2.2.2.2

/-- Outside comments and quotations it completes what is there, and starts something new. -/
theorem Boundary.step {c : Char} (hc : Boundary d c) {m : Mode} {us : List Token}
    (hfinish : m.finish = some us) (hline : m ≠ .line) :
    SqlText.step d m c = startAfter d us c := by
  cases m <;> simp only [Mode.finish, reduceCtorEq, Option.some.injEq] at hfinish
  case line => exact absurd rfl hline
  all_goals
    subst hfinish
    simp [SqlText.step, hc.word, hc.dash, hc.star, hc.closing]

/-- A character that completes tokens and starts something new. -/
theorem tokensFrom_of_step {m : Mode} {c : Char} {us : List Token}
    (h : SqlText.step d m c = startAfter d us c) (cs : List Char) :
    tokensFrom d m (c :: cs) =
      (tokensFrom d (start d c).2 cs).map (us ++ (start d c).1 ++ ·) := by
  simp only [tokensFrom, read, h, startAfter, Option.map_map]
  congr 1
  funext vs
  simp

/-- A comment to the end of the line goes on. -/
theorem read_line {cs : List Char} (h : Plain d cs) : read d .line cs = ([], .line) := by
  -- none of the characters ends the comment
  induction cs with
  | nil => rfl
  | cons c cs ih =>
      have hc := (h c (by simp)).1
      rw [read, step, hc, if_neg (by simp), ih fun x hx => h x (by simp [hx])]
      rfl

/-- An unterminated comment or quotation remains so. -/
theorem finish_read_of_finish {m : Mode} (hm : m.finish = none) {cs : List Char}
    (h : Plain d cs) : (read d m cs).2.finish = none := by
  -- in none of the unfinished modes does a plain character bring the end
  induction cs generalizing m with
  | nil => exact hm
  | cons c cs ih =>
      rcases h c (by simp) with ⟨_, hstar, hslash, hclosing⟩
      refine ih ?_ fun x hx => h x (by simp [hx])
      cases m with
      | block depth => simp [step, hstar, hslash, Mode.finish]
      | blockStar depth => simp [step, hstar, hslash, Mode.finish]
      | blockSlash depth => simp [step, hstar, hslash, Mode.finish]
      | quote o content => simp [step, hclosing o, Mode.finish]
      | _ => simp [Mode.finish] at hm

/-- The tokens of a text with a boundary and more after it. -/
theorem tokens_append_of_boundary (cs : List Char) {c : Char} {ds : List Char}
    (hc : Boundary d c) (h : Plain d (c :: ds)) :
    tokens d (cs ++ c :: ds) =
      if EndsInComment d cs then tokens d cs
      else (tokens d cs).bind fun ts =>
        (tokensFrom d (start d c).2 ds).map fun us => ts ++ (start d c).1 ++ us := by
  unfold tokens
  rw [tokensFrom_append]
  by_cases hcomment : EndsInComment d cs
  · -- the comment swallows the rest
    rw [if_pos hcomment]
    unfold EndsInComment at hcomment
    rw [tokensFrom, hcomment, read_line h, tokensFrom, hcomment]
    rfl
  · rw [if_neg hcomment]
    have hread : tokensFrom d (.code []) cs =
        (read d (.code []) cs).2.finish.map ((read d (.code []) cs).1 ++ ·) := rfl
    rw [hread]
    cases hfinish : (read d (.code []) cs).2.finish with
    | none =>
        have hopen := finish_read_of_finish hfinish h
        rw [tokensFrom, hopen]
        rfl
    | some us =>
        rw [tokensFrom_of_step (hc.step hfinish hcomment)]
        simp [Option.map_map, Function.comp_def]

/-- The tokens of a text with a semicolon and more after it. -/
theorem tokens_append (cs : List Char) {ds : List Char} (h : Plain d ds) :
    tokens d (cs ++ ';' :: ds) =
      if EndsInComment d cs then tokens d cs
      else (tokens d cs).bind fun ts => (tokens d ds).map fun us => ts ++ .symbol ';' :: us := by
  have hsemi : Plain d (';' :: ds) := by
    rintro c (_ | ⟨_, hc⟩)
    · exact ⟨d.semicolon_symbol.2.2.1, by decide, by decide, (boundary_semicolon d).closing⟩
    · exact h c hc
  rw [tokens_append_of_boundary cs (boundary_semicolon d) hsemi, start_semicolon]
  simp [tokens]

/-- The tokens of a text after one that is complete. -/
theorem tokens_after {cs ds : List Char} {ts : List Token}
    (h : read d (.code []) cs = (ts, .code [])) :
    tokens d (cs ++ ds) = (tokens d ds).map (ts ++ ·) := by
  unfold tokens
  rw [tokensFrom_append, h]

/-! ## Words and blanks -/

/-- A character that is between words and belongs to nothing. -/
structure Blank (d : Dialect) (c : Char) : Prop extends Boundary d c where
  start_eq : start d c = ([], .code [])
  plain : Plain d [c]

/-- The characters of a word are collected. -/
theorem read_word {cs word : List Char} (h : ∀ c ∈ cs, d.isWordChar c = true) :
    read d (.code word) cs = ([], .code (cs.reverse ++ word)) := by
  -- the letters are collected in reverse
  induction cs generalizing word with
  | nil => rfl
  | cons c cs ih =>
      have hc := h c (List.mem_cons_self ..)
      rw [read, SqlText.step, if_pos hc, ih fun x hx => h x (List.mem_cons_of_mem c hx)]
      simp

/-- A word and a blank. -/
theorem tokens_word_blank {c : Char} (hc : Blank d c) {cs : List Char} (hne : cs ≠ [])
    (hword : ∀ x ∈ cs, d.isWordChar x = true) (ds : List Char) :
    tokens d (cs ++ c :: ds) = (tokens d ds).map (.word cs :: ·) := by
  have hread : read d (.code []) (cs ++ [c]) = ([.word cs], .code []) := by
    rw [read_append, read_word hword]
    simp [read, SqlText.step, hc.word, startAfter, hc.start_eq, wordToken, hne]
  have hsplit : cs ++ c :: ds = (cs ++ [c]) ++ ds := by simp
  rw [hsplit, tokens_after hread]
  rfl

/-- A word alone. -/
theorem tokens_word {cs : List Char} (hne : cs ≠ []) (hword : ∀ x ∈ cs, d.isWordChar x = true) :
    tokens d cs = some [.word cs] := by
  unfold tokens tokensFrom
  rw [read_word hword]
  simp [Mode.finish, wordToken, hne]

/-- A text, a blank and more. -/
theorem tokens_append_blank (cs : List Char) {c : Char} {ds : List Char} (hc : Blank d c)
    (h : Plain d ds) :
    tokens d (cs ++ c :: ds) =
      if EndsInComment d cs then tokens d cs
      else (tokens d cs).bind fun ts => (tokens d ds).map (ts ++ ·) := by
  have hplain : Plain d (c :: ds) := by
    rintro x (_ | ⟨_, hx⟩)
    · exact hc.plain c (List.mem_cons_self ..)
    · exact h x hx
  rw [tokens_append_of_boundary cs hc.toBoundary hplain, hc.start_eq]
  simp [tokens]

/-! ## Words next to other things -/

/-- What a token begins with, in a word that has begun. -/
theorem exists_word_of_code {word : List Char} (hne : word ≠ []) {cs : List Char}
    {ts : List Token} (h : tokensFrom d (.code word) cs = some ts) :
    ∃ w us, ts = .word (word.reverse ++ w) :: us := by
  -- character by character: a word that has begun is the first token
  induction cs generalizing word with
  | nil =>
      refine ⟨[], [], ?_⟩
      simpa [tokensFrom, read, Mode.finish, wordToken, hne] using h.symm
  | cons c cs ih =>
      cases hword : d.isWordChar c with
      | true =>
          have hnext : tokensFrom d (.code (c :: word)) cs = some ts := by
            simpa [tokensFrom, read, SqlText.step, hword] using h
          obtain ⟨w, us, rfl⟩ := ih (List.cons_ne_nil _ _) hnext
          exact ⟨c :: w, us, by simp⟩
      | false =>
          have hstep : SqlText.step d (.code word) c = startAfter d (wordToken word) c := by
            simp [SqlText.step, hword]
          rw [tokensFrom_of_step hstep, Option.map_eq_some_iff] at h
          obtain ⟨us, -, rfl⟩ := h
          exact ⟨[], (start d c).1 ++ us, by simp [wordToken, hne]⟩

/-- A text that starts with a quotation does not start with a word. -/
theorem exists_quoted_of_quote {o : Char} {cs : List Char} {ts : List Token} :
    (∀ content, tokensFrom d (.quote o content) cs = some ts →
      ∃ content' us, ts = .quoted o content' :: us) ∧
    ∀ content, tokensFrom d (.quoteEnd o content) cs = some ts →
      ∃ content' us, ts = .quoted o content' :: us := by
  -- both modes of a quote at once, as each leads to the other
  induction cs generalizing ts with
  | nil =>
      constructor
      · intro content h
        cases h
      · intro content h
        exact ⟨_, [], by simpa [tokensFrom, read, Mode.finish] using h.symm⟩
  | cons c cs ih =>
      constructor
      · intro content h
        by_cases hclose : d.closing o = some c
        · exact ih.2 content (by simpa [tokensFrom, read, SqlText.step, hclose] using h)
        · exact ih.1 (c :: content) (by simpa [tokensFrom, read, SqlText.step, hclose] using h)
      · intro content h
        by_cases hclose : d.closing o = some c
        · exact ih.1 (c :: content) (by simpa [tokensFrom, read, SqlText.step, hclose] using h)
        · have hstep : SqlText.step d (.quoteEnd o content) c =
              startAfter d [.quoted o content.reverse] c := if_neg hclose
          rw [tokensFrom_of_step hstep, Option.map_eq_some_iff] at h
          obtain ⟨us, -, rfl⟩ := h
          exact ⟨content.reverse, (start d c).1 ++ us, by simp⟩

/-- Characters before the first word are blanks, where they are no part of it and no comment
starts with them. -/
theorem tokens_dropWhile {p : Char → Bool} (hdash : p '-' = false) (hslash : p '/' = false)
    {cs : List Char} {x : Char} {w : List Char} {us : List Token}
    (h : tokens d cs = some (.word (x :: w) :: us)) (hx : p x = false) :
    tokens d (cs.dropWhile p) = some (.word (x :: w) :: us) := by
  -- over the blanks in front of the first word
  induction cs with
  | nil => exact h
  | cons c cs ih =>
      cases hpc : p c with
      | false => rwa [List.dropWhile_cons_of_neg (by simp [hpc])]
      | true =>
          rw [List.dropWhile_cons_of_pos hpc]
          refine ih ?_
          have hdash' : c ≠ '-' := by
            rintro rfl
            exact absurd hpc (by simp [hdash])
          have hslash' : c ≠ '/' := by
            rintro rfl
            exact absurd hpc (by simp [hslash])
          cases hword : d.isWordChar c with
          | true =>
              have hcode : tokensFrom d (.code [c]) cs = some (.word (x :: w) :: us) := by
                simpa [tokens, tokensFrom, read, SqlText.step, hword] using h
              obtain ⟨w', us', heq⟩ := exists_word_of_code (List.cons_ne_nil _ _) hcode
              have hhead : x = c := by
                have := (List.cons.inj heq).1
                simp only [Token.word.injEq, List.reverse_singleton, List.singleton_append,
                  List.cons.injEq] at this
                exact this.1
              rw [hhead, hpc] at hx
              cases hx
          | false =>
              simp only [tokens, tokensFrom, read, SqlText.step, hword, startAfter, start, hdash',
                hslash', wordToken] at h
              cases hclosing : (d.closing c).isSome with
              | true =>
                  have hquote : tokensFrom d (.quote c []) cs = some (.word (x :: w) :: us) := by
                    simpa [tokensFrom, hclosing] using h
                  obtain ⟨_, _, heq⟩ := exists_quoted_of_quote.1 [] hquote
                  cases heq
              | false =>
                  cases hblank : d.isBlank c with
                  | true => simpa [tokens, tokensFrom, hclosing, hblank] using h
                  | false => simp [hclosing, hblank] at h

/-- The end of a text completes at most one token, so all but the last token of a text are
tokens of every longer one. -/
theorem dropLast_prefix_of_tokens {m : Mode} {cs ds : List Char} {ts us : List Token}
    (hcs : tokensFrom d m cs = some ts) (hlong : tokensFrom d m (cs ++ ds) = some us) :
    ts.dropLast <+: us := by
  obtain ⟨last, hlast, rfl⟩ := Option.map_eq_some_iff.1 hcs
  rw [tokensFrom_append, Option.map_eq_some_iff] at hlong
  obtain ⟨more, -, rfl⟩ := hlong
  have hone : last.length ≤ 1 := by
    cases h : (read d m cs).2 <;> rw [h] at hlast <;> simp [Mode.finish] at hlast
    all_goals
      subst hlast
      try unfold wordToken
      try split
      all_goals simp
  have hdrop : ((read d m cs).1 ++ last).dropLast <+: (read d m cs).1 := by
    match last, hone with
    | [], _ => simpa using List.dropLast_prefix _
    | [t], _ => simp
  exact hdrop.trans (List.prefix_append _ _)

end SqlText
