import Mathlib.Algebra.Ring.Nat
import Mathlib.Data.List.Count
import Mathlib.Data.List.DropRight
import Mathlib.Data.List.Nodup
import Mathlib.Tactic.Common
import Mathlib.Tactic.SplitIfs

/-! # Files of environment variables

How a service manager reads the assignments of an environment file: a line `KEY=value` for each
variable, with comment lines between them. The blanks around a key and around a value are
dropped. A value may be put in quotes, in whole or in part, and a backslash takes the character
after it as it is; within single quotes it does not, and within double quotes only a few
characters are taken so. A line goes on behind an escaped line break.

The reader goes over the file a character at a time. A character of a value that is a quote or a
backslash is put out at most once (`weight_step`), and not at all where it opens a quotation or an
escape (`weight_step_opens`). So a file whose keys have none of these characters, and of which
every value is put out in whole, has no quotation and no escape (`quiet_of_total`): it is read
line by line, and its values are plain (`plain_of_assigned`).
-/

namespace EnvFile

/-! ## Characters -/

def isNewline (c : Char) : Bool := c == '\n' || c == '\r'

def isBlank (c : Char) : Bool := c == ' ' || c == '\t' || isNewline c

def isComment (c : Char) : Bool := c == '#' || c == ';'

/-- The apostrophe. -/
def singleQuote : Char := Char.ofNat 0x27

def isQuote (c : Char) : Bool := c == singleQuote || c == '"'

/-- A character that a backslash takes as it is within double quotes. -/
def needsEscape (c : Char) : Bool := c == '"' || c == '\\' || c == Char.ofNat 0x60 || c == '$'

/-- A letter, a digit or an underscore. -/
def isNameChar (c : Char) : Bool := c.isAlphanum || c == '_'

/-- The name of a variable. -/
def isName (key : List Char) : Bool :=
  !key.isEmpty && key.all isNameChar && !(key.head?.any Char.isDigit)

/-! ## The reader -/

inductive State where
  | preKey
  | key
  | preValue
  | value
  | valueEscape
  | singleQuoteValue
  | doubleQuoteValue
  | doubleQuoteValueEscape
  | comment
  | commentEscape
deriving DecidableEq

abbrev Entry := List Char × List Char

/-- Where the reader is. The blanks after a key and after a value are kept apart, since they are
dropped at the end. -/
structure Reader where
  state : State
  key : List Char
  keyBlanks : List Char
  value : List Char
  blanks : List Char
  pushed : List Entry

namespace Reader

/-- The reader before a line. -/
def before (pushed : List Entry) : Reader := ⟨.preKey, [], [], [], [], pushed⟩

/-- An assignment is over. -/
def push (r : Reader) : Reader := before (r.pushed ++ [(r.key, r.value)])

def step (r : Reader) (c : Char) : Reader :=
  match r.state with
  | .preKey =>
      if isComment c then { r with state := .comment }
      else if isBlank c then r
      else { r with state := .key, key := [c], keyBlanks := [] }
  | .key =>
      if isNewline c then before r.pushed
      else if c = '=' then { r with state := .preValue }
      else if isBlank c then { r with keyBlanks := r.keyBlanks ++ [c] }
      else { r with key := r.key ++ r.keyBlanks ++ [c], keyBlanks := [] }
  | .preValue =>
      if isNewline c then r.push
      else if c = singleQuote then { r with state := .singleQuoteValue }
      else if c = '"' then { r with state := .doubleQuoteValue }
      else if c = '\\' then { r with state := .valueEscape }
      else if isBlank c then r
      else { r with state := .value, value := r.value ++ [c] }
  | .value =>
      if isNewline c then r.push
      else if c = '\\' then
        { r with state := .valueEscape, value := r.value ++ r.blanks, blanks := [] }
      else if isBlank c then { r with blanks := r.blanks ++ [c] }
      else { r with value := r.value ++ r.blanks ++ [c], blanks := [] }
  | .valueEscape =>
      -- an escaped line break is eaten up
      if isNewline c then { r with state := .value }
      else { r with state := .value, value := r.value ++ [c] }
  | .singleQuoteValue =>
      if c = singleQuote then { r with state := .preValue }
      else { r with value := r.value ++ [c] }
  | .doubleQuoteValue =>
      if c = '"' then { r with state := .preValue }
      else if c = '\\' then { r with state := .doubleQuoteValueEscape }
      else { r with value := r.value ++ [c] }
  | .doubleQuoteValueEscape =>
      if needsEscape c then { r with state := .doubleQuoteValue, value := r.value ++ [c] }
      else if c = '\n' then { r with state := .doubleQuoteValue }
      else { r with state := .doubleQuoteValue, value := r.value ++ ['\\', c] }
  | .comment =>
      if c = '\\' then { r with state := .commentEscape }
      else if isNewline c then { r with state := .preKey }
      else r
  | .commentEscape =>
      if isNewline c then { r with state := .preKey } else { r with state := .comment }

def run (r : Reader) (cs : List Char) : Reader := cs.foldl step r

/-- What has been read when the file ends; a value that was begun is over. -/
def finish (r : Reader) : List Entry :=
  match r.state with
  | .preKey | .key | .comment | .commentEscape => r.pushed
  | _ => r.pushed ++ [(r.key, r.value)]

/-- A text is read part by part. -/
theorem run_append (r : Reader) (cs ds : List Char) : r.run (cs ++ ds) = (r.run cs).run ds :=
  List.foldl_append

end Reader

open Reader

/-- The assignments of a file; none if it has a zero byte, which makes it unreadable. -/
def load (cs : List Char) : Option (List Entry) :=
  if Char.ofNat 0 ∈ cs then none else some ((before []).run cs).finish

/-- The value of a variable: assignments to what is no name are ignored, and a later assignment
overrides an earlier one. -/
def assigned (entries : List Entry) (name : List Char) : Option (List Char) :=
  ((entries.filter fun e => isName e.1).reverse.find? fun e => e.1 == name).map Prod.snd

/-- A file with a line for each entry, the value as it is. -/
def render (lines : List Entry) : List Char :=
  lines.flatMap fun e => e.1 ++ '=' :: (e.2 ++ ['\n'])

/-! ## Values that are read as they are written -/

/-- The text without the blanks around it. -/
def strip (cs : List Char) : List Char := (cs.dropWhile isBlank).rdropWhile isBlank

/-- A value that is read as it is written. -/
structure Plain (cs : List Char) : Prop where
  newline : ∀ c ∈ cs, isNewline c = false
  backslash : '\\' ∉ cs
  zero : Char.ofNat 0 ∉ cs
  quote : (cs.head?.any isQuote) = false
  stripped : strip cs = cs

instance (cs : List Char) : Decidable (Plain cs) :=
  have : Decidable (∀ c ∈ cs, isNewline c = false) := List.decidableBAll _ cs
  decidable_of_iff ((∀ c ∈ cs, isNewline c = false) ∧ '\\' ∉ cs ∧ Char.ofNat 0 ∉ cs ∧
      (cs.head?.any isQuote) = false ∧ strip cs = cs)
    ⟨fun ⟨hnewline, hslash, hzero, hquote, hstrip⟩ => ⟨hnewline, hslash, hzero, hquote, hstrip⟩,
      fun ⟨hnewline, hslash, hzero, hquote, hstrip⟩ => ⟨hnewline, hslash, hzero, hquote, hstrip⟩⟩

/-! ## What is put out -/

/-- The first character counts on its own. -/
theorem count_cons_eq (c d : Char) (cs : List Char) :
    (d :: cs).count c = [d].count c + cs.count c := by
  rw [← List.singleton_append, List.count_append]

/-- How often a character occurs in the values. -/
def total (c : Char) (entries : List Entry) : ℕ := (entries.map fun e => e.2.count c).sum

/-- The entries of two lists are counted together. -/
theorem total_append (c : Char) (xs ys : List Entry) :
    total c (xs ++ ys) = total c xs + total c ys := by
  simp [total]

/-- A backslash within double quotes is put out, or not, with the character after it. -/
def pending (c : Char) (s : State) : ℕ :=
  if s = .doubleQuoteValueEscape then ['\\'].count c else 0

/-- How often a character has been put out, or may still be without being read again. -/
def weight (c : Char) (r : Reader) : ℕ :=
  total c r.pushed + (r.value ++ r.blanks).count c + pending c r.state

/-- A quotation begins, or a character is escaped outside of quotations. -/
def Opens (r : Reader) (c : Char) : Prop :=
  (r.state = .preValue ∧ (c = singleQuote ∨ c = '"' ∨ c = '\\')) ∨ (r.state = .value ∧ c = '\\')

/-- A pushed entry adds the count of its value. -/
theorem total_push (c : Char) (pushed : List Entry) (key value : List Char) :
    total c (pushed ++ [(key, value)]) = total c pushed + value.count c := by
  simp [total]

/-- No character is put out more often than it is read. -/
theorem weight_step (c : Char) (r : Reader) (d : Char) :
    weight c (r.step d) ≤ weight c r + [d].count c := by
  rcases r with ⟨state, key, keyBlanks, value, blanks, pushed⟩
  cases state with
  | doubleQuoteValueEscape =>
      have hpair : ['\\', d].count c = ['\\'].count c + [d].count c := count_cons_eq ..
      simp only [step]
      split_ifs <;>
        simp only [weight, pending, List.count_append, hpair, reduceCtorEq, if_false, if_true] <;>
        omega
  | doubleQuoteValue =>
      simp only [step]
      split_ifs with hquote hslash
      · simp only [weight, pending, reduceCtorEq, if_false]
        omega
      · rw [hslash]
        exact Nat.le_refl _
      · simp only [weight, pending, List.count_append, reduceCtorEq, if_false]
        omega
  | _ =>
      simp only [step]
      split_ifs <;>
        simp only [weight, pending, Reader.push, before, total_push, List.count_append,
          List.count_nil, List.append_nil, reduceCtorEq, if_false] <;> omega

/-- A character that opens a quotation or an escape is not put out. -/
theorem weight_step_opens {r : Reader} {d : Char} (h : Opens r d) :
    weight d (r.step d) = weight d r := by
  rcases r with ⟨state, key, keyBlanks, value, blanks, pushed⟩
  have hslash : step ⟨.value, key, keyBlanks, value, blanks, pushed⟩ '\\' =
      ⟨.valueEscape, key, keyBlanks, value ++ blanks, [], pushed⟩ := rfl
  rcases h with ⟨hstate, rfl | rfl | rfl⟩ | ⟨hstate, rfl⟩ <;> cases hstate
  · rfl
  · rfl
  · rfl
  · rw [hslash]
    simp only [weight, List.append_nil]
    rfl

/-- Reading a text adds no more of a character than the text has. -/
theorem weight_run (c : Char) (r : Reader) (cs : List Char) :
    weight c (r.run cs) ≤ weight c r + cs.count c := by
  -- character by character: a step adds the character once at most
  induction cs generalizing r with
  | nil => exact Nat.le_refl _
  | cons d cs ih =>
      have hstep := weight_step c r d
      have hrest := ih (r.step d)
      rw [count_cons_eq]
      exact hrest.trans (by omega)

/-- At the end of the file nothing is added. -/
theorem total_finish_le (c : Char) (r : Reader) : total c r.finish ≤ weight c r := by
  have hpushed : total c (r.pushed ++ [(r.key, r.value)]) ≤ weight c r := by
    rw [total_push, weight, List.count_append]
    omega
  have hkept : total c r.pushed ≤ weight c r := by
    rw [weight]
    omega
  unfold finish
  split
  · exact hkept
  · exact hkept
  · exact hkept
  · exact hkept
  · exact hpushed

/-! ## Quiet files -/

/-- On the way no quotation begins, and nothing is escaped. -/
def Quiet (r : Reader) : List Char → Prop
  | [] => True
  | c :: cs => ¬Opens r c ∧ Quiet (r.step c) cs

/-- Nothing is opened in a text if nothing is in either part. -/
theorem quiet_append {r : Reader} {cs ds : List Char} :
    Quiet r (cs ++ ds) ↔ Quiet r cs ∧ Quiet (r.run cs) ds := by
  induction cs generalizing r with
  | nil =>
      rw [List.nil_append, Quiet, true_and]
      rfl
  | cons c cs ih =>
      have hrun : r.run (c :: cs) = (r.step c).run cs := rfl
      rw [List.cons_append, Quiet, Quiet, ih, hrun, and_assoc]

/-- If each quote and each backslash is put out, none of them opened anything. -/
theorem quiet_of_total {r : Reader} {cs : List Char}
    (h : ∀ c, c = singleQuote ∨ c = '"' ∨ c = '\\' →
      weight c r + cs.count c ≤ total c (r.run cs).finish) : Quiet r cs := by
  -- from the last character back: a quote that is opened is a character that no value has
  induction cs generalizing r with
  | nil => trivial
  | cons d cs ih =>
      have hfinish (c : Char) : total c ((r.step d).run cs).finish ≤
          weight c (r.step d) + cs.count c :=
        (total_finish_le c _).trans (weight_run c _ cs)
      constructor
      · intro hopens
        have hspecial : d = singleQuote ∨ d = '"' ∨ d = '\\' := by
          rcases hopens with ⟨-, hd⟩ | ⟨-, hd⟩
          · exact hd
          · exact Or.inr (Or.inr hd)
        have hall := h d hspecial
        have hlost := weight_step_opens hopens
        have hone : [d].count d = 1 := List.count_singleton_self ..
        have hbound := hfinish d
        have hrun : r.run (d :: cs) = (r.step d).run cs := rfl
        rw [count_cons_eq, hrun] at hall
        omega
      · apply ih
        intro c hc
        have hall := h c hc
        have hstep := weight_step c r d
        have hrun : r.run (d :: cs) = (r.step d).run cs := rfl
        rw [count_cons_eq, hrun] at hall
        omega

/-- The states outside of quotations and escapes. -/
def State.IsCalm : State → Prop
  | .preKey | .key | .preValue | .value | .comment | .commentEscape => True
  | _ => False

/-- No value has a line break, and the reader is in no quotation and behind no escape. -/
structure Calm (r : Reader) : Prop where
  state : r.state.IsCalm
  value : ∀ c ∈ r.value ++ r.blanks, isNewline c = false
  pushed : ∀ e ∈ r.pushed, ∀ c ∈ e.2, isNewline c = false

/-- A reader between two lines is calm. -/
theorem calm_before {pushed : List Entry} (h : ∀ e ∈ pushed, ∀ c ∈ e.2, isNewline c = false) :
    Calm (before pushed) := ⟨trivial, by simp [before], h⟩

/-- The value that is being read breaks no line, and neither do those before it. -/
theorem Calm.pushed_push {r : Reader} (h : Calm r) :
    ∀ e ∈ r.pushed ++ [(r.key, r.value)], ∀ c ∈ e.2, isNewline c = false := by
  intro e he c hc
  rcases List.mem_append.1 he with he | he
  · exact h.pushed e he c hc
  · rw [List.mem_singleton.1 he] at hc
    exact h.value c (List.mem_append_left _ hc)

/-- A reader stays calm as long as no quote or escape is opened. -/
theorem Calm.step {r : Reader} (h : Calm r) {c : Char} (hquiet : ¬Opens r c) :
    Calm (r.step c) := by
  have hpush : Calm r.push := calm_before h.pushed_push
  have hbefore : Calm (before r.pushed) := calm_before h.pushed
  rcases h with ⟨hstate, hvalue, hpushed⟩
  rcases r with ⟨state, key, keyBlanks, value, blanks, pushed⟩
  have hkeep (s : State) (k kb : List Char) (hs : s.IsCalm) :
      Calm ⟨s, k, kb, value, blanks, pushed⟩ := ⟨hs, hvalue, hpushed⟩
  have hmore {v b : List Char} (hv : v ++ b ⊆ value ++ blanks ++ [c])
      (hc : ¬isNewline c = true) : Calm ⟨.value, key, keyBlanks, v, b, pushed⟩ := by
    refine ⟨trivial, ?_, hpushed⟩
    intro d hd
    rcases List.mem_append.1 (hv hd) with hd | hd
    · exact hvalue d hd
    · rw [List.mem_singleton.1 hd]
      exact Bool.eq_false_iff.2 hc
  cases state with
  | preKey =>
      simp only [Reader.step]
      split_ifs
      · exact hkeep _ _ _ trivial
      · exact hkeep _ _ _ trivial
      · exact hkeep _ _ _ trivial
  | key =>
      simp only [Reader.step]
      split_ifs
      · exact hbefore
      · exact hkeep _ _ _ trivial
      · exact hkeep _ _ _ trivial
      · exact hkeep _ _ _ trivial
  | preValue =>
      simp only [Reader.step]
      split_ifs with hnewline hsingle hdouble hslash
      · exact hpush
      · exact absurd (Or.inl ⟨rfl, Or.inl hsingle⟩) hquiet
      · exact absurd (Or.inl ⟨rfl, Or.inr (Or.inl hdouble)⟩) hquiet
      · exact absurd (Or.inl ⟨rfl, Or.inr (Or.inr hslash)⟩) hquiet
      · exact hkeep _ _ _ trivial
      · exact hmore (by simp) hnewline
  | value =>
      simp only [Reader.step]
      split_ifs with hnewline hslash
      · exact hpush
      · exact absurd (Or.inr ⟨rfl, hslash⟩) hquiet
      · exact hmore (by simp) hnewline
      · exact hmore (by simp) hnewline
  | comment =>
      simp only [Reader.step]
      split_ifs
      · exact hkeep _ _ _ trivial
      · exact hkeep _ _ _ trivial
      · exact hkeep _ _ _ trivial
  | commentEscape =>
      simp only [Reader.step]
      split_ifs
      · exact hkeep _ _ _ trivial
      · exact hkeep _ _ _ trivial
  | valueEscape | singleQuoteValue | doubleQuoteValue | doubleQuoteValueEscape => cases hstate

/-- The values of a quiet file have no line break. -/
theorem newline_of_quiet {r : Reader} (h : Calm r) {cs : List Char} (hquiet : Quiet r cs) :
    ∀ e ∈ (r.run cs).finish, ∀ c ∈ e.2, isNewline c = false := by
  -- over the text; the reader stays calm
  induction cs generalizing r with
  | nil =>
      change ∀ e ∈ r.finish, _
      unfold finish
      split
      · exact h.pushed
      · exact h.pushed
      · exact h.pushed
      · exact h.pushed
      · exact h.pushed_push
  | cons c cs ih => exact ih (h.step hquiet.1) hquiet.2

/-! ## Lines -/

/-- A character of a name is none of those that are not. -/
theorem ne_of_isNameChar {c d : Char} (h : isNameChar c = true) (hd : isNameChar d = false) :
    c ≠ d := by
  rintro rfl
  rw [h] at hd
  cases hd

/-- No character of a name is a blank. -/
theorem isBlank_of_isNameChar {c : Char} (h : isNameChar c = true) : isBlank c = false := by
  have hspace : c ≠ ' ' := ne_of_isNameChar h (by decide)
  have htab : c ≠ '\t' := ne_of_isNameChar h (by decide)
  have hfeed : c ≠ '\n' := ne_of_isNameChar h (by decide)
  have hreturn : c ≠ '\r' := ne_of_isNameChar h (by decide)
  simp [isBlank, isNewline, hspace, htab, hfeed, hreturn]

/-- What is no blank breaks no line. -/
theorem isNewline_of_isBlank {c : Char} (h : isBlank c = false) : isNewline c = false := by
  simp only [isBlank, Bool.or_eq_false_iff] at h
  exact h.2

/-- The reader after the name of a variable. -/
theorem run_key {key : List Char} (hname : isName key = true) (pushed : List Entry) :
    (before pushed).run (key ++ ['=']) = ⟨.preValue, key, [], [], [], pushed⟩ := by
  have hchars (more read : List Char) (h : ∀ c ∈ more, isNameChar c = true) :
      run ⟨.key, read, [], [], [], pushed⟩ (more ++ ['=']) =
        ⟨.preValue, read ++ more, [], [], [], pushed⟩ := by
    -- over the characters of the key that are still to be read
    induction more generalizing read with
    | nil =>
        rw [List.append_nil]
        rfl
    | cons c more ih =>
        have hc := h c (List.mem_cons_self ..)
        have hblank := isBlank_of_isNameChar hc
        have hstep : step ⟨.key, read, [], [], [], pushed⟩ c =
            ⟨.key, read ++ [c], [], [], [], pushed⟩ := by
          have heq : c ≠ '=' := ne_of_isNameChar hc (by decide)
          simp [step, isNewline_of_isBlank hblank, heq, hblank]
        rw [List.cons_append]
        change run (step ⟨.key, read, [], [], [], pushed⟩ c) _ = _
        rw [hstep, ih (read ++ [c]) fun d hd => h d (List.mem_cons_of_mem _ hd),
          List.append_assoc, List.singleton_append]
  simp only [isName, Bool.and_eq_true, List.all_eq_true] at hname
  cases key with
  | nil => cases hname.1.1
  | cons c key =>
      have hc := hname.1.2 c (List.mem_cons_self ..)
      have hstep : (before pushed).step c = ⟨.key, [c], [], [], [], pushed⟩ := by
        have hhash : c ≠ '#' := ne_of_isNameChar hc (by decide)
        have hsemi : c ≠ ';' := ne_of_isNameChar hc (by decide)
        simp [step, before, isComment, hhash, hsemi, isBlank_of_isNameChar hc]
      rw [List.cons_append]
      change run ((before pushed).step c) _ = _
      rw [hstep, hchars key [c] fun d hd => hname.1.2 d (List.mem_cons_of_mem _ hd)]
      rfl

/-- Blanks at the end do not matter for what is stripped there. -/
theorem rdropWhile_append_blanks {cs blanks : List Char} (h : ∀ c ∈ blanks, isBlank c = true) :
    (cs ++ blanks).rdropWhile isBlank = cs.rdropWhile isBlank := by
  unfold List.rdropWhile
  rw [List.reverse_append, List.dropWhile_append_of_pos fun c hc => h c (List.mem_reverse.1 hc)]

/-- The reader after a value that was begun, with nothing escaped in its rest. -/
theorem run_value {key value blanks rest : List Char} {pushed : List Entry}
    (hblanks : ∀ c ∈ blanks, isBlank c = true) (hvalue : value.rdropWhile isBlank = value)
    (hnewline : ∀ c ∈ rest, isNewline c = false) (hslash : '\\' ∉ rest) :
    run ⟨.value, key, [], value, blanks, pushed⟩ (rest ++ ['\n']) =
      before (pushed ++ [(key, (value ++ blanks ++ rest).rdropWhile isBlank)]) := by
  -- over the rest of the value; blanks are held back until another character comes
  induction rest generalizing value blanks with
  | nil =>
      rw [List.append_nil, rdropWhile_append_blanks hblanks, hvalue]
      rfl
  | cons c rest ih =>
      rw [List.mem_cons, not_or] at hslash
      have hc : c ≠ '\\' := fun heq => hslash.1 heq.symm
      have hbreak := hnewline c (List.mem_cons_self ..)
      have hrest := fun d hd => hnewline d (List.mem_cons_of_mem _ hd)
      rw [List.cons_append]
      change run (step ⟨.value, key, [], value, blanks, pushed⟩ c) _ = _
      cases hblank : isBlank c with
      | true =>
          have hstep : step ⟨.value, key, [], value, blanks, pushed⟩ c =
              ⟨.value, key, [], value, blanks ++ [c], pushed⟩ := by
            simp [step, hbreak, hc, hblank]
          have hmore : ∀ d ∈ blanks ++ [c], isBlank d = true := by
            intro d hd
            rcases List.mem_append.1 hd with hd | hd
            · exact hblanks d hd
            · rw [List.mem_singleton.1 hd]
              exact hblank
          rw [hstep, ih hmore hvalue hrest hslash.2]
          simp
      | false =>
          have hstep : step ⟨.value, key, [], value, blanks, pushed⟩ c =
              ⟨.value, key, [], value ++ blanks ++ [c], [], pushed⟩ := by
            simp [step, hbreak, hc, hblank]
          have hsolid : (value ++ blanks ++ [c]).rdropWhile isBlank = value ++ blanks ++ [c] :=
            List.rdropWhile_concat_neg _ _ _ (by simp [hblank])
          rw [hstep, ih (by simp) hsolid hrest hslash.2]
          simp

/-- Blanks before a value are passed over. -/
theorem run_preValue (key value rest : List Char) (pushed : List Entry)
    (hnewline : ∀ c ∈ value, isNewline c = false) :
    run ⟨.preValue, key, [], [], [], pushed⟩ (value ++ rest) =
      run ⟨.preValue, key, [], [], [], pushed⟩ (value.dropWhile isBlank ++ rest) := by
  -- over the blanks in front of the value
  induction value with
  | nil => rfl
  | cons c value ih =>
      cases hblank : isBlank c with
      | true =>
          have hbreak := hnewline c (List.mem_cons_self ..)
          have hstep : step ⟨.preValue, key, [], [], [], pushed⟩ c =
              ⟨.preValue, key, [], [], [], pushed⟩ := by
            have hsingle : c ≠ singleQuote := by
              rintro rfl
              exact absurd hblank (by decide)
            have hdouble : c ≠ '"' := by
              rintro rfl
              exact absurd hblank (by decide)
            have hslash : c ≠ '\\' := by
              rintro rfl
              exact absurd hblank (by decide)
            simp [step, hbreak, hsingle, hdouble, hslash, hblank]
          rw [List.dropWhile_cons_of_pos hblank, List.cons_append]
          change run (step ⟨.preValue, key, [], [], [], pushed⟩ c) _ = _
          rw [hstep, ih fun d hd => hnewline d (List.mem_cons_of_mem _ hd)]
      | false => rw [List.dropWhile_cons_of_neg (by simp [hblank])]

/-- Nothing in a value opens a quotation, and nothing is escaped. -/
structure Open (value : List Char) : Prop where
  backslash : '\\' ∉ value
  quote : ((value.dropWhile isBlank).head?.any isQuote) = false

/-- A line pushes its entry, with the blanks around the value stripped. -/
theorem run_line {key value : List Char} (hname : isName key = true)
    (hnewline : ∀ c ∈ value, isNewline c = false) (h : Open value) (pushed : List Entry) :
    (before pushed).run (key ++ '=' :: (value ++ ['\n'])) =
      before (pushed ++ [(key, strip value)]) := by
  have hline : key ++ '=' :: (value ++ ['\n']) = (key ++ ['=']) ++ (value ++ ['\n']) := by simp
  rw [hline, run_append, run_key hname, run_preValue _ _ _ _ hnewline]
  have hslash : '\\' ∉ value.dropWhile isBlank := fun hmem =>
    h.backslash (List.dropWhile_subset _ hmem)
  have hbreak : ∀ c ∈ value.dropWhile isBlank, isNewline c = false := fun c hc =>
    hnewline c (List.dropWhile_subset _ hc)
  have hquote := h.quote
  have hhead := List.head?_dropWhile_not isBlank value
  unfold strip
  cases hrest : value.dropWhile isBlank with
  | nil => rfl
  | cons c rest =>
      rw [hrest] at hslash hbreak hquote hhead
      rw [List.mem_cons, not_or] at hslash
      have hblank : isBlank c = false := by simpa using hhead
      have hc : c ≠ '\\' := fun heq => hslash.1 heq.symm
      have hquotes : c ≠ singleQuote ∧ c ≠ '"' := by simpa [isQuote] using hquote
      have hstep : step ⟨.preValue, key, [], [], [], pushed⟩ c =
          ⟨.value, key, [], [c], [], pushed⟩ := by
        simp [step, hbreak c (List.mem_cons_self ..), hquotes, hc, hblank]
      have hsolid : [c].rdropWhile isBlank = [c] :=
        List.rdropWhile_concat_neg _ [] _ (by simp [hblank])
      rw [List.cons_append]
      change run (step ⟨.preValue, key, [], [], [], pushed⟩ c) _ = _
      rw [hstep, run_value (by simp) hsolid
        (fun d hd => hbreak d (List.mem_cons_of_mem _ hd)) hslash.2]
      rfl

/-- No backslash follows in a value that was begun, if nothing is escaped. -/
theorem backslash_of_quiet {r : Reader} {cs : List Char} (hstate : r.state = .value)
    (hnewline : ∀ c ∈ cs, isNewline c = false) (hquiet : Quiet r cs) : '\\' ∉ cs := by
  -- over the text: a backslash in a value would open an escape
  induction cs generalizing r with
  | nil => exact List.not_mem_nil
  | cons c cs ih =>
      have hc : c ≠ '\\' := fun heq => hquiet.1 (Or.inr ⟨hstate, heq⟩)
      have hbreak := hnewline c (List.mem_cons_self ..)
      have hnext : (r.step c).state = .value := by
        rcases r with ⟨state, key, keyBlanks, value, blanks, pushed⟩
        cases hstate
        simp only [step, hbreak, Bool.false_eq_true, if_false, if_neg hc]
        split_ifs <;> rfl
      rw [List.mem_cons, not_or]
      exact ⟨hc.symm, ih hnext (fun d hd => hnewline d (List.mem_cons_of_mem _ hd)) hquiet.2⟩

/-- A line that opens nothing has a value that opens nothing. -/
theorem open_of_quiet {key value : List Char} (hname : isName key = true)
    (hnewline : ∀ c ∈ value, isNewline c = false) {pushed : List Entry} {rest : List Char}
    (hquiet : Quiet (before pushed) (key ++ '=' :: (value ++ rest))) : Open value := by
  have hline : key ++ '=' :: (value ++ rest) =
      (key ++ ['=']) ++ (value.takeWhile isBlank ++ (value.dropWhile isBlank ++ rest)) := by
    rw [← List.append_assoc (value.takeWhile isBlank), List.takeWhile_append_dropWhile]
    simp
  have hpassed : run ⟨.preValue, key, [], [], [], pushed⟩ (value.takeWhile isBlank) =
      ⟨.preValue, key, [], [], [], pushed⟩ := by
    have hblanks : (value.takeWhile isBlank).dropWhile isBlank = [] :=
      List.dropWhile_eq_nil_iff.2 fun c hc => List.mem_takeWhile_imp hc
    have hrun := run_preValue key (value.takeWhile isBlank) [] pushed
      fun c hc => hnewline c (List.takeWhile_subset _ hc)
    rwa [hblanks, List.append_nil] at hrun
  rw [hline, quiet_append, run_key hname] at hquiet
  have hrest := (quiet_append.1 hquiet.2).2
  rw [hpassed, quiet_append] at hrest
  have hvalue := hrest.1
  have hfront : '\\' ∉ value.takeWhile isBlank := by
    intro hmem
    exact absurd (List.mem_takeWhile_imp hmem) (by decide)
  have hbreak : ∀ c ∈ value.dropWhile isBlank, isNewline c = false := fun c hc =>
    hnewline c (List.dropWhile_subset _ hc)
  have hhead := List.head?_dropWhile_not isBlank value
  have hopen : '\\' ∉ value.dropWhile isBlank ∧
      ((value.dropWhile isBlank).head?.any isQuote) = false := by
    cases hvalueRest : value.dropWhile isBlank with
    | nil => exact ⟨List.not_mem_nil, rfl⟩
    | cons c cs =>
        rw [hvalueRest] at hvalue hbreak hhead
        have hblank : isBlank c = false := by simpa using hhead
        have hopens := hvalue.1
        simp only [Opens, true_and, not_or] at hopens
        have hnext : (step ⟨.preValue, key, [], [], [], pushed⟩ c).state = .value := by
          simp [step, hbreak c (List.mem_cons_self ..), hopens, hblank]
        have hcs := backslash_of_quiet hnext
          (fun d hd => hbreak d (List.mem_cons_of_mem _ hd)) hvalue.2
        refine ⟨?_, ?_⟩
        · rw [List.mem_cons, not_or]
          exact ⟨fun heq => hopens.1.2.2 heq.symm, hcs⟩
        · simp [isQuote, hopens]
  refine ⟨?_, hopen.2⟩
  intro hmem
  rw [← List.takeWhile_append_dropWhile (p := isBlank) (l := value)] at hmem
  rcases List.mem_append.1 hmem with hmem | hmem
  · exact hfront hmem
  · exact hopen.1 hmem

/-! ## Files -/

variable {lines : List Entry}

/-- A file without quotations and escapes is read line by line. -/
theorem run_render (hnames : ∀ e ∈ lines, isName e.1 = true)
    (hnewline : ∀ e ∈ lines, ∀ c ∈ e.2, isNewline c = false)
    (hopen : ∀ e ∈ lines, Open e.2) (pushed : List Entry) :
    (before pushed).run (render lines) =
      before (pushed ++ lines.map fun e => (e.1, strip e.2)) := by
  -- line by line, each read by a reader between two lines
  induction lines generalizing pushed with
  | nil =>
      rw [List.map_nil, List.append_nil]
      rfl
  | cons e lines ih =>
      have hfirst := List.mem_cons_self (a := e) (l := lines)
      have hrest {f : Entry} (hf : f ∈ lines) : f ∈ e :: lines := List.mem_cons_of_mem _ hf
      have hrender : render (e :: lines) = (e.1 ++ '=' :: (e.2 ++ ['\n'])) ++ render lines := rfl
      rw [hrender, run_append,
        run_line (hnames e hfirst) (hnewline e hfirst) (hopen e hfirst),
        ih (fun f hf => hnames f (hrest hf)) (fun f hf => hnewline f (hrest hf))
          (fun f hf => hopen f (hrest hf))]
      simp

/-- Lines that open nothing have values that open nothing. -/
theorem open_of_quiet_render (hnames : ∀ e ∈ lines, isName e.1 = true)
    (hnewline : ∀ e ∈ lines, ∀ c ∈ e.2, isNewline c = false) {pushed : List Entry}
    (hquiet : Quiet (before pushed) (render lines)) : ∀ e ∈ lines, Open e.2 := by
  induction lines generalizing pushed with
  | nil => simp
  | cons e lines ih =>
      have hfirst := List.mem_cons_self (a := e) (l := lines)
      have hrest {f : Entry} (hf : f ∈ lines) : f ∈ e :: lines := List.mem_cons_of_mem _ hf
      have hrender : render (e :: lines) = (e.1 ++ '=' :: (e.2 ++ ['\n'])) ++ render lines := rfl
      rw [hrender, quiet_append] at hquiet
      have hopen : Open e.2 := open_of_quiet (hnames e hfirst) (hnewline e hfirst) hquiet.1
      rw [run_line (hnames e hfirst) (hnewline e hfirst) hopen] at hquiet
      intro f hf
      rcases List.mem_cons.1 hf with rfl | hf
      · exact hopen
      · exact ih (fun f hf => hnames f (hrest hf)) (fun f hf => hnewline f (hrest hf))
          hquiet.2 f hf

/-! ## Assignments -/

/-- What is assigned stands in an entry with a proper name. -/
theorem isName_of_assigned {entries : List Entry} {name value : List Char}
    (h : assigned entries name = some value) : isName name = true ∧ (name, value) ∈ entries := by
  obtain ⟨e, hfind, rfl⟩ := Option.map_eq_some_iff.1 h
  have hname : e.1 = name := by simpa using List.find?_some hfind
  have hmem := List.mem_filter.1 (List.mem_reverse.1 (List.mem_of_find?_eq_some hfind))
  rw [← hname]
  exact ⟨hmem.2, hmem.1⟩

/-- An entry whose key no other has is the assignment of that key. -/
theorem assigned_of_nodup {entries : List Entry} (hnodup : (entries.map Prod.fst).Nodup)
    {e : Entry} (he : e ∈ entries) (hname : isName e.1 = true) :
    assigned entries e.1 = some e.2 := by
  have hmem : e ∈ (entries.filter fun e => isName e.1).reverse :=
    List.mem_reverse.2 (List.mem_filter.2 ⟨he, hname⟩)
  unfold assigned
  cases hfind : (entries.filter fun e => isName e.1).reverse.find? fun f => f.1 == e.1 with
  | none =>
      have hnone := List.find?_eq_none.1 hfind e hmem
      exact absurd (beq_self_eq_true e.1) hnone
  | some f =>
      have hkey : f.1 = e.1 := by simpa using List.find?_some hfind
      have hf := (List.mem_filter.1 (List.mem_reverse.1 (List.mem_of_find?_eq_some hfind))).1
      rw [List.inj_on_of_nodup_map hnodup hf he hkey]
      rfl

/-- A name without an entry is not assigned. -/
theorem assigned_eq_none {entries : List Entry} {name : List Char}
    (h : ∀ e ∈ entries, e.1 ≠ name) : assigned entries name = none := by
  cases hassigned : assigned entries name with
  | none => rfl
  | some value => exact absurd rfl (h _ (isName_of_assigned hassigned).2)

/-- Dropping another name's entries changes nothing for a name. -/
theorem assigned_filter {entries : List Entry} {name key : List Char} (hne : name ≠ key) :
    assigned (entries.filter fun f => !(f.1 == key)) name = assigned entries name := by
  have hpred : (fun f : Entry => decide ((!f.1 == key) = true ∧
        decide (isName f.1 = true ∧ (f.1 == name) = true) = true)) =
      fun f => decide (isName f.1 = true ∧ (f.1 == name) = true) := by
    funext f
    by_cases h : f.1 = name
    · simp [h, hne]
    · simp [h]
  unfold assigned
  rw [← List.filter_reverse, ← List.filter_reverse, ← List.filter_reverse, List.find?_filter,
    List.find?_filter, List.find?_filter, hpred]

/-- Every entry is kept or dropped. -/
theorem total_filter (c : Char) (p : Entry → Bool) (entries : List Entry) :
    total c entries = total c (entries.filter p) + total c (entries.filter fun f => !p f) := by
  have hperm := List.filter_append_perm p entries
  rw [← total_append]
  exact ((hperm.map fun f : Entry => f.2.count c).sum_nat).symm

/-- The entries have at least as much of a character as one of them. -/
theorem count_le_total (c : Char) {entries : List Entry} {e : Entry} (he : e ∈ entries) :
    e.2.count c ≤ total c entries := by
  obtain ⟨xs, ys, rfl⟩ := List.append_of_mem he
  have hcons : total c (e :: ys) = e.2.count c + total c ys := rfl
  rw [total_append, hcons]
  omega

/-- Values that are assigned to different names are different entries. -/
theorem total_le_of_assigned (c : Char) {entries : List Entry}
    (hnodup : (lines.map Prod.fst).Nodup)
    (h : ∀ e ∈ lines, e.2.count c = 0 ∨ assigned entries e.1 = some e.2) :
    total c lines ≤ total c entries := by
  -- line by line; the entries of its name are taken out with it
  induction lines generalizing entries with
  | nil => exact Nat.zero_le _
  | cons e lines ih =>
      rw [List.map_cons, List.nodup_cons] at hnodup
      have hcons : total c (e :: lines) = e.2.count c + total c lines := rfl
      have hsplit := total_filter c (fun f => f.1 == e.1) entries
      have hothers : total c lines ≤ total c (entries.filter fun f => !(f.1 == e.1)) := by
        apply ih hnodup.2
        intro f hf
        have hne : f.1 ≠ e.1 := fun heq => hnodup.1 (heq ▸ List.mem_map_of_mem hf)
        rw [assigned_filter hne]
        exact h f (List.mem_cons_of_mem _ hf)
      have hself : e.2.count c ≤ total c (entries.filter fun f => f.1 == e.1) := by
        rcases h e (List.mem_cons_self ..) with hzero | hassigned
        · rw [hzero]
          exact Nat.zero_le _
        · have hmem := (isName_of_assigned hassigned).2
          exact count_le_total c (List.mem_filter.2 ⟨hmem, beq_self_eq_true e.1⟩)
      omega

/-- A plain value without quotes. -/
structure Bare (value : List Char) : Prop extends Plain value where
  quotes : ∀ c ∈ value, isQuote c = false

/-- Letters, digits and underscores are plain. -/
theorem bare_of_isNameChar {value : List Char} (h : ∀ c ∈ value, isNameChar c = true) :
    Bare value where
  newline c hc := isNewline_of_isBlank (isBlank_of_isNameChar (h c hc))
  backslash hc := absurd (h _ hc) (by decide)
  zero hc := absurd (h _ hc) (by decide)
  quote := by
    cases value with
    | nil => rfl
    | cons c value =>
        have hc := h c (List.mem_cons_self ..)
        have hsingle : c ≠ singleQuote := ne_of_isNameChar hc (by decide)
        have hdouble : c ≠ '"' := ne_of_isNameChar hc (by decide)
        simp [isQuote, hsingle, hdouble]
  stripped := by
    have hsolid : ∀ c ∈ value, isBlank c = false := fun c hc => isBlank_of_isNameChar (h c hc)
    have hfront : value.dropWhile isBlank = value := by
      cases value with
      | nil => rfl
      | cons c value =>
          exact List.dropWhile_cons_of_neg (by simp [hsolid c (List.mem_cons_self ..)])
    unfold strip
    rw [hfront, List.rdropWhile_eq_self_iff]
    intro hne
    simp [hsolid _ (List.getLast_mem hne)]
  quotes c hc := by
    have hsingle : c ≠ singleQuote := ne_of_isNameChar (h c hc) (by decide)
    have hdouble : c ≠ '"' := ne_of_isNameChar (h c hc) (by decide)
    simp [isQuote, hsingle, hdouble]

/-- A value that is stripped already has no blank in front. -/
theorem dropWhile_of_strip {value : List Char} (h : strip value = value) :
    value.dropWhile isBlank = value := by
  have hle : value.length ≤ (value.dropWhile isBlank).length := by
    have hstrip : (strip value).length ≤ (value.dropWhile isBlank).length :=
      (List.rdropWhile_prefix isBlank _).length_le
    rwa [h] at hstrip
  exact (List.dropWhile_suffix isBlank).eq_of_length_le hle

/-- A plain value opens nothing. -/
theorem Plain.open {value : List Char} (h : Plain value) : Open value := by
  refine ⟨h.backslash, ?_⟩
  rw [dropWhile_of_strip h.stripped]
  exact h.quote

/-- A file of plain values is read as it is written. -/
theorem load_render (hnames : ∀ e ∈ lines, isName e.1 = true)
    (hplain : ∀ e ∈ lines, Plain e.2) : load (render lines) = some lines := by
  have hzero : Char.ofNat 0 ∉ render lines := by
    intro hmem
    obtain ⟨e, he, hmem⟩ := List.mem_flatMap.1 hmem
    have hname := hnames e he
    simp only [isName, Bool.and_eq_true, List.all_eq_true] at hname
    simp only [List.mem_append, List.mem_cons, List.not_mem_nil, or_false] at hmem
    rcases hmem with hmem | hmem | hmem | hmem
    · exact absurd (hname.1.2 _ hmem) (by decide)
    · exact absurd hmem (by decide)
    · exact (hplain e he).zero hmem
    · exact absurd hmem (by decide)
  have hrun := run_render hnames (fun e he => (hplain e he).newline)
    (fun e he => (hplain e he).open) []
  have hstrip : (lines.map fun e => (e.1, strip e.2)) = lines := by
    refine (List.map_congr_left fun e he => ?_).trans (List.map_id _)
    rw [(hplain e he).stripped]
    rfl
  rw [load, if_neg hzero, hrun, List.nil_append, hstrip]
  rfl

/-- Rendering adds no quote and no backslash. -/
theorem count_render {c : Char} (hc : c = singleQuote ∨ c = '"' ∨ c = '\\')
    (hnames : ∀ e ∈ lines, isName e.1 = true) : (render lines).count c = total c lines := by
  -- line by line: name and sign have neither quote nor backslash
  induction lines with
  | nil => rfl
  | cons e lines ih =>
      have hname := hnames e (List.mem_cons_self ..)
      simp only [isName, Bool.and_eq_true, List.all_eq_true] at hname
      have hkey : e.1.count c = 0 := by
        refine List.count_eq_zero.2 fun hmem => ?_
        have hchar := hname.1.2 c hmem
        rcases hc with rfl | rfl | rfl
        · exact absurd hchar (by decide)
        · exact absurd hchar (by decide)
        · exact absurd hchar (by decide)
      have hequals : ['='].count c = 0 := by
        rcases hc with rfl | rfl | rfl <;> decide
      have hbreak : ['\n'].count c = 0 := by
        rcases hc with rfl | rfl | rfl <;> decide
      have hline : render (e :: lines) =
          e.1 ++ (['='] ++ (e.2 ++ ['\n'])) ++ render lines := rfl
      have hcons : total c (e :: lines) = e.2.count c + total c lines := rfl
      have hrest := ih fun f hf => hnames f (List.mem_cons_of_mem _ hf)
      rw [hline, hcons]
      simp only [List.count_append, hkey, hequals, hbreak, hrest]
      omega

/-- The values that are assigned as they are written are plain, if the others are. -/
theorem plain_of_assigned (hnames : ∀ e ∈ lines, isName e.1 = true)
    (hnodup : (lines.map Prod.fst).Nodup) {entries : List Entry}
    (hload : load (render lines) = some entries)
    (h : ∀ e ∈ lines, Bare e.2 ∨ assigned entries e.1 = some e.2) :
    ∀ e ∈ lines, Plain e.2 := by
  have hzero : Char.ofNat 0 ∉ render lines := by
    intro hmem
    rw [load, if_pos hmem] at hload
    cases hload
  rw [load, if_neg hzero] at hload
  have hentries := Option.some.inj hload
  -- each quote and each backslash is put out, so nothing was opened
  have hquiet : Quiet (before []) (render lines) := by
    apply quiet_of_total
    intro c hc
    have hstart : weight c (before []) = 0 := rfl
    rw [hstart, Nat.zero_add, count_render hc hnames, hentries]
    apply total_le_of_assigned c hnodup
    intro e he
    refine (h e he).imp_left fun hbare => List.count_eq_zero.2 fun hmem => ?_
    rcases hc with rfl | rfl | rfl
    · exact absurd (hbare.quotes _ hmem) (by decide)
    · exact absurd (hbare.quotes _ hmem) (by decide)
    · exact hbare.backslash hmem
  -- so no value that was put out has a line break, and the file is read line by line
  have hbreaks := newline_of_quiet (calm_before (by simp)) hquiet
  rw [hentries] at hbreaks
  have hnewline : ∀ e ∈ lines, ∀ c ∈ e.2, isNewline c = false := by
    intro e he
    rcases h e he with hbare | hassigned
    · exact hbare.newline
    · exact hbreaks _ (isName_of_assigned hassigned).2
  have hopen := open_of_quiet_render hnames hnewline hquiet
  rw [run_render hnames hnewline hopen, List.nil_append] at hentries
  intro e he
  rcases h e he with hbare | hassigned
  · exact hbare.toPlain
  · have hkeys : ((lines.map fun e => (e.1, strip e.2)).map Prod.fst).Nodup := by
      rw [List.map_map]
      exact hnodup
    have hvalue : assigned entries e.1 = some (strip e.2) := by
      rw [← hentries]
      exact assigned_of_nodup hkeys (List.mem_map_of_mem he) (hnames e he)
    have hstripped : strip e.2 = e.2 := Option.some.inj (hvalue.symm.trans hassigned)
    refine ⟨hnewline e he, (hopen e he).backslash, ?_, ?_, hstripped⟩
    · intro hmem
      exact hzero (List.mem_flatMap.2 ⟨e, he, by simp [hmem]⟩)
    · have hquote := (hopen e he).quote
      rwa [dropWhile_of_strip hstripped] at hquote

end EnvFile
