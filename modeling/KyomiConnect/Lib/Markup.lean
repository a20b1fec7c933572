import Mathlib.Data.List.Basic
import Mathlib.Tactic.Common

/-! # Documents of tags and texts

A document is a list of tags and texts. A tag is written between angle brackets, which
its name does not have, and a text has no opening one. So the first occurrence of a tag's
text in the document is the first such tag (`splitAtFirst_render`): a search for a text
finds what a parser would.

A text is escaped before it is written: no `<` is left in it (`not_mem_escape`), and it
is changed exactly if it has a character that is escaped (`escape_eq_self_iff`).
-/

namespace Markup

/-! ## Searching -/

/-- What comes before and after the first occurrence of a text. -/
def splitAtFirst (pat : List Char) : List Char → Option (List Char × List Char)
  | [] => if pat = [] then some ([], []) else none
  | c :: cs =>
      if pat.isPrefixOf (c :: cs) then some ([], (c :: cs).drop pat.length)
      else (splitAtFirst pat cs).map fun (before, after) => (c :: before, after)

/-- Nothing is found in a text without the first character of what is searched for. -/
theorem splitAtFirst_append_of_not_mem {c : Char} {cs : List Char} (pat : List Char)
    (h : c ∉ cs) (rest : List Char) :
    splitAtFirst (c :: pat) (cs ++ rest) =
      (splitAtFirst (c :: pat) rest).map fun (before, after) => (cs ++ before, after) := by
  -- over the text in front, in which the pattern does not begin
  induction cs with
  | nil => simp
  | cons d cs ih =>
      rw [List.mem_cons, not_or] at h
      have hhead : (c :: pat).isPrefixOf (d :: (cs ++ rest)) = false := by
        rw [List.isPrefixOf, beq_false_of_ne h.1, Bool.false_and]
      rw [List.cons_append, splitAtFirst, hhead, if_neg Bool.false_ne_true, ih h.2, Option.map_map]
      rfl

/-! ## Documents -/

inductive Token where
  | tag (name : List Char)
  | text (content : List Char)
deriving DecidableEq

namespace Token

def chars : Token → List Char
  | tag name => '<' :: (name ++ ['>'])
  | text content => content

def Valid : Token → Prop
  | tag name => '<' ∉ name ∧ '>' ∉ name
  | text content => '<' ∉ content

end Token

open Token

def render (tokens : List Token) : List Char := tokens.flatMap Token.chars

@[simp] theorem render_nil : render [] = [] := rfl

@[simp] theorem render_cons (t : Token) (tokens : List Token) :
    render (t :: tokens) = t.chars ++ render tokens := rfl

/-- Two lists of tokens, one after the other. -/
theorem render_append (xs ys : List Token) : render (xs ++ ys) = render xs ++ render ys :=
  List.flatMap_append

/-- A name up to its closing bracket. -/
theorem prefix_closed_iff {name name' : List Char} (h : '>' ∉ name) (h' : '>' ∉ name')
    (rest : List Char) : name ++ ['>'] <+: name' ++ '>' :: rest ↔ name = name' := by
  -- over both names at once; the bracket ends them together
  induction name generalizing name' with
  | nil =>
      cases name' with
      | nil => simp
      | cons d ds =>
          rw [List.mem_cons, not_or] at h'
          simp [h'.1]
  | cons c cs ih =>
      rw [List.mem_cons, not_or] at h
      cases name' with
      | nil => simp [Ne.symm h.1]
      | cons d ds =>
          rw [List.mem_cons, not_or] at h'
          rw [List.cons_append, List.cons_append, List.cons_prefix_cons, ih h.2 h'.2,
            List.cons.injEq]

/-- A tag is found at the front if and only if it is there. -/
theorem isPrefixOf_tag {name name' : List Char} (h : (tag name).Valid) (h' : (tag name').Valid)
    (rest : List Char) :
    (tag name).chars.isPrefixOf ((tag name').chars ++ rest) = decide (name = name') := by
  rw [Bool.eq_iff_iff, List.isPrefixOf_iff_prefix, decide_eq_true_iff,
    ← prefix_closed_iff h.2 h'.2 rest]
  simp [chars]

/-- A tag is found at the start of what it starts. -/
theorem splitAtFirst_tag_self {name : List Char} (h : (tag name).Valid) (rest : List Char) :
    splitAtFirst (tag name).chars ((tag name).chars ++ rest) = some ([], rest) := by
  have hprefix := isPrefixOf_tag h h rest
  rw [decide_eq_true rfl] at hprefix
  have hdrop : ((tag name).chars ++ rest).drop (tag name).chars.length = rest := List.drop_left
  change splitAtFirst _ ('<' :: (name ++ ['>'] ++ rest)) = _
  rw [splitAtFirst]
  exact (if_pos hprefix).trans (congrArg (fun after => some ([], after)) hdrop)

/-- It is not found in another token. -/
theorem splitAtFirst_token {name : List Char} (h : (tag name).Valid) {t : Token} (ht : t.Valid)
    (hne : tag name ≠ t) (rest : List Char) :
    splitAtFirst (tag name).chars (t.chars ++ rest) =
      (splitAtFirst (tag name).chars rest).map fun (before, after) =>
        (t.chars ++ before, after) := by
  cases t with
  | text content => exact splitAtFirst_append_of_not_mem (name ++ ['>']) ht rest
  | tag name' =>
      have hname : name ≠ name' := fun heq => hne (heq ▸ rfl)
      have hprefix := isPrefixOf_tag h ht rest
      rw [decide_eq_false hname] at hprefix
      have hinside : '<' ∉ name' ++ ['>'] := by
        simp [ht.1]
      change splitAtFirst _ ('<' :: (name' ++ ['>'] ++ rest)) = _
      rw [splitAtFirst]
      refine (if_neg (Bool.eq_false_iff.1 hprefix)).trans ?_
      rw [chars, splitAtFirst_append_of_not_mem _ hinside, Option.map_map]
      rfl

/-- So it is found where the document has it first. -/
theorem splitAtFirst_render {name : List Char} (h : (tag name).Valid) {tokens : List Token}
    (hvalid : ∀ t ∈ tokens, t.Valid) (hfirst : tag name ∉ tokens) (rest : List Char) :
    splitAtFirst (tag name).chars (render tokens ++ ((tag name).chars ++ rest)) =
      some (render tokens, rest) := by
  -- token by token, none of which is the tag
  induction tokens with
  | nil => exact splitAtFirst_tag_self h rest
  | cons t tokens ih =>
      rw [List.mem_cons, not_or] at hfirst
      rw [render_cons, List.append_assoc, splitAtFirst_token h (hvalid t (by simp)) hfirst.1,
        ih (fun t ht => hvalid t (by simp [ht])) hfirst.2]
      rfl

/-! ## Escaping -/

def escapeChar : Char → List Char
  | '&' => "&amp;".toList
  | '<' => "&lt;".toList
  | '>' => "&gt;".toList
  | c => [c]

def escape (cs : List Char) : List Char := cs.flatMap escapeChar

/-- A character that is escaped. -/
def isSpecial (c : Char) : Bool := c == '&' || c == '<' || c == '>'

/-- Most characters are written as they are. -/
theorem escapeChar_of_not_special {c : Char} (h : isSpecial c = false) : escapeChar c = [c] := by
  unfold escapeChar
  split
  · exact absurd h (by decide)
  · exact absurd h (by decide)
  · exact absurd h (by decide)
  · rfl

/-- A special character is written longer. -/
theorem lt_length_escapeChar {c : Char} (h : isSpecial c = true) : 1 < (escapeChar c).length := by
  simp only [isSpecial, Bool.or_eq_true, beq_iff_eq] at h
  rcases h with (rfl | rfl) | rfl
  · decide
  · decide
  · decide

/-- An escaped text opens no tag. -/
theorem not_mem_escape (cs : List Char) : '<' ∉ escape cs := by
  intro hmem
  obtain ⟨c, -, hc⟩ := List.mem_flatMap.1 hmem
  unfold escapeChar at hc
  split at hc
  · exact absurd hc (by decide)
  · exact absurd hc (by decide)
  · exact absurd hc (by decide)
  · rename_i hamp hlt hgt
    exact hlt (List.mem_singleton.1 hc).symm

/-- An escaped text is not shorter. -/
theorem length_le_escape (cs : List Char) : cs.length ≤ (escape cs).length := by
  induction cs with
  | nil => exact Nat.le_refl _
  | cons c cs ih =>
      rw [escape, List.flatMap_cons, List.length_append, List.length_cons]
      unfold escape at ih
      cases hspecial : isSpecial c with
      | true =>
          have hlt := lt_length_escapeChar hspecial
          omega
      | false =>
          rw [escapeChar_of_not_special hspecial, List.length_singleton]
          omega

/-- Escaping leaves a text as it is exactly if it has nothing to escape: every escaped character
makes the text longer. -/
theorem escape_eq_self_iff {cs : List Char} : escape cs = cs ↔ ∀ c ∈ cs, isSpecial c = false := by
  -- character by character: an escaped one makes the text longer
  induction cs with
  | nil => simp [escape]
  | cons c cs ih =>
      rw [List.forall_mem_cons, ← ih, escape, List.flatMap_cons, ← escape]
      cases hspecial : isSpecial c with
      | false =>
          rw [escapeChar_of_not_special hspecial, List.singleton_append, List.cons.injEq]
          simp
      | true =>
          refine iff_of_false (fun heq => ?_) nofun
          have hlength := congrArg List.length heq
          rw [List.length_append, List.length_cons] at hlength
          have hlt := lt_length_escapeChar hspecial
          have hle := length_le_escape cs
          omega

end Markup
