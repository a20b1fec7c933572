import KyomiConnect.Statements
import KyomiConnect.TsqlPaging

/-! # Which SELECTs are bounded

`prepare_query` finds out by a search in the upper-cased text whether a SELECT has a LIMIT
of its own, and appends the clause as text. A text is read here as the server's lexer reads
it: `select_bounded_iff` is when the statement that is sent is the query with exactly the
clause that was meant.
-/

namespace KyomiConnect

open SqlText (Token Dialect Blank Plain EndsInComment)
open Nesting (height Balanced)

/-! ## Queries -/

/-- A word that stands at parenthesis depth 0. -/
def AtTop (text : String) (ts : List Token) : Prop :=
  ∃ before t after, ts = before ++ t :: after ∧ IsWord text t ∧ height tokenWeight before = 0

/-- A single SELECT or WITH query. -/
structure IsSelect (ts : List Token) : Prop where
  first : ∃ t rest, ts = t :: rest ∧ (IsWord "SELECT" t ∨ IsWord "WITH" t)
  single : .symbol ';' ∉ ts
  balanced : Balanced tokenWeight ts

/-- `LIMIT {limit} OFFSET {offset}` -/
def limitClause (limit offset : UInt32) : List Token :=
  [.word "LIMIT".toList, .word (toString limit).toList, .word "OFFSET".toList,
    .word (toString offset).toList]

/-- The text is a single query that ends in the clause and has no other at its top. `late`
are the words that no LIMIT follows: OFFSET and FETCH, and what comes after a LIMIT in the
dialect. -/
structure Bounded (d : Dialect) (late : List String) (text : String) (query : List Token)
    (limit offset : UInt32) : Prop where
  tokens : SqlText.tokens d text.toList = some (query ++ limitClause limit offset)
  select : IsSelect query
  clauses : ∀ word ∈ "LIMIT" :: late, ¬AtTop word query

/-- Letters and digits make words, and a blank is one. -/
structure Latin (d : Dialect) : Prop where
  word : ∀ c : Char, c.isUpper = true ∨ c.isDigit = true → d.isWordChar c = true ∧
    d.endsLine c = false ∧ ∀ o, d.closing o ≠ some c
  blank : Blank d ' '

/-! ## The clause as text -/

section Clause

variable (limit offset : UInt32)

def clauseChars : List Char :=
  "LIMIT".toList ++ ' ' :: ((toString limit).toList ++
    ' ' :: ("OFFSET".toList ++ ' ' :: (toString offset).toList))

theorem toList_withLimitOffset (sql : String) :
    (withLimitOffset sql limit offset).toList = sql.toList ++ ' ' :: clauseChars limit offset := by
  show _ = sql.toList ++ ' ' :: ("LIMIT".toList ++ ' ' :: ((toString limit).toList ++
    ' ' :: ("OFFSET".toList ++ ' ' :: (toString offset).toList)))
  simp [withLimitOffset, String.toList_append]

theorem isDigit_of_mem_toString {n : UInt32} {c : Char} (h : c ∈ (toString n).toList) :
    c.isDigit = true := by
  have hdigits : (toString n).toList = Nat.toDigits 10 n.toNat := by
    change (Nat.repr n.toNat).toList = _
    simp
  rw [hdigits] at h
  exact Nat.isDigit_of_mem_toDigits (by decide) (by decide) h

theorem toString_ne_nil (n : UInt32) : (toString n).toList ≠ [] := by
  have hdigits : (toString n).toList = Nat.toDigits 10 n.toNat := by
    change (Nat.repr n.toNat).toList = _
    simp
  rw [hdigits]
  exact Nat.toDigits_ne_nil

variable {limit offset} {d : Dialect} (hd : Latin d)
include hd

theorem isWordChar_toString (n : UInt32) : ∀ c ∈ (toString n).toList, d.isWordChar c = true :=
  fun c hc => (hd.word c (Or.inr (isDigit_of_mem_toString hc))).1

theorem isWordChar_keyword {word : String} (h : word.toList.all Char.isUpper = true) :
    ∀ c ∈ word.toList, d.isWordChar c = true :=
  fun c hc => (hd.word c (Or.inl (List.all_eq_true.1 h c hc))).1

/-- The clause is four words. -/
theorem tokens_clause :
    SqlText.tokens d (clauseChars limit offset) = some (limitClause limit offset) := by
  unfold clauseChars
  rw [SqlText.tokens_word_blank hd.blank (by decide) (isWordChar_keyword hd (by decide)),
    SqlText.tokens_word_blank hd.blank (toString_ne_nil _) (isWordChar_toString hd _),
    SqlText.tokens_word_blank hd.blank (by decide) (isWordChar_keyword hd (by decide)),
    SqlText.tokens_word (toString_ne_nil _) (isWordChar_toString hd _)]
  rfl

/-- No comment and no quotation ends in the clause. -/
theorem plain_clause : Plain d (clauseChars limit offset) := by
  have hword (c : Char) (h : c.isUpper = true ∨ c.isDigit = true) :
      d.endsLine c = false ∧ c ≠ '*' ∧ c ≠ '/' ∧ ∀ o, d.closing o ≠ some c := by
    obtain ⟨-, hline, hclosing⟩ := hd.word c h
    refine ⟨hline, ?_, ?_, hclosing⟩ <;>
      · rintro rfl
        exact absurd h (by decide)
  have hkeyword {word : String} (h : word.toList.all Char.isUpper = true) :
      ∀ c ∈ word.toList, c.isUpper = true ∨ c.isDigit = true :=
    fun c hc => Or.inl (List.all_eq_true.1 h c hc)
  have hdigits (n : UInt32) : ∀ c ∈ (toString n).toList, c.isUpper = true ∨ c.isDigit = true :=
    fun c hc => Or.inr (isDigit_of_mem_toString hc)
  intro c hc
  unfold clauseChars at hc
  simp only [List.mem_append, List.mem_cons] at hc
  rcases hc with hc | rfl | hc | rfl | hc | rfl | hc
  · exact hword c (hkeyword (by decide) c hc)
  · exact hd.blank.plain ' ' (List.mem_cons_self ..)
  · exact hword c (hdigits limit c hc)
  · exact hd.blank.plain ' ' (List.mem_cons_self ..)
  · exact hword c (hkeyword (by decide) c hc)
  · exact hd.blank.plain ' ' (List.mem_cons_self ..)
  · exact hword c (hdigits offset c hc)

/-- What becomes of a text that the clause is appended to. -/
theorem tokens_withLimitOffset (sql : String) :
    SqlText.tokens d (withLimitOffset sql limit offset).toList =
      if EndsInComment d sql.toList then SqlText.tokens d sql.toList
      else (SqlText.tokens d sql.toList).map (· ++ limitClause limit offset) := by
  rw [toList_withLimitOffset, SqlText.tokens_append_blank _ hd.blank (plain_clause hd),
    tokens_clause hd]
  split
  · rfl
  · cases SqlText.tokens d sql.toList <;> rfl

end Clause

/-! ## Stripping -/

/-- No letter is white space. -/
theorem isWhitespace_of_toUpper {c : Char} (h : c.toUpper = 'S' ∨ c.toUpper = 'W') :
    Text.isWhitespace c = false := by
  by_contra hblank
  rw [Bool.not_eq_false] at hblank
  -- white space has no other case
  have hsame : c.toUpper = c := by
    have hlower : ¬('a'.val ≤ c.val ∧ c.val ≤ 'z'.val) := by
      rintro ⟨hfrom, hto⟩
      have hfrom' : 97 ≤ c.toNat := hfrom
      have hto' : c.toNat ≤ 122 := hto
      simp only [Text.isWhitespace, Bool.or_eq_true, Bool.and_eq_true, decide_eq_true_eq,
        beq_iff_eq] at hblank
      omega
    exact dif_neg hlower
  rw [hsame] at h
  rcases h with rfl | rfl <;> exact absurd hblank (by decide)

section Strip

variable {d : Dialect} {sql : String} {query : List Token} {n : ℕ}

/-- A query that is followed by semicolons only has none of the clause in its text, however
the text is cut off at its end. -/
theorem tokens_stripSql_ne (hselect : IsSelect query)
    (htokens : SqlText.tokens d sql.toList = some (query ++ List.replicate n (.symbol ';')))
    (limit offset : UInt32) :
    SqlText.tokens d (stripSql sql).toList ≠ some (query ++ limitClause limit offset) := by
  intro hclause
  obtain ⟨t, rest, rfl, hfirst⟩ := hselect.first
  have hletter : ∃ x w, t = .word (x :: w) ∧ Text.isWhitespace x = false := by
    rcases hfirst with ⟨cs, rfl, hcs⟩ | ⟨cs, rfl, hcs⟩
    · match cs, hcs with
      | x :: w, hcs => exact ⟨x, w, rfl, isWhitespace_of_toUpper (Or.inl (List.cons.inj hcs).1)⟩
    · match cs, hcs with
      | x :: w, hcs => exact ⟨x, w, rfl, isWhitespace_of_toUpper (Or.inr (List.cons.inj hcs).1)⟩
  obtain ⟨x, w, rfl, hx⟩ := hletter
  have hstart := SqlText.tokens_dropWhile (p := Text.isWhitespace) rfl rfl htokens hx
  have htrim : (stripSql sql).toList <+: sql.toList.dropWhile Text.isWhitespace := by
    refine (prefix_stripSql sql).trans ?_
    rw [Text.toList_trim]
    exact Text.prefix_dropEndWhile _ _
  obtain ⟨trail, htrail⟩ := htrim
  rw [← htrail] at hstart
  have hprefix := SqlText.dropLast_prefix_of_tokens hclause hstart
  have hdrop : (Token.word (x :: w) :: rest ++ limitClause limit offset).dropLast =
      Token.word (x :: w) :: rest ++ [.word "LIMIT".toList, .word (toString limit).toList,
        .word "OFFSET".toList] := by
    rw [List.dropLast_append_of_ne_nil (by simp [limitClause])]
    rfl
  rw [hdrop] at hprefix
  -- so a semicolon would be the word LIMIT
  have hsemicolons := (List.prefix_append_right_inj _).1 hprefix
  have hmem := hsemicolons.subset (List.mem_cons_self ..)
  cases List.eq_of_mem_replicate hmem

/-- The statement is the query with the clause if and only if its text begins as a SELECT
does and says LIMIT nowhere, does not end in a comment, and is the query alone, which has no
clause of its own that no LIMIT follows. -/
theorem select_bounded_iff (hd : Latin d) (late : List String) (hselect : IsSelect query)
    (htokens : SqlText.tokens d sql.toList = some (query ++ List.replicate n (.symbol ';')))
    (hlimit : ¬AtTop "LIMIT" query) (limit offset : Option UInt32) :
    Bounded d late (prepareQuery sql limit offset).sql query (limit.getD 1000) (offset.getD 0) ↔
      isSelectText (Text.toUppercase (stripSql sql)) = true ∧
      Text.contains (Text.toUppercase (stripSql sql)) "LIMIT" = false ∧
      ¬EndsInComment d (stripSql sql).toList ∧
      SqlText.tokens d (stripSql sql).toList = some query ∧
      ∀ word ∈ late, ¬AtTop word query := by
  have hstripped := tokens_stripSql_ne hselect htokens (limit.getD 1000) (offset.getD 0)
  have hsql : (prepareQuery sql limit offset).sql =
      if isSelectText (Text.toUppercase (stripSql sql)) &&
          !Text.contains (Text.toUppercase (stripSql sql)) "LIMIT" then
        withLimitOffset (stripSql sql) (limit.getD 1000) (offset.getD 0)
      else stripSql sql := by
    dsimp only [prepareQuery]
  constructor
  · intro hbounded
    have hresult := hbounded.tokens
    rw [hsql] at hresult
    split at hresult
    case isFalse => exact absurd hresult hstripped
    case isTrue hcond =>
      rw [Bool.and_eq_true, Bool.not_eq_true'] at hcond
      rw [tokens_withLimitOffset hd] at hresult
      split at hresult
      case isTrue => exact absurd hresult hstripped
      case isFalse hcomment =>
        obtain ⟨ts, hts, heq⟩ := Option.map_eq_some_iff.1 hresult
        rw [List.append_cancel_right heq] at hts
        exact ⟨hcond.1, hcond.2, hcomment, hts,
          fun word hword => hbounded.clauses word (List.mem_cons_of_mem _ hword)⟩
  · rintro ⟨hstarts, hcontains, hcomment, hquery, hlate⟩
    refine ⟨?_, hselect, ?_⟩
    · rw [hsql, hstarts, hcontains, Bool.not_false, Bool.true_and, if_pos rfl,
        tokens_withLimitOffset hd, if_neg hcomment, hquery]
      rfl
    · rintro word (_ | ⟨_, hword⟩)
      · exact hlimit
      · exact hlate word hword

end Strip

/-! ## Examples of texts -/

theorem latin_pgDialect : Latin pgDialect where
  word c h := by
    have hword : c.isAlphanum = true := by
      rcases h with h | h
      · have halpha : c.isAlpha = true := Bool.or_eq_true_iff.2 (Or.inl h)
        simp [Char.isAlphanum, halpha]
      · simp [Char.isAlphanum, h]
    refine ⟨by simp [pgDialect, hword], ?_, ?_⟩
    · have hnewline : c ≠ '\n' := by
        rintro rfl
        exact absurd hword (by decide)
      have hreturn : c ≠ '\r' := by
        rintro rfl
        exact absurd hword (by decide)
      simp [pgDialect, hnewline, hreturn]
    · intro o ho
      simp only [pgDialect, Option.ite_none_right_eq_some, Option.some.injEq] at ho
      obtain ⟨rfl | rfl, rfl⟩ := ho <;> exact absurd hword (by decide)
  blank :=
    { word := by decide
      dash := by decide
      star := by decide
      closing := by
        intro o ho
        simp only [pgDialect, Option.ite_none_right_eq_some, Option.some.injEq] at ho
        obtain ⟨rfl | rfl, hc⟩ := ho <;> exact absurd hc (by decide)
      start_eq := by decide
      plain := by
        intro c hc
        rw [List.mem_singleton] at hc
        subst hc
        refine ⟨by decide, by decide, by decide, ?_⟩
        intro o ho
        simp only [pgDialect, Option.ite_none_right_eq_some, Option.some.injEq] at ho
        obtain ⟨rfl | rfl, hc⟩ := ho <;> exact absurd hc (by decide) }

instance (text : String) : (t : Token) → Decidable (IsWord text t)
  | .word cs => decidable_of_iff (cs.map Char.toUpper = text.toList)
      ⟨fun h => ⟨cs, rfl, h⟩, fun ⟨_, heq, h⟩ => Token.word.inj heq ▸ h⟩
  | .quoted _ _ => isFalse fun ⟨_, heq, _⟩ => by cases heq
  | .symbol _ => isFalse fun ⟨_, heq, _⟩ => by cases heq

theorem not_atTop {text : String} {ts : List Token} (h : ∀ t ∈ ts, ¬IsWord text t) :
    ¬AtTop text ts := by
  rintro ⟨before, t, after, rfl, hword, -⟩
  exact h t (by simp) hword

/-- A query without parentheses. -/
theorem isSelect_flat {t : Token} {rest : List Token} (hfirst : IsWord "SELECT" t)
    (hsingle : .symbol ';' ∉ t :: rest) (hflat : ∀ x ∈ t :: rest, tokenWeight x = 0) :
    IsSelect (t :: rest) where
  first := ⟨t, rest, rfl, Or.inl hfirst⟩
  single := hsingle
  balanced := by
    refine ⟨Nesting.height_eq_zero hflat, ?_⟩
    intro before hbefore
    rw [Nesting.height_eq_zero fun x hx => hflat x (hbefore.subset hx)]
    decide

/-- `SELECT * FROM t` -/
def selectAll : List Token :=
  [.word "SELECT".toList, .symbol '*', .word "FROM".toList, .word "t".toList]

/-- A page of the whole table. -/
theorem select_all_bounded :
    Bounded pgDialect ["OFFSET", "FETCH"]
      (prepareQuery "SELECT * FROM t;" (some 50) (some 10)).sql selectAll 50 10 :=
  (select_bounded_iff (n := 1) latin_pgDialect ["OFFSET", "FETCH"]
    (isSelect_flat (by decide) (by decide) (by decide)) (by decide) (not_atTop (by decide))
    (some 50) (some 10)).2
    ⟨by decide, by decide, by decide, by decide, by
      intro word hword
      simp only [List.mem_cons, List.not_mem_nil, or_false] at hword
      rcases hword with rfl | rfl <;> exact not_atTop (by decide)⟩

/-- A column whose name says LIMIT takes the clause away. -/
theorem limit_in_name_unbounded :
    ¬∀ (d : Dialect) (late : List String) (sql : String) (query : List Token) (n : ℕ), Latin d →
      IsSelect query →
      SqlText.tokens d sql.toList = some (query ++ List.replicate n (.symbol ';')) →
      (∀ word ∈ "LIMIT" :: late, ¬AtTop word query) → ∀ limit offset : Option UInt32,
      Bounded d late (prepareQuery sql limit offset).sql query (limit.getD 1000)
        (offset.getD 0) := by
  intro hall
  have hbounded := hall pgDialect [] "SELECT credit_limit FROM t"
    [.word "SELECT".toList, .word "credit_limit".toList, .word "FROM".toList, .word "t".toList] 0
    latin_pgDialect (isSelect_flat (by decide) (by decide) (by decide)) (by decide)
    (by
      intro word hword
      rw [List.mem_singleton] at hword
      subst hword
      exact not_atTop (by decide))
    none none
  have htokens := hbounded.tokens
  revert htokens
  decide

end KyomiConnect
