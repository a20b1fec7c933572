import KyomiConnect.ClickHouse

/-! # The wrappers of ClickHouse types

`map_clickhouse_type` strips one `Nullable(...)` and then one `LowCardinality(...)`, in that
order, and reads what remains. Nestings that go deeper or the other way round remain, and are
unknown. The wrappers are looked for by slicing at their length in bytes, which panics
inside a character.
-/

namespace KyomiConnect

/-! ## The table of types -/

/-- The types that ClickHouse's mapper knows as whole texts only. -/
def clickhouseWholeTypes : List String :=
  ["BOOL", "BOOLEAN", "DATE", "DATE32", "DATETIME", "STRING", "UUID", "JSON"]

/-- The beginnings that ClickHouse's mapper knows types by. -/
def clickhouseFronts : List String :=
  ["INT", "UINT", "FLOAT", "DECIMAL", "DATETIME64", "FIXEDSTRING", "ENUM", "ARRAY", "MAP", "TUPLE"]

/-- A type that ClickHouse's mapper knows by its beginning. -/
def clickhouseFrontType (upper : String) : SimpleType :=
  if ["INT", "UINT", "FLOAT", "DECIMAL"].any (Text.startsWith upper ·) then .number
  else if Text.startsWith upper "DATETIME64" then .timestamp
  else if ["FIXEDSTRING", "ENUM"].any (Text.startsWith upper ·) then .string
  else if ["ARRAY", "MAP", "TUPLE"].any (Text.startsWith upper ·) then .string
  else .unknown

/-- A type that is not known as a whole text is known by its beginning. -/
theorem mapClickhouseInnerType_eq_front {inner : String}
    (h : Text.toUppercase inner ∉ "OBJECT('JSON')" :: clickhouseWholeTypes) :
    mapClickhouseInnerType inner = clickhouseFrontType (Text.toUppercase inner) := by
  unfold mapClickhouseInnerType
  dsimp only
  generalize Text.toUppercase inner = upper at h
  split
  all_goals first
    | exact absurd (by decide) h
    | rfl

/-- The type depends on how the text begins only. -/
theorem clickhouseFrontType_congr {s t : String}
    (h : ∀ pat ∈ clickhouseFronts, Text.startsWith s pat = Text.startsWith t pat) :
    clickhouseFrontType s = clickhouseFrontType t := by
  have hany : ∀ pats : List String, pats ⊆ clickhouseFronts →
      pats.any (Text.startsWith s ·) = pats.any (Text.startsWith t ·) := by
    intro pats hpats
    rw [Bool.eq_iff_iff, List.any_eq_true, List.any_eq_true]
    refine exists_congr fun pat => and_congr_right fun hpat => ?_
    rw [h pat (hpats hpat)]
  unfold clickhouseFrontType
  rw [hany ["INT", "UINT", "FLOAT", "DECIMAL"] (by decide), h "DATETIME64" (by decide),
    hany ["FIXEDSTRING", "ENUM"] (by decide), hany ["ARRAY", "MAP", "TUPLE"] (by decide)]

/-- Where it is not known by its beginning, it is not known. -/
theorem clickhouseFrontType_ne_unknown_iff (upper : String) :
    clickhouseFrontType upper ≠ .unknown ↔
      ∃ front ∈ clickhouseFronts, Text.startsWith upper front = true := by
  have happend : clickhouseFronts = ["INT", "UINT", "FLOAT", "DECIMAL"] ++ (["DATETIME64"] ++
      (["FIXEDSTRING", "ENUM"] ++ ["ARRAY", "MAP", "TUPLE"])) := rfl
  -- the branches of the source, each with its own beginnings
  have hsplit : (∃ front ∈ clickhouseFronts, Text.startsWith upper front = true) ↔
      (["INT", "UINT", "FLOAT", "DECIMAL"].any (Text.startsWith upper ·)) = true ∨
        Text.startsWith upper "DATETIME64" = true ∨
        (["FIXEDSTRING", "ENUM"].any (Text.startsWith upper ·)) = true ∨
        (["ARRAY", "MAP", "TUPLE"].any (Text.startsWith upper ·)) = true := by
    have hsingle : (["DATETIME64"].any (Text.startsWith upper ·)) =
        Text.startsWith upper "DATETIME64" := Bool.or_false _
    rw [← List.any_eq_true, happend, List.any_append, List.any_append, List.any_append, hsingle,
      Bool.or_eq_true, Bool.or_eq_true, Bool.or_eq_true]
  rw [hsplit]
  unfold clickhouseFrontType
  split
  · rename_i h
    exact iff_of_true SimpleType.noConfusion (.inl h)
  · rename_i hnumber
    split
    · rename_i h
      exact iff_of_true SimpleType.noConfusion (.inr (.inl h))
    · rename_i htime
      split
      · rename_i h
        exact iff_of_true SimpleType.noConfusion (.inr (.inr (.inl h)))
      · rename_i hstring
        split
        · rename_i h
          exact iff_of_true SimpleType.noConfusion (.inr (.inr (.inr h)))
        · rename_i hnested
          refine iff_of_false (fun h => h rfl) ?_
          rintro (h | h | h | h)
          · exact hnumber h
          · exact htime h
          · exact hstring h
          · exact hnested h

/-! ## Characters -/

/-- A small letter is in ASCII. -/
theorem toNat_lt_of_isLower {c : Char} (h : c.isLower = true) : c.toNat < 128 := by
  have hrange : (decide (c.val ≥ 'a'.val) && decide (c.val ≤ 'z'.val)) = true := h
  simp only [Bool.and_eq_true, decide_eq_true_eq] at hrange
  have hle := UInt32.le_iff_toNat_le.1 hrange.2
  have htoNat : c.toNat = c.val.toNat := rfl
  simp at hle
  omega

/-- A capital letter is in ASCII. -/
theorem toNat_lt_of_isUpper {c : Char} (h : c.isUpper = true) : c.toNat < 128 := by
  have hrange : c.val ≥ 'A'.val ∧ c.val ≤ 'Z'.val := of_decide_eq_true h
  have hle := UInt32.le_iff_toNat_le.1 hrange.2
  have htoNat : c.toNat = c.val.toNat := rfl
  simp at hle
  omega

/-- A blank has no capital. -/
theorem upperChar_of_isWhitespace {c : Char} (h : Text.isWhitespace c = true) :
    Text.upperChar c = [c] := by
  -- no blank is a small letter
  have hlower : ¬ c.isLower = true := by
    intro hlower
    have hascii : ∀ n : Fin 128, (Char.ofNat n).isLower = true →
        Text.isWhitespace (Char.ofNat n) = false := by decide
    have hcode := hascii ⟨c.toNat, toNat_lt_of_isLower hlower⟩
    simp only [Char.ofNat_toNat] at hcode
    rw [hcode hlower] at h
    cases h
  unfold Text.upperChar
  rw [if_neg hlower]
  unfold Text.isWhitespace at h
  split
  case h_18 => rfl
  all_goals
    rename_i hcode
    rw [hcode] at h
    exact absurd h (by decide)

/-- The first letters of the two wrappers, in either case. -/
theorem upperChar_of_toLower {c : Char} :
    (c.toLower = 'n' → Text.upperChar c = ['N']) ∧
      (c.toLower = 'l' → Text.upperChar c = ['L']) := by
  -- over the ASCII characters; above them nothing changes case
  have hascii : ∀ n : Fin 128,
      ((Char.ofNat n).toLower = 'n' → Text.upperChar (Char.ofNat n) = ['N']) ∧
        ((Char.ofNat n).toLower = 'l' → Text.upperChar (Char.ofNat n) = ['L']) := by decide
  by_cases hupper : c.isUpper = true
  · have hcode := hascii ⟨c.toNat, toNat_lt_of_isUpper hupper⟩
    simpa only [Char.ofNat_toNat] using hcode
  · have hlower : c.toLower = c := by
      have hrange : ¬ (c.val ≥ 'A'.val ∧ c.val ≤ 'Z'.val) := fun h => hupper (decide_eq_true h)
      exact dif_neg hrange
    rw [hlower]
    constructor
    · rintro rfl
      decide
    · rintro rfl
      decide

/-! ## Slicing at the length of a wrapper -/

/-- A text is not cut inside a character: it is too short to be sliced, or a character starts
at the byte. -/
def NotCut (n : ℕ) (cs : List Char) : Prop :=
  Text.byteLen cs ≤ n + 2 ∨ ∃ before, before <+: cs ∧ Text.byteLen before = n

/-- What is left of a text has come from it, or is the text. -/
theorem stripWrapper_cases (wrapper cs : List Char) :
    (¬ NotCut (Text.byteLen wrapper) cs ∧ stripWrapper wrapper cs = none) ∨
      (NotCut (Text.byteLen wrapper) cs ∧ stripWrapper wrapper cs = some cs) ∨
      ∃ before rest, Text.byteLen wrapper + 2 < Text.byteLen cs ∧ cs = before ++ rest ∧
        Text.byteLen before = Text.byteLen wrapper ∧
        before.map Char.toLower = wrapper.map Char.toLower ∧ rest.head? = some '(' ∧
        rest.getLast? = some ')' ∧ stripWrapper wrapper cs = some rest.tail.dropLast := by
  unfold stripWrapper NotCut
  by_cases hlen : Text.byteLen wrapper + 2 < Text.byteLen cs
  · rw [if_pos hlen]
    -- the name of the wrapper may end inside a character, which the slice cannot cut
    cases hsplit : Text.splitAtByte cs (Text.byteLen wrapper) with
    | none =>
        left
        refine ⟨?_, rfl⟩
        rintro (hshort | ⟨before, ⟨rest, happend⟩, hbefore⟩)
        · omega
        · exact Text.splitAtByte_eq_none_iff.1 hsplit before rest happend.symm hbefore
    | some parts =>
        obtain ⟨before, rest⟩ := parts
        obtain ⟨happend, hbefore⟩ := Text.splitAtByte_eq_some_iff.1 hsplit
        right
        simp only [Option.map_some]
        -- the name, an opening and a closing parenthesis
        by_cases hwrapped : before.map Char.toLower = wrapper.map Char.toLower ∧
            rest.head? = some '(' ∧ rest.getLast? = some ')'
        · right
          obtain ⟨hname, hopen, hclose⟩ := hwrapped
          refine ⟨before, rest, hlen, happend, hbefore, hname, hopen, hclose, ?_⟩
          rw [if_pos ⟨hname, hopen, hclose⟩]
        · left
          rw [if_neg hwrapped]
          exact ⟨.inr ⟨before, ⟨rest, happend.symm⟩, hbefore⟩, rfl⟩
  · rw [if_neg hlen]
    right
    left
    exact ⟨.inl (by omega), rfl⟩

/-- Stripping panics if and only if the length of the wrapper's name cuts a letter. -/
theorem stripWrapper_isSome_iff (wrapper cs : List Char) :
    (stripWrapper wrapper cs).isSome = true ↔ NotCut (Text.byteLen wrapper) cs := by
  rcases stripWrapper_cases wrapper cs with ⟨hcut, hstrip⟩ | ⟨hcut, hstrip⟩ |
    ⟨before, rest, -, happend, hbefore, -, -, -, hstrip⟩
  · rw [hstrip]
    exact iff_of_false Bool.false_ne_true hcut
  · rw [hstrip]
    exact iff_of_true rfl hcut
  · rw [hstrip]
    exact iff_of_true rfl (.inr ⟨before, ⟨rest, happend.symm⟩, hbefore⟩)

/-- A text that starts with another letter than the wrapper is left as it is. -/
theorem stripWrapper_of_head {w c : Char} {wrapper cs : List Char}
    (hcut : NotCut (Text.byteLen (w :: wrapper)) (c :: cs)) (hhead : c.toLower ≠ w.toLower) :
    stripWrapper (w :: wrapper) (c :: cs) = some (c :: cs) := by
  rcases stripWrapper_cases (w :: wrapper) (c :: cs) with ⟨hcut', -⟩ | ⟨-, hstrip⟩ |
    ⟨before, rest, -, happend, -, hname, -, -, -⟩
  · exact absurd hcut hcut'
  · exact hstrip
  · cases before with
    | nil => cases hname
    | cons d before =>
        obtain ⟨rfl, -⟩ := List.cons_eq_cons.1 happend
        exact absurd (List.cons_eq_cons.1 hname).1 hhead

/-! ## Nestings -/

inductive Wrapper where
  | nullable
  | lowCardinality
deriving DecidableEq, Repr

namespace Wrapper

def name : Wrapper → List Char
  | nullable => "Nullable".toList
  | lowCardinality => "LowCardinality".toList

/-- A type in a wrapper. -/
def wrap (w : Wrapper) (t : List Char) : List Char := w.name ++ '(' :: (t ++ [')'])

end Wrapper

/-- A type in a nesting of wrappers, the outermost first. -/
def wrapped (ws : List Wrapper) (t : String) : String :=
  .ofList (ws.foldr Wrapper.wrap t.toList)

example : wrapped [.lowCardinality, .nullable] "String" = "LowCardinality(Nullable(String))" := by
  decide

/-- A wrapper adds its name and two brackets. -/
theorem byteLen_wrap (w : Wrapper) (t : List Char) :
    Text.byteLen (w.wrap t) = Text.byteLen w.name + 2 + Text.byteLen t := by
  have hparens : Text.byteLen ['('] = 1 ∧ Text.byteLen [')'] = 1 := by decide
  unfold Wrapper.wrap
  rw [Text.byteLen_append, ← List.singleton_append, Text.byteLen_append, Text.byteLen_append]
  omega

/-- A wrapper around some text is stripped. -/
theorem stripWrapper_wrap (w : Wrapper) {t : List Char} (ht : t ≠ []) :
    stripWrapper w.name (w.wrap t) = some t := by
  have hpos : 0 < Text.byteLen t := by
    have hlen := Text.length_le_byteLen t
    have hlen' := List.length_pos_iff.2 ht
    omega
  have hsplit : Text.splitAtByte (w.wrap t) (Text.byteLen w.name) =
      some (w.name, '(' :: (t ++ [')'])) := Text.splitAtByte_eq_some_iff.2 ⟨rfl, rfl⟩
  have hclose : ('(' :: (t ++ [')'])).getLast? = some ')' := by
    rw [← List.cons_append, List.getLast?_concat]
  unfold stripWrapper
  rw [if_pos (by rw [byteLen_wrap]; omega), hsplit]
  simp only [Option.map_some, List.head?_cons, hclose, and_self, if_true, List.tail_cons,
    List.dropLast_concat]

/-- A wrapper that was put around a text is stripped. -/
theorem stripNullable_wrap {t : List Char} (ht : t ≠ []) :
    stripWrapper "Nullable".toList (Wrapper.nullable.wrap t) = some t :=
  stripWrapper_wrap .nullable ht

/-- So is the other one. -/
theorem stripLowCardinality_wrap {t : List Char} (ht : t ≠ []) :
    stripWrapper "LowCardinality".toList (Wrapper.lowCardinality.wrap t) = some t :=
  stripWrapper_wrap .lowCardinality ht

/-- A type in a wrapper starts with the letter of the wrapper and ends with a parenthesis, and
has no blanks to be trimmed. -/
theorem trim_wrap (w : Wrapper) (t : List Char) :
    (Text.trim (.ofList (w.wrap t))).toList = w.wrap t := by
  have hend : w.wrap t = (w.name ++ '(' :: t) ++ [')'] := by simp [Wrapper.wrap]
  have hfront : (w.wrap t).dropWhile Text.isWhitespace = w.wrap t := by
    unfold Wrapper.wrap
    cases w <;> exact List.dropWhile_cons_of_neg (by decide)
  rw [Text.toList_trim, String.toList_ofList, hfront, hend,
    Text.dropEndWhile_append_singleton (by decide)]

/-- Only what starts with one of these letters is the text of a known type. -/
theorem mapClickhouseInnerType_of_head {s : String} {c : Char}
    (hs : (Text.toUppercase s).toList.head? = some c)
    (hc : c ∉ ['A', 'B', 'D', 'E', 'F', 'I', 'J', 'M', 'O', 'S', 'T', 'U']) :
    mapClickhouseInnerType s = .unknown := by
  have hstart : ∀ text : String,
      text.toList.head? ∈ ['A', 'B', 'D', 'E', 'F', 'I', 'J', 'M', 'O', 'S', 'T', 'U'].map some →
      text.toList.head? ≠ some c := by
    rintro text htext heq
    rw [heq] at htext
    obtain ⟨c', hmem, hc'⟩ := List.mem_map.1 htext
    cases hc'
    exact hc hmem
  -- no type that is compared as a whole begins with the character
  have hwhole : Text.toUppercase s ∉ "OBJECT('JSON')" :: clickhouseWholeTypes := by
    intro hmem
    refine hstart (Text.toUppercase s) ?_ hs
    generalize Text.toUppercase s = upper at hmem
    revert upper
    decide
  rw [mapClickhouseInnerType_eq_front hwhole]
  by_contra hknown
  obtain ⟨front, hfront, hstarts⟩ := (clickhouseFrontType_ne_unknown_iff _).1 hknown
  obtain ⟨rest, hrest⟩ := List.isPrefixOf_iff_prefix.1 hstarts
  -- no type that is compared by its beginning does either
  have hnonempty : ∀ front ∈ clickhouseFronts, front.toList ≠ [] := by decide
  have hhead : front.toList.head? = some c := by
    have hne := hnonempty front hfront
    rw [← hrest, List.head?_append_of_ne_nil _ hne] at hs
    exact hs
  refine hstart front ?_ hhead
  clear hstarts hrest hhead
  revert front
  decide

/-- A wrapper that is left over makes a type unknown. -/
theorem mapClickhouseInnerType_wrap (w : Wrapper) (t : List Char) :
    mapClickhouseInnerType (.ofList (w.wrap t)) = .unknown := by
  cases w
  · refine @mapClickhouseInnerType_of_head _ 'N' ?_ (by decide)
    rw [Text.toList_toUppercase, String.toList_ofList]
    rfl
  · refine @mapClickhouseInnerType_of_head _ 'L' ?_ (by decide)
    rw [Text.toList_toUppercase, String.toList_ofList]
    rfl

/-! ## Types in nestings -/

/-- What is left of a type text that stands alone, for the table of types. -/
def bareText (t : String) : Option String :=
  ((stripWrapper "Nullable".toList (Text.trim t).toList).bind
    (stripWrapper "LowCardinality".toList)).map String.ofList

/-- The mapping strips the text and maps what is left. -/
theorem mapClickhouseType_eq (t : String) :
    mapClickhouseType t = (bareText t).map mapClickhouseInnerType := by
  unfold mapClickhouseType bareText
  cases stripWrapper "Nullable".toList (Text.trim t).toList with
  | none => rfl
  | some inner =>
      simp only [Option.bind_some, Option.bind_eq_bind]
      generalize stripWrapper "LowCardinality".toList inner = rest
      cases rest <;> rfl

/-- A nesting of one wrapper or more, as the two strips see it. -/
theorem bareText_wrapped (w : Wrapper) (ws : List Wrapper) (t : String) :
    bareText (wrapped (w :: ws) t) =
      ((stripWrapper "Nullable".toList (w.wrap (ws.foldr Wrapper.wrap t.toList))).bind
        (stripWrapper "LowCardinality".toList)).map String.ofList := by
  unfold bareText wrapped
  rw [List.foldr_cons, trim_wrap]

/-- `Nullable` is not looked for in `LowCardinality`. -/
theorem stripNullable_lowCardinality (t : List Char) :
    stripWrapper "Nullable".toList (Wrapper.lowCardinality.wrap t) =
      some (Wrapper.lowCardinality.wrap t) := by
  have hcut : NotCut 8 (Wrapper.lowCardinality.wrap t) :=
    .inr ⟨"LowCardi".toList, ⟨"nality(".toList ++ (t ++ [')']), rfl⟩, rfl⟩
  exact stripWrapper_of_head hcut (by decide)

/-- `LowCardinality` is not looked for in a `Nullable` that can be sliced. -/
theorem stripLowCardinality_nullable {t : List Char}
    (hcut : NotCut 14 (Wrapper.nullable.wrap t)) :
    stripWrapper "LowCardinality".toList (Wrapper.nullable.wrap t) =
      some (Wrapper.nullable.wrap t) :=
  stripWrapper_of_head hcut (by decide)

/-- A name of another wrapper within is not cut. -/
theorem notCut_nullable_wrap (w : Wrapper) (t : List Char) :
    NotCut 14 (Wrapper.nullable.wrap (w.wrap t)) := by
  refine .inr ⟨(Wrapper.nullable.wrap (w.wrap t)).take 14, List.take_prefix _ _, ?_⟩
  cases w
  · have htake : (Wrapper.nullable.wrap (Wrapper.nullable.wrap t)).take 14 =
        "Nullable(Nulla".toList := rfl
    rw [htake]
    decide
  · have htake : (Wrapper.nullable.wrap (Wrapper.lowCardinality.wrap t)).take 14 =
        "Nullable(LowCa".toList := rfl
    rw [htake]
    decide

/-- The type of a text in a nesting of wrappers. -/
def wrappedType (ws : List Wrapper) (t : String) : Option SimpleType :=
  match ws with
  | [] => (bareText t).map mapClickhouseInnerType
  | [.nullable] =>
      (stripWrapper "LowCardinality".toList t.toList).map fun rest =>
        mapClickhouseInnerType (.ofList rest)
  | [.lowCardinality] | [.nullable, .lowCardinality] => some (mapClickhouseInnerType t)
  | [.nullable, .nullable] =>
      (stripWrapper "LowCardinality".toList (Wrapper.nullable.wrap t.toList)).map fun _ => .unknown
  | _ => some .unknown

/-- What is left of a nesting for the table of types, once one `LowCardinality` is stripped. -/
theorem stripLowCardinality_map (ws : List Wrapper) (t : List Char) :
    (stripWrapper "LowCardinality".toList
        (Wrapper.lowCardinality.wrap (ws.foldr Wrapper.wrap t))).map
      (fun rest => mapClickhouseInnerType (.ofList rest)) =
      some (if ws = [] then mapClickhouseInnerType (.ofList t) else .unknown) := by
  by_cases hempty : ws.foldr Wrapper.wrap t = []
  · -- no wrapper and no type
    cases ws with
    | cons w ws => cases w <;> cases hempty
    | nil =>
        obtain rfl : t = [] := hempty
        decide
  · rw [stripLowCardinality_wrap hempty, Option.map_some]
    cases ws with
    | nil => rw [if_pos rfl, List.foldr_nil]
    | cons w ws =>
        rw [List.foldr_cons, mapClickhouseInnerType_wrap, if_neg (List.cons_ne_nil _ _)]

/-- What the mapping makes of a text in its wrappers. -/
theorem mapClickhouseType_wrapped (ws : List Wrapper) (t : String) :
    mapClickhouseType (wrapped ws t) = wrappedType ws t := by
  rw [mapClickhouseType_eq]
  match ws with
  | [] => simp [wrapped, wrappedType]
  | .lowCardinality :: ws =>
      -- Nullable is looked for first and is not there, so LowCardinality alone is stripped
      rw [bareText_wrapped, stripNullable_lowCardinality, Option.bind_some, Option.map_map]
      refine (stripLowCardinality_map ws t.toList).trans ?_
      cases ws with
      | nil => simp [wrappedType]
      | cons w ws => rfl
  | .nullable :: ws =>
      rw [bareText_wrapped]
      by_cases hempty : ws.foldr Wrapper.wrap t.toList = []
      · cases ws with
        | cons w ws => cases w <;> cases hempty
        | nil =>
            obtain rfl : t = "" := String.toList_eq_nil_iff.1 hempty
            decide
      · rw [stripNullable_wrap hempty, Option.bind_some, Option.map_map]
        cases ws with
        | nil => rfl
        | cons w ws =>
            cases w with
            | lowCardinality =>
                refine (stripLowCardinality_map ws t.toList).trans ?_
                cases ws with
                | nil => simp [wrappedType]
                | cons w ws => rfl
            | nullable =>
                rw [List.foldr_cons]
                cases ws with
                | nil =>
                    unfold wrappedType
                    rw [List.foldr_nil]
                    -- the second strip may cut into the name of the inner Nullable
                    by_cases hcut : NotCut 14 (Wrapper.nullable.wrap t.toList)
                    · rw [stripLowCardinality_nullable hcut, Option.map_some, Option.map_some,
                        Function.comp_apply, mapClickhouseInnerType_wrap]
                    · have hnone : stripWrapper "LowCardinality".toList
                          (Wrapper.nullable.wrap t.toList) = none := by
                        rw [← Option.not_isSome_iff_eq_none, stripWrapper_isSome_iff]
                        exact hcut
                      rw [hnone]
                      rfl
                | cons w ws =>
                    rw [List.foldr_cons, stripLowCardinality_nullable (notCut_nullable_wrap w _),
                      Option.map_some, Function.comp_apply, mapClickhouseInnerType_wrap]
                    rfl

/-! ## Blanks and wrappers of a text -/

/-- A text is its blanks around what is left of it when it is trimmed. -/
theorem exists_trim (t : String) :
    ∃ lead trail, t.toList = lead ++ ((Text.trim t).toList ++ trail) ∧
      (∀ c ∈ lead, Text.isWhitespace c = true) ∧ ∀ c ∈ trail, Text.isWhitespace c = true := by
  refine ⟨t.toList.takeWhile Text.isWhitespace,
    (t.toList.dropWhile Text.isWhitespace).rtakeWhile Text.isWhitespace, ?_, ?_, ?_⟩
  · have hback : (Text.trim t).toList ++
        (t.toList.dropWhile Text.isWhitespace).rtakeWhile Text.isWhitespace =
          t.toList.dropWhile Text.isWhitespace := by
      rw [Text.toList_trim, Text.dropEndWhile, List.rtakeWhile, ← List.reverse_append,
        List.takeWhile_append_dropWhile, List.reverse_reverse]
    rw [hback, List.takeWhile_append_dropWhile]
  · exact fun c hc => List.mem_takeWhile_imp hc
  · exact fun c hc => List.mem_rtakeWhile_imp hc

/-- A text that starts with a blank is no known type. -/
theorem mapClickhouseInnerType_of_blank {t : String} {c : Char} {cs : List Char}
    (ht : t.toList = c :: cs) (hc : Text.isWhitespace c = true) :
    mapClickhouseInnerType t = .unknown := by
  refine @mapClickhouseInnerType_of_head _ c ?_ ?_
  · rw [Text.toList_toUppercase, ht, List.flatMap_cons, upperChar_of_isWhitespace hc]
    rfl
  · have hletters : ['A', 'B', 'D', 'E', 'F', 'I', 'J', 'M', 'O', 'S', 'T', 'U'].all
        (fun l => !Text.isWhitespace l) = true := by decide
    intro hmem
    have hnot := List.all_eq_true.1 hletters c hmem
    rw [hc] at hnot
    cases hnot

/-- Neither is one that starts with the letter of a wrapper. -/
theorem mapClickhouseInnerType_of_letter {t : String} {c : Char} {cs : List Char}
    (ht : t.toList = c :: cs) (hc : c.toLower = 'n' ∨ c.toLower = 'l') :
    mapClickhouseInnerType t = .unknown := by
  have hupper : (Text.toUppercase t).toList = Text.upperChar c ++ cs.flatMap Text.upperChar := by
    rw [Text.toList_toUppercase, ht, List.flatMap_cons]
  rcases hc with hc | hc
  · refine @mapClickhouseInnerType_of_head _ 'N' ?_ (by decide)
    rw [hupper, upperChar_of_toLower.1 hc]
    rfl
  · refine @mapClickhouseInnerType_of_head _ 'L' ?_ (by decide)
    rw [hupper, upperChar_of_toLower.2 hc]
    rfl

/-- What is stripped of a text starts with the letter of the wrapper and ends with a
parenthesis. -/
theorem stripWrapper_eq_or {w : Wrapper} {cs rest : List Char}
    (h : stripWrapper w.name cs = some rest) :
    rest = cs ∨ cs.getLast? = some ')' ∧ ∃ c cs', cs = c :: cs' ∧
      (match w with
        | .nullable => c.toLower = 'n'
        | .lowCardinality => c.toLower = 'l') := by
  rcases stripWrapper_cases w.name cs with ⟨-, hstrip⟩ | ⟨-, hstrip⟩ |
    ⟨before, rest', -, rfl, -, hname, hopen, hclose, -⟩
  · rw [hstrip] at h
    cases h
  · rw [hstrip] at h
    exact .inl (Option.some_inj.1 h).symm
  · right
    have hne : rest' ≠ [] := by
      rintro rfl
      cases hopen
    refine ⟨by rw [List.getLast?_append_of_ne_nil _ hne, hclose], ?_⟩
    cases before with
    | nil => cases w <;> cases hname
    | cons c before =>
        refine ⟨c, before ++ rest', rfl, ?_⟩
        cases w
        · exact (List.cons_eq_cons.1 hname).1
        · exact (List.cons_eq_cons.1 hname).1

/-- Behind blanks a text is known by its beginning only. -/
theorem mapClickhouseInnerType_append_blanks {t bare : String} {blanks : List Char}
    (ht : t.toList = bare.toList ++ blanks) (hne : blanks ≠ [])
    (hblanks : ∀ c ∈ blanks, Text.isWhitespace c = true) :
    mapClickhouseInnerType t = clickhouseFrontType (Text.toUppercase bare) := by
  have hsame : blanks.flatMap Text.upperChar = blanks := by
    clear hne ht
    induction blanks with
    | nil => rfl
    | cons c cs ih =>
        rw [List.flatMap_cons, upperChar_of_isWhitespace (hblanks c (List.mem_cons_self ..)),
          ih fun d hd => hblanks d (List.mem_cons_of_mem _ hd)]
        rfl
  have hupper : (Text.toUppercase t).toList = (Text.toUppercase bare).toList ++ blanks := by
    rw [Text.toList_toUppercase, Text.toList_toUppercase, ht, List.flatMap_append, hsame]
  -- a type that is compared as a whole does not end with a blank
  have hwhole : Text.toUppercase t ∉ "OBJECT('JSON')" :: clickhouseWholeTypes := by
    have hends : ∀ text ∈ "OBJECT('JSON')" :: clickhouseWholeTypes,
        text.toList.getLast?.all (!Text.isWhitespace ·) = true := by decide
    intro hmem
    have hend := hends _ hmem
    rw [hupper, List.getLast?_append_of_ne_nil _ hne, List.getLast?_eq_some_getLast hne,
      Option.all_some, hblanks _ (List.getLast_mem hne)] at hend
    cases hend
  rw [mapClickhouseInnerType_eq_front hwhole]
  refine clickhouseFrontType_congr fun front hfront => ?_
  have hplain : ∀ front ∈ clickhouseFronts, ∀ c ∈ front.toList, Text.isWhitespace c = false := by
    have hall : clickhouseFronts.all (fun front => front.toList.all fun c =>
        !Text.isWhitespace c) = true := by decide
    intro front hfront c hc
    have hnot := List.all_eq_true.1 (List.all_eq_true.1 hall front hfront) c hc
    rwa [Bool.not_eq_true'] at hnot
  rw [Bool.eq_iff_iff, Text.startsWith, Text.startsWith, List.isPrefixOf_iff_prefix,
    List.isPrefixOf_iff_prefix, hupper]
  constructor
  · intro hprefix
    -- the beginning has no blank, so it ends before them
    rcases List.prefix_or_prefix_of_prefix hprefix (List.prefix_append _ _) with
      hinside | ⟨rest, hrest⟩
    · exact hinside
    · rw [← hrest] at hprefix
      have hbehind : rest <+: blanks := (List.prefix_append_right_inj _).1 hprefix
      cases rest with
      | nil =>
          rw [List.append_nil] at hrest
          rw [hrest]
      | cons c rest =>
          have hplain := hplain front hfront c (by rw [← hrest]; simp)
          rw [hblanks c (hbehind.subset (List.mem_cons_self ..))] at hplain
          cases hplain
  · exact fun hprefix => hprefix.trans (List.prefix_append _ _)

/-- What is left of a text for the table is the text itself, or the text without the blanks behind
a type that is known by its beginning. -/
def AsItStands (t bare : String) : Prop :=
  bare = t ∨ ∃ blanks, t.toList = bare.toList ++ blanks ∧
    (∀ c ∈ blanks, Text.isWhitespace c = true) ∧
    ∃ front ∈ clickhouseFronts, Text.startsWith (Text.toUppercase bare) front = true

/-- A type that has one of these beginnings is known by it. -/
theorem mapClickhouseInnerType_of_front {t : String}
    (h : ∃ front ∈ clickhouseFronts, Text.startsWith (Text.toUppercase t) front = true) :
    mapClickhouseInnerType t = clickhouseFrontType (Text.toUppercase t) := by
  apply mapClickhouseInnerType_eq_front
  obtain ⟨front, hfront, hstarts⟩ := h
  have hnone : ∀ text ∈ "OBJECT('JSON')" :: clickhouseWholeTypes, ∀ front ∈ clickhouseFronts,
      Text.startsWith text front = false := by decide
  intro hmem
  rw [hnone _ hmem front hfront] at hstarts
  cases hstarts

/-- An unknown type is not known by its beginning either. -/
theorem clickhouseFrontType_of_unknown {t : String} (h : mapClickhouseInnerType t = .unknown) :
    clickhouseFrontType (Text.toUppercase t) = .unknown := by
  by_contra hknown
  rw [← mapClickhouseInnerType_of_front ((clickhouseFrontType_ne_unknown_iff _).1 hknown)] at hknown
  exact hknown h

/-- Around what is left of a text there are blanks or the letters of a wrapper, which make its type
unknown, or it is as it stands but for blanks behind it. -/
theorem bareText_cases {t bare : String} (h : bareText t = some bare) :
    mapClickhouseInnerType t = .unknown ∨
      ∃ blanks, t.toList = bare.toList ++ blanks ∧ ∀ c ∈ blanks, Text.isWhitespace c = true := by
  obtain ⟨lead, trail, ht, hlead, htrail⟩ := exists_trim t
  cases lead with
  -- a blank in front: no known type begins so
  | cons c lead => exact .inl (mapClickhouseInnerType_of_blank ht (hlead c (List.mem_cons_self ..)))
  | nil =>
      rw [List.nil_append] at ht
      unfold bareText at h
      obtain ⟨rest, hrest, rfl⟩ := Option.map_eq_some_iff.1 h
      obtain ⟨inner, hinner, hstrip⟩ := Option.bind_eq_some_iff.1 hrest
      -- a text that starts with the letter of a wrapper is no known type
      rcases @stripWrapper_eq_or .nullable _ _ hinner with rfl | ⟨-, c, cs, htext, hc⟩
      · rcases @stripWrapper_eq_or .lowCardinality _ _ hstrip with rfl | ⟨-, c, cs, htext, hc⟩
        · refine .inr ⟨trail, ?_, htrail⟩
          rw [String.toList_ofList]
          exact ht
        · rw [htext] at ht
          exact .inl (mapClickhouseInnerType_of_letter ht (.inr hc))
      · rw [htext] at ht
        exact .inl (mapClickhouseInnerType_of_letter ht (.inl hc))

/-- A text as it stands and what is left of it are of one type exactly if that is unknown, or
nothing is stripped that counts. -/
theorem mapClickhouseInnerType_eq_bare_iff {t bare : String} (h : bareText t = some bare) :
    mapClickhouseInnerType t = mapClickhouseInnerType bare ↔
      mapClickhouseInnerType bare = .unknown ∨ AsItStands t bare := by
  constructor
  · -- equal and known: only blanks behind the bare text can differ
    intro heq
    by_cases hunknown : mapClickhouseInnerType bare = .unknown
    · exact .inl hunknown
    · right
      rcases bareText_cases h with hother | ⟨blanks, ht, hblanks⟩
      · exact absurd (heq.symm.trans hother) hunknown
      · cases blanks with
        | nil =>
            left
            rw [List.append_nil] at ht
            exact String.toList_inj.1 ht.symm
        | cons c blanks =>
            have htype := mapClickhouseInnerType_append_blanks ht (List.cons_ne_nil _ _) hblanks
            rw [heq] at htype
            rw [htype] at hunknown
            exact .inr ⟨_, ht, hblanks, (clickhouseFrontType_ne_unknown_iff _).1 hunknown⟩
  · rintro (hunknown | rfl | ⟨blanks, ht, hblanks, hfront⟩)
    · rw [hunknown]
      rcases bareText_cases h with hother | ⟨blanks, ht, hblanks⟩
      · exact hother
      · cases blanks with
        | nil =>
            rw [List.append_nil] at ht
            rw [String.toList_inj.1 ht, hunknown]
        | cons c blanks =>
            rw [mapClickhouseInnerType_append_blanks ht (List.cons_ne_nil _ _) hblanks,
              clickhouseFrontType_of_unknown hunknown]
    · rfl
    · cases blanks with
      | nil =>
          rw [List.append_nil] at ht
          rw [String.toList_inj.1 ht]
      | cons c blanks =>
          rw [mapClickhouseInnerType_append_blanks ht (List.cons_ne_nil _ _) hblanks,
            mapClickhouseInnerType_of_front hfront]

/-- The same with a `LowCardinality` stripped of the text, in which case it is all of it. -/
theorem stripLowCardinality_eq_bare_iff {t bare : String} (h : bareText t = some bare)
    {rest : List Char} (hrest : stripWrapper "LowCardinality".toList t.toList = some rest) :
    mapClickhouseInnerType (.ofList rest) = mapClickhouseInnerType bare ↔
      mapClickhouseInnerType bare = .unknown ∨ rest = bare.toList ∨ AsItStands t bare := by
  rcases @stripWrapper_eq_or .lowCardinality _ _ hrest with rfl | ⟨hlast, c, cs, ht, hc⟩
  · rw [String.ofList_toList, mapClickhouseInnerType_eq_bare_iff h]
    constructor
    · rintro (hunknown | hstands)
      · exact .inl hunknown
      · exact .inr (.inr hstands)
    · rintro (hunknown | hsame | hstands)
      · exact .inl hunknown
      · exact .inr (.inl (String.toList_inj.1 hsame.symm))
      · exact .inr hstands
  · -- it begins with a letter and ends with a parenthesis, so nothing else is stripped
    have htrim : (Text.trim t).toList = t.toList := by
      obtain ⟨lead, trail, hparts, hlead, htrail⟩ := exists_trim t
      have hnoLead : lead = [] := by
        cases lead with
        | nil => rfl
        | cons c' lead =>
            rw [hparts, List.cons_append] at ht
            obtain ⟨rfl, -⟩ := List.cons_eq_cons.1 ht
            have hblank := hlead c' (List.mem_cons_self ..)
            have hupper := upperChar_of_isWhitespace hblank
            rw [upperChar_of_toLower.2 hc, List.cons_eq_cons] at hupper
            rw [← hupper.1] at hblank
            exact absurd hblank (by decide)
      have hnoTrail : trail = [] := by
        by_contra hne
        rw [hparts, ← List.append_assoc, List.getLast?_append_of_ne_nil _ hne,
          List.getLast?_eq_some_getLast hne, Option.some_inj] at hlast
        have hblank := htrail _ (List.getLast_mem hne)
        rw [hlast] at hblank
        exact absurd hblank (by decide)
      rw [hparts, hnoLead, hnoTrail, List.nil_append, List.append_nil]
    -- Nullable begins with another letter, so it was not stripped
    have hsame : rest = bare.toList := by
      unfold bareText at h
      rw [htrim] at h
      obtain ⟨rest', hrest', rfl⟩ := Option.map_eq_some_iff.1 h
      obtain ⟨inner, hinner, hstrip⟩ := Option.bind_eq_some_iff.1 hrest'
      rcases @stripWrapper_eq_or .nullable _ _ hinner with rfl | ⟨-, c', cs', ht', hc'⟩
      · rw [hrest, Option.some_inj] at hstrip
        rw [hstrip, String.toList_ofList]
      · rw [ht] at ht'
        obtain ⟨rfl, -⟩ := List.cons_eq_cons.1 ht'
        have hletters : 'n' = 'l' := hc'.symm.trans hc
        exact absurd hletters (by decide)
    rw [hsame, String.ofList_toList]
    exact iff_of_true rfl (.inr (.inl rfl))

/-! ## Transparent nestings -/

/-- When a nesting of wrappers does not change the type of a text. None does. One `LowCardinality`,
or a `Nullable` around it, does not if the text is read as it stands; one `Nullable` does not if it
is, or if all that is stripped of it is a `LowCardinality`, unless it is cut inside a character
there. Any nesting leaves a type unknown that is unknown, as long as the second of two `Nullable`
can be sliced. -/
def Transparent (ws : List Wrapper) (t : String) : Prop :=
  ∃ bare, bareText t = some bare ∧
    match ws with
    | [] => True
    | [.nullable] => NotCut 14 t.toList ∧ (mapClickhouseInnerType bare = .unknown ∨
        stripWrapper "LowCardinality".toList t.toList = some bare.toList ∨ AsItStands t bare)
    | [.lowCardinality] | [.nullable, .lowCardinality] =>
        mapClickhouseInnerType bare = .unknown ∨ AsItStands t bare
    | [.nullable, .nullable] =>
        NotCut 14 (Wrapper.nullable.wrap t.toList) ∧ mapClickhouseInnerType bare = .unknown
    | _ => mapClickhouseInnerType bare = .unknown

/-- When a text can be read at all: it is cut inside a character neither at the length of
`Nullable` nor, without it, at the length of `LowCardinality`. -/
def Readable (t : String) : Prop :=
  NotCut 8 (Text.trim t).toList ∧
    ∀ inner, stripWrapper "Nullable".toList (Text.trim t).toList = some inner → NotCut 14 inner

/-- The mapping does not panic if and only if the text can be read. -/
theorem mapClickhouseType_isSome_iff (t : String) :
    (mapClickhouseType t).isSome = true ↔ Readable t := by
  have hnullable := stripWrapper_isSome_iff "Nullable".toList (Text.trim t).toList
  rw [mapClickhouseType_eq, Option.isSome_map, bareText, Option.isSome_map]
  unfold Readable
  cases hstrip : stripWrapper "Nullable".toList (Text.trim t).toList with
  | none =>
      -- the slice of the first strip cuts into a character
      rw [hstrip] at hnullable
      refine iff_of_false Bool.false_ne_true ?_
      rintro ⟨hcut, -⟩
      exact Bool.false_ne_true (hnullable.2 hcut)
  | some inner =>
      rw [hstrip] at hnullable
      rw [Option.bind_some, stripWrapper_isSome_iff]
      constructor
      · intro hcut
        refine ⟨hnullable.1 rfl, ?_⟩
        intro inner' hinner
        cases hinner
        exact hcut
      · rintro ⟨-, hcut⟩
        exact hcut inner rfl

/-- The type of a text in a nesting is that of the text, and neither panics, if and only if
the nesting is transparent to the text; and a text is read if and only if it is readable. -/
theorem clickhouse_wrappers_iff (ws : List Wrapper) (t : String) :
    ((∃ colType, mapClickhouseType (wrapped ws t) = some colType ∧
        mapClickhouseType t = some colType) ↔ Transparent ws t) ∧
      ((mapClickhouseType t).isSome = true ↔ Readable t) := by
  refine ⟨?_, mapClickhouseType_isSome_iff t⟩
  have hsame : (∃ colType, mapClickhouseType (wrapped ws t) = some colType ∧
      mapClickhouseType t = some colType) ↔
      ∃ bare, bareText t = some bare ∧ wrappedType ws t = some (mapClickhouseInnerType bare) := by
    rw [mapClickhouseType_wrapped, mapClickhouseType_eq t]
    constructor
    · rintro ⟨colType, hwrapped, hbare⟩
      obtain ⟨bare, hbare, hcolType⟩ := Option.map_eq_some_iff.1 hbare
      rw [← hcolType] at hwrapped
      exact ⟨bare, hbare, hwrapped⟩
    · rintro ⟨bare, hbare, hwrapped⟩
      rw [hbare, Option.map_some]
      exact ⟨_, hwrapped, rfl⟩
  rw [hsame]
  clear hsame
  refine exists_congr fun bare => and_congr_right fun hbare => ?_
  unfold wrappedType
  split
  · rw [hbare, Option.map_some]
    exact iff_of_true rfl trivial
  · have hcut : (stripWrapper "LowCardinality".toList t.toList).isSome = true ↔
        NotCut 14 t.toList := stripWrapper_isSome_iff _ _
    rw [Option.map_eq_some_iff, ← hcut]
    constructor
    · rintro ⟨rest, hrest, htype⟩
      rw [stripLowCardinality_eq_bare_iff hbare hrest] at htype
      rw [hrest, Option.some_inj]
      exact ⟨rfl, htype⟩
    · rintro ⟨hsome, htype⟩
      obtain ⟨rest, hrest⟩ := Option.isSome_iff_exists.1 hsome
      rw [hrest, Option.some_inj] at htype
      exact ⟨rest, hrest, (stripLowCardinality_eq_bare_iff hbare hrest).2 htype⟩
  · exact Option.some_inj.trans (mapClickhouseInnerType_eq_bare_iff hbare)
  · exact Option.some_inj.trans (mapClickhouseInnerType_eq_bare_iff hbare)
  · have hcut : (∃ rest, stripWrapper "LowCardinality".toList (Wrapper.nullable.wrap t.toList) =
        some rest) ↔ NotCut 14 (Wrapper.nullable.wrap t.toList) := by
      rw [← Option.isSome_iff_exists]
      exact stripWrapper_isSome_iff _ _
    rw [Option.map_eq_some_iff, ← hcut]
    constructor
    · rintro ⟨rest, hrest, htype⟩
      exact ⟨⟨rest, hrest⟩, htype.symm⟩
    · rintro ⟨⟨rest, hrest⟩, htype⟩
      exact ⟨rest, hrest, htype.symm⟩
  · exact Option.some_inj.trans eq_comm

/-- For the text of a type that has no blanks around it and no wrapper of its own, the nestings
that are looked for are transparent, and any other is if the type is unknown. -/
theorem transparent_plain_iff (ws : List Wrapper) {t : String} (htrim : Text.trim t = t)
    (hnullable : stripWrapper "Nullable".toList t.toList = some t.toList)
    (hlowCardinality : stripWrapper "LowCardinality".toList t.toList = some t.toList)
    (hcut : NotCut 14 (Wrapper.nullable.wrap t.toList)) :
    Transparent ws t ↔
      ws ∈ [[], [.nullable], [.lowCardinality], [.nullable, .lowCardinality]] ∨
        mapClickhouseInnerType t = .unknown := by
  -- nothing is stripped from a plain text
  have hbare : bareText t = some t := by
    unfold bareText
    rw [htrim, hnullable, Option.bind_some, hlowCardinality, Option.map_some,
      String.ofList_toList]
  unfold Transparent
  simp only [hbare, Option.some.injEq, exists_eq_left']
  match ws with
  | [] => simp
  | [.nullable] =>
      have hshort : NotCut 14 t.toList :=
        (stripWrapper_isSome_iff "LowCardinality".toList t.toList).1 (by rw [hlowCardinality]; rfl)
      exact iff_of_true ⟨hshort, .inr (.inr (.inl rfl))⟩ (.inl (by simp))
  | [.lowCardinality] => exact iff_of_true (.inr (.inl rfl)) (.inl (by simp))
  | [.nullable, .lowCardinality] => exact iff_of_true (.inr (.inl rfl)) (.inl (by simp))
  | [.nullable, .nullable] => simp [hcut]
  | .lowCardinality :: w :: ws => simp
  | .nullable :: .lowCardinality :: w :: ws => simp
  | .nullable :: .nullable :: w :: ws => simp

/-- The wrappers the other way round: a `LowCardinality` around a `Nullable`. -/
theorem lowCardinality_around_nullable :
    ¬ ((∀ ws t, mapClickhouseType (wrapped ws t) = mapClickhouseType t) ∧
      ∀ t, (mapClickhouseType t).isSome = true) := by
  rintro ⟨hsame, -⟩
  have hstring := hsame [.lowCardinality, .nullable] "String"
  revert hstring
  decide

end KyomiConnect
