import KyomiConnect.Lib.Terminated
import KyomiConnect.Text
import Mathlib.Data.List.Forall2

/-! # Requests to the proxy of a tunnel

`proxy_connection` takes the header of a request in byte by byte, up to the blank line, and
either answers `CONNECT` or writes the request with its URL in origin form to the target. The
header fields are cut out of the header by indices and read as lines that a line feed ends.
What follows the blank line is copied. The third party that parses URLs is a parameter.
-/

namespace KyomiConnect.Proxy

open Terminated

/-! ## The code -/

/-- `str::as_bytes` -/
def bytes (s : String) : List UInt8 := s.toByteArray.data.toList

/-- `std::str::from_utf8` -/
def fromUtf8 (bs : List UInt8) : Option String := String.fromUTF8? ⟨bs.toArray⟩

/-- `str::split_whitespace` -/
def splitWhitespace (s : String) : List String :=
  ((s.toList.splitOnP Text.isWhitespace).filter (· ≠ [])).map .ofList

/-- What is read of a `reqwest::Url`. -/
structure Url where
  path : String
  query : Option String

/-- The errors that end a connection. -/
inductive ProxyError where
  | unexpectedEof
  | invalidData (message : String)
  | notUtf8
  | parse (message : String)
  | connect (message : String)
deriving DecidableEq, Repr

/-- What becomes of a connection, with the bytes that are written to either end. -/
inductive Proxied where
  | failed (error : ProxyError)
  | panicked
  | forwarded (toClient toTarget : List UInt8)
deriving DecidableEq, Repr

/-- The loop that takes the header in; what it leaves of the stream is not read yet. -/
def readHeader : List UInt8 → List UInt8 → Except ProxyError (List UInt8 × List UInt8)
  | header, [] =>
      if [13, 10, 13, 10].isSuffixOf header then .ok (header, [])
      else if 16 * 1024 ≤ header.length then .error (.invalidData "HTTP proxy header too large")
      else .error .unexpectedEof
  | header, b :: stream =>
      if [13, 10, 13, 10].isSuffixOf header then .ok (header, b :: stream)
      else if 16 * 1024 ≤ header.length then .error (.invalidData "HTTP proxy header too large")
      else readHeader (header ++ [b]) stream

/-- Where the first line ends: `header.windows(2).position(|b| b == b"\r\n")`. -/
def lineEnd : List UInt8 → Option ℕ
  | b :: c :: header =>
      if b = 13 ∧ c = 10 then some 0 else (lineEnd (c :: header)).map (· + 1)
  | _ => none

/-- A slice by its bounds; none if it panics. -/
def slice (start stop : ℕ) (bs : List UInt8) : Option (List UInt8) :=
  if start ≤ stop ∧ stop ≤ bs.length then some ((bs.take stop).drop start) else none

/-- `u8::to_ascii_lowercase` -/
def asciiLower (b : UInt8) : UInt8 := if 65 ≤ b ∧ b ≤ 90 then b + 32 else b

/-- Whether a line is written: its name, before the colon, is neither of the two. -/
def keeps (line : List UInt8) : Bool :=
  let name := (line.takeWhile (· ≠ 58)).map asciiLower
  name ≠ bytes "connection" && name ≠ bytes "proxy-connection"

/-- The path and the query of a URL. -/
def originForm (url : Url) : String :=
  match url.query with
  | some query => url.path ++ "?" ++ query
  | none => url.path

/-- The header fields, written line by line. -/
def forwardFields (fields : List UInt8) : List UInt8 :=
  (((fields.splitOn 10).map (strip 13)).filter keeps).flatMap (· ++ [13, 10])

/-- The bytes in front of the header fields. -/
def forwardLine (method : String) (url : Url) (version : String) : List UInt8 :=
  bytes (method ++ " " ++ originForm url ++ " " ++ version) ++ bytes "\r\nConnection: close\r\n"

/-- `proxy_connection`, for a client that sends a stream, as long as nothing fails on the
connections but the one to the target. -/
def proxyConnection (parse : String → Except String Url) (connect : Except String Unit)
    (stream : List UInt8) : Proxied :=
  match readHeader [] stream with
  | .error e => .failed e
  | .ok (header, stream) =>
      match connect with
      | .error message => .failed (.connect message)
      | .ok () =>
          if (bytes "CONNECT ").isPrefixOf header then
            .forwarded (bytes "HTTP/1.1 200 Connection Established\r\n\r\n") stream
          else
            match lineEnd header with
            | none => .failed (.invalidData "Invalid HTTP request")
            | some lineEnd =>
                match fromUtf8 (header.take lineEnd) with
                | none => .failed .notUtf8
                | some line =>
                    let parts := splitWhitespace line
                    let method := parts[0]?.getD ""
                    match parse (parts[1]?.getD "") with
                    | .error message => .failed (.parse message)
                    | .ok url =>
                        let version := parts[2]?.getD ""
                        match slice (lineEnd + 2) (header.length - 4) header with
                        | none => .panicked
                        | some fields =>
                            .forwarded [] (forwardLine method url version ++
                              forwardFields fields ++ [13, 10] ++ stream)

/-! ## Requests -/

/-- A request up to the blank line: the lines that a carriage return and a line feed end, none
of them blank but the first, if at all. -/
structure Request where
  requestLine : List UInt8
  fields : List (List UInt8)
  isLine : IsLine 13 10 requestLine
  areLines : ∀ field ∈ fields, IsLine 13 10 field ∧ field ≠ []

namespace Request

/-- The bytes of a request, with the blank line. -/
def header (req : Request) : List UInt8 := text 13 10 (req.requestLine :: req.fields) ++ [13, 10]

/-- Whatever a client sends up to the first blank line is a request. -/
theorem exists_header_iff {bs : List UInt8} :
    (∃ req : Request, req.header = bs) ↔ IsBlock 13 10 bs := by
  rw [isBlock_iff (by decide)]
  constructor
  · rintro ⟨req, rfl⟩
    exact ⟨req.requestLine, req.fields, req.isLine, req.areLines, rfl⟩
  · rintro ⟨line, fields, hline, hfields, rfl⟩
    exact ⟨⟨line, fields, hline, hfields⟩, rfl⟩

def IsConnect (req : Request) : Prop := bytes "CONNECT " <+: req.header

/-- The method, the URL and the version of a request line. -/
def Asks (parse : String → Except String Url) (req : Request) (method : String) (url : Url)
    (version : String) : Prop :=
  ∃ line, fromUtf8 req.requestLine = some line ∧ (splitWhitespace line)[0]?.getD "" = method ∧
    parse ((splitWhitespace line)[1]?.getD "") = .ok url ∧
    (splitWhitespace line)[2]?.getD "" = version

end Request

/-! ## What the target is sent -/

/-- The same byte, or a capital for a small letter. -/
def SameLetter (b small : UInt8) : Prop :=
  b = small ∨ (97 ≤ small ∧ small ≤ 122 ∧ b + 32 = small)

/-- A header field of a name, in whatever case: the name alone, or in front of a colon. -/
def Named (name : String) (field : List UInt8) : Prop :=
  ∃ front, List.Forall₂ SameLetter front (bytes name) ∧
    (field = front ∨ ∃ value, field = front ++ 58 :: value)

/-- The fields about the connection to the proxy, which the target does not get. -/
def ConnectionField (field : List UInt8) : Prop :=
  Named "connection" field ∨ Named "proxy-connection" field

/-- The target in a request line: the path of a URL, and its query behind a question mark. -/
inductive OriginForm (url : Url) : String → Prop
  | path : url.query = none → OriginForm url url.path
  | query {query : String} : url.query = some query → OriginForm url (url.path ++ "?" ++ query)

/-- A small letter comes of itself and of its capital. -/
theorem asciiLower_eq_iff {b small : UInt8} (hsmall : ¬ (65 ≤ small ∧ small ≤ 90)) :
    asciiLower b = small ↔ SameLetter b small := by
  unfold asciiLower SameLetter
  by_cases hcapital : 65 ≤ b ∧ b ≤ 90
  · rw [if_pos hcapital]
    constructor
    · rintro rfl
      right
      refine ⟨?_, ?_, rfl⟩ <;> grind
    · rintro (rfl | ⟨_, _, h⟩)
      · exact absurd hcapital hsmall
      · exact h
  · rw [if_neg hcapital]
    constructor
    · exact .inl
    · rintro (rfl | ⟨_, _, h⟩)
      · rfl
      · -- what is a small letter with 32 more is a capital
        grind

/-- A name in small letters comes of the same letters in either case. -/
theorem map_asciiLower_eq_iff {front name : List UInt8}
    (hname : ∀ b ∈ name, ¬ (65 ≤ b ∧ b ≤ 90)) :
    front.map asciiLower = name ↔ List.Forall₂ SameLetter front name := by
  -- letter by letter
  induction front generalizing name with
  | nil =>
      rw [List.map_nil, List.forall₂_nil_left_iff]
      exact eq_comm
  | cons b front ih =>
      cases name with
      | nil => simp
      | cons small name =>
          rw [List.forall_mem_cons] at hname
          rw [List.map_cons, List.cons.injEq, List.forall₂_cons, ih hname.2,
            asciiLower_eq_iff hname.1]

/-- What there is in front of the first colon. -/
theorem takeWhile_colon_eq_iff {front field : List UInt8} :
    field.takeWhile (· ≠ 58) = front ↔
      58 ∉ front ∧ (field = front ∨ ∃ value, field = front ++ 58 :: value) := by
  constructor
  · rintro rfl
    constructor
    · intro hmem
      have hne := List.mem_takeWhile_imp hmem
      simp at hne
    · have happend := List.takeWhile_append_dropWhile (p := fun b => decide (b ≠ 58)) (l := field)
      cases hrest : field.dropWhile (· ≠ 58) with
      | nil =>
          left
          rw [hrest, List.append_nil] at happend
          exact happend.symm
      | cons b value =>
          right
          have hhead := List.head?_dropWhile_not (fun b => decide (b ≠ 58)) field
          rw [hrest] at hhead happend
          obtain rfl : b = 58 := by simpa using hhead
          exact ⟨value, happend.symm⟩
  · rintro ⟨hcolon, hfield⟩
    have hfront : ∀ b ∈ front, decide (b ≠ 58) = true := by
      intro b hb
      have hne : b ≠ 58 := fun h => hcolon (h ▸ hb)
      simpa using hne
    rcases hfield with rfl | ⟨value, rfl⟩
    · exact List.takeWhile_eq_self_iff.2 hfront
    · rw [List.takeWhile_append_of_pos hfront]
      simp

/-- The test of the code on a field's name, up to the colon. -/
theorem named_iff {name : String} (hsmall : ∀ b ∈ bytes name, ¬ (65 ≤ b ∧ b ≤ 90))
    (hcolon : 58 ∉ bytes name) {field : List UInt8} :
    (field.takeWhile (· ≠ 58)).map asciiLower = bytes name ↔ Named name field := by
  constructor
  · intro h
    exact ⟨_, (map_asciiLower_eq_iff hsmall).1 h, (takeWhile_colon_eq_iff.1 rfl).2⟩
  · rintro ⟨front, hsame, hfield⟩
    have hfront := (map_asciiLower_eq_iff hsmall).2 hsame
    have hnot : 58 ∉ front := by
      intro hmem
      have hlower := List.mem_map_of_mem (f := asciiLower) hmem
      rw [hfront] at hlower
      exact hcolon hlower
    rw [takeWhile_colon_eq_iff.2 ⟨hnot, hfield⟩]
    exact hfront

/-- The lines that are not written are the fields about the connection. -/
theorem keeps_eq_false_iff {field : List UInt8} : keeps field = false ↔ ConnectionField field := by
  have hproxy : (bytes "proxy-connection").all
      (fun b => decide (¬ (65 ≤ b ∧ b ≤ 90) ∧ b ≠ 58)) = true := by decide
  have hconnection : (bytes "connection").all
      (fun b => decide (¬ (65 ≤ b ∧ b ≤ 90) ∧ b ≠ 58)) = true := by decide
  have hsmall {name : String}
      (h : (bytes name).all (fun b => decide (¬ (65 ≤ b ∧ b ≤ 90) ∧ b ≠ 58)) = true) {b : UInt8}
      (hb : b ∈ bytes name) : ¬ (65 ≤ b ∧ b ≤ 90) ∧ b ≠ 58 :=
    of_decide_eq_true (List.all_eq_true.1 h b hb)
  unfold ConnectionField
  rw [← named_iff (fun b hb => (hsmall hproxy hb).1) fun hb => (hsmall hproxy hb).2 rfl,
    ← named_iff (fun b hb => (hsmall hconnection hb).1) fun hb => (hsmall hconnection hb).2 rfl]
  simp only [keeps, Bool.and_eq_false_iff, decide_eq_false_iff_not, not_not]

instance : DecidablePred ConnectionField := fun _ => decidable_of_iff _ keeps_eq_false_iff

/-- The fields that are written are those that the code keeps. -/
theorem filter_not_connectionField (fields : List (List UInt8)) :
    fields.filter (fun field => ¬ ConnectionField field) = fields.filter keeps := by
  apply List.filter_congr
  intro field _
  cases hkeeps : keeps field with
  | true =>
      apply decide_eq_true
      rw [← keeps_eq_false_iff, hkeeps]
      exact Bool.noConfusion
  | false =>
      have hfield := keeps_eq_false_iff.1 hkeeps
      simpa using hfield

/-- The target that the code writes is in origin form. -/
theorem originForm_iff {url : Url} {target : String} :
    OriginForm url target ↔ originForm url = target := by
  obtain ⟨path, query⟩ := url
  constructor
  · rintro (hnone | hsome)
    · obtain rfl : query = none := hnone
      rfl
    · obtain rfl := hsome
      rfl
  · rintro rfl
    cases query with
    | none => exact .path rfl
    | some query => exact .query rfl

/-- The request in origin form, without the fields about the connection to the proxy. -/
def Request.rewritten (req : Request) (method target version : String) : List UInt8 :=
  text 13 10 (bytes (method ++ " " ++ target ++ " " ++ version) ::
    bytes "Connection: close" :: req.fields.filter fun field => ¬ ConnectionField field) ++ [13, 10]

/-- What is promised of a request and the bytes behind it: there is no panic, the bytes behind
`CONNECT` are forwarded, and any other request is rewritten. -/
def Forwards (parse : String → Except String Url) (req : Request) (rest : List UInt8) : Prop :=
  (∀ connect, proxyConnection parse connect (req.header ++ rest) ≠ .panicked) ∧
    (req.IsConnect →
      ∃ toClient, proxyConnection parse (.ok ()) (req.header ++ rest) = .forwarded toClient rest) ∧
    (¬ req.IsConnect → ∀ method url target version, req.Asks parse method url version →
      OriginForm url target → ∃ toClient, proxyConnection parse (.ok ()) (req.header ++ rest) =
        .forwarded toClient (req.rewritten method target version ++ rest))

/-! ## Reading the header -/

/-- The header is read up to the empty line, whatever is behind it. -/
theorem readHeader_append {front back rest : List UInt8} (hblock : IsBlock 13 10 (front ++ back))
    (hlen : (front ++ back).length ≤ 16 * 1024) :
    readHeader front (back ++ rest) = .ok (front ++ back, rest) := by
  -- byte by byte: the empty line is not there before the end
  induction back generalizing front with
  | nil =>
      rw [List.append_nil] at hblock ⊢
      have hends := List.isSuffixOf_iff_suffix.2 hblock.1
      cases rest with
      | nil => rw [List.append_nil, readHeader, if_pos hends]
      | cons b rest => rw [List.nil_append, readHeader, if_pos hends]
  | cons b back ih =>
      have hends : ¬ [13, 10, 13, 10].isSuffixOf front = true := by
        rw [List.isSuffixOf_iff_suffix]
        intro hends
        have hlen := congrArg List.length (hblock.2 front (List.prefix_append _ _) hends)
        simp at hlen
      have hshort : ¬ 16 * 1024 ≤ front.length := by
        rw [List.length_append, List.length_cons] at hlen
        omega
      have hmove : front ++ b :: back = front ++ [b] ++ back := by simp
      rw [List.cons_append, readHeader, if_neg hends, if_neg hshort]
      rw [hmove] at hblock hlen ⊢
      exact ih hblock hlen

/-- The loop stops behind the blank line. -/
theorem readHeader_header (req : Request) (hlen : req.header.length ≤ 16 * 1024)
    (rest : List UInt8) : readHeader [] (req.header ++ rest) = .ok (req.header, rest) :=
  readHeader_append (Request.exists_header_iff.1 ⟨req, rfl⟩) hlen

/-- A line ends at its first line break. -/
theorem lineEnd_append {line : List UInt8} (hline : IsLine 13 10 line) (rest : List UInt8) :
    lineEnd (line ++ 13 :: 10 :: rest) = some line.length := by
  -- over the line, in which no end begins
  induction line with
  | nil => simp [lineEnd]
  | cons b line ih =>
      rw [isLine_cons_iff] at hline
      cases line with
      | nil =>
          have hne : ¬ (b = 13 ∧ (13 : UInt8) = 10) := by
            rintro ⟨-, h⟩
            exact absurd h (by decide)
          rw [List.cons_append, List.nil_append, lineEnd, if_neg hne]
          simp [lineEnd]
      | cons c line =>
          have hne : ¬ (b = 13 ∧ c = 10) := by
            rintro ⟨rfl, rfl⟩
            exact hline.1 ⟨rfl, rfl⟩
          rw [List.cons_append, List.cons_append, lineEnd, if_neg hne, ← List.cons_append,
            ih hline.2]
          rfl

/-! ## The header fields -/

/-- The slice of the header fields is turned round if there are none. -/
theorem slice_header_nil {req : Request} (h : req.fields = []) :
    slice (req.requestLine.length + 2) (req.header.length - 4) req.header = none := by
  unfold slice
  rw [if_neg]
  rintro ⟨hle, -⟩
  unfold Request.header at hle
  rw [h] at hle
  simp only [text_cons, text_nil, List.length_append, List.length_cons, List.length_nil] at hle
  omega

/-- The slice of the header fields is what there is in front of the end of the last of them. -/
theorem slice_header {req : Request} {init : List (List UInt8)} {last : List UInt8}
    (h : req.fields = init ++ [last]) :
    slice (req.requestLine.length + 2) (req.header.length - 4) req.header =
      some (text 13 10 init ++ last) := by
  have hheader : req.header =
      (req.requestLine ++ [13, 10] ++ (text 13 10 init ++ last)) ++ [13, 10, 13, 10] := by
    unfold Request.header
    rw [h]
    simp
  have hlen : req.header.length - 4 =
      (req.requestLine ++ [13, 10] ++ (text 13 10 init ++ last)).length := by
    rw [hheader, List.length_append]
    exact Nat.add_sub_cancel _ _
  have hfront : req.requestLine.length + 2 = (req.requestLine ++ [13, 10]).length := by simp
  unfold slice
  rw [hlen, hfront, if_pos, hheader, List.take_left, List.drop_left]
  rw [hheader]
  simp only [List.length_append]
  omega

/-- The fields are split at every line feed, and each of these lines is kept or not. -/
theorem forwardFields_eq {init : List (List UInt8)} {last : List UInt8}
    (h : ∀ field ∈ init, IsLine 13 10 field) :
    forwardFields (text 13 10 init ++ last) =
      text 13 10
        ((init.flatMap (·.splitOn 10) ++ (last.splitOn 10).map (strip 13)).filter keeps) := by
  unfold forwardFields
  rw [map_strip_splitOn_text (by decide) h]
  rfl

/-- When fields are the lines that a line feed ends, as far as they are kept: none that is kept
has a line feed in it, and in those that are dropped there is no line that is not. -/
structure ByLine (fields : List (List UInt8)) : Prop where
  kept : ∀ field ∈ fields, keeps field = true → 10 ∉ field
  dropped : ∀ field ∈ fields, keeps field = false → ∀ line ∈ field.splitOn 10, keeps line = false

/-- When this is so of the last field, too, which has no carriage return at its end if it is
kept. -/
def Unbroken (init : List (List UInt8)) (last : List UInt8) : Prop :=
  ByLine init ∧ (keeps last = true → 10 ∉ last ∧ last.getLast? ≠ some 13) ∧
    (keeps last = false → ∀ line ∈ (last.splitOn 10).map (strip 13), keeps line = false)

/-- When the last field, which is dropped only without the carriage return at its end, stands in
one of the fields that are dropped, as the only line that is kept there, and whatever is kept
behind that field is the same. -/
def StandIn (init : List (List UInt8)) (last : List UInt8) : Prop :=
  keeps last = true ∧ keeps (strip 13 last) = false ∧
    ∃ front field back, init = front ++ field :: back ∧ keeps field = false ∧
      (field.splitOn 10).filter keeps = [last] ∧ ByLine front ∧ ByLine back ∧
      ∀ other ∈ back, keeps other = true → other = last

/-- A line that is kept. -/
theorem filter_singleton_of_keeps {line : List UInt8} (h : keeps line = true) :
    [line].filter keeps = [line] := by
  rw [List.filter_cons_of_pos h, List.filter_nil]

/-- A line that is not kept. -/
theorem filter_singleton_of_not_keeps {line : List UInt8} (h : keeps line = false) :
    [line].filter keeps = [] := by
  rw [List.filter_cons_of_neg (by simp [h]), List.filter_nil]

/-- No line is kept. -/
theorem filter_eq_nil_of_keeps {lines : List (List UInt8)} :
    lines.filter keeps = [] ↔ ∀ line ∈ lines, keeps line = false := by
  rw [List.filter_eq_nil_iff]
  simp only [Bool.not_eq_true]

/-- The first field, and the others. -/
theorem byLine_cons {field : List UInt8} {fields : List (List UInt8)} :
    ByLine (field :: fields) ↔ (keeps field = true → 10 ∉ field) ∧
      (keeps field = false → ∀ line ∈ field.splitOn 10, keeps line = false) ∧ ByLine fields := by
  constructor
  · rintro ⟨hkept, hdropped⟩
    rw [List.forall_mem_cons] at hkept hdropped
    exact ⟨hkept.1, hdropped.1, hkept.2, hdropped.2⟩
  · rintro ⟨hkept, hdropped, hfields⟩
    exact ⟨List.forall_mem_cons.2 ⟨hkept, hfields.kept⟩,
      List.forall_mem_cons.2 ⟨hdropped, hfields.dropped⟩⟩

/-- The kept lines of a kept field without a line feed. -/
theorem filter_splitOn_of_keeps {field : List UInt8} (hkeeps : keeps field = true)
    (hlf : 10 ∉ field) : (field.splitOn 10).filter keeps = [field] := by
  rw [List.splitOn_eq_singleton hlf, filter_singleton_of_keeps hkeeps]

/-- No line is missing where the fields that are kept are lines; and if there is none too many,
the dropped fields have none that is kept. -/
theorem length_filter_splitOn {fields : List (List UInt8)}
    (hkept : ∀ field ∈ fields, keeps field = true → 10 ∉ field) :
    (fields.filter keeps).length ≤ ((fields.flatMap (·.splitOn 10)).filter keeps).length ∧
      (((fields.flatMap (·.splitOn 10)).filter keeps).length ≤ (fields.filter keeps).length →
        ByLine fields) := by
  -- field by field: a kept field has one kept line at least
  induction fields with
  | nil => exact ⟨le_rfl, fun _ => ⟨nofun, nofun⟩⟩
  | cons field fields ih =>
      rw [List.forall_mem_cons] at hkept
      obtain ⟨hle, hbyLine⟩ := ih hkept.2
      rw [List.flatMap_cons, List.filter_append, List.length_append, byLine_cons]
      cases hkeeps : keeps field with
      | true =>
          rw [filter_splitOn_of_keeps hkeeps (hkept.1 hkeeps), List.filter_cons_of_pos hkeeps,
            List.length_cons, List.length_singleton]
          refine ⟨by omega, fun hlen => ⟨fun _ => hkept.1 hkeeps, nofun, hbyLine (by omega)⟩⟩
      | false =>
          rw [List.filter_cons_of_neg (by simp [hkeeps])]
          refine ⟨by omega, fun hlen => ⟨nofun, fun _ => ?_, hbyLine (by omega)⟩⟩
          rw [← filter_eq_nil_of_keeps, ← List.length_eq_zero_iff]
          omega

/-- Fields that are lines as far as they are kept are kept as lines. -/
theorem ByLine.filter_splitOn {fields : List (List UInt8)} (h : ByLine fields) :
    (fields.flatMap (·.splitOn 10)).filter keeps = fields.filter keeps := by
  -- field by field
  induction fields with
  | nil => rfl
  | cons field fields ih =>
      rw [byLine_cons] at h
      obtain ⟨hkept, hdropped, hfields⟩ := h
      rw [List.flatMap_cons, List.filter_append, ih hfields]
      cases hkeeps : keeps field with
      | true =>
          rw [filter_splitOn_of_keeps hkeeps (hkept hkeeps), List.filter_cons_of_pos hkeeps,
            List.singleton_append]
      | false =>
          rw [filter_eq_nil_of_keeps.2 (hdropped hkeeps), List.nil_append,
            List.filter_cons_of_neg (by simp [hkeeps])]

/-- A list moves by one place in itself if all of it is the same. -/
theorem cons_eq_append_singleton_iff {x y : List UInt8} {xs : List (List UInt8)} :
    x :: xs = xs ++ [y] ↔ x = y ∧ ∀ z ∈ xs, z = y := by
  induction xs generalizing x with
  | nil => simp
  | cons z xs ih =>
      rw [List.cons_append, List.cons.injEq, ih, List.forall_mem_cons]
      constructor
      · rintro ⟨rfl, rfl, hall⟩
        exact ⟨rfl, rfl, hall⟩
      · rintro ⟨rfl, rfl, hall⟩
        exact ⟨rfl, rfl, hall⟩

/-- There is one line too many, the last one, if and only if it stands in a dropped field. -/
theorem filter_splitOn_eq_append_iff {init : List (List UInt8)} {last : List UInt8}
    (hkept : ∀ field ∈ init, keeps field = true → 10 ∉ field) :
    (init.flatMap (·.splitOn 10)).filter keeps = init.filter keeps ++ [last] ↔
      ∃ front field back, init = front ++ field :: back ∧ keeps field = false ∧
        (field.splitOn 10).filter keeps = [last] ∧ ByLine front ∧ ByLine back ∧
        ∀ other ∈ back, keeps other = true → other = last := by
  constructor
  · intro hsame
    -- over the fields in front of the last
    induction init with
    | nil => simp at hsame
    | cons field init ih =>
        rw [List.forall_mem_cons] at hkept
        rw [List.flatMap_cons, List.filter_append] at hsame
        cases hkeeps : keeps field with
        | true =>
            rw [filter_splitOn_of_keeps hkeeps (hkept.1 hkeeps), List.filter_cons_of_pos hkeeps,
              List.cons_append, List.cons_append, List.nil_append] at hsame
            obtain ⟨front, dropped, back, rfl, hdropped, hstands, hfront, hback⟩ :=
              ih hkept.2 (List.cons.inj hsame).2
            refine ⟨field :: front, dropped, back, rfl, hdropped, hstands, ?_, hback⟩
            rw [byLine_cons, hkeeps]
            exact ⟨fun _ => hkept.1 hkeeps, nofun, hfront⟩
        | false =>
            rw [List.filter_cons_of_neg (by simp [hkeeps])] at hsame
            obtain ⟨hle, hbyLine⟩ := length_filter_splitOn hkept.2
            have hlen := congrArg List.length hsame
            rw [List.length_append, List.length_append, List.length_singleton] at hlen
            cases hlines : (field.splitOn 10).filter keeps with
            | nil =>
                rw [hlines, List.nil_append] at hsame
                obtain ⟨front, dropped, back, rfl, hdropped, hstands, hfront, hback⟩ :=
                  ih hkept.2 hsame
                refine ⟨field :: front, dropped, back, rfl, hdropped, hstands, ?_, hback⟩
                rw [byLine_cons, hkeeps]
                exact ⟨nofun, fun _ => filter_eq_nil_of_keeps.1 hlines, hfront⟩
            | cons line lines =>
                -- the other fields have no line too many, so this one has one
                rw [hlines, List.length_cons] at hlen
                obtain rfl : lines = [] := List.length_eq_zero_iff.1 (by omega)
                have hinit := hbyLine (by omega)
                rw [hlines, hinit.filter_splitOn, List.singleton_append,
                  cons_eq_append_singleton_iff] at hsame
                obtain ⟨rfl, hback⟩ := hsame
                refine ⟨[], field, init, rfl, hkeeps, hlines, ⟨nofun, nofun⟩, hinit, ?_⟩
                intro other hother hkeeps'
                exact hback other (List.mem_filter.2 ⟨hother, hkeeps'⟩)
  · rintro ⟨front, field, back, rfl, hkeeps, hstands, hfront, hback, hsame⟩
    have hback' : last :: back.filter keeps = back.filter keeps ++ [last] := by
      rw [cons_eq_append_singleton_iff]
      refine ⟨rfl, fun other hother => ?_⟩
      exact hsame other (List.mem_filter.1 hother).1 (List.mem_filter.1 hother).2
    rw [List.flatMap_append, List.flatMap_cons, List.filter_append, List.filter_append,
      List.filter_append, hfront.filter_splitOn, hback.filter_splitOn, hstands,
      List.filter_cons_of_neg (by simp [hkeeps]), List.append_assoc, ← hback',
      List.singleton_append]

/-- The lines that are written are the fields that are kept. -/
theorem filter_lines_eq_iff {init : List (List UInt8)} {last : List UInt8} :
    (init.flatMap (·.splitOn 10) ++ (last.splitOn 10).map (strip 13)).filter keeps =
        (init ++ [last]).filter keeps ↔
      Unbroken init last ∨ StandIn init last := by
  constructor
  · intro hsame
    have hbreak : ∀ field ∈ init ++ [last], keeps field = true → 10 ∉ field := by
      intro field hfield hkeeps
      have hmem := List.mem_filter.2 ⟨hfield, hkeeps⟩
      rw [← hsame, List.mem_filter, List.mem_append, List.mem_flatMap, List.mem_map] at hmem
      rcases hmem.1 with ⟨field', -, hline⟩ | ⟨line, hline, rfl⟩
      · exact not_mem_of_mem_splitOn hline
      · intro hlf
        exact not_mem_of_mem_splitOn hline (strip_subset line hlf)
    rw [List.forall_mem_append, List.forall_mem_singleton] at hbreak
    obtain ⟨hkept, hlast⟩ := hbreak
    obtain ⟨hle, hbyLine⟩ := length_filter_splitOn hkept
    rw [List.filter_append, List.filter_append] at hsame
    cases hkeeps : keeps last with
    | false =>
        left
        rw [filter_singleton_of_not_keeps hkeeps, List.append_nil] at hsame
        have hlen := congrArg List.length hsame
        rw [List.length_append] at hlen
        refine ⟨hbyLine (by omega), ?_, fun _ => ?_⟩
        · intro hnot
          rw [hnot] at hkeeps
          cases hkeeps
        · rw [← filter_eq_nil_of_keeps, ← List.length_eq_zero_iff]
          omega
    | true =>
        rw [List.splitOn_eq_singleton (hlast hkeeps), List.map_singleton,
          filter_singleton_of_keeps hkeeps] at hsame
        cases hstrip : keeps (strip 13 last) with
        | true =>
            left
            rw [filter_singleton_of_keeps hstrip] at hsame
            obtain ⟨hinit, hlast'⟩ := List.append_inj' hsame rfl
            refine ⟨hbyLine (by rw [hinit]), fun _ => ⟨hlast hkeeps, ?_⟩, ?_⟩
            · intro hcr
              obtain ⟨line, rfl⟩ := List.getLast?_eq_some_iff.1 hcr
              rw [strip_append_singleton] at hlast'
              have hlen := congrArg List.length (List.singleton_inj.1 hlast')
              simp at hlen
            · intro hnot
              rw [hnot] at hkeeps
              cases hkeeps
        | false =>
            right
            rw [filter_singleton_of_not_keeps hstrip, List.append_nil] at hsame
            exact ⟨hkeeps, hstrip, (filter_splitOn_eq_append_iff hkept).1 hsame⟩
  · rintro (⟨hinit, hlastKept, hlastDropped⟩ | ⟨hkeeps, hstrip, hstands⟩)
    · rw [List.filter_append, List.filter_append, hinit.filter_splitOn]
      congr 1
      cases hkeeps : keeps last with
      | true =>
          obtain ⟨hlf, hcr⟩ := hlastKept hkeeps
          rw [List.splitOn_eq_singleton hlf, List.map_singleton, strip_of_ne hcr]
      | false =>
          rw [filter_eq_nil_of_keeps.2 (hlastDropped hkeeps),
            filter_singleton_of_not_keeps hkeeps]
    · obtain ⟨front, field, back, rfl, hfield, hlines, hfront, hback, hsame⟩ := hstands
      have hkept : ∀ other ∈ front ++ field :: back, keeps other = true → 10 ∉ other := by
        rw [List.forall_mem_append, List.forall_mem_cons]
        refine ⟨hfront.kept, ?_, hback.kept⟩
        intro hnot
        rw [hnot] at hfield
        cases hfield
      have hlf : 10 ∉ last := by
        have hmem : last ∈ (field.splitOn 10).filter keeps := by
          rw [hlines]
          exact List.mem_singleton_self _
        exact not_mem_of_mem_splitOn (List.mem_filter.1 hmem).1
      rw [List.filter_append, List.splitOn_eq_singleton hlf, List.map_singleton,
        filter_singleton_of_not_keeps hstrip, List.append_nil, List.filter_append,
        filter_singleton_of_keeps hkeeps]
      exact (filter_splitOn_eq_append_iff hkept).2
        ⟨front, field, back, rfl, hfield, hlines, hfront, hback, hsame⟩

/-- The fields are written as they are kept. -/
theorem forwardFields_eq_iff {init : List (List UInt8)} {last : List UInt8}
    (h : ∀ field ∈ init ++ [last], IsLine 13 10 field) :
    forwardFields (text 13 10 init ++ last) = text 13 10 ((init ++ [last]).filter keeps) ↔
      Unbroken init last ∨ StandIn init last := by
  rw [← filter_lines_eq_iff, forwardFields_eq fun field hfield => h field (by simp [hfield])]
  constructor
  · intro hsame
    refine text_inj (by decide) ?_ ?_ hsame
    · intro line hline
      have hmem := (List.mem_filter.1 hline).1
      rw [List.mem_append, List.mem_flatMap, List.mem_map] at hmem
      rcases hmem with ⟨field, -, hsplit⟩ | ⟨line', hsplit, rfl⟩
      · exact isLine_of_not_mem (not_mem_of_mem_splitOn hsplit)
      · refine isLine_of_not_mem fun hlf => ?_
        exact not_mem_of_mem_splitOn hsplit (strip_subset line' hlf)
    · intro line hline
      exact h line (List.mem_filter.1 hline).1
  · intro hsame
    rw [hsame]

/-! ## What is promised -/

section Promise

variable {parse : String → Except String Url} {req : Request} {rest : List UInt8}

/-- The request line ends at the first line break. -/
theorem Request.lineEnd_header (req : Request) :
    lineEnd req.header = some req.requestLine.length := by
  unfold Request.header
  rw [text_cons, List.append_assoc, List.cons_append, List.cons_append]
  exact lineEnd_append req.isLine _

/-- The request line is the front of the header. -/
theorem Request.take_header (req : Request) :
    req.header.take req.requestLine.length = req.requestLine := by
  unfold Request.header
  rw [text_cons, List.append_assoc, List.take_left]

/-- A request that asks for a URL, once its header is taken in. -/
theorem proxyConnection_of_asks (hlen : req.header.length ≤ 16 * 1024) (hconnect : ¬ req.IsConnect)
    {method version : String} {url : Url} (hasks : req.Asks parse method url version) :
    proxyConnection parse (.ok ()) (req.header ++ rest) =
      match slice (req.requestLine.length + 2) (req.header.length - 4) req.header with
      | none => .panicked
      | some fields => .forwarded [] (forwardLine method url version ++ forwardFields fields ++
          [13, 10] ++ rest) := by
  obtain ⟨line, hline, rfl, hurl, rfl⟩ := hasks
  unfold proxyConnection
  rw [readHeader_header req hlen]
  dsimp only
  rw [if_neg (mt List.isPrefixOf_iff_prefix.1 hconnect), req.lineEnd_header]
  dsimp only
  rw [req.take_header, hline]
  dsimp only
  rw [hurl]

/-- What is written in front of the fields and with them. -/
theorem rewritten_eq (req : Request) (method : String) (url : Url) (version : String) :
    req.rewritten method (originForm url) version =
      forwardLine method url version ++ text 13 10 (req.fields.filter keeps) ++ [13, 10] := by
  have hclose : bytes "\r\nConnection: close\r\n" =
      [13, 10] ++ bytes "Connection: close" ++ [13, 10] := by decide
  unfold Request.rewritten forwardLine
  rw [hclose, text_cons, text_cons, filter_not_connectionField]
  simp only [List.append_assoc, List.cons_append, List.nil_append]

/-- A request that asks for no URL fails, and is not forwarded. -/
theorem proxyConnection_of_not_asks (hlen : req.header.length ≤ 16 * 1024)
    (hconnect : ¬ req.IsConnect)
    (hasks : ∀ method url version, ¬ req.Asks parse method url version) :
    ∃ e, proxyConnection parse (.ok ()) (req.header ++ rest) = .failed e := by
  unfold proxyConnection
  rw [readHeader_header req hlen]
  dsimp only
  rw [if_neg (mt List.isPrefixOf_iff_prefix.1 hconnect), req.lineEnd_header]
  dsimp only
  rw [req.take_header]
  cases hline : fromUtf8 req.requestLine with
  | none => exact ⟨_, rfl⟩
  | some line =>
      dsimp only
      cases hurl : parse ((splitWhitespace line)[1]?.getD "") with
      | error message => exact ⟨_, rfl⟩
      | ok url => exact absurd ⟨line, hline, rfl, hurl, rfl⟩ (hasks _ url _)

/-- A tunnel is answered, and the bytes behind the header are forwarded. -/
theorem proxyConnection_of_connect (hlen : req.header.length ≤ 16 * 1024)
    (hconnect : req.IsConnect) :
    proxyConnection parse (.ok ()) (req.header ++ rest) =
      .forwarded (bytes "HTTP/1.1 200 Connection Established\r\n\r\n") rest := by
  unfold proxyConnection
  rw [readHeader_header req hlen]
  dsimp only
  rw [if_pos (List.isPrefixOf_iff_prefix.2 hconnect)]

/-- There is a panic only where the connection to the target is there. -/
theorem ne_panicked_of_ok (hlen : req.header.length ≤ 16 * 1024)
    (hok : proxyConnection parse (.ok ()) (req.header ++ rest) ≠ .panicked) :
    ∀ connect, proxyConnection parse connect (req.header ++ rest) ≠ .panicked := by
  intro connect
  cases connect with
  | ok => exact hok
  | error message =>
      unfold proxyConnection
      rw [readHeader_header req hlen]
      exact Proxied.noConfusion

/-- Without header fields the bounds of the slice are the wrong way round. -/
theorem not_forwards_of_nil (hlen : req.header.length ≤ 16 * 1024) (hconnect : ¬ req.IsConnect)
    {method version : String} {url : Url} (hasks : req.Asks parse method url version)
    (hnil : req.fields = []) : ¬ Forwards parse req rest := by
  rintro ⟨hpanic, -, -⟩
  apply hpanic (.ok ())
  rw [proxyConnection_of_asks hlen hconnect hasks, slice_header_nil hnil]

/-- With header fields, it depends on how they are read. -/
theorem forwards_of_asks_iff (hlen : req.header.length ≤ 16 * 1024) (hconnect : ¬ req.IsConnect)
    {method version : String} {url : Url} (hasks : req.Asks parse method url version)
    {init : List (List UInt8)} {last : List UInt8} (hfields : req.fields = init ++ [last]) :
    Forwards parse req rest ↔ Unbroken init last ∨ StandIn init last := by
  have hlines : ∀ field ∈ init ++ [last], IsLine 13 10 field := by
    intro field hfield
    rw [← hfields] at hfield
    exact (req.areLines field hfield).1
  rw [← forwardFields_eq_iff hlines]
  constructor
  · rintro ⟨-, -, hrewritten⟩
    obtain ⟨toClient, hforwarded⟩ :=
      hrewritten hconnect method url _ version hasks (originForm_iff.2 rfl)
    rw [proxyConnection_of_asks hlen hconnect hasks, slice_header hfields, rewritten_eq,
      hfields] at hforwarded
    simp only [Proxied.forwarded.injEq] at hforwarded
    have hbytes := List.append_cancel_right (List.append_cancel_right hforwarded.2)
    exact List.append_cancel_left hbytes
  · intro hsame
    have hforwards : ∀ method url version, req.Asks parse method url version →
        proxyConnection parse (.ok ()) (req.header ++ rest) =
          .forwarded [] (req.rewritten method (originForm url) version ++ rest) := by
      intro method url version hasks
      rw [proxyConnection_of_asks hlen hconnect hasks, slice_header hfields, rewritten_eq, hfields]
      dsimp only
      rw [hsame]
    refine ⟨ne_panicked_of_ok hlen ?_, fun h => absurd h hconnect, ?_⟩
    · rw [hforwards _ _ _ hasks]
      exact Proxied.noConfusion
    · intro _ method url target version hasks htarget
      obtain rfl := originForm_iff.1 htarget
      exact ⟨[], hforwards _ _ _ hasks⟩

/-- A request that is answered or fails is not rewritten. -/
theorem forwards_of_connect (hlen : req.header.length ≤ 16 * 1024) (hconnect : req.IsConnect) :
    Forwards parse req rest := by
  have hforwarded : proxyConnection parse (.ok ()) (req.header ++ rest) = _ :=
    proxyConnection_of_connect hlen hconnect
  refine ⟨ne_panicked_of_ok hlen ?_, fun _ => ⟨_, hforwarded⟩, ?_⟩
  · rw [hforwarded]
    exact Proxied.noConfusion
  · intro hnot
    exact absurd hconnect hnot

/-- Of a request that cannot be read nothing is promised but that there is no panic. -/
theorem forwards_of_not_asks (hlen : req.header.length ≤ 16 * 1024) (hconnect : ¬ req.IsConnect)
    (hnone : ∀ method url version, ¬ req.Asks parse method url version) :
    Forwards parse req rest := by
  obtain ⟨e, hfailed⟩ : ∃ e, proxyConnection parse (.ok ()) (req.header ++ rest) = .failed e :=
    proxyConnection_of_not_asks hlen hconnect hnone
  refine ⟨ne_panicked_of_ok hlen ?_, fun h => absurd h hconnect, ?_⟩
  · rw [hfailed]
    exact Proxied.noConfusion
  · intro _ method url _ version hasks
    exact absurd hasks (hnone method url version)

end Promise

/-- What a client sends up to a blank line is a request, and what is promised of it holds if and
only if it is `CONNECT`, or its line asks for no URL, or it has header fields and these are the
lines that a line feed ends, as far as they are kept. -/
theorem proxy_forwards_iff (parse : String → Except String Url) :
    (∀ bs, IsBlock 13 10 bs ↔ ∃ req : Request, req.header = bs) ∧
      ∀ (req : Request) (rest : List UInt8), req.header.length ≤ 16 * 1024 →
        (Forwards parse req rest ↔
          req.IsConnect ∨ (∀ method url version, ¬ req.Asks parse method url version) ∨
            ∃ init last, req.fields = init ++ [last] ∧
              (Unbroken init last ∨ StandIn init last)) := by
  refine ⟨fun bs => Request.exists_header_iff.symm, fun req rest hlen => ?_⟩
  by_cases hconnect : req.IsConnect
  · exact iff_of_true (forwards_of_connect hlen hconnect) (.inl hconnect)
  by_cases hnone : ∀ method url version, ¬ req.Asks parse method url version
  · exact iff_of_true (forwards_of_not_asks hlen hconnect hnone) (.inr (.inl hnone))
  rw [or_iff_right hconnect, or_iff_right hnone]
  obtain ⟨method, url, version, hasks⟩ :
      ∃ method url version, req.Asks parse method url version := by
    push Not at hnone
    exact hnone
  rcases List.eq_nil_or_concat' req.fields with hnil | ⟨init, last, hfields⟩
  · refine iff_of_false (not_forwards_of_nil hlen hconnect hasks hnil) ?_
    rintro ⟨init, last, hfields, -⟩
    rw [hnil] at hfields
    simp at hfields
  · rw [forwards_of_asks_iff hlen hconnect hasks hfields]
    constructor
    · intro hwhen
      exact ⟨init, last, hfields, hwhen⟩
    · rintro ⟨init', last', hfields', hwhen⟩
      rw [hfields] at hfields'
      obtain ⟨rfl, hlast⟩ := List.append_inj' hfields' rfl
      obtain rfl := List.singleton_inj.1 hlast
      exact hwhen

/-- A URL for one host. -/
def databaseUrl (s : String) : Except String Url :=
  if s = "http://db/query?q=1" then .ok ⟨"/query", some "q=1"⟩
  else if s = "http://db/" then .ok ⟨"/", none⟩
  else .error "relative URL without a base"

/-- A request whose last field is about the connection. -/
theorem kept_alive_forwarded :
    Forwards databaseUrl
      { requestLine := bytes "GET http://db/query?q=1 HTTP/1.1"
        fields := [bytes "Host: db", bytes "Connection: keep-alive"]
        isLine := isLine_of_not_mem (by decide)
        areLines := by
          rw [List.forall_mem_cons, List.forall_mem_singleton]
          exact ⟨⟨isLine_of_not_mem (by decide), by decide⟩,
            isLine_of_not_mem (by decide), by decide⟩ }
      [1, 2, 3] :=
  ((proxy_forwards_iff databaseUrl).2 _ _ (by decide)).2 (.inr (.inr
    ⟨[bytes "Host: db"], bytes "Connection: keep-alive", rfl,
      .inl ⟨⟨by decide, by decide⟩, by decide, by decide⟩⟩))

/-- A request without header fields. -/
theorem panicked_without_fields :
    ¬ ∀ (parse : String → Except String Url) (req : Request) (rest : List UInt8),
      req.header.length ≤ 16 * 1024 → Forwards parse req rest := by
  intro hforwards
  obtain ⟨hpanic, -, -⟩ := hforwards databaseUrl
    ⟨bytes "GET http://db/ HTTP/1.1", [], isLine_of_not_mem (by decide), by simp⟩ [] (by decide)
  refine hpanic (.ok ()) ?_
  decide

end KyomiConnect.Proxy
