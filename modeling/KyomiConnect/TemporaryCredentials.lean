import KyomiConnect.Lib.Markup
import KyomiConnect.Protocol

/-! # Temporary credentials

The Redshift provider gets a user and a password from an AWS service, which answers with an
XML document. The code cuts the text of an element out of the document: it searches for the
element's tags, and takes what is between them as it is written there.
-/

namespace KyomiConnect.Redshift

open Markup

/-! ## The code -/

structure TempCredentials where
  dbUser : String
  dbPassword : String
  expiration : String
deriving DecidableEq, Repr

/-- `extract_xml_element` -/
def extractXmlElement (xml tag : String) : Option String := do
  let (_, rest) ← splitAtFirst ("<" ++ tag ++ ">").toList xml.toList
  let (content, _) ← splitAtFirst ("</" ++ tag ++ ">").toList rest
  return .ofList content

/-- `parse_get_cluster_credentials_response` -/
def parseGetClusterCredentialsResponse (xml : String) : Except Error TempCredentials :=
  match extractXmlElement xml "DbUser" with
  | none => .error (.internal "Redshift GetClusterCredentials response missing DbUser element")
  | some dbUser =>
      match extractXmlElement xml "DbPassword" with
      | none =>
          .error (.internal "Redshift GetClusterCredentials response missing DbPassword element")
      | some dbPassword =>
          .ok { dbUser, dbPassword, expiration := (extractXmlElement xml "Expiration").getD "" }

/-! ## Documents -/

/-- An element with a text as content. -/
def element (name value : String) : List Token :=
  [.tag name.toList, .text (escape value.toList), .tag ('/' :: name.toList)]

/-- The first element with this name has this text. -/
def HasElement (document : List Token) (name value : String) : Prop :=
  ∃ before after, document = before ++ (element name value ++ after) ∧ .tag name.toList ∉ before

/-- The document encodes the credentials, in whatever order, and beside whatever else. -/
structure Encodes (document : List Token) (credentials : TempCredentials) : Prop where
  valid : ∀ t ∈ document, t.Valid
  dbUser : HasElement document "DbUser" credentials.dbUser
  dbPassword : HasElement document "DbPassword" credentials.dbPassword
  expiration : HasElement document "Expiration" credentials.expiration

theorem toList_tag (pre name : String) :
    (pre ++ name ++ ">").toList = pre.toList ++ name.toList ++ ['>'] := by
  rw [String.toList_append, String.toList_append]
  rfl

/-- What the code takes for the text of an element: the text as it is written. -/
theorem extractXmlElement_render {document : List Token} (hvalid : ∀ t ∈ document, t.Valid)
    {name value : String} (h : HasElement document name value) :
    extractXmlElement (.ofList (render document)) name = some (.ofList (escape value.toList)) := by
  obtain ⟨before, after, rfl, hfirst⟩ := h
  have hopen : (Token.tag name.toList).Valid := hvalid _ (by simp [element])
  have hclose : (Token.tag ('/' :: name.toList)).Valid := hvalid _ (by simp [element])
  have hdocument : render (before ++ (element name value ++ after)) =
      render before ++ ((Token.tag name.toList).chars ++ (render [.text (escape value.toList)] ++
        ((Token.tag ('/' :: name.toList)).chars ++ render after))) := by
    simp [render_append, element]
  have hstart := splitAtFirst_render hopen (fun t ht => hvalid t (by simp [ht])) hfirst
    (render [.text (escape value.toList)] ++
      ((Token.tag ('/' :: name.toList)).chars ++ render after))
  have hend : splitAtFirst (Token.tag ('/' :: name.toList)).chars
      (render [.text (escape value.toList)] ++
        ((Token.tag ('/' :: name.toList)).chars ++ render after)) =
      some (render [.text (escape value.toList)], render after) := by
    refine splitAtFirst_render hclose (fun t ht => ?_) (by simp) (render after)
    rw [List.mem_singleton.1 ht]
    exact not_mem_escape value.toList
  have hcontent : render [.text (escape value.toList)] = escape value.toList :=
    List.append_nil _
  have hopenText : ("<" ++ name ++ ">").toList = (Token.tag name.toList).chars :=
    toList_tag "<" name
  have hcloseText : ("</" ++ name ++ ">").toList = (Token.tag ('/' :: name.toList)).chars :=
    toList_tag "</" name
  simp only [extractXmlElement, hopenText, hcloseText, String.toList_ofList, hdocument, hstart,
    Option.bind_eq_bind, Option.bind_some, hend]
  rw [hcontent]
  rfl

/-- A text with nothing to escape. -/
def isPlain (s : String) : Bool := s.toList.all (!isSpecial ·)

theorem ofList_escape_eq_iff {s : String} :
    String.ofList (escape s.toList) = s ↔ isPlain s = true := by
  have hplain : isPlain s = true ↔ ∀ c ∈ s.toList, isSpecial c = false := by
    simp only [isPlain, List.all_eq_true, Bool.not_eq_true']
  rw [hplain, ← escape_eq_self_iff]
  constructor
  · intro h
    have htoList := congrArg String.toList h
    rwa [String.toList_ofList] at htoList
  · intro h
    rw [h, String.ofList_toList]

/-- What the code makes of a document: the escaped texts. -/
theorem parse_render {document : List Token} {credentials : TempCredentials}
    (h : Encodes document credentials) :
    parseGetClusterCredentialsResponse (.ofList (render document)) =
      .ok { dbUser := .ofList (escape credentials.dbUser.toList)
            dbPassword := .ofList (escape credentials.dbPassword.toList)
            expiration := .ofList (escape credentials.expiration.toList) } := by
  simp only [parseGetClusterCredentialsResponse, extractXmlElement_render h.valid h.dbUser,
    extractXmlElement_render h.valid h.dbPassword, extractXmlElement_render h.valid h.expiration,
    Option.getD_some]

/-- The credentials come out of a document as they went in exactly if nothing in them had to be
escaped. -/
theorem credentials_recovered_iff {document : List Token} {credentials : TempCredentials}
    (h : Encodes document credentials) :
    parseGetClusterCredentialsResponse (.ofList (render document)) = .ok credentials ↔
      isPlain credentials.dbUser ∧ isPlain credentials.dbPassword ∧
        isPlain credentials.expiration := by
  rw [parse_render h, Except.ok.injEq, ← ofList_escape_eq_iff, ← ofList_escape_eq_iff,
    ← ofList_escape_eq_iff]
  constructor
  · intro heq
    exact ⟨congrArg TempCredentials.dbUser heq, congrArg TempCredentials.dbPassword heq,
      congrArg TempCredentials.expiration heq⟩
  · rintro ⟨huser, hpassword, hexpiration⟩
    rw [huser, hpassword, hexpiration]

/-! ## A response -/

/-- The response of the service, as it lays it out. -/
def response (credentials : TempCredentials) : List Token :=
  let head : List Token :=
    [.tag "GetClusterCredentialsResponse".toList, .text "\n  ".toList,
      .tag "GetClusterCredentialsResult".toList, .text "\n    ".toList]
  let tail : List Token :=
    [.text "\n  ".toList, .tag "/GetClusterCredentialsResult".toList, .text "\n".toList,
      .tag "/GetClusterCredentialsResponse".toList]
  head ++ (element "DbUser" credentials.dbUser ++ (.text "\n    ".toList ::
    (element "Expiration" credentials.expiration ++ (.text "\n    ".toList ::
      (element "DbPassword" credentials.dbPassword ++ tail)))))

theorem valid_of_mem_element {name value : String} (h : (Token.tag ('/' :: name.toList)).Valid) :
    ∀ t ∈ element name value, t.Valid := by
  have hname : (Token.tag name.toList).Valid :=
    ⟨fun hmem => h.1 (.tail _ hmem), fun hmem => h.2 (.tail _ hmem)⟩
  intro t ht
  simp only [element, List.mem_cons, List.not_mem_nil, or_false] at ht
  rcases ht with rfl | rfl | rfl
  · exact hname
  · exact not_mem_escape value.toList
  · exact h

instance (t : Token) : Decidable t.Valid :=
  match t with
  | .tag name => inferInstanceAs (Decidable ('<' ∉ name ∧ '>' ∉ name))
  | .text content => inferInstanceAs (Decidable ('<' ∉ content))

theorem not_mem_element {name name' : String} (value : String)
    (h : name.toList ≠ name'.toList ∧ name.toList ≠ '/' :: name'.toList) :
    Token.tag name.toList ∉ element name' value := by
  simp [element, h.1, h.2]

theorem hasElement_start (name value : String) (after : List Token) :
    HasElement (element name value ++ after) name value :=
  ⟨[], after, rfl, nofun⟩

/-- Other tokens may come before. -/
theorem HasElement.append {document : List Token} {name value : String}
    (h : HasElement document name value) {tokens : List Token}
    (hother : .tag name.toList ∉ tokens) : HasElement (tokens ++ document) name value := by
  obtain ⟨before, after, rfl, hfirst⟩ := h
  refine ⟨tokens ++ before, after, (List.append_assoc _ _ _).symm, ?_⟩
  rw [List.mem_append, not_or]
  exact ⟨hother, hfirst⟩

theorem HasElement.cons {document : List Token} {name value : String}
    (h : HasElement document name value) {t : Token} (hother : .tag name.toList ≠ t) :
    HasElement (t :: document) name value := by
  obtain ⟨before, after, rfl, hfirst⟩ := h
  refine ⟨t :: before, after, rfl, ?_⟩
  rw [List.mem_cons, not_or]
  exact ⟨hother, hfirst⟩

theorem encodes_response (credentials : TempCredentials) :
    Encodes (response credentials) credentials where
  valid t ht := by
    simp only [response, List.mem_append, List.mem_cons, List.not_mem_nil, or_false] at ht
    rcases ht with (rfl | rfl | rfl | rfl) | huser | rfl | hexpiration | rfl | hpassword |
      (rfl | rfl | rfl | rfl)
    · decide
    · decide
    · decide
    · decide
    · exact valid_of_mem_element (by decide) t huser
    · decide
    · exact valid_of_mem_element (by decide) t hexpiration
    · decide
    · exact valid_of_mem_element (by decide) t hpassword
    · decide
    · decide
    · decide
    · decide
  dbUser := (hasElement_start _ _ _).append (by decide)
  expiration := by
    refine .append (.append (.cons (hasElement_start _ _ _) ?_) (not_mem_element _ ?_)) ?_
    · nofun
    · decide
    · decide
  dbPassword := by
    refine .append (.append (.cons (.append (.cons (hasElement_start _ _ _) ?_)
      (not_mem_element _ ?_)) ?_) (not_mem_element _ ?_)) ?_
    · nofun
    · decide
    · nofun
    · decide
    · decide

/-- A password of letters is recovered. -/
theorem plain_credentials_recovered :
    parseGetClusterCredentialsResponse
      (.ofList (render (response ⟨"IAM:adminuser", "AMAFUyyuros", "2019-12-27T19:44:51.001Z"⟩))) =
      .ok ⟨"IAM:adminuser", "AMAFUyyuros", "2019-12-27T19:44:51.001Z"⟩ :=
  (credentials_recovered_iff (encodes_response _)).2 (by decide)

/-- A password with an ampersand is not. -/
theorem ampersand_not_recovered :
    let xml := String.ofList
      (render (response ⟨"IAM:adminuser", "a&b", "2019-12-27T19:44:51.001Z"⟩))
    parseGetClusterCredentialsResponse xml =
        .ok ⟨"IAM:adminuser", "a&amp;b", "2019-12-27T19:44:51.001Z"⟩ ∧
      parseGetClusterCredentialsResponse xml ≠
        .ok ⟨"IAM:adminuser", "a&b", "2019-12-27T19:44:51.001Z"⟩ := by
  intro xml
  rw [parse_render (encodes_response _)]
  decide

end KyomiConnect.Redshift
