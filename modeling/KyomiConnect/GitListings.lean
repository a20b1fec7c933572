import KyomiConnect.StrandedMarkers

/-! # What Git prints

The listings that the helpers read, as Git prints them: `ls-remote --heads` one ref a line,
`for-each-ref` one branch a line, and `worktree list --porcelain -z` a record for each worktree,
whose fields end with a NUL each and which ends with an empty one. Whatever Git has to say is read
back as it is.
-/

namespace KyomiConnect.TicketWorktrees

/-! ## Refs -/

/-- A name that is printed in a line of its own. -/
structure LineName where
  name : String
  nonempty : name ≠ ""
  inLine : ∀ c ∈ name.toList, isLineEnd c = false

/-- A branch of the remote, at an object. -/
structure RemoteHead where
  branch : LineName
  sha : List Char
  hex : ∀ c ∈ sha, isHexDigit c = true
  length : sha.length = 40 ∨ sha.length = 64

/-- A line of `ls-remote`: the object, a tab, the ref. -/
def RemoteHead.line (head : RemoteHead) : List Char :=
  head.sha ++ ("\trefs/heads/".toList ++ head.branch.name.toList)

/-- A hexadecimal digit is in ASCII. -/
theorem toNat_of_isHexDigit {c : Char} (h : isHexDigit c = true) : c.toNat < 128 := by
  have htoNat : c.val.toNat = c.toNat := rfl
  simp only [isHexDigit, Bool.or_eq_true, Bool.and_eq_true, decide_eq_true_eq] at h
  rcases h with (hdigit | ⟨-, hlower⟩) | ⟨-, hupper⟩
  · exact toNat_of_isDigit hdigit
  · have hlast : c.val.toNat ≤ 102 := UInt32.le_iff_toNat_le.1 hlower
    omega
  · have hlast : c.val.toNat ≤ 70 := UInt32.le_iff_toNat_le.1 hupper
    omega

/-- A hexadecimal digit ends no line. -/
theorem isLineEnd_of_isHexDigit {c : Char} (h : isHexDigit c = true) : isLineEnd c = false := by
  have hascii : ∀ n : Fin 128, isHexDigit (Char.ofNat n) = true →
      isLineEnd (Char.ofNat n) = false := by decide +kernel
  have hcode := hascii ⟨c.toNat, toNat_of_isHexDigit h⟩
  simp only [Char.ofNat_toNat] at hcode
  exact hcode h

/-- The line of a branch is one line. -/
theorem RemoteHead.inLine (head : RemoteHead) : ∀ c ∈ head.line, isLineEnd c = false := by
  have hlabel : "\trefs/heads/".toList.all (fun c => !isLineEnd c) = true := by decide
  intro c hc
  rw [RemoteHead.line, List.mem_append, List.mem_append] at hc
  -- the object, the label, the name
  rcases hc with hc | hc | hc
  · exact isLineEnd_of_isHexDigit (head.hex c hc)
  · exact Bool.not_eq_true' _ ▸ List.all_eq_true.1 hlabel c hc
  · exact head.branch.inLine c hc

/-- The character between the fields. -/
def nul : Char := Char.ofNat 0

/-- A text that can be in a field. -/
abbrev FieldText : Type := { text : String // nul ∉ text.toList }

/-- What a worktree has checked out. -/
inductive CheckedOut where
  | branch (name : FieldText)
  | detached
  | bare

/-- A worktree as it is listed; a lock, or what is wrong with it, with a reason or without. -/
structure ListedTree where
  path : FieldText
  /-- none in a bare repository -/
  head : Option FieldText
  checkedOut : CheckedOut
  locked : Option FieldText
  prunable : Option FieldText

/-- The field that says what is checked out. -/
def CheckedOut.field : CheckedOut → List Char
  | .branch name => "branch refs/heads/".toList ++ name.val.toList
  | .detached => "detached".toList
  | .bare => "bare".toList

/-- An attribute whose reason may be empty. -/
def reasonField (label : String) : Option FieldText → List (List Char)
  | none => []
  | some reason =>
      [if reason.val = "" then label.toList else label.toList ++ ' ' :: reason.val.toList]

/-- The fields of a record. -/
def ListedTree.fields (tree : ListedTree) : List (List Char) :=
  ("worktree ".toList ++ tree.path.val.toList) ::
    (tree.head.toList.map (fun head => "HEAD ".toList ++ head.val.toList) ++
      (tree.checkedOut.field ::
        (reasonField "locked" tree.locked ++ reasonField "prunable" tree.prunable)))

end KyomiConnect.TicketWorktrees
