import KyomiConnect.InFlightCheck

/-! # Markers of stranded work

`mark_worktree` writes a marker into a worktree, a text with the ticket, the path, the branch and
a note, which are put into it as they are. `marker_ticket` finds the ticket in it by a pattern
that has to match once. The pattern matches in the text as often as lines of its parts read like
the ticket's.
-/

namespace KyomiConnect.TicketWorktrees

open Interleaved (Prog Looks)

/-! ## Tickets -/

/-- `[A-Za-z]`, ignoring case, which takes four characters more for letters. -/
def isLetterFolded (c : Char) : Bool :=
  isLetter c || [0x130, 0x131, 0x17F, 0x212A].contains c.toNat

/-- `str.upper` on the characters of a team's key. -/
def upperKeyChar (c : Char) : Char :=
  match c.toNat with
  | 0x131 => 'I'
  | 0x17F => 'S'
  | _ => c.toUpper

/-- What `team_key` and `ticket_key` make of the words in the configuration and in the
arguments: `[A-Za-z][A-Za-z0-9]*`, ignoring case, and `[1-9][0-9]*`. -/
structure Ticket.Accepted (t : Ticket) (word : List Char) : Prop where
  team : t.team.toList = word.map upperKeyChar
  letter : word.head?.any isLetterFolded = true
  word : ∀ c ∈ word, isLetterFolded c = true ∨ c.isDigit = true
  positive : t.number.toList.head?.any (· ≠ '0') = true
  digits : ∀ c ∈ t.number.toList, c.isDigit = true

/-! ## Marking a worktree -/

/-- How the file system takes a marker. A write that fails may leave a part of the text, or
something that cannot be read. -/
structure Disk where
  /-- the error of `open('x')` in a directory, where a marker is there already or not -/
  create : String → Bool → Option String
  exclusive : ∀ directory, (create directory true).isSome = true
  /-- the pieces in which a buffered text is written -/
  cut : String → List String
  whole : ∀ text, String.join (cut text) = text
  /-- what a write behind a text makes of a file, and the error -/
  write : String → MarkerFile → String → MarkerFile × Option String
  appends : ∀ done piece file, write done (.text done) piece = (file, none) →
    file = .text (done ++ piece)
  /-- the error of closing a file -/
  close : Option String

/-- The repository, with the markers. -/
structure Site (Commit : Type) where
  world : World Commit
  /-- what is at `STRANDED.md` in a directory -/
  markers : String → MarkerFile
  /-- the directory of the marker that is open for writing, if it is still in one -/
  opened : Option String
  disk : Disk

section Mark

variable {Commit : Type}

/-- Another marker in a directory. -/
def Site.put (site : Site Commit) (path : String) (file : MarkerFile) : Site Commit :=
  { site with markers := fun other => if other = path then file else site.markers other }

/-- The marker that is open for writing. -/
def Site.openFile (site : Site Commit) : MarkerFile :=
  match site.opened with
  | some path => site.markers path
  | none => .missing

/-- A change of the marker that is open: nobody sees it when the file has been deleted. -/
def Site.store (site : Site Commit) (file : MarkerFile) : Site Commit :=
  match site.opened with
  | some path => site.put path file
  | none => site

@[simp] theorem Site.put_markers (site : Site Commit) (path : String) (file : MarkerFile) :
    (site.put path file).markers path = file :=
  if_pos rfl

@[simp] theorem Site.put_world (site : Site Commit) (path : String) (file : MarkerFile) :
    (site.put path file).world = site.world := rfl

@[simp] theorem Site.put_disk (site : Site Commit) (path : String) (file : MarkerFile) :
    (site.put path file).disk = site.disk := rfl

/-- Putting a marker where it is changes nothing. -/
theorem Site.put_same (site : Site Commit) (path : String) :
    site.put path (site.markers path) = site := by
  -- a function put back at a point is the function
  have hmarkers :
      (fun other => if other = path then site.markers path else site.markers other) =
        site.markers := by
    funext other
    split
    · rename_i hpath
      rw [hpath]
    · rfl
  rw [Site.put, hmarkers]

/-- The last change counts. -/
@[simp] theorem Site.put_put (site : Site Commit) (path : String) (file file' : MarkerFile) :
    (site.put path file).put path file' = site.put path file' := by
  unfold Site.put
  congr 1
  funext other
  dsimp only
  split
  · rfl
  · rfl

/-- The commands do not touch the markers. -/
def onWorld {α : Type} (p : Script Commit α) : Prog (Site Commit) Failure α :=
  p.within Site.world fun site world => { site with world }

/-- What has become of a worktree when `mark_worktree` returns 0. -/
inductive Marked where
  | wrote
  | already
deriving DecidableEq, Repr

/-- A time in UTC, to the second. -/
structure UtcTime where
  year : ℕ
  month : ℕ
  day : ℕ
  hour : ℕ
  minute : ℕ
  second : ℕ

def padZeros (width n : ℕ) : String := .ofList (List.leftpad width '0' (Nat.toDigits 10 n))

/-- `datetime.isoformat` with whole seconds. -/
def UtcTime.isoformat (t : UtcTime) : String :=
  padZeros 4 t.year ++ "-" ++ padZeros 2 t.month ++ "-" ++ padZeros 2 t.day ++ "T" ++
    padZeros 2 t.hour ++ ":" ++ padZeros 2 t.minute ++ ":" ++ padZeros 2 t.second ++ "+00:00"

/-- The lines above the ticket's. -/
def headLines (ticket : Ticket) : List String :=
  ["# STRANDED WORKTREE — " ++ ticket.key,
    "",
    "Preserved for salvage. This is not a ticket claim. Delete this marker",
    "before adopting the worktree. Existing files and commits remain intact.",
    ""]

/-- The lines of a marker. -/
def markerLines (ticket : Ticket) (released : UtcTime) (path branch note : String) : List String :=
  headLines ticket ++
    ["- Ticket: " ++ ticket.key,
      "- Released: " ++ released.isoformat,
      "- Path: " ++ path,
      "- Branch: " ++ branch] ++
    if note = "" then [] else ["", "## Note", "", note]

/-- The text of a marker. -/
def markerText (ticket : Ticket) (released : UtcTime) (path branch note : String) : String :=
  .join ((markerLines ticket released path branch note).map (· ++ "\n"))

/-- What `mark_worktree` makes of an `OSError`. -/
def cannotCreate (error : String) : Failure := ⟨"Cannot create marker: " ++ error, 3⟩

/-- `open('x')`: an empty file where nothing was, which is open then. -/
def Site.create (path : String) (site : Site Commit) : Except Failure Unit × Site Commit :=
  match site.disk.create path (site.markers path ≠ .missing) with
  | some error => (.error (cannotCreate error), site)
  | none => (.ok (), { site.put path (.text "") with opened := some path })

def openExclusive (path : String) : Prog (Site Commit) Failure Unit :=
  Prog.atomic (Site.create path)

/-- One write to the open file, behind what has been written to it. -/
def writePiece (done piece : String) : Prog (Site Commit) Failure Unit :=
  Prog.atomic fun site =>
    match site.disk.write done site.openFile piece with
    | (file, some error) => (.error (cannotCreate error), { site.store file with opened := none })
    | (file, none) => (.ok (), site.store file)

/-- The end of the `with` statement. -/
def closeFile : Prog (Site Commit) Failure Unit :=
  Prog.atomic fun site =>
    match site.disk.close with
    | some error => (.error (cannotCreate error), { site with opened := none })
    | none => (.ok (), { site with opened := none })

/-- The text gets into the file piece by piece. -/
def writePieces (done : String) : List String → Prog (Site Commit) Failure Unit
  | [] => closeFile
  | piece :: pieces => do
      writePiece done piece
      writePieces (done ++ piece) pieces

/-- `output.write` and the end of the `with` statement. -/
def writeMarker (content : String) : Prog (Site Commit) Failure Unit := do
  let pieces ← Prog.read fun site => .ok (site.disk.cut content)
  writePieces "" pieces

/-- Exclusive creation of a marker. -/
def createMarker (path content : String) : Prog (Site Commit) Failure Unit := do
  openExclusive path
  writeMarker content

/-- What `mark_worktree` goes on with once it knows what the marker says. -/
def markAfter (ticket : Ticket) (note : String) (released : UtcTime) (path branch : String) :
    Option String → Prog (Site Commit) Failure Marked
  | some prior =>
      if prior ≠ ticket.key then throw ⟨"Refusing conflicting stranded marker", 1⟩
      else return .already
  | none => do
      createMarker path (markerText ticket released path branch note)
      return .wrote

/-- `mark_worktree`, at a time. -/
def markWorktree (root argument : String) (ticket : Ticket) (note : String) (released : UtcTime) :
    Prog (Site Commit) Failure Marked := do
  let (path, branch) ← onWorld (checkedTree root argument ticket)
  onWorld (noPr branch)
  let prior ← Prog.read fun site => markerTicketOf path (site.markers path)
  markAfter ticket note released path branch prior

end Mark

/-! ## What the pattern matches -/

/-- `[A-Za-z][A-Za-z0-9]*-[1-9][0-9]*` -/
def IsKey (key : List Char) : Prop :=
  ∃ team number, key = team ++ '-' :: number ∧ team.head?.any isLetter = true ∧
    (∀ c ∈ team, isKeyChar c = true) ∧ number.head?.any (· ≠ '0') = true ∧
    ∀ c ∈ number, c.isDigit = true

/-- `\s*$` at the start of a text. -/
def BlankToEnd (cs : List Char) : Prop :=
  ∃ blanks rest, cs = blanks ++ rest ∧ (∀ c ∈ blanks, isSpace c = true) ∧
    (rest = [] ∨ rest.head? = some '\n')

/-- `- Ticket:\s*KEY\s*$` at the start of a text. -/
def TicketLine (cs : List Char) : Prop :=
  ∃ blanks key rest, cs = "- Ticket:".toList ++ (blanks ++ (key ++ rest)) ∧
    (∀ c ∈ blanks, isSpace c = true) ∧ IsKey key ∧ BlankToEnd rest

/-- The pattern matches where a line begins; `first` says that one begins with the text. -/
def HasTicketLine (first : Bool) (cs : List Char) : Prop :=
  ∃ before line, cs = before ++ line ∧ TicketLine line ∧
    (before = [] ∧ first = true ∨ before.getLast? = some '\n')

/-- The pattern's blanks take a line break as well. -/
theorem isSpace_newline : isSpace '\n' = true := by decide

/-- Up to a character that is no space there are blanks, and no line ends after them. -/
theorem blankToEnd_iff {cs : List Char} :
    BlankToEnd cs ↔ cs.dropWhile isSpace = [] ∨ '\n' ∈ cs.takeWhile isSpace := by
  constructor
  · -- the blanks are skipped, and what is left is nothing or a line break
    rintro ⟨blanks, rest, rfl, hblanks, hrest⟩
    rw [List.dropWhile_append_of_pos hblanks, List.takeWhile_append_of_pos hblanks]
    rcases hrest with rfl | hrest
    · exact Or.inl rfl
    · cases rest with
      | nil => cases hrest
      | cons c rest =>
          cases hrest
          right
          rw [List.takeWhile_cons_of_pos isSpace_newline]
          exact List.mem_append_right _ (List.mem_cons_self ..)
  · intro h
    rcases h with hall | hnewline
    · -- blanks only
      refine ⟨cs, [], (List.append_nil cs).symm, ?_, Or.inl rfl⟩
      exact List.dropWhile_eq_nil_iff.1 hall
    · -- the first line break among the blanks ends what `$` looks at
      obtain ⟨blanks, more, hsplit⟩ := List.append_of_mem hnewline
      refine ⟨blanks, '\n' :: (more ++ cs.dropWhile isSpace), ?_, ?_, Or.inr rfl⟩
      · rw [← List.cons_append, ← List.append_assoc, ← hsplit, List.takeWhile_append_dropWhile]
      · intro c hc
        have hmem : c ∈ cs.takeWhile isSpace := hsplit ▸ List.mem_append_left _ hc
        exact List.mem_takeWhile_imp hmem

/-- Characters of a kind are taken up to one that is not. -/
theorem takeWhile_stop {p : Char → Bool} {xs ys : List Char} (hxs : ∀ c ∈ xs, p c = true)
    (hys : ys.head?.any p = false) :
    (xs ++ ys).takeWhile p = xs ∧ (xs ++ ys).dropWhile p = ys := by
  rw [List.takeWhile_append_of_pos hxs, List.dropWhile_append_of_pos hxs]
  cases ys with
  | nil => exact ⟨List.append_nil xs, rfl⟩
  | cons c ys =>
      have hc : ¬ p c = true := by simpa using hys
      rw [List.takeWhile_cons_of_neg hc, List.dropWhile_cons_of_neg hc]
      exact ⟨List.append_nil xs, rfl⟩

/-- No blank is a digit. -/
theorem isDigit_of_isSpace {c : Char} (h : isSpace c = true) : c.isDigit = false := by
  by_contra hdigit
  rw [Bool.not_eq_false, Char.isDigit_iff_toNat] at hdigit
  have hzero : '0'.toNat = 48 := rfl
  have hnine : '9'.toNat = 57 := rfl
  simp only [isSpace, Bool.or_eq_true, Bool.and_eq_true, decide_eq_true_eq, beq_iff_eq] at h
  omega

/-- What is blank up to the end does not begin with a digit, so a key ends there. -/
theorem BlankToEnd.head {cs : List Char} (h : BlankToEnd cs) :
    cs.head?.any Char.isDigit = false := by
  obtain ⟨blanks, rest, rfl, hblanks, hrest⟩ := h
  cases blanks with
  | nil =>
      rcases hrest with rfl | hrest
      · rfl
      · rw [List.nil_append, hrest]
        rfl
  | cons c blanks => exact isDigit_of_isSpace (hblanks c (List.mem_cons_self ..))

/-- What the pattern takes for a key. -/
theorem keyAt_eq_some_iff {cs key : List Char} :
    keyAt cs = some key ↔ IsKey key ∧ ∃ rest, cs = key ++ rest ∧ BlankToEnd rest := by
  constructor
  · intro h
    -- follow the pattern: letters and digits, a dash, a number, blanks to the end
    unfold keyAt at h
    dsimp only at h
    split at h
    · rename_i hletter
      split at h
      · rename_i rest hrest
        split at h
        · rename_i hcond
          obtain ⟨hpositive, hend⟩ := hcond
          cases h
          refine ⟨⟨_, _, rfl, hletter, fun c hc => List.mem_takeWhile_imp hc, hpositive,
            fun c hc => List.mem_takeWhile_imp hc⟩, rest.dropWhile Char.isDigit, ?_,
            blankToEnd_iff.2 hend⟩
          rw [List.append_assoc, List.cons_append, List.takeWhile_append_dropWhile, ← hrest,
            List.takeWhile_append_dropWhile]
        · cases h
      · cases h
    · cases h
  · rintro ⟨⟨team, number, rfl, hletter, hteam, hpositive, hdigits⟩, rest, rfl, hend⟩
    rw [List.append_assoc, List.cons_append]
    have hdash : ('-' :: (number ++ rest)).head?.any isKeyChar = false := by
      have hnot : isKeyChar '-' = false := by decide
      exact hnot
    -- each part of the key is taken whole, as the next one begins with another kind
    obtain ⟨htake, hdrop⟩ := takeWhile_stop hteam hdash
    obtain ⟨hnumber, hafter⟩ := takeWhile_stop hdigits hend.head
    unfold keyAt
    rw [htake, hdrop]
    rw [if_pos hletter]
    split
    · rename_i hrest
      cases hrest
      rw [hnumber, hafter, if_pos ⟨hpositive, blankToEnd_iff.1 hend⟩]
    · rename_i hother
      exact (hother _ rfl).elim

/-- A text is dropped from the front of what begins with it. -/
theorem dropText_eq_some_iff {pat : String} {cs rest : List Char} :
    dropText pat cs = some rest ↔ cs = pat.toList ++ rest := by
  unfold dropText
  constructor
  · intro h
    split at h
    · rename_i hpre
      obtain ⟨more, rfl⟩ := List.isPrefixOf_iff_prefix.1 hpre
      rw [List.drop_left] at h
      rw [Option.some.inj h]
    · cases h
  · rintro rfl
    rw [if_pos (List.isPrefixOf_iff_prefix.2 (List.prefix_append _ _)), List.drop_left]

/-- The letters `A-Za-z` lie between the codes of `A` and `z`. -/
theorem toNat_of_isLetter {c : Char} (h : isLetter c = true) : 65 ≤ c.toNat ∧ c.toNat ≤ 122 := by
  have htoNat : c.val.toNat = c.toNat := rfl
  rcases Bool.or_eq_true_iff.1 h with hupper | hlower
  · -- upper case
    have hrange : 'A'.val ≤ c.val ∧ c.val ≤ 'Z'.val := of_decide_eq_true hupper
    have hfirst : 65 ≤ c.val.toNat := UInt32.le_iff_toNat_le.1 hrange.1
    have hlast : c.val.toNat ≤ 90 := UInt32.le_iff_toNat_le.1 hrange.2
    omega
  · -- lower case
    have hrange : (decide ('a'.val ≤ c.val) && decide (c.val ≤ 'z'.val)) = true := hlower
    rw [Bool.and_eq_true, decide_eq_true_eq, decide_eq_true_eq] at hrange
    have hfirst : 97 ≤ c.val.toNat := UInt32.le_iff_toNat_le.1 hrange.1
    have hlast : c.val.toNat ≤ 122 := UInt32.le_iff_toNat_le.1 hrange.2
    omega

/-- No letter is a blank. -/
theorem isSpace_of_isLetter {c : Char} (h : isLetter c = true) : isSpace c = false := by
  by_contra hspace
  rw [Bool.not_eq_false] at hspace
  have hrange := toNat_of_isLetter h
  simp only [isSpace, Bool.or_eq_true, Bool.and_eq_true, decide_eq_true_eq, beq_iff_eq] at hspace
  omega

/-- A key begins with a letter. -/
theorem IsKey.letter {key : List Char} (h : IsKey key) (rest : List Char) :
    (key ++ rest).head?.any isLetter = true := by
  obtain ⟨team, number, rfl, hletter, -⟩ := h
  cases team with
  | nil => cases hletter
  | cons c team => exact hletter

/-- A key does not begin with a blank, so the blanks before it end there. -/
theorem IsKey.head {key : List Char} (h : IsKey key) (rest : List Char) :
    (key ++ rest).head?.any isSpace = false := by
  have hletter := h.letter rest
  cases hkey : key ++ rest with
  | nil => rfl
  | cons c cs =>
      rw [hkey] at hletter
      exact isSpace_of_isLetter hletter

/-- The pattern at the start of a line, with the key that it finds. -/
theorem ticketLineAt_eq_some_iff {cs key : List Char} :
    ticketLineAt cs = some key ↔
      ∃ blanks rest, cs = "- Ticket:".toList ++ (blanks ++ (key ++ rest)) ∧
        (∀ c ∈ blanks, isSpace c = true) ∧ IsKey key ∧ BlankToEnd rest := by
  unfold ticketLineAt
  constructor
  · intro h
    obtain ⟨rest, hrest, hat⟩ := Option.bind_eq_some_iff.1 h
    obtain ⟨hkey, more, hmore, hend⟩ := keyAt_eq_some_iff.1 hat
    refine ⟨rest.takeWhile isSpace, more, ?_, fun c hc => List.mem_takeWhile_imp hc, hkey, hend⟩
    rw [← hmore, List.takeWhile_append_dropWhile]
    exact dropText_eq_some_iff.1 hrest
  · rintro ⟨blanks, rest, rfl, hblanks, hkey, hend⟩
    rw [dropText_eq_some_iff.2 rfl, Option.bind_some, (takeWhile_stop hblanks (hkey.head rest)).2,
      keyAt_eq_some_iff.2 ⟨hkey, rest, rfl, hend⟩]

/-- The pattern matches at the start of a line that reads like the ticket's. -/
theorem ticketLineAt_isSome_iff {cs : List Char} : (ticketLineAt cs).isSome ↔ TicketLine cs := by
  rw [Option.isSome_iff_exists]
  constructor
  · rintro ⟨key, hkey⟩
    obtain ⟨blanks, rest, hsplit, hrest⟩ := ticketLineAt_eq_some_iff.1 hkey
    exact ⟨blanks, key, rest, hsplit, hrest⟩
  · rintro ⟨blanks, key, rest, hsplit, hrest⟩
    exact ⟨key, ticketLineAt_eq_some_iff.2 ⟨blanks, rest, hsplit, hrest⟩⟩

/-- A line like the ticket's begins here, or further on. -/
theorem hasTicketLine_cons {first : Bool} {c : Char} {cs : List Char} :
    HasTicketLine first (c :: cs) ↔
      (first = true ∧ TicketLine (c :: cs)) ∨ HasTicketLine (c == '\n') cs := by
  constructor
  · rintro ⟨before, line, hsplit, hline, hstart⟩
    -- the line begins at this character, or behind it
    cases before with
    | nil =>
        rcases hstart with ⟨-, hfirst⟩ | hlast
        · exact Or.inl ⟨hfirst, hsplit ▸ hline⟩
        · cases hlast
    | cons d before =>
        cases hsplit
        right
        refine ⟨before, line, rfl, hline, ?_⟩
        rcases hstart with ⟨hnil, -⟩ | hlast
        · cases hnil
        · cases before with
          | nil =>
              cases hlast
              exact Or.inl ⟨rfl, rfl⟩
          | cons e before =>
              rw [List.getLast?_cons_cons] at hlast
              exact Or.inr hlast
  · rintro (⟨rfl, hline⟩ | ⟨before, line, rfl, hline, hstart⟩)
    · -- the line is the whole text
      exact ⟨[], _, rfl, hline, Or.inl ⟨rfl, rfl⟩⟩
    · refine ⟨c :: before, line, rfl, hline, Or.inr ?_⟩
      rcases hstart with ⟨rfl, hc⟩ | hlast
      · rw [beq_iff_eq] at hc
        rw [hc]
        rfl
      · cases before with
        | nil => cases hlast
        | cons d before => rwa [List.getLast?_cons_cons]

/-- Nothing is found if and only if no line reads like the ticket's. -/
theorem findTickets_eq_nil_iff {first : Bool} {cs : List Char} :
    findTickets first cs = [] ↔ ¬ HasTicketLine first cs := by
  -- one character after the other: a match can begin at each line's start
  induction cs generalizing first with
  | nil =>
      have hnone : ¬ HasTicketLine first [] := by
        rintro ⟨before, line, hsplit, ⟨_, _, _, rfl, _⟩, _⟩
        cases before with
        | nil => cases hsplit
        | cons c before => cases hsplit
      exact iff_of_true rfl hnone
  | cons c cs ih =>
      rw [findTickets, List.append_eq_nil_iff, ih, hasTicketLine_cons, not_or,
        ← ticketLineAt_isSome_iff]
      refine and_congr ?_ Iff.rfl
      cases first with
      | false => simp
      | true => simp

/-! ## A text in front of more lines -/

/-- What is in front of a text without line breaks ends before the first of them. -/
theorem exists_of_append_newline {xs ys v rest : List Char} (hys : '\n' ∉ ys)
    (h : xs ++ '\n' :: v = ys ++ rest) : ∃ more, xs = ys ++ more ∧ rest = more ++ '\n' :: v := by
  -- the line break lies behind `ys`, which has none
  rcases List.append_eq_append_iff.1 h with ⟨more, hy, hmore⟩ | ⟨more, hx, hrest⟩
  · cases more with
    | nil => exact ⟨[], by rw [hy, List.append_nil, List.append_nil], hmore.symm⟩
    | cons c more =>
        cases hmore
        exact absurd (hy ▸ List.mem_append_right _ (List.mem_cons_self ..)) hys
  · exact ⟨more, hx, hrest⟩

/-- In front of a line break a text is blank to the end if it has blanks only, or a line break after
blanks. -/
theorem blankToEnd_append_newline {cs v : List Char} :
    BlankToEnd (cs ++ '\n' :: v) ↔ cs.dropWhile isSpace = [] ∨ '\n' ∈ cs.takeWhile isSpace := by
  rw [blankToEnd_iff]
  -- either all of `cs` is blank, or the blanks stop within it
  by_cases hall : cs.dropWhile isSpace = []
  · have hblank := List.dropWhile_eq_nil_iff.1 hall
    rw [List.takeWhile_append_of_pos hblank, List.takeWhile_cons_of_pos isSpace_newline]
    exact iff_of_true (Or.inr (List.mem_append_right _ (List.mem_cons_self ..))) (Or.inl hall)
  · have hlonger : cs.dropWhile isSpace ++ '\n' :: v ≠ [] := by simp
    have hsame : (cs ++ '\n' :: v).takeWhile isSpace = cs.takeWhile isSpace := by
      rw [List.takeWhile_append, if_neg]
      intro hlength
      exact hall (by
        have hsum := congrArg List.length (List.takeWhile_append_dropWhile (p := isSpace) (l := cs))
        rw [List.length_append] at hsum
        exact List.length_eq_zero_iff.1 (by omega))
    rw [List.dropWhile_append, if_neg (by simpa using hall), hsame]
    exact ⟨fun h => Or.inr (h.resolve_left hlonger), fun h => Or.inr (h.resolve_left hall)⟩

/-- A key does not go over a line break. -/
theorem IsKey.newline {key : List Char} (h : IsKey key) : '\n' ∉ key := by
  obtain ⟨team, number, rfl, -, hteam, -, hdigits⟩ := h
  intro hmem
  rcases List.mem_append.1 hmem with hmem | hmem
  · exact absurd (hteam _ hmem) (by decide)
  · rcases List.mem_cons.1 hmem with hdash | hmem
    · cases hdash
    · exact absurd (hdigits _ hmem) (by decide)

/-- A text that does not begin with a letter after its blanks. -/
def StartsApart (v : List Char) : Prop := (v.dropWhile isSpace).head?.any isLetter = false

/-- A match that begins in front of a line break ends there as well, unless a key follows. -/
theorem ticketLineAt_newline_iff {cs v key : List Char} (hv : StartsApart v) :
    ticketLineAt (cs ++ '\n' :: v) = some key ↔
      ∃ blanks more, cs = "- Ticket:".toList ++ (blanks ++ (key ++ more)) ∧
        (∀ c ∈ blanks, isSpace c = true) ∧ IsKey key ∧
        (more.dropWhile isSpace = [] ∨ '\n' ∈ more.takeWhile isSpace) := by
  rw [ticketLineAt_eq_some_iff]
  constructor
  · rintro ⟨blanks, rest, hsplit, hblanks, hkey, hend⟩
    obtain ⟨cs, rfl, hrest⟩ := exists_of_append_newline (by decide) hsplit
    rcases List.append_eq_append_iff.1 hrest with ⟨more, hcs, hmore⟩ | ⟨more, hbs, hmore⟩
    · -- the key ends in front of the line break
      obtain ⟨more', rfl, hrest'⟩ := exists_of_append_newline hkey.newline hmore.symm
      refine ⟨blanks, more', by rw [hcs], hblanks, hkey, ?_⟩
      rw [hrest'] at hend
      exact blankToEnd_append_newline.1 hend
    · -- the blanks would go over the line break, up to the key
      exfalso
      have hletter := hkey.letter rest
      have hmoreBlank : ∀ c ∈ more, isSpace c = true := fun c hc =>
        hblanks c (hbs ▸ List.mem_append_right _ hc)
      cases more with
      | nil =>
          have hnot : isLetter '\n' = false := by decide
          rw [← List.nil_append (key ++ rest), ← hmore, List.head?_cons, Option.any_some,
            hnot] at hletter
          cases hletter
      | cons d more =>
          cases hmore
          have hstop := (takeWhile_stop (fun c hc => hmoreBlank c (List.mem_cons_of_mem _ hc))
            (hkey.head rest)).2
          have hapart : ((more ++ (key ++ rest)).dropWhile isSpace).head?.any isLetter = false := hv
          rw [hstop, hletter] at hapart
          cases hapart
  · rintro ⟨blanks, more, rfl, hblanks, hkey, hend⟩
    refine ⟨blanks, more ++ '\n' :: v, ?_, hblanks, hkey, blankToEnd_append_newline.2 hend⟩
    simp only [List.append_assoc]

theorem startsApart_nil : StartsApart [] := rfl

/-- What comes after the line does not change the match, unless it begins like a key. -/
theorem ticketLineAt_append_newline {cs v : List Char} (hv : StartsApart v) :
    ticketLineAt (cs ++ '\n' :: v) = ticketLineAt (cs ++ ['\n']) := by
  apply Option.ext
  intro key
  rw [ticketLineAt_newline_iff hv, ticketLineAt_newline_iff startsApart_nil]

/-- What is found in a text and in the lines after it. -/
theorem findTickets_append_newline {cs v : List Char} (hv : StartsApart v) (first : Bool) :
    findTickets first (cs ++ '\n' :: v) =
      findTickets first (cs ++ ['\n']) ++ findTickets true v := by
  -- the matches within `cs` do not see what is behind the line break
  induction cs generalizing first with
  | nil =>
      -- a line break itself begins no match
      have hnone (ds : List Char) : ticketLineAt ('\n' :: ds) = none := rfl
      rw [List.nil_append, List.nil_append, findTickets, findTickets, hnone, hnone]
      cases first with
      | false => rfl
      | true => rfl
  | cons c cs ih =>
      have hline : ticketLineAt (c :: cs ++ '\n' :: v) = ticketLineAt (c :: cs ++ ['\n']) :=
        ticketLineAt_append_newline hv
      rw [List.cons_append, List.cons_append] at hline ⊢
      rw [findTickets, findTickets, ih, hline, List.append_assoc]

/-- Within a line nothing is found. -/
theorem findTickets_inside {line : List Char} (hline : '\n' ∉ line) (cs : List Char) :
    findTickets false (line ++ cs) = findTickets false cs := by
  induction line with
  | nil => rfl
  | cons c line ih =>
      rw [List.mem_cons, not_or] at hline
      have hc : (c == '\n') = false := beq_eq_false_iff_ne.2 (Ne.symm hline.1)
      rw [List.cons_append, findTickets, hc, ih hline.2]
      rfl

/-- A line is matched at its start only. -/
theorem findTickets_line {line : List Char} (hline : '\n' ∉ line) (v : List Char) :
    findTickets true (line ++ '\n' :: v) =
      (ticketLineAt (line ++ '\n' :: v)).toList ++ findTickets true v := by
  cases line with
  | nil => rfl
  | cons c line =>
      rw [List.mem_cons, not_or] at hline
      have hc : (c == '\n') = false := beq_eq_false_iff_ne.2 (Ne.symm hline.1)
      rw [List.cons_append, findTickets, hc, findTickets_inside hline.2]
      rfl

/-- A text that begins with something else in its line. -/
theorem findTickets_after {label : List Char} (hlabel : '\n' ∉ label) (hne : label ≠ [])
    {cs : List Char} (hnone : ticketLineAt (label ++ cs) = none) :
    findTickets true (label ++ cs) = findTickets false cs := by
  cases label with
  | nil => exact absurd rfl hne
  | cons c label =>
      rw [List.mem_cons, not_or] at hlabel
      have hc : (c == '\n') = false := beq_eq_false_iff_ne.2 (Ne.symm hlabel.1)
      rw [List.cons_append] at hnone ⊢
      rw [findTickets, hc, findTickets_inside hlabel.2, hnone]
      rfl

/-! ## Line breaks -/

/-- A carriage return on its own is read as a line break. -/
theorem universalNewlines_return {cs : List Char} (h : cs.head? ≠ some '\n') :
    universalNewlines ('\r' :: cs) = '\n' :: universalNewlines cs := by
  rw [universalNewlines]
  rintro rest rfl
  exact h rfl

/-- Every other character is read as it is. -/
theorem universalNewlines_cons {c : Char} (h : c ≠ '\r') (cs : List Char) :
    universalNewlines (c :: cs) = c :: universalNewlines cs := by
  rw [universalNewlines]
  · intro rest hc
    exact absurd hc h
  · exact h

/-- A line break ends what is read before it. -/
theorem universalNewlines_append_newline (cs v : List Char) :
    universalNewlines (cs ++ '\n' :: v) =
      universalNewlines (cs ++ ['\n']) ++ universalNewlines v := by
  fun_induction universalNewlines cs with
  | case1 cs ih =>
      -- `\r\n`, one line break
      rw [List.cons_append, List.cons_append, List.cons_append, List.cons_append, universalNewlines,
        universalNewlines, ih]
      rfl
  | case2 cs hcs ih =>
      -- `\r` on its own
      cases cs with
      | nil => rfl
      | cons d cs =>
          have hd (rest : List Char) : (d :: cs ++ rest).head? ≠ some '\n' := by
            intro h
            cases h
            exact hcs cs rfl
          have hsame : universalNewlines ('\r' :: (d :: cs ++ '\n' :: v)) =
              universalNewlines ('\r' :: (d :: cs ++ ['\n'])) ++ universalNewlines v := by
            rw [universalNewlines_return (hd _), universalNewlines_return (hd _), ih]
            rfl
          exact hsame
  | case3 c cs _ hc ih =>
      rw [List.cons_append, List.cons_append, universalNewlines_cons hc, universalNewlines_cons hc,
        ih]
      rfl
  | case4 => rfl

/-- A text without carriage returns is read as it is. -/
theorem universalNewlines_append {cs : List Char} (h : '\r' ∉ cs) (v : List Char) :
    universalNewlines (cs ++ v) = cs ++ universalNewlines v := by
  induction cs with
  | nil => rfl
  | cons c cs ih =>
      rw [List.mem_cons, not_or] at h
      rw [List.cons_append, universalNewlines_cons (Ne.symm h.1), ih h.2]
      rfl

/-- A part of a marker as it is read, with the line break after it. -/
def partLines (part : String) : List Char := universalNewlines (part.toList ++ ['\n'])

/-- It ends with the line break. -/
theorem exists_partLines (part : String) : ∃ cs, partLines part = cs ++ ['\n'] := by
  unfold partLines
  generalize part.toList = cs
  -- the text may end with a carriage return, which would take the line break with it
  fun_induction universalNewlines cs with
  | case1 cs ih =>
      obtain ⟨ds, hds⟩ := ih
      exact ⟨'\n' :: ds, by rw [List.cons_append, List.cons_append, universalNewlines, hds]; rfl⟩
  | case2 cs hcs ih =>
      cases cs with
      | nil => exact ⟨[], rfl⟩
      | cons d cs =>
          have hd : (d :: cs ++ ['\n']).head? ≠ some '\n' := by
            intro h
            cases h
            exact hcs cs rfl
          obtain ⟨ds, hds⟩ := ih
          exact ⟨'\n' :: ds, by rw [List.cons_append, universalNewlines_return hd, hds]; rfl⟩
  | case3 c cs _ hc ih =>
      obtain ⟨ds, hds⟩ := ih
      exact ⟨c :: ds, by rw [List.cons_append, universalNewlines_cons hc, hds]; rfl⟩
  | case4 => exact ⟨[], rfl⟩

/-- What is found in a part and in the lines after it. -/
theorem findTickets_partLines (part : String) {v : List Char} (hv : StartsApart v) (first : Bool) :
    findTickets first (partLines part ++ v) =
      findTickets first (partLines part) ++ findTickets true v := by
  obtain ⟨cs, hcs⟩ := exists_partLines part
  rw [hcs, List.append_assoc]
  exact findTickets_append_newline hv first

/-! ## The marker's text -/

/-- A text that can stand in a line. -/
def InLine (cs : List Char) : Prop := '\n' ∉ cs ∧ '\r' ∉ cs

/-- Two texts stand in a line if each of them does. -/
theorem inLine_append {xs ys : List Char} : InLine (xs ++ ys) ↔ InLine xs ∧ InLine ys := by
  simp only [InLine, List.mem_append, not_or]
  tauto

/-- A number is written in digits, which break no line. -/
theorem inLine_padZeros (width n : ℕ) : InLine (padZeros width n).toList := by
  -- zeros on the left, digits on the right
  have hdigit : ∀ c ∈ (padZeros width n).toList, c.isDigit = true := by
    intro c hc
    rw [padZeros, String.toList_ofList, List.leftpad, List.mem_append] at hc
    rcases hc with hc | hc
    · rw [List.eq_of_mem_replicate hc]
      rfl
    · exact Nat.isDigit_of_mem_toDigits (by decide) (by decide) hc
  exact ⟨fun h => absurd (hdigit _ h) (by decide), fun h => absurd (hdigit _ h) (by decide)⟩

/-- A time stands in a line. -/
theorem inLine_isoformat (t : UtcTime) : InLine t.isoformat.toList := by
  have hmark (s : String) (h : (s.toList.contains '\n' || s.toList.contains '\r') = false) :
      InLine s.toList := by
    simpa [InLine] using h
  unfold UtcTime.isoformat
  simp only [String.toList_append, inLine_append]
  refine ⟨⟨⟨⟨⟨⟨⟨⟨⟨⟨⟨inLine_padZeros _ _, ?_⟩, inLine_padZeros _ _⟩, ?_⟩, inLine_padZeros _ _⟩, ?_⟩,
    inLine_padZeros _ _⟩, ?_⟩, inLine_padZeros _ _⟩, ?_⟩, inLine_padZeros _ _⟩, ?_⟩
  all_goals exact hmark _ (by decide)

/-- A text is read line by line. -/
theorem universalNewlines_join (lines : List String) :
    universalNewlines (String.join (lines.map (· ++ "\n"))).toList = lines.flatMap partLines := by
  have hbreak : "\n".toList = ['\n'] := rfl
  rw [String.toList_join, List.flatMap_map]
  induction lines with
  | nil => rfl
  | cons line lines ih =>
      rw [List.flatMap_cons, List.flatMap_cons, ← ih, String.toList_append, hbreak,
        List.append_assoc, List.singleton_append]
      exact universalNewlines_append_newline _ _

/-- A line that begins with a label. -/
theorem partLines_append {label : String} (h : '\r' ∉ label.toList) (part : String) :
    partLines (label ++ part) = label.toList ++ partLines part := by
  rw [partLines, String.toList_append, List.append_assoc, universalNewlines_append h]
  rfl

/-- A line that reads unlike the ticket's. -/
structure Unlike (line : String) : Prop where
  inLine : InLine line.toList
  none : ∀ v, ticketLineAt (line.toList ++ '\n' :: v) = none

/-- A text that stands in a line is read as it is, with its line break. -/
theorem partLines_inLine {line : String} (h : InLine line.toList) (v : List Char) :
    partLines line ++ v = line.toList ++ '\n' :: v := by
  rw [partLines, ← List.append_nil (line.toList ++ ['\n']), List.append_assoc,
    universalNewlines_append h.2, List.append_assoc]
  rfl

/-- Nothing is found in lines that read unlike the ticket's. -/
theorem findTickets_unlike {lines : List String} (h : ∀ line ∈ lines, Unlike line) (v : List Char) :
    findTickets true (lines.flatMap partLines ++ v) = findTickets true v := by
  -- line by line
  induction lines with
  | nil => rfl
  | cons line lines ih =>
      have hline := h line (List.mem_cons_self ..)
      rw [List.flatMap_cons, List.append_assoc, partLines_inLine hline.inLine,
        findTickets_line hline.inLine.1, hline.none, ih fun l hl => h l (List.mem_cons_of_mem _ hl)]
      rfl

/-- The heading and the lines about deletion read unlike the ticket's, whatever its key. -/
theorem unlike_headLines {ticket : Ticket} (hkey : InLine ticket.key.toList) :
    ∀ line ∈ headLines ticket, Unlike line := by
  intro line hline
  simp only [headLines, List.mem_cons, List.not_mem_nil, or_false] at hline
  rcases hline with rfl | rfl | rfl | rfl | rfl
  · -- the heading has the key in it
    refine ⟨?_, fun _ => ?_⟩
    · rw [String.toList_append, inLine_append]
      exact ⟨⟨by decide, by decide⟩, hkey⟩
    · rw [String.toList_append]
      rfl
  · exact ⟨⟨by decide, by decide⟩, fun _ => rfl⟩
  · exact ⟨⟨by decide, by decide⟩, fun _ => rfl⟩
  · exact ⟨⟨by decide, by decide⟩, fun _ => rfl⟩
  · exact ⟨⟨by decide, by decide⟩, fun _ => rfl⟩

/-- The line with the time reads unlike the ticket's. -/
theorem unlike_released (released : UtcTime) : Unlike ("- Released: " ++ released.isoformat) := by
  refine ⟨?_, fun _ => ?_⟩
  · rw [String.toList_append, inLine_append]
    exact ⟨⟨by decide, by decide⟩, inLine_isoformat released⟩
  · rw [String.toList_append]
    rfl

/-- What is found in a part behind a label, and in the lines after it. -/
theorem findTickets_labelled {label : String} (hlabel : InLine label.toList)
    (hnone : ∀ cs, ticketLineAt (label.toList ++ cs) = none) (hne : label.toList ≠ [])
    (part : String) {v : List Char} (hv : StartsApart v) :
    findTickets true (partLines (label ++ part) ++ v) =
      findTickets false (partLines part) ++ findTickets true v := by
  rw [partLines_append hlabel.2, List.append_assoc, findTickets_after hlabel.1 hne (hnone _),
    findTickets_partLines part hv]

/-- The lines with the note. -/
theorem findTickets_note (note : String) :
    findTickets true ((if note = "" then [] else ["", "## Note", "", note]).flatMap partLines) =
      if note = "" then [] else findTickets true (partLines note) := by
  by_cases hnote : note = ""
  · rw [if_pos hnote, if_pos hnote]
    rfl
  · rw [if_neg hnote, if_neg hnote]
    have hlines : ["", "## Note", "", note] = ["", "## Note", ""] ++ [note] := rfl
    have hunlike : ∀ line ∈ ["", "## Note", ""], Unlike line := by
      intro line hline
      simp only [List.mem_cons, List.not_mem_nil, or_false] at hline
      rcases hline with rfl | rfl | rfl
      · exact ⟨⟨by decide, by decide⟩, fun _ => rfl⟩
      · exact ⟨⟨by decide, by decide⟩, fun _ => rfl⟩
      · exact ⟨⟨by decide, by decide⟩, fun _ => rfl⟩
    rw [hlines, List.flatMap_append, findTickets_unlike hunlike, List.flatMap_singleton]

/-- No key follows the line of the branch: there is nothing, or an empty line and a heading. -/
theorem startsApart_note (note : String) :
    StartsApart ((if note = "" then [] else ["", "## Note", "", note]).flatMap partLines) := by
  by_cases hnote : note = ""
  · rw [if_pos hnote]
    rfl
  · rw [if_neg hnote]
    rfl

/-- What is found in a marker: its own line, and what its parts add. -/
theorem findTickets_markerText {ticket : Ticket} (hkey : InLine ticket.key.toList)
    (released : UtcTime) (path branch note : String) :
    ∃ v, StartsApart v ∧
      findTickets true (universalNewlines (markerText ticket released path branch note).toList) =
        (ticketLineAt ("- Ticket: ".toList ++ ticket.key.toList ++ '\n' :: v)).toList ++
          (findTickets false (partLines path) ++ (findTickets false (partLines branch) ++
            if note = "" then [] else findTickets true (partLines note))) := by
  have hown : InLine ("- Ticket: " ++ ticket.key).toList := by
    rw [String.toList_append, inLine_append]
    exact ⟨⟨by decide, by decide⟩, hkey⟩
  have hreleased : ∀ line ∈ ["- Released: " ++ released.isoformat], Unlike line := by
    intro line hline
    rw [List.mem_singleton.1 hline]
    exact unlike_released released
  obtain ⟨below, hbelow⟩ : ∃ below,
      below = (if note = "" then [] else ["", "## Note", "", note]).flatMap partLines := ⟨_, rfl⟩
  obtain ⟨more, hmore⟩ : ∃ more, more = ["- Released: " ++ released.isoformat].flatMap partLines ++
      (partLines ("- Path: " ++ path) ++ (partLines ("- Branch: " ++ branch) ++ below)) := ⟨_, rfl⟩
  -- the lines in three groups: before the ticket's, its own, and after it
  have hlines : (markerLines ticket released path branch note).flatMap partLines =
      (headLines ticket).flatMap partLines ++ (partLines ("- Ticket: " ++ ticket.key) ++ more) := by
    simp only [markerLines, hmore, hbelow, List.flatMap_append, List.flatMap_cons, List.flatMap_nil,
      List.append_assoc, List.nil_append]
  have hapart : StartsApart more := by
    rw [hmore, List.flatMap_singleton, partLines_append (by decide)]
    rfl
  have hbranch : StartsApart (partLines ("- Branch: " ++ branch) ++ below) := by
    rw [partLines_append (by decide)]
    rfl
  -- the path and the branch stand behind a label, the note stands for itself
  have hfound : findTickets true more = findTickets false (partLines path) ++
      (findTickets false (partLines branch) ++
        if note = "" then [] else findTickets true (partLines note)) := by
    rw [hmore, findTickets_unlike hreleased,
      findTickets_labelled ⟨by decide, by decide⟩ (fun _ => rfl) (by decide) path hbranch,
      findTickets_labelled ⟨by decide, by decide⟩ (fun _ => rfl) (by decide) branch
        (hbelow ▸ startsApart_note note), hbelow, findTickets_note]
  refine ⟨more, hapart, ?_⟩
  rw [markerText, universalNewlines_join, hlines, findTickets_unlike (unlike_headLines hkey),
    partLines_inLine hown, findTickets_line hown.1, String.toList_append, hfound]

/-! ## Keys -/

/-- The key as it is written, `TEAM-1`. -/
theorem toList_key (t : Ticket) : t.key.toList = t.team.toList ++ '-' :: t.number.toList := by
  have hdash : "-".toList = ['-'] := rfl
  rw [Ticket.key, String.toList_append, String.toList_append, hdash, List.append_assoc,
    List.singleton_append]

/-- A character of a team's key in upper case is a letter or a digit, or none of ASCII. -/
theorem upperKeyChar_cases {c : Char} (h : isLetterFolded c = true ∨ c.isDigit = true) :
    (isKeyChar (upperKeyChar c) = true ∧ (upperKeyChar c).toUpper = upperKeyChar c ∧
        (isLetterFolded c = true → isLetter (upperKeyChar c) = true)) ∨
      128 ≤ (upperKeyChar c).toNat := by
  have hascii : ∀ n : Fin 128, isLetterFolded (Char.ofNat n) = true ∨
      (Char.ofNat n).isDigit = true → isKeyChar (upperKeyChar (Char.ofNat n)) = true ∧
        (upperKeyChar (Char.ofNat n)).toUpper = upperKeyChar (Char.ofNat n) ∧
        (isLetterFolded (Char.ofNat n) = true → isLetter (upperKeyChar (Char.ofNat n)) = true) := by
    decide +kernel
  by_cases hlt : c.toNat < 128
  · -- in ASCII every case can be looked at
    have hcode := hascii ⟨c.toNat, hlt⟩
    simp only [Char.ofNat_toNat] at hcode
    exact Or.inl (hcode h)
  · -- the four other characters that the pattern takes for letters, ignoring case
    have hmore : [0x130, 0x131, 0x17F, 0x212A].contains c.toNat = true := by
      rcases h with h | h
      · rcases Bool.or_eq_true_iff.1 h with hletter | hmore
        · have hrange := toNat_of_isLetter hletter
          omega
        · exact hmore
      · rw [Char.isDigit_iff_toNat] at h
        have hnine : '9'.toNat = 57 := rfl
        omega
    simp only [List.contains_cons, List.contains_nil, Bool.or_false, Bool.or_eq_true,
      beq_iff_eq] at hmore
    rw [← Char.ofNat_toNat c]
    rcases hmore with hc | hc | hc | hc
    · rw [hc]
      exact Or.inr (by decide)
    · rw [hc]
      exact Or.inl (by decide)
    · rw [hc]
      exact Or.inl (by decide)
    · rw [hc]
      exact Or.inr (by decide)

/-- ASCII characters stay in ASCII in upper case, and digits as they are. -/
theorem toUpper_ascii {c : Char} (h : c.toNat < 128) :
    c.toUpper.toNat < 128 ∧ (c.isDigit = true → c.toUpper = c) := by
  have hascii : ∀ n : Fin 128, (Char.ofNat n).toUpper.toNat < 128 ∧
      ((Char.ofNat n).isDigit = true → (Char.ofNat n).toUpper = Char.ofNat n) := by decide +kernel
  have hcode := hascii ⟨c.toNat, h⟩
  simpa only [Char.ofNat_toNat] using hcode

/-- A digit is in ASCII. -/
theorem toNat_of_isDigit {c : Char} (h : c.isDigit = true) : c.toNat < 128 := by
  rw [Char.isDigit_iff_toNat] at h
  have hnine : '9'.toNat = 57 := rfl
  omega

/-- A character that the pattern takes for a team's key is in ASCII. -/
theorem toNat_of_isKeyChar {c : Char} (h : isKeyChar c = true) : c.toNat < 128 := by
  rcases Bool.or_eq_true_iff.1 h with hletter | hdigit
  · have hrange := toNat_of_isLetter hletter
    omega
  · exact toNat_of_isDigit hdigit

/-- What the pattern takes for a key is in ASCII. -/
theorem IsKey.ascii {key : List Char} (h : IsKey key) : ∀ c ∈ key, c.toNat < 128 := by
  obtain ⟨team, number, rfl, -, hteam, -, hdigits⟩ := h
  intro c hc
  rcases List.mem_append.1 hc with hc | hc
  · exact toNat_of_isKeyChar (hteam c hc)
  · rcases List.mem_cons.1 hc with rfl | hc
    · decide
    · exact toNat_of_isDigit (hdigits c hc)

/-- Whatever is found in a text is a key for the pattern. -/
theorem isKey_of_mem_findTickets {first : Bool} {cs key : List Char}
    (h : key ∈ findTickets first cs) : IsKey key := by
  induction cs generalizing first with
  | nil => cases h
  | cons c cs ih =>
      rw [findTickets, List.mem_append] at h
      -- it is found here, or further on
      rcases h with h | h
      · cases first with
        | false => cases h
        | true =>
            rw [if_pos rfl, Option.mem_toList] at h
            obtain ⟨_, _, _, _, hkey, _⟩ := ticketLineAt_eq_some_iff.1 h
            exact hkey
      · exact ih h

section Accepted

variable {ticket : Ticket} {word : List Char}

/-- An accepted ticket's key stands in a line. -/
theorem Ticket.Accepted.inLine (h : ticket.Accepted word) : InLine ticket.key.toList := by
  have hchar : ∀ c ∈ ticket.key.toList, isKeyChar c = true ∨ 128 ≤ c.toNat ∨ c = '-' := by
    intro c hc
    rw [toList_key, List.mem_append, List.mem_cons] at hc
    rcases hc with hc | hc | hc
    · rw [h.team] at hc
      obtain ⟨d, hd, rfl⟩ := List.mem_map.1 hc
      rcases upperKeyChar_cases (h.word d hd) with hd | hd
      · exact Or.inl hd.1
      · exact Or.inr (Or.inl hd)
    · exact Or.inr (Or.inr hc)
    · exact Or.inl (Bool.or_eq_true_iff.2 (Or.inr (h.digits c hc)))
  exact ⟨fun hc => absurd (hchar _ hc) (by decide), fun hc => absurd (hchar _ hc) (by decide)⟩

/-- A key in ASCII is one for the pattern. -/
theorem Ticket.Accepted.isKey (h : ticket.Accepted word)
    (hascii : ∀ c ∈ ticket.team.toList, c.toNat < 128) :
    IsKey ticket.key.toList ∧ ticket.key.toList.map Char.toUpper = ticket.key.toList := by
  -- in ASCII only the first of the two cases is left
  have hupper : ∀ c ∈ word, isKeyChar (upperKeyChar c) = true ∧
      (upperKeyChar c).toUpper = upperKeyChar c ∧
      (isLetterFolded c = true → isLetter (upperKeyChar c) = true) := by
    intro c hc
    rcases upperKeyChar_cases (h.word c hc) with hcase | hcase
    · exact hcase
    · have hlt := hascii (upperKeyChar c) (h.team ▸ List.mem_map_of_mem hc)
      omega
  constructor
  · refine ⟨ticket.team.toList, ticket.number.toList, toList_key ticket, ?_, ?_, h.positive,
      h.digits⟩
    · have hletter := h.letter
      rw [h.team, List.head?_map]
      cases word with
      | nil => cases hletter
      | cons c word => exact (hupper c (List.mem_cons_self ..)).2.2 hletter
    · intro c hc
      rw [h.team] at hc
      obtain ⟨d, hd, rfl⟩ := List.mem_map.1 hc
      exact (hupper d hd).1
  · have hmap : ∀ c ∈ ticket.key.toList, c.toUpper = c := by
      intro c hc
      rw [toList_key, List.mem_append, List.mem_cons] at hc
      rcases hc with hc | rfl | hc
      · rw [h.team] at hc
        obtain ⟨d, hd, rfl⟩ := List.mem_map.1 hc
        exact (hupper d hd).2.1
      · rfl
      · exact (toUpper_ascii (toNat_of_isDigit (h.digits c hc))).2 (h.digits c hc)
    rw [List.map_congr_left hmap, List.map_id']

end Accepted

/-! ## What is read back -/

/-- Nothing but the ticket's own line reads like it. -/
structure Legible (ticket : Ticket) (path branch note : String) : Prop where
  ascii : ∀ c ∈ ticket.team.toList, c.toNat < 128
  path : ¬ HasTicketLine false (partLines path)
  branch : ¬ HasTicketLine false (partLines branch)
  note : note = "" ∨ ¬ HasTicketLine true (partLines note)

/-- A marker gives a ticket if and only if one line matches, with this key in upper case. -/
theorem markerTicketOf_text_iff {path content key : String} :
    markerTicketOf path (.text content) = .ok (some key) ↔
      ∃ found, findTickets true (universalNewlines content.toList) = [found] ∧
        String.ofList (found.map Char.toUpper) = key := by
  unfold markerTicketOf
  dsimp only
  split
  · -- one match
    rename_i found hfound
    rw [hfound]
    constructor
    · intro h
      exact ⟨found, rfl, Option.some.inj (Except.ok.inj h)⟩
    · rintro ⟨found', hsame, rfl⟩
      cases hsame
      rfl
  · -- none, or more than one: a marker that nobody can read
    rename_i hmany
    constructor
    · intro h
      cases h
    · rintro ⟨found, hfound, -⟩
      exact (hmany found hfound).elim

/-- A marker gives back its ticket if and only if no part of it reads like the ticket's line. -/
theorem markerTicketOf_markerText_iff {ticket : Ticket} {word : List Char}
    (haccepted : ticket.Accepted word) (file : String) (released : UtcTime)
    (path branch note : String) :
    markerTicketOf file (.text (markerText ticket released path branch note)) =
      .ok (some ticket.key) ↔ Legible ticket path branch note := by
  obtain ⟨v, hv, hfound⟩ := findTickets_markerText haccepted.inLine released path branch note
  -- nothing is found in a part that does not read like the ticket's line
  have hparts : (findTickets false (partLines path) ++ (findTickets false (partLines branch) ++
      if note = "" then [] else findTickets true (partLines note))) = [] ↔
        ¬ HasTicketLine false (partLines path) ∧ ¬ HasTicketLine false (partLines branch) ∧
          (note = "" ∨ ¬ HasTicketLine true (partLines note)) := by
    rw [List.append_eq_nil_iff, List.append_eq_nil_iff, findTickets_eq_nil_iff,
      findTickets_eq_nil_iff]
    refine and_congr Iff.rfl (and_congr Iff.rfl ?_)
    by_cases hnote : note = ""
    · simp [hnote]
    · rw [if_neg hnote, findTickets_eq_nil_iff, or_iff_right hnote]
  -- the marker's own line, which a key in ASCII matches
  have hown (hascii : ∀ c ∈ ticket.team.toList, c.toNat < 128) :
      ticketLineAt ("- Ticket: ".toList ++ ticket.key.toList ++ '\n' :: v) =
        some ticket.key.toList := by
    rw [ticketLineAt_newline_iff hv]
    refine ⟨[' '], [], ?_, ?_, (haccepted.isKey hascii).1, Or.inl rfl⟩
    · rw [List.append_nil]
      rfl
    · intro c hc
      rw [List.mem_singleton.1 hc]
      decide
  rw [markerTicketOf_text_iff, hfound]
  constructor
  · -- the key that is read back is in ASCII, and so the ticket's is
    rintro ⟨found, hone, hkey⟩
    have hmem : found ∈ findTickets true
        (universalNewlines (markerText ticket released path branch note).toList) := by
      rw [hfound, hone]
      exact List.mem_singleton.2 rfl
    have hascii : ∀ c ∈ ticket.team.toList, c.toNat < 128 := by
      intro c hc
      have hckey : c ∈ ticket.key.toList := by
        rw [toList_key]
        exact List.mem_append_left _ hc
      rw [← hkey, String.toList_ofList] at hckey
      obtain ⟨d, hd, rfl⟩ := List.mem_map.1 hckey
      exact (toUpper_ascii ((isKey_of_mem_findTickets hmem).ascii d hd)).1
    rw [hown hascii] at hone
    obtain ⟨hpath, hbranch, hnote⟩ := hparts.1 (List.cons.inj hone).2
    exact ⟨hascii, hpath, hbranch, hnote⟩
  · rintro ⟨hascii, hpath, hbranch, hnote⟩
    refine ⟨ticket.key.toList, ?_, ?_⟩
    · rw [hown hascii, hparts.2 ⟨hpath, hbranch, hnote⟩]
      rfl
    · rw [(haccepted.isKey hascii).2, String.ofList_toList]

/-! ## Runs of `mark_worktree` -/

section Runs

variable {Commit : Type}

/-- A command that reports only looks. -/
theorem looks_report {α : Type} (command : String) (f : World Commit → α) :
    Looks (report command f) :=
  Interleaved.looks_read _

/-- A refusal changes nothing. -/
theorem looks_refuse (c : Prop) [Decidable c] (e : Failure) :
    Looks (refuse c e : Script Commit Unit) := by
  unfold refuse
  split
  · exact Interleaved.looks_throw e
  · exact Interleaved.looks_pure ()

/-- The default branch is only read. -/
theorem looks_defaultBranch : Looks (defaultBranch : Script Commit String) := by
  refine (looks_report _ _).bind fun names => ?_
  split
  · exact Interleaved.looks_pure _
  · exact Interleaved.looks_throw _

/-- The pull requests are only read. -/
theorem looks_noPr (branch : String) : Looks (noPr branch : Script Commit Unit) :=
  (Interleaved.looks_read _).bind fun _ => looks_refuse _ _

variable (root argument : String) (ticket : Ticket)

/-- The checks of the worktree only look. -/
theorem looks_checkedTree :
    Looks (checkedTree root argument ticket : Script Commit (String × String)) := by
  unfold checkedTree
  refine (Interleaved.looks_read _).bind fun path => (looks_report _ _).bind fun actual =>
    (looks_refuse _ _).bind fun _ => (looks_report _ _).bind fun ownCommon =>
    (looks_report _ _).bind fun targetCommon => (looks_report _ _).bind fun targetGit =>
    (looks_refuse _ _).bind fun _ => (looks_refuse _ _).bind fun _ =>
    (looks_report _ _).bind fun trees => (Interleaved.looks_read _).bind fun resolve => ?_
  split
  · exact looks_defaultBranch.bind fun _ => (looks_refuse _ _).bind fun _ =>
      Interleaved.looks_pure _
  · exact Interleaved.looks_throw _

/-- A command that succeeds reports what holds of the repository. -/
theorem report_ok {α : Type} {command : String} {f : World Commit → α} {w : World Commit} {a : α}
    (h : ((report command f).alone w).2.1 = .ok a) : a = f w := by
  unfold report at h
  rw [Interleaved.alone_read] at h
  dsimp only at h
  split at h
  · cases h
  · exact (Except.ok.inj h).symm

/-- A script goes on where there is no reason to refuse. -/
theorem refuse_ok {c : Prop} [Decidable c] {e : Failure} {w : World Commit}
    (h : ((refuse c e).alone w).2.1 = .ok ()) : ¬ c := by
  unfold refuse at h
  split at h
  · cases h
  · assumption

variable {root argument ticket} {w : World Commit} {path branch : String}

/-- What is known of a worktree that may be touched: it is the only one at its path, and its
branch is named after the ticket. -/
theorem checkedTree_ok
    (h : ((checkedTree root argument ticket).alone w).2.1 = .ok (path, branch)) :
    matches_ branch ticket = true ∧
      ∃ listed, (w.worktrees.filter fun tree => w.resolve tree.path = some path) =
        [⟨listed, some branch⟩] := by
  unfold checkedTree at h
  -- one after the other, each check lets the script go on
  obtain ⟨found, -, h⟩ := (Interleaved.looks_read _).bind_eq_ok.1 h
  obtain ⟨_, -, h⟩ := (looks_report _ _).bind_eq_ok.1 h
  obtain ⟨_, -, h⟩ := (looks_refuse _ _).bind_eq_ok.1 h
  obtain ⟨_, -, h⟩ := (looks_report _ _).bind_eq_ok.1 h
  obtain ⟨_, -, h⟩ := (looks_report _ _).bind_eq_ok.1 h
  obtain ⟨_, -, h⟩ := (looks_report _ _).bind_eq_ok.1 h
  obtain ⟨_, -, h⟩ := (looks_refuse _ _).bind_eq_ok.1 h
  obtain ⟨_, -, h⟩ := (looks_refuse _ _).bind_eq_ok.1 h
  obtain ⟨trees, htrees, h⟩ := (looks_report _ _).bind_eq_ok.1 h
  obtain ⟨resolve, hresolve, h⟩ := (Interleaved.looks_read _).bind_eq_ok.1 h
  rw [Interleaved.alone_read] at hresolve
  cases hresolve
  rw [report_ok htrees] at h
  split at h
  · rename_i listed name hlisted
    obtain ⟨default, -, h⟩ := looks_defaultBranch.bind_eq_ok.1 h
    obtain ⟨_, hrefuse, h⟩ := (looks_refuse _ _).bind_eq_ok.1 h
    have hallowed := refuse_ok hrefuse
    cases h
    rw [not_or, Bool.not_eq_false] at hallowed
    exact ⟨hallowed.2, listed, hlisted⟩
  · cases h

variable {note : String} {released : UtcTime} {site site' : Site Commit}

/-- The pieces that are written one after the other make up the text, unless there is an error. -/
theorem alone_writePieces_ok {path : String} {pieces : List String} {done : String}
    (hopened : site.opened = some path) (htext : site.markers path = .text done)
    (h : ((writePieces done pieces).alone site).2 = (.ok (), site')) :
    site' = { site.put path (.text (done ++ String.join pieces)) with opened := none } := by
  -- the pieces written so far are in the file, and the next one goes behind them
  induction pieces generalizing done site with
  | nil =>
      rw [writePieces, closeFile, Interleaved.alone_atomic] at h
      have hsame : site.put path (.text (done ++ String.join [])) = site := by
        rw [String.join_nil, String.append_empty, ← htext]
        exact site.put_same path
      rw [hsame]
      split at h
      · cases h
      · cases h
        rfl
  | cons piece pieces ih =>
      rw [writePieces, Interleaved.alone_bind_eq_ok] at h
      obtain ⟨_, written, hwrite, h⟩ := h
      rw [writePiece, Interleaved.alone_atomic, Site.openFile, hopened] at hwrite
      dsimp only at hwrite
      rw [htext] at hwrite
      split at hwrite
      · cases hwrite
      · rename_i file hfile
        cases hwrite
        have hstored : site.store file = site.put path (.text (done ++ piece)) := by
          rw [Site.store, hopened, site.disk.appends done piece file hfile]
        rw [hstored] at h
        have hopen : (site.put path (.text (done ++ piece))).opened = some path := hopened
        rw [ih hopen (site.put_markers path _) h, site.put_put, String.join_cons,
          String.append_assoc]

/-- A marker that has been created holds its text. -/
theorem alone_createMarker_ok {path content : String}
    (h : ((createMarker path content).alone site).2 = (.ok (), site')) :
    site' = { site.put path (.text content) with opened := none } := by
  rw [createMarker, Interleaved.alone_bind_eq_ok] at h
  obtain ⟨_, created, hopen, h⟩ := h
  rw [openExclusive, Interleaved.alone_atomic, Site.create] at hopen
  split at hopen
  · cases hopen
  · -- the file is empty and open, where the pieces go one after the other
    have hcreated : created.opened = some path ∧ created.markers path = .text "" ∧
        created.disk = site.disk ∧ ∀ file, { created.put path file with opened := none } =
          ({ site.put path file with opened := none } : Site Commit) := by
      cases hopen
      refine ⟨rfl, site.put_markers path _, rfl, ?_⟩
      intro file
      exact congrArg (fun site : Site Commit => { site with opened := none })
        (site.put_put path _ _)
    obtain ⟨hopened, htext, hdisk, hput⟩ := hcreated
    rw [writeMarker, Interleaved.alone_bind_eq_ok] at h
    obtain ⟨pieces, _, hcut, h⟩ := h
    rw [Interleaved.alone_read] at hcut
    cases hcut
    rw [alone_writePieces_ok hopened htext h, hput, hdisk, site.disk.whole, String.empty_append]

/-- What a run of `mark_worktree` on its own has done. -/
theorem alone_markWorktree :
    ((markWorktree root argument ticket note released).alone site).2 =
      match ((checkedTree root argument ticket).alone site.world).2.1 with
      | .error e => (.error e, site)
      | .ok (path, branch) =>
        match ((noPr branch).alone site.world).2.1 with
        | .error e => (.error e, site)
        | .ok () =>
          match markerTicketOf path (site.markers path) with
          | .error e => (.error e, site)
          | .ok (some prior) =>
              if prior ≠ ticket.key then (.error ⟨"Refusing conflicting stranded marker", 1⟩, site)
              else (.ok .already, site)
          | .ok none =>
              match ((createMarker path (markerText ticket released path branch note)).alone
                site).2 with
              | (.ok (), site') => (.ok .wrote, site')
              | (.error e, site') => (.error e, site') := by
  have hwithin {α : Type} {p : Script Commit α} (hp : Looks p) :
      ((onWorld p).alone site).2 = ((p.alone site.world).2.1, site) :=
    Interleaved.alone_within (fun _ => rfl) hp site
  unfold markWorktree
  rw [Interleaved.alone_bind, hwithin (looks_checkedTree root argument ticket)]
  -- the checks of the worktree
  rcases ((checkedTree root argument ticket).alone site.world).2.1 with e | ⟨path, branch⟩
  · rfl
  · dsimp only
    rw [Interleaved.alone_bind, hwithin (looks_noPr branch)]
    -- the pull requests
    rcases ((noPr branch).alone site.world).2.1 with e | ⟨⟩
    · rfl
    · dsimp only
      rw [Interleaved.alone_bind, Interleaved.alone_read]
      -- the marker that is there
      rcases markerTicketOf path (site.markers path) with e | prior
      · rfl
      · dsimp only
        cases prior with
        | some prior =>
            dsimp only
            rw [markAfter]
            split
            · rfl
            · rfl
        | none =>
            dsimp only
            rw [markAfter, Interleaved.alone_bind]
            rcases ((createMarker path (markerText ticket released path branch note)).alone
              site).2 with ⟨e | ⟨⟩, site'⟩
            · rfl
            · rfl

/-- A run that writes a marker: it was missing, and nothing else is changed. -/
theorem alone_markWorktree_wrote
    (h : ((markWorktree root argument ticket note released).alone site).2 = (.ok .wrote, site')) :
    ∃ path branch,
      ((checkedTree root argument ticket).alone site.world).2.1 = .ok (path, branch) ∧
        ((noPr branch).alone site.world).2.1 = .ok () ∧
        site' = { site.put path (.text (markerText ticket released path branch note)) with
          opened := none } := by
  rw [alone_markWorktree] at h
  rcases hchecked : ((checkedTree root argument ticket).alone site.world).2.1 with
    e | ⟨path, branch⟩
  · -- a check fails
    rw [hchecked] at h
    cases h
  · rw [hchecked] at h
    dsimp only at h
    refine ⟨path, branch, rfl, ?_⟩
    rcases hpr : ((noPr branch).alone site.world).2.1 with e | ⟨⟩
    · -- there is a pull request
      rw [hpr] at h
      cases h
    · rw [hpr] at h
      dsimp only at h
      refine ⟨rfl, ?_⟩
      split at h
      · cases h
      · split at h
        · cases h
        · cases h
      · split at h
        · rename_i hcreated
          cases h
          exact alone_createMarker_ok hcreated
        · cases h

/-- What `marker_ticket` looks at for a worktree as it is listed. -/
def Site.marker (site : Site Commit) (listed : String) : MarkerFile :=
  match site.world.resolve listed with
  | some path => site.markers path
  | none => .missing

/-- The marker at a path is read back: `marker_ticket` gives the ticket, marking the worktree
again changes nothing, and the check counts the worktree as preserved once it gets there. -/
structure ReadsBack (root argument : String) (ticket : Ticket) (path branch : String)
    (site : Site Commit) : Prop where
  key : markerTicketOf path (site.markers path) = .ok (some ticket.key)
  again : ∀ note released,
    ((markWorktree root argument ticket note released).alone site).2 = (.ok .already, site)
  preserved : ∀ excluded before tree after, branch ∉ excluded →
    site.world.worktrees = before ++ tree :: after → site.world.resolve tree.path = some path →
    (scanWorktrees excluded ticket site.marker before).failure = none →
      .preserved tree.entry ∈ (scanWorktrees excluded ticket site.marker site.world.worktrees).found

/-- What is found in a worktree stands, whatever comes before it without a failure. -/
theorem mem_found_append {excluded : List String} {marker : String → MarkerFile}
    {before trees : List Worktree} {finding : Finding}
    (hbefore : (scanWorktrees excluded ticket marker before).failure = none)
    (h : finding ∈ (scanWorktrees excluded ticket marker trees).found) :
    finding ∈ (scanWorktrees excluded ticket marker (before ++ trees)).found := by
  induction before with
  | nil => exact h
  | cons tree before ih =>
      rw [List.cons_append]
      unfold scanWorktrees at hbefore ⊢
      -- a worktree in front is looked at or not, and does not fail
      by_cases hcounts : counts excluded ticket tree.branchName = true
      · rw [if_pos hcounts] at hbefore ⊢
        split at hbefore
        · cases hbefore
        · rename_i marked hmarked
          dsimp only
          have hrest :
              finding ∈ (scanWorktrees excluded ticket marker (before ++ trees)).found := by
            apply ih
            split at hbefore
            · exact hbefore
            · exact hbefore
          split
          · exact List.mem_cons_of_mem _ hrest
          · exact List.mem_cons_of_mem _ hrest
      · rw [if_neg hcounts] at hbefore ⊢
        exact ih hbefore

/-- Marking a worktree that has got the ticket's marker meanwhile. -/
theorem alone_markWorktree_already
    (hchecked : ((checkedTree root argument ticket).alone site.world).2.1 = .ok (path, branch))
    (hpr : ((noPr branch).alone site.world).2.1 = .ok ()) (hworld : site'.world = site.world)
    (hkey : markerTicketOf path (site'.markers path) = .ok (some ticket.key)) :
    ((markWorktree root argument ticket note released).alone site').2 = (.ok .already, site') := by
  rw [alone_markWorktree, hworld, hchecked]
  dsimp only
  rw [hpr]
  dsimp only
  rw [hkey]
  dsimp only
  rw [if_neg (not_not.2 rfl)]

/-- A worktree that is looked at and has the ticket's marker is preserved. -/
theorem preserved_of_marker {excluded : List String} {marker : String → MarkerFile}
    {tree : Worktree} {after : List Worktree}
    (hcounts : counts excluded ticket tree.branchName = true)
    (hkey : markerTicketOf tree.path (marker tree.path) = .ok (some ticket.key)) :
    .preserved tree.entry ∈ (scanWorktrees excluded ticket marker (tree :: after)).found := by
  unfold scanWorktrees
  rw [if_pos hcounts, hkey]
  dsimp only
  rw [if_pos (Or.inr rfl)]
  exact List.mem_cons_self ..

/-- After a run that has written a marker it is read back if and only if its text is legible. -/
theorem mark_worktree_reads_back_iff {word : List Char} (haccepted : ticket.Accepted word)
    (hmark : ((markWorktree root argument ticket note released).alone site).2 =
      (.ok .wrote, site')) :
    ∃ path branch,
      ((checkedTree root argument ticket).alone site.world).2.1 = .ok (path, branch) ∧
        (ReadsBack root argument ticket path branch site' ↔ Legible ticket path branch note) := by
  obtain ⟨path, branch, hchecked, hpr, rfl⟩ := alone_markWorktree_wrote hmark
  refine ⟨path, branch, hchecked, ?_⟩
  have hmarker (file : String) :=
    markerTicketOf_markerText_iff haccepted file released path branch note
  constructor
  · -- a marker that gives its ticket has a legible text
    intro h
    have hkey := h.key
    dsimp only at hkey
    rw [Site.put_markers] at hkey
    exact (hmarker path).1 hkey
  · intro hlegible
    obtain ⟨hmatch, listed, hlisted⟩ := checkedTree_ok hchecked
    have hkey (file : String) := (hmarker file).2 hlegible
    refine ⟨?_, ?_, ?_⟩
    · dsimp only
      rw [Site.put_markers, hkey path]
    · intro note' released'
      refine alone_markWorktree_already hchecked hpr rfl ?_
      dsimp only
      rw [Site.put_markers, hkey path]
    · -- the worktree is listed once, so the scan comes to it and to its marker
      intro excluded before tree after hexcluded htrees hresolve hbefore
      rw [htrees]
      apply mem_found_append hbefore
      have hmem : tree ∈ site.world.worktrees.filter
          fun tree => site.world.resolve tree.path = some path := by
        have hin : tree ∈ site.world.worktrees := by
          have hall : site.world.worktrees = before ++ tree :: after := htrees
          rw [hall]
          exact List.mem_append_right _ (List.mem_cons_self ..)
        rw [List.mem_filter]
        exact ⟨hin, by simpa using hresolve⟩
      rw [hlisted, List.mem_singleton] at hmem
      subst hmem
      refine preserved_of_marker ?_ ?_
      · exact counts_eq_true_iff.2 ⟨hmatch, hexcluded⟩
      unfold Site.marker
      dsimp only [Site.put_world] at hresolve ⊢
      rw [hresolve]
      dsimp only
      rw [Site.put_markers, hkey listed]

/-- A disk that takes every marker, whole. -/
def roomyDisk : Disk where
  create directory there :=
    if there then some ("[Errno 17] File exists: '" ++ directory ++ "/STRANDED.md'") else none
  exclusive _ := rfl
  cut text := [text]
  whole text := by rw [String.join_cons, String.join_nil, String.append_empty]
  write done _ piece := (.text (done ++ piece), none)
  appends done piece file h := (Prod.mk.inj h).1.symm
  close := none

/-- A repository with a linked worktree. -/
def notesSite : Site ℕ where
  world :=
    { remoteRefs _ := none
      remoteHead := ["main"]
      localRefs _ := none
      fetchHead := none
      worktrees := [⟨"/work", some "main"⟩, ⟨"/notes", some "fla-17-notes"⟩]
      pulls := some []
      resolve := some
      directory path :=
        ⟨path, if path = "/notes" then "/work/.git/worktrees/notes" else "/work/.git", "/work/.git"⟩
      marker _ := .ok none
      atomicPush := true
      answered := true
      broken := false
      stderr := "" }
  markers _ := .missing
  opened := none
  disk := roomyDisk

/-- Marking the worktree at New Year. -/
def markNotes (note : String) : Prog (Site ℕ) Failure Marked :=
  markWorktree "/work" "/notes" ⟨"FLA", "17"⟩ note ⟨2026, 1, 1, 0, 0, 0⟩

/-- `fla` and `17` are accepted for FLA-17. -/
theorem accepted_fla17 : Ticket.Accepted ⟨"FLA", "17"⟩ "fla".toList := by
  have hword : "fla".toList.all (fun c => isLetterFolded c || c.isDigit) = true := by decide
  have hnumber : "17".toList.all Char.isDigit = true := by decide
  refine ⟨by decide, by decide, ?_, by decide, List.all_eq_true.1 hnumber⟩
  intro c hc
  exact Bool.or_eq_true_iff.1 (List.all_eq_true.1 hword c hc)

/-- The disk takes every marker whole. -/
theorem alone_createMarker_notes (content : String) :
    ((createMarker "/notes" content).alone notesSite).2 =
      (.ok (), notesSite.put "/notes" (.text content)) := by
  have hcreated : ((createMarker "/notes" content).alone notesSite).2.1 = .ok () := by
    rfl
  have hsite := alone_createMarker_ok (Prod.ext hcreated rfl)
  exact Prod.ext hcreated hsite

/-- The worktree is marked, whatever the note says. -/
theorem alone_markNotes (note : String) :
    ((markNotes note).alone notesSite).2 = (.ok .wrote, notesSite.put "/notes"
      (.text (markerText ⟨"FLA", "17"⟩ ⟨2026, 1, 1, 0, 0, 0⟩ "/notes" "fla-17-notes" note))) := by
  have hchecked : ((checkedTree "/work" "/notes" ⟨"FLA", "17"⟩).alone notesSite.world).2.1 =
      .ok ("/notes", "fla-17-notes") := by
    rfl
  have hpr : ((noPr "fla-17-notes").alone notesSite.world).2.1 = .ok () := by
    rfl
  unfold markNotes
  have hmissing : markerTicketOf "/notes" (notesSite.markers "/notes") = .ok none := by
    rfl
  rw [alone_markWorktree, hchecked]
  dsimp only
  rw [hpr]
  dsimp only
  rw [hmissing]
  dsimp only
  rw [alone_createMarker_notes]

/-- A note of two lines is in nobody's way. -/
theorem mark_worktree_reads_back_iff_notes :
    ReadsBack "/work" "/notes" ⟨"FLA", "17"⟩ "/notes" "fla-17-notes"
      ((markNotes "half done\nsee Ticket: FLA-3").alone notesSite).2.2 := by
  have hmarked : ((markNotes "half done\nsee Ticket: FLA-3").alone notesSite).2 = (.ok .wrote,
      ((markNotes "half done\nsee Ticket: FLA-3").alone notesSite).2.2) := by
    rw [alone_markNotes]
  obtain ⟨path, branch, hchecked, hiff⟩ := mark_worktree_reads_back_iff accepted_fla17 hmarked
  have hnotes : ((checkedTree "/work" "/notes" ⟨"FLA", "17"⟩).alone notesSite.world).2.1 =
      .ok ("/notes", "fla-17-notes") := by
    rfl
  rw [hnotes] at hchecked
  cases hchecked
  have hascii : "FLA".toList.all (fun c => decide (c.toNat < 128)) = true := by decide
  refine hiff.2 ⟨?_, ?_, ?_, .inr ?_⟩
  · intro c hc
    exact of_decide_eq_true (List.all_eq_true.1 hascii c hc)
  · exact findTickets_eq_nil_iff.1 (by decide)
  · exact findTickets_eq_nil_iff.1 (by decide)
  · exact findTickets_eq_nil_iff.1 (by decide)

/-- A note with a line like the ticket's hides the ticket. -/
theorem marker_not_read_back :
    ¬ ∀ (ticket : Ticket) (word : List Char) (note : String) (site' : Site ℕ)
        (path branch : String),
      ticket.Accepted word →
      ((markWorktree "/work" "/notes" ticket note ⟨2026, 1, 1, 0, 0, 0⟩).alone notesSite).2 =
        (.ok .wrote, site') →
      ((checkedTree "/work" "/notes" ticket).alone notesSite.world).2.1 = .ok (path, branch) →
        ReadsBack "/work" "/notes" ticket path branch site' := by
  intro hall
  have hback := hall _ _ "- Ticket: FLA-3" _ "/notes" "fla-17-notes" accepted_fla17
    (alone_markNotes "- Ticket: FLA-3") rfl
  have hkey := hback.key
  rw [Site.put_markers, markerTicketOf_markerText_iff accepted_fla17] at hkey
  -- the note is not empty and has a line of the ticket's kind
  rcases hkey.note with hempty | hnone
  · exact absurd hempty (by decide)
  · have hnil := findTickets_eq_nil_iff.2 hnone
    exact absurd hnil (by decide)

end Runs

end KyomiConnect.TicketWorktrees
