import KyomiConnect.TicketWorktrees

/-! # The in-flight check

`check` of the ticket worktree helpers: whether there is work on a ticket. It looks at the pull
requests, the remote branches, the worktrees and the local branches, each from the output of a
command, and every listing is attempted even if another one failed. Stranded work, under a
`stranded/` name or in a worktree with a marker, is no work in flight.
-/

namespace KyomiConnect.TicketWorktrees

/-! ## Texts -/

/-- What Python takes for white space. -/
def isSpace (c : Char) : Bool :=
  let n := c.toNat
  (0x9 ≤ n && n ≤ 0xD) || (0x1C ≤ n && n ≤ 0x20) || n == 0x85 || n == 0xA0 || n == 0x1680 ||
    (0x2000 ≤ n && n ≤ 0x200A) || n == 0x2028 || n == 0x2029 || n == 0x202F || n == 0x205F ||
    n == 0x3000

/-- `str.strip` -/
def strip (cs : List Char) : List Char :=
  Text.dropEndWhile isSpace (cs.dropWhile isSpace)

/-- Where `str.splitlines` ends a line. -/
def isLineEnd (c : Char) : Bool :=
  let n := c.toNat
  (0xA ≤ n && n ≤ 0xD) || (0x1C ≤ n && n ≤ 0x1E) || n == 0x85 || n == 0x2028 || n == 0x2029

/-- `str.splitlines`, with what has been read of a line. -/
def splitLinesFrom : List Char → List Char → List (List Char)
  | [], [] => []
  | line, [] => [line]
  | line, '\r' :: '\n' :: cs => line :: splitLinesFrom [] cs
  | line, c :: cs =>
      if isLineEnd c then line :: splitLinesFrom [] cs else splitLinesFrom (line ++ [c]) cs

def splitlines (s : String) : List String := (splitLinesFrom [] s.toList).map .ofList

example : splitlines "a\r\nb\n\nc" = ["a", "b", "", "c"] := by decide

/-- What comes after a text at the start. -/
def dropText (pat : String) (cs : List Char) : Option (List Char) :=
  if pat.toList.isPrefixOf cs then some (cs.drop pat.toList.length) else none

/-! ## Markers -/

/-- `[A-Za-z]` -/
def isLetter (c : Char) : Bool := c.isAlpha

/-- `[A-Za-z0-9]` -/
def isKeyChar (c : Char) : Bool := c.isAlphanum

/-- `([A-Za-z][A-Za-z0-9]*-[1-9][0-9]*)\s*$` at the start of a text: the key. The blanks may go
over lines, and end before a line break or with the text. -/
def keyAt (cs : List Char) : Option (List Char) :=
  let team := cs.takeWhile isKeyChar
  if team.head?.any isLetter then
    match cs.dropWhile isKeyChar with
    | '-' :: rest =>
        let number := rest.takeWhile Char.isDigit
        let after := rest.dropWhile Char.isDigit
        if number.head?.any (· ≠ '0') ∧
            (after.dropWhile isSpace = [] ∨ '\n' ∈ after.takeWhile isSpace) then
          some (team ++ '-' :: number)
        else none
    | _ => none
  else none

/-- `- Ticket:\s*` and a key at the start of a line. -/
def ticketLineAt (cs : List Char) : Option (List Char) :=
  (dropText "- Ticket:" cs).bind fun rest => keyAt (rest.dropWhile isSpace)

/-- The keys that `findall` finds; the flag says that a line begins. A match ends before the next
line that one could begin with. -/
def findTickets : Bool → List Char → List (List Char)
  | _, [] => []
  | atStart, c :: cs =>
      (if atStart then (ticketLineAt (c :: cs)).toList else []) ++ findTickets (c == '\n') cs

/-- What reading a file as text makes of its line breaks. -/
def universalNewlines : List Char → List Char
  | '\r' :: '\n' :: cs => '\n' :: universalNewlines cs
  | '\r' :: cs => '\n' :: universalNewlines cs
  | c :: cs => c :: universalNewlines cs
  | [] => []

example : findTickets true "x\n- Ticket: \n fla-1 \n\n- Ticket: 2".toList = ["fla-1".toList] := by
  decide

/-- What is at the marker's path in a worktree. -/
inductive MarkerFile where
  | missing
  | symlink
  | unreadable (error : String)
  | text (content : String)
deriving DecidableEq, Repr

/-- `marker_ticket` -/
def markerTicketOf (path : String) : MarkerFile → Except Failure (Option String)
  | .symlink => .error ⟨"Refusing symlink marker: " ++ path ++ "/STRANDED.md", 3⟩
  | .missing => .ok none
  | .unreadable error =>
      .error ⟨"Cannot read marker " ++ path ++ "/STRANDED.md: " ++ error, 3⟩
  | .text content =>
      match findTickets true (universalNewlines content.toList) with
      | [key] => .ok (some (.ofList (key.map Char.toUpper)))
      | _ =>
          .error ⟨"Marker has no unambiguous ticket field: " ++ path ++ "/STRANDED.md", 3⟩

/-! ## Listings -/

/-- What `json.loads` makes of a text; numbers that are no integers are kept as texts. -/
inductive Value where
  | none
  | bool (b : Bool)
  | int (n : ℤ)
  | float (literal : String)
  | str (s : String)
  | list (items : List Value)
  | dict (items : List (String × Value))

namespace Value

/-- `dict.get` -/
def get (key : String) : Value → Option Value
  | .dict items => (items.find? fun item => item.1 == key).map Prod.snd
  | _ => Option.none

def asInt : Value → Option ℤ
  | .int n => some n
  | _ => Option.none

def asStr : Value → Option String
  | .str s => some s
  | _ => Option.none

def asList : Value → Option (List Value)
  | .list items => some items
  | _ => Option.none

end Value

/-- What the commands print, and the markers. -/
structure Evidence where
  /-- `git config --get remote.REMOTE.url` -/
  remoteUrl : Except Failure String
  /-- `gh api` for a repository -/
  pulls : String → Except Failure String
  /-- `json.loads` -/
  jsonLoads : String → Except String Value
  /-- `git ls-remote --heads` -/
  lsRemote : Except Failure String
  /-- `git worktree list --porcelain -z` -/
  worktreeList : Except Failure String
  /-- `git for-each-ref` of the local branches -/
  forEachRef : Except Failure String
  marker : String → MarkerFile

/-- `[A-Za-z0-9_.-]` -/
def isRepoChar (c : Char) : Bool := c.isAlphanum || c == '_' || c == '.' || c == '-'

/-- `OWNER/NAME` with an optional `.git` and an optional slash behind it. -/
def repoAt (cs : List Char) : Option (List Char) :=
  let cs := if cs.getLast? = some '/' then cs.dropLast else cs
  let owner := cs.takeWhile isRepoChar
  match cs.dropWhile isRepoChar with
  | '/' :: name =>
      let base :=
        if ".git".toList.isSuffixOf name ∧ name.length ≠ 4 then name.take (name.length - 4)
        else name
      if owner ≠ [] ∧ base ≠ [] ∧ base.all isRepoChar then some (owner ++ '/' :: base) else none
  | _ => none

/-- `github_repo` -/
def githubRepo (e : Evidence) (remote : String) : Except Failure String := do
  let output ← e.remoteUrl
  let url := strip output.toList
  let repo := (dropText "git@github.com:" url).or
    ((dropText "ssh://git@github.com/" url).or (dropText "https://github.com/" url))
  match repo.bind repoAt with
  | some repo => return .ofList repo
  | none =>
      throw ⟨"Remote " ++ remote ++ " is not an identifiable GitHub repository: " ++ .ofList url, 3⟩

example : repoAt "example/project.git".toList = some "example/project".toList := by decide

/-- A pull request. -/
structure PullRequest where
  number : ℤ
  state : String
  ref : String
deriving DecidableEq, Repr

/-- A record of the listing, if it is well-formed. -/
def pullRequest (row : Value) : Option PullRequest := do
  let number ← (row.get "number").bind Value.asInt
  let state ← (row.get "state").bind Value.asStr
  let head ← row.get "head"
  let ref ← (head.get "ref").bind Value.asStr
  if (state = "open" ∨ state = "closed") ∧ ref ≠ "" then return { number, state, ref } else none

/-- `pull_requests` -/
def pullListing (e : Evidence) (remote : String) : Except Failure (List PullRequest) := do
  let repo ← githubRepo e remote
  let raw ← e.pulls repo
  match e.jsonLoads raw with
  | .error error => throw ⟨"Incomplete PR listing: " ++ error, 3⟩
  | .ok json =>
      match json.asList.bind fun pages => pages.mapM Value.asList with
      | none => throw ⟨"Incomplete PR listing: expected paginated array of arrays", 3⟩
      | some pages =>
          match pages.flatten.mapM pullRequest with
          | none => throw ⟨"Incomplete PR listing: malformed PR record", 3⟩
          | some rows => return rows

/-- `[a-fA-F0-9]` -/
def isHexDigit (c : Char) : Bool :=
  c.isDigit || ('a' ≤ c && c ≤ 'f') || ('A' ≤ c && c ≤ 'F')

/-- The branch of a line of `git ls-remote --heads`. -/
def remoteRef (line : String) : Option String :=
  let sha := line.toList.takeWhile isHexDigit
  if sha.length = 40 ∨ sha.length = 64 then
    (dropText "\trefs/heads/" (line.toList.dropWhile isHexDigit)).bind fun branch =>
      if branch = [] then none else some (.ofList branch)
  else none

/-- `refs`: the branches of the remote, each once. -/
def remoteListing (e : Evidence) : Except Failure (List String) := do
  let output ← e.lsRemote
  let branches ← (splitlines output).mapM fun line =>
    match remoteRef line with
    | some branch => .ok branch
    | none => .error (⟨"Malformed remote ref: " ++ line, 3⟩ : Failure)
  return branches.eraseDups

/-- A worktree as far as it has been read. -/
structure PartialTree where
  path : Option String := none
  branch : Option String := none

/-- `worktrees`, over the fields that are left; nothing has been read if `current` is none. -/
def readTrees : Option PartialTree → List (List Char) → Except Failure (List Worktree)
  | none, [] => .ok []
  | some _, [] => .error ⟨"Incomplete worktree listing", 3⟩
  | none, [] :: fields => readTrees none fields
  | some ⟨none, _⟩, [] :: _ => .error ⟨"Malformed worktree listing", 3⟩
  | some ⟨some path, branch⟩, [] :: fields =>
      (readTrees none fields).map ({ path, branch } :: ·)
  | current, field :: fields =>
      match dropText "worktree " field with
      | some path =>
          readTrees (some { current.getD {} with path := some (.ofList path) }) fields
      | none =>
          match dropText "branch refs/heads/" field with
          | some branch =>
              readTrees (some { current.getD {} with branch := some (.ofList branch) }) fields
          | none =>
              if (dropText "HEAD " field).isSome ∨ (dropText "locked " field).isSome ∨
                  (dropText "prunable " field).isSome ∨
                  field ∈ ["detached", "bare", "locked", "prunable"].map String.toList then
                readTrees current fields
              else .error ⟨"Malformed worktree field: " ++ .ofList field, 3⟩

/-- `worktrees` -/
def worktreeListing (e : Evidence) : Except Failure (List Worktree) := do
  let raw ← e.worktreeList
  readTrees none (raw.toList.splitOn (Char.ofNat 0))

/-- `local_branches` -/
def localListing (e : Evidence) : Except Failure (List String) := e.forEachRef.map splitlines

/-! ## The check -/

structure CheckArgs where
  remote : String
  self : Option String
  ignoreBranch : List String

/-- The branches that are left out of account. -/
def excludedBranches (args : CheckArgs) (ticket : Ticket) : Except Failure (List String) :=
  match args.self with
  | none => .ok args.ignoreBranch
  | some self =>
      if self = "" then .ok args.ignoreBranch
      else if matches_ self ticket then .ok (self :: args.ignoreBranch)
      else .error ⟨"--self branch must match ticket", 2⟩

/-- What is found out about an entry of a listing. -/
inductive Finding where
  | hit (entry : String)
  | preserved (entry : String)
deriving DecidableEq, Repr

namespace Finding

def hit? : Finding → Option String
  | hit entry => some entry
  | preserved _ => none

def preserved? : Finding → Option String
  | hit _ => none
  | preserved entry => some entry

end Finding

/-- A branch whose name says that its work is stranded. -/
def isStranded (branch : String) : Bool := Text.startsWith branch "stranded/"

variable (excluded : List String) (ticket : Ticket)

/-- A branch that counts. -/
def counts (branch : String) : Bool := matches_ branch ticket && !excluded.contains branch

def pullFinding (row : PullRequest) : Option Finding :=
  if counts excluded ticket row.ref then
    some (.hit ("PR #" ++ toString row.number ++ " (" ++ row.state ++ "): " ++ row.ref))
  else none

def remoteFinding (branch : String) : Option Finding :=
  if isStranded branch && matches_ (.ofList (branch.toList.drop 9)) ticket then
    some (.preserved ("remote branch: " ++ branch))
  else if counts excluded ticket branch then some (.hit ("remote branch: " ++ branch))
  else none

/-- The worktrees: what is found, the branches of those that are stranded, and the failure that
ended the loop early. -/
structure Scan where
  found : List Finding
  tombstoned : List String
  failure : Option Failure

/-- The branch that is checked out in a worktree. -/
def Worktree.branchName (tree : Worktree) : String := tree.branch.getD ""

/-- The name of a worktree in what is printed. -/
def Worktree.entry (tree : Worktree) : String :=
  "worktree " ++ tree.path ++ ": " ++ tree.branchName

def scanWorktrees (marker : String → MarkerFile) : List Worktree → Scan
  | [] => ⟨[], [], none⟩
  | tree :: trees =>
      if counts excluded ticket tree.branchName then
        match markerTicketOf tree.path (marker tree.path) with
        | .error failure => ⟨[], [], some failure⟩
        | .ok marked =>
            let rest := scanWorktrees marker trees
            if isStranded tree.branchName ∨ marked = some ticket.key then
              { rest with
                found := .preserved tree.entry :: rest.found
                tombstoned := tree.branchName :: rest.tombstoned }
            else { rest with found := .hit tree.entry :: rest.found }
      else scanWorktrees marker trees

def localFinding (tombstoned : List String) (branch : String) : Option Finding :=
  if counts excluded ticket branch && !tombstoned.contains branch then
    if isStranded branch then some (.preserved ("local branch: " ++ branch))
    else some (.hit ("local branch: " ++ branch))
  else none

/-- What is found in a listing, and the failure of the listing. -/
def found {α : Type} (finding : α → Option Finding) :
    Except Failure (List α) → List Finding × List Failure
  | .ok rows => (rows.filterMap finding, [])
  | .error failure => ([], [failure])

/-- The worktrees, if their listing succeeds. -/
def scan (marker : String → MarkerFile) : Except Failure (List Worktree) → Scan
  | .ok trees => scanWorktrees excluded ticket marker trees
  | .error failure => ⟨[], [], some failure⟩

/-- What is printed, and the exit code. -/
structure Report where
  preserved : List String
  hits : List String
  errors : List String
  code : ℕ
deriving DecidableEq, Repr

/-- `check` -/
def check (e : Evidence) (args : CheckArgs) : Except Failure Report := do
  let excluded ← excludedBranches args ticket
  let pulls := found (pullFinding excluded ticket) (pullListing e args.remote)
  let remotes := found (remoteFinding excluded ticket) (remoteListing e)
  let trees := scan excluded ticket e.marker (worktreeListing e)
  let locals := found (localFinding excluded ticket trees.tombstoned) (localListing e)
  let findings := pulls.1 ++ remotes.1 ++ trees.found ++ locals.1
  let failures := pulls.2 ++ remotes.2 ++ trees.failure.toList ++ locals.2
  let hits := findings.filterMap Finding.hit?
  return { preserved := findings.filterMap Finding.preserved?, hits
           errors := failures.map Failure.message
           code := if failures ≠ [] then 3 else if hits ≠ [] then 1 else 0 }

/-- The exit code of the helper. -/
def exitCode : Except Failure Report → ℕ
  | .ok report => report.code
  | .error failure => failure.code

/-! ## What a clear result says -/

variable {excluded : List String} {ticket : Ticket}

/-- Stranded work in a worktree: its branch says so, or the marker of this ticket. -/
def StrandedTree (ticket : Ticket) (marker : String → MarkerFile) (tree : Worktree) : Prop :=
  isStranded tree.branchName = true ∨
    markerTicketOf tree.path (marker tree.path) = .ok (some ticket.key)

/-- What is named after the ticket is left out of account, or stranded. -/
structure Clear (excluded : List String) (ticket : Ticket) (marker : String → MarkerFile)
    (rows : List PullRequest) (refs : List String) (trees : List Worktree) (locals : List String) :
    Prop where
  pulls : ∀ row ∈ rows, matches_ row.ref ticket = true → row.ref ∈ excluded
  remotes : ∀ branch ∈ refs, matches_ branch ticket = true →
    branch ∈ excluded ∨ isStranded branch = true
  worktrees : ∀ tree ∈ trees, matches_ tree.branchName ticket = true →
    tree.branchName ∈ excluded ∨ StrandedTree ticket marker tree
  locals : ∀ branch ∈ locals, matches_ branch ticket = true →
    branch ∈ excluded ∨ isStranded branch = true ∨
      ∃ tree ∈ trees, tree.branchName = branch ∧ StrandedTree ticket marker tree

/-- A branch counts if it is named after the ticket and not excluded. -/
theorem counts_eq_true_iff {branch : String} :
    counts excluded ticket branch = true ↔
      matches_ branch ticket = true ∧ branch ∉ excluded := by
  simp [counts]

/-- A listing without a failure. -/
theorem found_eq {α : Type} {finding : α → Option Finding} {listing : Except Failure (List α)}
    (h : (found finding listing).2 = []) :
    ∃ rows, listing = .ok rows ∧ (found finding listing).1 = rows.filterMap finding := by
  cases listing with
  | error failure => cases h
  | ok rows => exact ⟨rows, rfl, rfl⟩

/-- Nothing that is found is work in flight. -/
def NoHits (findings : List Finding) : Prop := ∀ f ∈ findings, f.hit? = none

/-- Two lists of findings without hits. -/
theorem noHits_append {xs ys : List Finding} : NoHits (xs ++ ys) ↔ NoHits xs ∧ NoHits ys := by
  simp only [NoHits, List.mem_append, or_imp, forall_and]

/-- Findings without hits. -/
theorem noHits_of_filterMap {findings : List Finding}
    (h : findings.filterMap Finding.hit? = []) : NoHits findings := by
  intro f hf
  exact List.filterMap_eq_nil_iff.1 h f hf

/-- What the loop over the worktrees has seen if it was not ended early. -/
theorem scanWorktrees_spec {marker : String → MarkerFile} {trees : List Worktree}
    (hfailure : (scanWorktrees excluded ticket marker trees).failure = none)
    (hhits : NoHits (scanWorktrees excluded ticket marker trees).found) :
    (∀ tree ∈ trees, counts excluded ticket tree.branchName = true →
        StrandedTree ticket marker tree) ∧
      ∀ branch ∈ (scanWorktrees excluded ticket marker trees).tombstoned,
        ∃ tree ∈ trees, tree.branchName = branch ∧ StrandedTree ticket marker tree := by
  -- worktree by worktree; a failure stops the scan
  induction trees with
  | nil =>
      constructor
      · intro tree htree
        cases htree
      · intro branch hbranch
        cases hbranch
  | cons tree trees ih =>
      -- the tombstones of the rest are tombstones of the whole list
      have hmore (h : ∀ branch ∈ (scanWorktrees excluded ticket marker trees).tombstoned,
          ∃ t ∈ trees, t.branchName = branch ∧ StrandedTree ticket marker t) :
          ∀ branch ∈ (scanWorktrees excluded ticket marker trees).tombstoned,
            ∃ t ∈ tree :: trees, t.branchName = branch ∧ StrandedTree ticket marker t := by
        intro branch hbranch
        obtain ⟨t, ht, hname, hstranded⟩ := h branch hbranch
        exact ⟨t, List.mem_cons_of_mem _ ht, hname, hstranded⟩
      unfold scanWorktrees at hfailure hhits ⊢
      by_cases hcounts : counts excluded ticket tree.branchName = true
      · rw [if_pos hcounts] at hfailure hhits ⊢
        cases hmarked : markerTicketOf tree.path (marker tree.path) with
        | error failure =>
            rw [hmarked] at hfailure
            cases hfailure
        | ok marked =>
            rw [hmarked] at hfailure hhits
            dsimp only at hfailure hhits ⊢
            -- stranded by its name or by its marker: it is a tombstone and no hit
            by_cases hstranded : isStranded tree.branchName = true ∨ marked = some ticket.key
            · have htree : StrandedTree ticket marker tree := by
                rcases hstranded with hname | hmarker
                · exact Or.inl hname
                · exact Or.inr (hmarker ▸ hmarked)
              rw [if_pos hstranded] at hfailure hhits ⊢
              obtain ⟨hall, htombs⟩ := ih hfailure fun f hf =>
                hhits f (List.mem_cons_of_mem _ hf)
              constructor
              · intro t ht hc
                rcases List.mem_cons.1 ht with rfl | ht
                · exact htree
                · exact hall t ht hc
              · intro branch hbranch
                rcases List.mem_cons.1 hbranch with rfl | hbranch
                · exact ⟨tree, List.mem_cons_self .., rfl, htree⟩
                · exact hmore htombs branch hbranch
            · -- a hit, which a check that is clear does not have
              rw [if_neg hstranded] at hhits
              have hhit := hhits (.hit tree.entry) (List.mem_cons_self ..)
              cases hhit
      · rw [if_neg hcounts] at hfailure hhits ⊢
        obtain ⟨hall, htombs⟩ := ih hfailure hhits
        constructor
        · intro t ht hc
          rcases List.mem_cons.1 ht with rfl | ht
          · exact absurd hc hcounts
          · exact hall t ht hc
        · exact hmore htombs

/-- A pull request that counts is a hit. -/
theorem pullFinding_hit {row : PullRequest} (h : counts excluded ticket row.ref = true) :
    ∃ entry, pullFinding excluded ticket row = some (.hit entry) := by
  unfold pullFinding
  rw [if_pos h]
  exact ⟨_, rfl⟩

/-- A branch of the remote that counts and is not archived is a hit. -/
theorem remoteFinding_hit {branch : String} (h : counts excluded ticket branch = true)
    (hstranded : isStranded branch = false) :
    ∃ entry, remoteFinding excluded ticket branch = some (.hit entry) := by
  unfold remoteFinding
  rw [if_neg (by simp [hstranded]), if_pos h]
  exact ⟨_, rfl⟩

/-- A local branch that counts and is neither archived nor stranded is a hit. -/
theorem localFinding_hit {tombstoned : List String} {branch : String}
    (h : counts excluded ticket branch = true) (htombs : branch ∉ tombstoned)
    (hstranded : isStranded branch = false) :
    ∃ entry, localFinding excluded ticket tombstoned branch = some (.hit entry) := by
  unfold localFinding
  rw [if_pos (by simp [h, htombs]), if_neg (by simp [hstranded])]
  exact ⟨_, rfl⟩

/-- An entry that is found to be in flight is not in a listing without hits. -/
theorem not_mem_of_noHits {α : Type} {finding : α → Option Finding} {rows : List α}
    (h : NoHits (rows.filterMap finding)) {row : α} (hrow : row ∈ rows)
    (hfinding : ∃ entry, finding row = some (.hit entry)) : False := by
  obtain ⟨entry, hentry⟩ := hfinding
  have hnone := h (.hit entry) (List.mem_filterMap.2 ⟨row, hrow, hentry⟩)
  cases hnone

/-- What the check has looked at when it reports a clear ticket. -/
theorem check_eq_clear {e : Evidence} {args : CheckArgs} {report : Report}
    (hexcluded : excludedBranches args ticket = .ok excluded)
    (hcheck : check ticket e args = .ok report) (hcode : report.code = 0) :
    (found (pullFinding excluded ticket) (pullListing e args.remote)).2 = [] ∧
      (found (remoteFinding excluded ticket) (remoteListing e)).2 = [] ∧
      (scan excluded ticket e.marker (worktreeListing e)).failure = none ∧
      (found (localFinding excluded ticket
        (scan excluded ticket e.marker (worktreeListing e)).tombstoned) (localListing e)).2 = [] ∧
      NoHits ((found (pullFinding excluded ticket) (pullListing e args.remote)).1 ++
        (found (remoteFinding excluded ticket) (remoteListing e)).1 ++
        (scan excluded ticket e.marker (worktreeListing e)).found ++
        (found (localFinding excluded ticket
          (scan excluded ticket e.marker (worktreeListing e)).tombstoned) (localListing e)).1) := by
  unfold check at hcheck
  rw [hexcluded] at hcheck
  injection hcheck with hreport
  subst hreport
  dsimp only at hcode
  split at hcode
  · cases hcode
  · rename_i hfailures
    split at hcode
    · cases hcode
    · rename_i hhits
      have hnone := not_not.1 hfailures
      simp only [List.append_eq_nil_iff, Option.toList_eq_nil_iff] at hnone
      obtain ⟨⟨⟨hpulls, hremotes⟩, htrees⟩, hlocals⟩ := hnone
      exact ⟨hpulls, hremotes, htrees, hlocals, noHits_of_filterMap (not_not.1 hhits)⟩

/-- A scan without a failure has read the listing. -/
theorem scan_eq {marker : String → MarkerFile} {listing : Except Failure (List Worktree)}
    (h : (scan excluded ticket marker listing).failure = none) :
    ∃ trees, listing = .ok trees ∧
      scan excluded ticket marker listing = scanWorktrees excluded ticket marker trees := by
  cases listing with
  | error failure => cases h
  | ok trees => exact ⟨trees, rfl, rfl⟩

/-- A check that reports a clear ticket has read all the listings. -/
theorem clear_of_check {e : Evidence} {args : CheckArgs} {report : Report}
    (hexcluded : excludedBranches args ticket = .ok excluded)
    (hcheck : check ticket e args = .ok report) (hcode : report.code = 0) :
    ∃ rows refs trees locals,
      pullListing e args.remote = .ok rows ∧ remoteListing e = .ok refs ∧
        worktreeListing e = .ok trees ∧ localListing e = .ok locals ∧
        Clear excluded ticket e.marker rows refs trees locals := by
  obtain ⟨hpulls, hremotes, htrees, hlocals, hno⟩ := check_eq_clear hexcluded hcheck hcode
  obtain ⟨rows, hrows, hfoundRows⟩ := found_eq hpulls
  obtain ⟨refs, hrefs, hfoundRefs⟩ := found_eq hremotes
  obtain ⟨trees, hlisted, hscan⟩ := scan_eq htrees
  rw [hscan] at htrees hlocals hno
  obtain ⟨locals, hbranches, hfoundLocals⟩ := found_eq hlocals
  rw [hfoundRows, hfoundRefs, hfoundLocals, noHits_append, noHits_append, noHits_append] at hno
  obtain ⟨⟨⟨hnoRows, hnoRefs⟩, hnoTrees⟩, hnoLocals⟩ := hno
  obtain ⟨hstranded, htombs⟩ := scanWorktrees_spec htrees hnoTrees
  refine ⟨rows, refs, trees, locals, hrows, hrefs, hlisted, hbranches, ?_, ?_, ?_, ?_⟩
  · intro row hrow hmatch
    by_contra hnot
    have hcounts := counts_eq_true_iff.2 ⟨hmatch, hnot⟩
    exact not_mem_of_noHits hnoRows hrow (pullFinding_hit hcounts)
  · -- a remote branch that matches and counts would be a hit
    intro branch hbranch hmatch
    by_contra hnot
    rw [not_or, Bool.not_eq_true] at hnot
    have hcounts := counts_eq_true_iff.2 ⟨hmatch, hnot.1⟩
    exact not_mem_of_noHits hnoRefs hbranch (remoteFinding_hit hcounts hnot.2)
  · intro tree htree hmatch
    by_contra hnot
    rw [not_or] at hnot
    exact hnot.2 (hstranded tree htree (counts_eq_true_iff.2 ⟨hmatch, hnot.1⟩))
  · intro branch hbranch hmatch
    by_contra hnot
    rw [not_or, not_or, Bool.not_eq_true] at hnot
    obtain ⟨hexcl, hname, hnoTree⟩ := hnot
    have hcounts := counts_eq_true_iff.2 ⟨hmatch, hexcl⟩
    -- a tombstone is a stranded worktree, which the branch does not have
    have hnotTomb : branch ∉ (scanWorktrees excluded ticket e.marker trees).tombstoned :=
      fun h => hnoTree (htombs branch h)
    exact not_mem_of_noHits hnoLocals hbranch (localFinding_hit hcounts hnotTomb hname)

/-- A refused check has an exit code of its own. -/
theorem exitCode_of_refused {e : Evidence} {args : CheckArgs} {failure : Failure}
    (h : excludedBranches args ticket = .error failure) :
    exitCode (check ticket e args) = 2 := by
  have hcheck : check ticket e args = .error failure := by
    unfold check
    rw [h]
    rfl
  rw [hcheck]
  unfold excludedBranches at h
  split at h
  · cases h
  · split at h
    · cases h
    · split at h
      · cases h
      · cases h
        rfl

/-- A check that is not refused has a report. -/
theorem exists_report {e : Evidence} {args : CheckArgs}
    (h : excludedBranches args ticket = .ok excluded) :
    ∃ report, check ticket e args = .ok report := by
  unfold check
  rw [h]
  exact ⟨_, rfl⟩

/-- The check returns 0 only if all the listings succeeded and what is named after the ticket is
left out of account or stranded; no marker hides a pull request or a remote branch. The rows and
names are those of the listings as `check` reads them: a name with one of the characters U+0085,
U+2028 and U+2029 in it is read in parts, because `str.splitlines` ends a line there. -/
theorem check_fails_closed (ticket : Ticket) (e : Evidence) (args : CheckArgs) :
    (exitCode (check ticket e args) = 0 →
      ∃ excluded rows refs trees locals,
        excludedBranches args ticket = .ok excluded ∧
          pullListing e args.remote = .ok rows ∧ remoteListing e = .ok refs ∧
          worktreeListing e = .ok trees ∧ localListing e = .ok locals ∧
          Clear excluded ticket e.marker rows refs trees locals) ∧
      ∀ excluded, excludedBranches args ticket = .ok excluded →
        ((∃ rows, pullListing e args.remote = .ok rows ∧
            ∃ row ∈ rows, matches_ row.ref ticket = true ∧ row.ref ∉ excluded) ∨
          ∃ refs, remoteListing e = .ok refs ∧
            ∃ branch ∈ refs, matches_ branch ticket = true ∧ branch ∉ excluded ∧
              isStranded branch = false) →
        ∀ marker, exitCode (check ticket { e with marker } args) ≠ 0 := by
  constructor
  · -- exit code 0 needs every listing and no hit
    intro hcode
    cases hexcluded : excludedBranches args ticket with
    | error failure =>
        rw [exitCode_of_refused hexcluded] at hcode
        cases hcode
    | ok excluded =>
        obtain ⟨report, hcheck⟩ := exists_report (e := e) hexcluded
        rw [hcheck] at hcode
        obtain ⟨rows, refs, trees, locals, hclear⟩ := clear_of_check hexcluded hcheck hcode
        exact ⟨excluded, rows, refs, trees, locals, rfl, hclear⟩
  · -- the pull requests and the remote branches are the same with any reader of markers
    intro excluded hexcluded hinFlight marker hcode
    obtain ⟨report, hcheck⟩ := exists_report (e := { e with marker }) hexcluded
    rw [hcheck] at hcode
    obtain ⟨rows, refs, trees, locals, hrows, hrefs, -, -, hclear⟩ :=
      clear_of_check hexcluded hcheck hcode
    rcases hinFlight with ⟨rows', hrows', row, hrow, hmatch, hnot⟩ |
      ⟨refs', hrefs', branch, hbranch, hmatch, hnot, hname⟩
    · have hsame : rows' = rows := Except.ok.inj (hrows'.symm.trans hrows)
      exact hnot (hclear.pulls row (hsame ▸ hrow) hmatch)
    · have hsame : refs' = refs := Except.ok.inj (hrefs'.symm.trans hrefs)
      rcases hclear.remotes branch (hsame ▸ hbranch) hmatch with h | h
      · exact hnot h
      · rw [hname] at h
        cases h

/-- Stranded work on a ticket: a branch of the remote, and a worktree with a marker. -/
def strandedEvidence : Evidence where
  remoteUrl := .ok "git@github.com:example/project.git\n"
  pulls _ := .ok "[[]]"
  jsonLoads raw := if raw = "[[]]" then .ok (.list [.list []]) else .error "no listing"
  lsRemote := .ok ("0123456789abcdef0123456789abcdef01234567\trefs/heads/main\n" ++
    "89abcdef0123456789abcdef0123456789abcdef\trefs/heads/stranded/fla-17-parser\n")
  worktreeList := .ok (.ofList (["worktree /work", "HEAD 0123", "branch refs/heads/main", "",
    "worktree /notes", "HEAD 4567", "branch refs/heads/fla-17-notes", "", ""].map
      String.toList |>.intersperse [Char.ofNat 0]).flatten)
  forEachRef := .ok "main\nfla-17-notes\n"
  marker path :=
    if path = "/notes" then .text "# STRANDED WORKTREE\n\n- Ticket: FLA-17\n" else .missing

/-- Whatever is named after the ticket is stranded, on the remote and in a worktree. -/
theorem check_fails_closed_stranded :
    exitCode (check ⟨"FLA", "17"⟩ strandedEvidence ⟨"origin", none, []⟩) = 0 ∧
      ∃ excluded rows refs trees locals,
        excludedBranches ⟨"origin", none, []⟩ ⟨"FLA", "17"⟩ = .ok excluded ∧
          pullListing strandedEvidence "origin" = .ok rows ∧
          remoteListing strandedEvidence = .ok refs ∧
          worktreeListing strandedEvidence = .ok trees ∧
          localListing strandedEvidence = .ok locals ∧
          Clear excluded ⟨"FLA", "17"⟩ strandedEvidence.marker rows refs trees locals :=
  ⟨by decide +kernel, (check_fails_closed ⟨"FLA", "17"⟩ strandedEvidence _).1 (by decide +kernel)⟩

end KyomiConnect.TicketWorktrees
