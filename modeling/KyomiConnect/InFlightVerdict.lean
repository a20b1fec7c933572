import KyomiConnect.StrandedMarkers

/-! # The verdict of the check

`check` exits with 3 exactly when something it has to read cannot be read: a listing, or the
marker of a worktree whose branch counts. When all of it is read, it exits with 0 exactly when
what is named after the ticket is left out of account or stranded, and with 1 otherwise.
-/

namespace KyomiConnect.TicketWorktrees

/-! ## Stranded names -/

/-- A digit has no case. -/
theorem foldCase_of_isDigit {c : Char} (h : c.isDigit = true) : foldCase c = c := by
  have hascii : ∀ n : Fin 128, (Char.ofNat n).isDigit = true →
      foldCase (Char.ofNat n) = Char.ofNat n := by decide +kernel
  have hcode := hascii ⟨c.toNat, toNat_of_isDigit h⟩
  simp only [Char.ofNat_toNat] at hcode
  exact hcode h

/-- No letter folds to a slash. -/
theorem foldCase_ne_slash {c : Char} (h : c ≠ '/') : foldCase c ≠ '/' := by
  by_cases hlt : c.toNat < 128
  · have hascii : ∀ n : Fin 128, Char.ofNat n ≠ '/' → foldCase (Char.ofNat n) ≠ '/' := by
      decide +kernel
    have hcode := hascii ⟨c.toNat, hlt⟩
    simp only [Char.ofNat_toNat] at hcode
    exact hcode h
  · unfold foldCase
    split
    · decide
    · decide
    · decide
    · decide
    · unfold Char.toLower
      split
      · rename_i hupper
        have hlast : c.val.toNat ≤ 90 := UInt32.le_iff_toNat_le.1 hupper.2
        exact absurd (Nat.lt_of_le_of_lt hlast (by decide)) hlt
      · exact h

section Names

variable {ticket : Ticket} {word : List Char}

/-- No character of a team's key is a slash. -/
theorem Ticket.Accepted.ne_slash (h : ticket.Accepted word) :
    ∀ c ∈ ticket.team.toList, c ≠ '/' := by
  intro c hc
  rw [h.team] at hc
  obtain ⟨d, hd, rfl⟩ := List.mem_map.1 hc
  intro hslash
  rcases upperKeyChar_cases (h.word d hd) with hkey | hmore
  · rw [hslash] at hkey
    exact absurd hkey.1 (by decide)
  · rw [hslash] at hmore
    exact absurd hmore (by decide)

/-- A text of the team's letters is dropped before the slash, or not at all. -/
theorem dropFolded_slash {ps cs rest dropped : List Char} (hps : ∀ p ∈ ps, p ≠ '/')
    (h : dropFolded ps (cs ++ '/' :: rest) = some dropped) :
    ∃ more, dropped = more ++ '/' :: rest ∧ more <:+ cs := by
  -- over the key: none of its characters is the slash, so it ends in front of it
  induction ps generalizing cs with
  | nil =>
      cases h
      exact ⟨cs, rfl, List.suffix_refl cs⟩
  | cons p ps ih =>
      cases cs with
      | nil =>
          rw [List.nil_append, dropFolded, if_neg] at h
          · cases h
          · have hslash : foldCase '/' = '/' := by decide
            rw [hslash]
            exact foldCase_ne_slash (hps p (List.mem_cons_self ..))
      | cons c cs =>
          rw [List.cons_append, dropFolded] at h
          split at h
          · obtain ⟨more, hmore, hsuffix⟩ := ih (fun p hp => hps p (List.mem_cons_of_mem _ hp)) h
            exact ⟨more, hmore, hsuffix.trans (List.suffix_cons c cs)⟩
          · cases h

/-- The characters of the archives' prefix, none of which is part of a ticket's number. -/
theorem not_digit_of_mem_stranded {c : Char} (h : c ∈ "stranded".toList) :
    c ≠ '-' ∧ foldCase c = c ∧ c.isDigit = false := by
  have hall : "stranded".toList.all
      (fun c => c != '-' && foldCase c == c && !c.isDigit) = true := by decide
  have hc := List.all_eq_true.1 hall c h
  simpa [and_assoc] using hc

/-- A ticket's name does not begin within the prefix: its number would have to be there. -/
theorem ticketAt_stranded (h : ticket.Accepted word) {cs : List Char} (rest : List Char)
    (hcs : cs <:+ "stranded".toList) : ticketAt ticket (cs ++ '/' :: rest) = false := by
  unfold ticketAt
  cases hteam : dropFolded ticket.team.toList (cs ++ '/' :: rest) with
  | none => rfl
  | some dropped =>
      obtain ⟨more, rfl, hmore⟩ := dropFolded_slash h.ne_slash hteam
      -- what comes next is a letter of the prefix or the slash
      obtain ⟨c, tail, hnext, hdash, hfold, hdigit⟩ : ∃ c tail, more ++ '/' :: rest = c :: tail ∧
          c ≠ '-' ∧ foldCase c = c ∧ c.isDigit = false := by
        cases more with
        | nil => exact ⟨'/', rest, rfl, by decide, by decide, by decide⟩
        | cons c more =>
            have hmem : c ∈ "stranded".toList :=
              (hmore.trans hcs).subset (List.mem_cons_self ..)
            exact ⟨c, more ++ '/' :: rest, rfl, not_digit_of_mem_stranded hmem⟩
      have hnumber : dropFolded ticket.number.toList (c :: tail) = none := by
        have hpositive := h.positive
        cases hdigits : ticket.number.toList with
        | nil =>
            rw [hdigits] at hpositive
            cases hpositive
        | cons d ds =>
            have hd : d.isDigit = true := h.digits d (hdigits ▸ List.mem_cons_self ..)
            rw [dropFolded, if_neg]
            rw [foldCase_of_isDigit hd, hfold]
            rintro rfl
            rw [hd] at hdigit
            cases hdigit
      dsimp only
      rw [hnext, List.head?_cons, if_neg (fun hc => hdash (Option.some.inj hc)), hnumber]

/-- Whatever is in front of a slash, only what follows it counts. -/
theorem ticketIn_slash (ticket : Ticket) (rest : List Char) :
    ticketIn ticket (some '/') rest = ticketIn ticket none rest := by
  have hword : (some '/').any isWordChar = false := by decide
  have hnone : (none : Option Char).any isWordChar = false := rfl
  cases rest with
  | nil => rw [ticketIn, ticketIn, hword, hnone]
  | cons c rest => rw [ticketIn, ticketIn, hword, hnone]

/-- Behind the prefix of the archives a ticket is named as it is without it. -/
theorem ticketIn_stranded (h : ticket.Accepted word) (rest : List Char) {cs : List Char}
    (hcs : cs <:+ "stranded".toList) (prev : Option Char) :
    ticketIn ticket prev (cs ++ '/' :: rest) = ticketIn ticket none rest := by
  -- over what is left of `stranded`, in which no ticket begins
  induction cs generalizing prev with
  | nil =>
      have hat := ticketAt_stranded h rest hcs
      rw [List.nil_append] at hat ⊢
      rw [ticketIn, hat, Bool.and_false, Bool.false_or, ticketIn_slash]
  | cons c cs ih =>
      have hat := ticketAt_stranded h rest hcs
      rw [List.cons_append] at hat ⊢
      rw [ticketIn, hat, Bool.and_false, Bool.false_or]
      exact ih ((List.suffix_cons c cs).trans hcs) (some c)

/-- An archived branch is named after the ticket if and only if the branch was. -/
theorem matches_of_stranded (h : ticket.Accepted word) {branch : String}
    (hstranded : isStranded branch = true) :
    matches_ (.ofList (branch.toList.drop 9)) ticket = matches_ branch ticket := by
  obtain ⟨rest, hrest⟩ : ∃ rest, branch.toList = "stranded".toList ++ '/' :: rest := by
    obtain ⟨rest, hrest⟩ := List.isPrefixOf_iff_prefix.1 hstranded
    exact ⟨rest, hrest.symm⟩
  have hdrop : branch.toList.drop 9 = rest := by
    rw [hrest]
    rfl
  rw [hdrop, matches_, matches_, String.toList_ofList, hrest,
    ticketIn_stranded h rest (List.suffix_refl _)]

end Names

/-! ## The worktrees -/

variable {excluded : List String} {ticket : Ticket} {marker : String → MarkerFile}

/-- The marker of a worktree can be read, or there is none. -/
def Readable (marker : String → MarkerFile) (tree : Worktree) : Prop :=
  ∃ marked, markerTicketOf tree.path (marker tree.path) = .ok marked

/-- The loop over the worktrees ends early at a marker that cannot be read. -/
theorem scanWorktrees_failure_iff {trees : List Worktree} :
    (scanWorktrees excluded ticket marker trees).failure = none ↔
      ∀ tree ∈ trees, counts excluded ticket tree.branchName = true → Readable marker tree := by
  -- worktree by worktree: the first marker that cannot be read is the failure
  induction trees with
  | nil => exact iff_of_true rfl fun tree htree => absurd htree List.not_mem_nil
  | cons tree trees ih =>
      rw [List.forall_mem_cons, ← ih, scanWorktrees]
      by_cases hcounts : counts excluded ticket tree.branchName = true
      · rw [if_pos hcounts]
        cases hmarked : markerTicketOf tree.path (marker tree.path) with
        | error failure =>
            constructor
            · intro h
              cases h
            · rintro ⟨hreadable, -⟩
              obtain ⟨marked, hok⟩ := hreadable hcounts
              rw [hmarked] at hok
              cases hok
        | ok marked =>
            have hreadable : Readable marker tree := ⟨marked, hmarked⟩
            dsimp only
            constructor
            · intro h
              refine ⟨fun _ => hreadable, ?_⟩
              split at h
              · exact h
              · exact h
            · rintro ⟨-, h⟩
              split
              · exact h
              · exact h
      · rw [if_neg hcounts]
        constructor
        · intro h
          exact ⟨fun hcounts' => absurd hcounts' hcounts, h⟩
        · rintro ⟨-, h⟩
          exact h

/-- A worktree that does not count is passed over. -/
theorem scanWorktrees_skip {tree : Worktree} {trees : List Worktree}
    (h : ¬ counts excluded ticket tree.branchName = true) :
    scanWorktrees excluded ticket marker (tree :: trees) =
      scanWorktrees excluded ticket marker trees := by
  rw [scanWorktrees, if_neg h]

/-- A worktree that counts is stranded and left out of account later, or it is in flight. -/
theorem scanWorktrees_cons {tree : Worktree} {trees : List Worktree}
    (hcounts : counts excluded ticket tree.branchName = true)
    (hfailure : (scanWorktrees excluded ticket marker (tree :: trees)).failure = none) :
    let rest := scanWorktrees excluded ticket marker trees
    rest.failure = none ∧
      (StrandedTree ticket marker tree ∧ scanWorktrees excluded ticket marker (tree :: trees) =
          { rest with
            found := .preserved tree.entry :: rest.found
            tombstoned := tree.branchName :: rest.tombstoned } ∨
        ¬ StrandedTree ticket marker tree ∧ scanWorktrees excluded ticket marker (tree :: trees) =
          { rest with found := .hit tree.entry :: rest.found }) := by
  intro rest
  rw [scanWorktrees, if_pos hcounts] at hfailure ⊢
  cases hmarked : markerTicketOf tree.path (marker tree.path) with
  | error failure =>
      rw [hmarked] at hfailure
      cases hfailure
  | ok marked =>
      rw [hmarked] at hfailure
      dsimp only at hfailure ⊢
      have hiff : StrandedTree ticket marker tree ↔
          isStranded tree.branchName = true ∨ marked = some ticket.key := by
        rw [StrandedTree, hmarked, Except.ok.injEq]
      by_cases hstranded : isStranded tree.branchName = true ∨ marked = some ticket.key
      · rw [if_pos hstranded] at hfailure ⊢
        exact ⟨hfailure, .inl ⟨hiff.2 hstranded, rfl⟩⟩
      · rw [if_neg hstranded] at hfailure ⊢
        exact ⟨hfailure, .inr ⟨fun h => hstranded (hiff.1 h), rfl⟩⟩

/-- The branches that are left out of account later: those of the stranded worktrees. -/
theorem mem_tombstoned_iff {trees : List Worktree}
    (hfailure : (scanWorktrees excluded ticket marker trees).failure = none) {branch : String} :
    branch ∈ (scanWorktrees excluded ticket marker trees).tombstoned ↔
      counts excluded ticket branch = true ∧
        ∃ tree ∈ trees, tree.branchName = branch ∧ StrandedTree ticket marker tree := by
  -- worktree by worktree
  induction trees with
  | nil =>
      constructor
      · intro h
        cases h
      · rintro ⟨-, tree, htree, -⟩
        cases htree
  | cons tree trees ih =>
      by_cases hcounts : counts excluded ticket tree.branchName = true
      · obtain ⟨hrest, ⟨hstranded, hscan⟩ | ⟨hnot, hscan⟩⟩ := scanWorktrees_cons hcounts hfailure
        · rw [hscan, List.mem_cons, ih hrest]
          simp only [List.exists_mem_cons_iff]
          constructor
          · rintro (rfl | ⟨hbranch, hlater⟩)
            · exact ⟨hcounts, .inl ⟨rfl, hstranded⟩⟩
            · exact ⟨hbranch, .inr hlater⟩
          · rintro ⟨hbranch, ⟨rfl, -⟩ | hlater⟩
            · exact .inl rfl
            · exact .inr ⟨hbranch, hlater⟩
        · rw [hscan, ih hrest]
          simp only [List.exists_mem_cons_iff]
          constructor
          · rintro ⟨hbranch, hlater⟩
            exact ⟨hbranch, .inr hlater⟩
          · rintro ⟨hbranch, ⟨-, hstranded⟩ | hlater⟩
            · exact absurd hstranded hnot
            · exact ⟨hbranch, hlater⟩
      · rw [scanWorktrees_skip hcounts] at hfailure ⊢
        rw [ih hfailure]
        simp only [List.exists_mem_cons_iff]
        constructor
        · rintro ⟨hbranch, hlater⟩
          exact ⟨hbranch, .inr hlater⟩
        · rintro ⟨hbranch, ⟨rfl, -⟩ | hlater⟩
          · exact absurd hbranch hcounts
          · exact ⟨hbranch, hlater⟩

/-- The first finding, and the others. -/
theorem noHits_cons {finding : Finding} {findings : List Finding} :
    NoHits (finding :: findings) ↔ finding.hit? = none ∧ NoHits findings :=
  List.forall_mem_cons

/-- No worktree is in flight if and only if all that count are stranded. -/
theorem noHits_scanWorktrees_iff {trees : List Worktree}
    (hfailure : (scanWorktrees excluded ticket marker trees).failure = none) :
    NoHits (scanWorktrees excluded ticket marker trees).found ↔
      ∀ tree ∈ trees, counts excluded ticket tree.branchName = true →
        StrandedTree ticket marker tree := by
  -- worktree by worktree: one that counts and is not stranded is a hit
  induction trees with
  | nil =>
      apply iff_of_true
      · intro finding hfinding
        cases hfinding
      · intro tree htree
        cases htree
  | cons tree trees ih =>
      rw [List.forall_mem_cons]
      by_cases hcounts : counts excluded ticket tree.branchName = true
      · obtain ⟨hrest, ⟨hstranded, hscan⟩ | ⟨hnot, hscan⟩⟩ := scanWorktrees_cons hcounts hfailure
        · rw [hscan, noHits_cons, ih hrest]
          exact and_congr (iff_of_true rfl fun _ => hstranded) Iff.rfl
        · rw [hscan, noHits_cons]
          apply iff_of_false
          · rintro ⟨hhit, -⟩
            cases hhit
          · rintro ⟨htree, -⟩
            exact hnot (htree hcounts)
      · rw [scanWorktrees_skip hcounts] at hfailure ⊢
        rw [ih hfailure]
        constructor
        · intro h
          exact ⟨fun hcounts' => absurd hcounts' hcounts, h⟩
        · rintro ⟨-, h⟩
          exact h

/-! ## The other listings -/

/-- There is no hit if no row gives one. -/
theorem noHits_filterMap_iff {α : Type} {finding : α → Option Finding} {rows : List α} :
    NoHits (rows.filterMap finding) ↔ ∀ row ∈ rows, ∀ entry, finding row ≠ some (.hit entry) := by
  constructor
  · intro h row hrow entry hentry
    have hnone := h (.hit entry) (List.mem_filterMap.2 ⟨row, hrow, hentry⟩)
    cases hnone
  · intro h found hfound
    obtain ⟨row, hrow, hrow'⟩ := List.mem_filterMap.1 hfound
    cases found with
    | hit entry => exact absurd hrow' (h row hrow entry)
    | preserved entry => rfl

/-- A pull request that counts is a hit. -/
theorem pullFinding_hit_iff {row : PullRequest} :
    (∀ entry, pullFinding excluded ticket row ≠ some (.hit entry)) ↔
      ¬ counts excluded ticket row.ref = true := by
  constructor
  · intro h hcounts
    obtain ⟨entry, hentry⟩ := pullFinding_hit hcounts
    exact h entry hentry
  · intro h entry hentry
    rw [pullFinding, if_neg h] at hentry
    cases hentry

/-- A branch of the remote that counts is a hit unless it is archived. -/
theorem remoteFinding_hit_iff {word : List Char} (haccepted : ticket.Accepted word)
    {branch : String} :
    (∀ entry, remoteFinding excluded ticket branch ≠ some (.hit entry)) ↔
      (counts excluded ticket branch = true → isStranded branch = true) := by
  constructor
  · intro h hcounts
    by_contra hstranded
    rw [Bool.not_eq_true] at hstranded
    obtain ⟨entry, hentry⟩ := remoteFinding_hit hcounts hstranded
    exact h entry hentry
  · intro h entry hentry
    unfold remoteFinding at hentry
    split at hentry
    · cases hentry
    · rename_i hnot
      split at hentry
      · rename_i hcounts
        apply hnot
        have hstranded := h hcounts
        rw [hstranded, Bool.true_and, matches_of_stranded haccepted hstranded]
        exact (counts_eq_true_iff.1 hcounts).1
      · cases hentry

/-- A local branch that counts is a hit unless it is archived or its worktree is stranded. -/
theorem localFinding_hit_iff {tombstoned : List String} {branch : String} :
    (∀ entry, localFinding excluded ticket tombstoned branch ≠ some (.hit entry)) ↔
      (counts excluded ticket branch = true →
        branch ∈ tombstoned ∨ isStranded branch = true) := by
  constructor
  · intro h hcounts
    by_contra hneither
    rw [not_or, Bool.not_eq_true] at hneither
    obtain ⟨entry, hentry⟩ := localFinding_hit hcounts hneither.1 hneither.2
    exact h entry hentry
  · intro h entry hentry
    unfold localFinding at hentry
    split at hentry
    · rename_i hcond
      rw [Bool.and_eq_true, Bool.not_eq_true', List.contains_eq_mem, decide_eq_false_iff_not]
        at hcond
      rcases h hcond.1 with htomb | hstranded
      · exact absurd htomb hcond.2
      · rw [if_pos hstranded] at hentry
        cases hentry
    · cases hentry

/-! ## The verdict -/

/-- What the check has to read, as it is when all of it can be read. -/
structure Evidence.Read (e : Evidence) (remote : String) (excluded : List String)
    (ticket : Ticket) (rows : List PullRequest) (refs : List String) (trees : List Worktree)
    (locals : List String) : Prop where
  pulls : pullListing e remote = .ok rows
  remotes : remoteListing e = .ok refs
  worktrees : worktreeListing e = .ok trees
  markers : ∀ tree ∈ trees, counts excluded ticket tree.branchName = true →
    Readable e.marker tree
  locals : localListing e = .ok locals

section Verdict

variable {e : Evidence} {args : CheckArgs}

/-- The listings, as the check goes through them. -/
def findings (excluded : List String) (ticket : Ticket) (e : Evidence) (args : CheckArgs) :
    List Finding :=
  let trees := scan excluded ticket e.marker (worktreeListing e)
  (found (pullFinding excluded ticket) (pullListing e args.remote)).1 ++
    (found (remoteFinding excluded ticket) (remoteListing e)).1 ++ trees.found ++
    (found (localFinding excluded ticket trees.tombstoned) (localListing e)).1

def failures (excluded : List String) (ticket : Ticket) (e : Evidence) (args : CheckArgs) :
    List Failure :=
  let trees := scan excluded ticket e.marker (worktreeListing e)
  (found (pullFinding excluded ticket) (pullListing e args.remote)).2 ++
    (found (remoteFinding excluded ticket) (remoteListing e)).2 ++ trees.failure.toList ++
    (found (localFinding excluded ticket trees.tombstoned) (localListing e)).2

/-- The exit code, from what was found and what failed. -/
theorem exitCode_check (hexcluded : excludedBranches args ticket = .ok excluded) :
    exitCode (check ticket e args) =
      if failures excluded ticket e args ≠ [] then 3
      else if (findings excluded ticket e args).filterMap Finding.hit? ≠ [] then 1 else 0 := by
  unfold check
  rw [hexcluded]
  rfl

/-- No finding is a hit. -/
theorem noHits_iff {findings : List Finding} :
    NoHits findings ↔ findings.filterMap Finding.hit? = [] :=
  List.filterMap_eq_nil_iff.symm

/-- A listing that can be read leaves no failure. -/
theorem found_snd_eq_nil_iff {α : Type} {finding : α → Option Finding}
    {listing : Except Failure (List α)} :
    (found finding listing).2 = [] ↔ ∃ rows, listing = .ok rows := by
  constructor
  · intro h
    obtain ⟨rows, hrows, -⟩ := found_eq h
    exact ⟨rows, hrows⟩
  · rintro ⟨rows, rfl⟩
    rfl

/-- Nothing fails if and only if everything can be read. -/
theorem failures_eq_nil_iff :
    failures excluded ticket e args = [] ↔
      ∃ rows refs trees locals, e.Read args.remote excluded ticket rows refs trees locals := by
  unfold failures
  dsimp only
  rw [List.append_eq_nil_iff, List.append_eq_nil_iff, List.append_eq_nil_iff,
    found_snd_eq_nil_iff, found_snd_eq_nil_iff, found_snd_eq_nil_iff, Option.toList_eq_nil_iff]
  constructor
  · rintro ⟨⟨⟨⟨rows, hrows⟩, refs, hrefs⟩, htrees⟩, locals, hlocals⟩
    obtain ⟨trees, hlisted, hscan⟩ := scan_eq htrees
    rw [hscan, scanWorktrees_failure_iff] at htrees
    exact ⟨rows, refs, trees, locals, hrows, hrefs, hlisted, htrees, hlocals⟩
  · rintro ⟨rows, refs, trees, locals, h⟩
    refine ⟨⟨⟨⟨rows, h.pulls⟩, refs, h.remotes⟩, ?_⟩, locals, h.locals⟩
    rw [h.worktrees]
    exact scanWorktrees_failure_iff.2 h.markers

/-- What is read is clear if and only if nothing of it is a hit. -/
theorem noHits_findings_iff {word : List Char} (haccepted : ticket.Accepted word)
    {rows : List PullRequest} {refs : List String} {trees : List Worktree} {locals : List String}
    (h : e.Read args.remote excluded ticket rows refs trees locals) :
    NoHits (findings excluded ticket e args) ↔
      Clear excluded ticket e.marker rows refs trees locals := by
  have hfailure : (scanWorktrees excluded ticket e.marker trees).failure = none :=
    scanWorktrees_failure_iff.2 h.markers
  have hlocal (branch : String) :
      (counts excluded ticket branch = true →
          branch ∈ (scanWorktrees excluded ticket e.marker trees).tombstoned ∨
            isStranded branch = true) ↔
        (matches_ branch ticket = true → branch ∈ excluded ∨ isStranded branch = true ∨
          ∃ tree ∈ trees, tree.branchName = branch ∧ StrandedTree ticket e.marker tree) := by
    rw [mem_tombstoned_iff hfailure, counts_eq_true_iff]
    by_cases hcounts : matches_ branch ticket = true ∧ branch ∉ excluded
    · rw [or_comm]
      simp [hcounts]
    · exact iff_of_true (fun h => absurd h hcounts) fun hmatch =>
        .inl (not_not.1 fun hnot => hcounts ⟨hmatch, hnot⟩)
  have hpull (row : PullRequest) : ¬ counts excluded ticket row.ref = true ↔
      (matches_ row.ref ticket = true → row.ref ∈ excluded) := by
    rw [counts_eq_true_iff]
    tauto
  have hremote (branch : String) :
      (counts excluded ticket branch = true → isStranded branch = true) ↔
        (matches_ branch ticket = true → branch ∈ excluded ∨ isStranded branch = true) := by
    rw [counts_eq_true_iff]
    tauto
  have htree (tree : Worktree) :
      (counts excluded ticket tree.branchName = true → StrandedTree ticket e.marker tree) ↔
        (matches_ tree.branchName ticket = true →
          tree.branchName ∈ excluded ∨ StrandedTree ticket e.marker tree) := by
    rw [counts_eq_true_iff]
    tauto
  have hall : NoHits (findings excluded ticket e args) ↔
      (((∀ row ∈ rows, matches_ row.ref ticket = true → row.ref ∈ excluded) ∧
        ∀ branch ∈ refs, matches_ branch ticket = true →
          branch ∈ excluded ∨ isStranded branch = true) ∧
        ∀ tree ∈ trees, matches_ tree.branchName ticket = true →
          tree.branchName ∈ excluded ∨ StrandedTree ticket e.marker tree) ∧
        ∀ branch ∈ locals, matches_ branch ticket = true →
          branch ∈ excluded ∨ isStranded branch = true ∨
            ∃ tree ∈ trees, tree.branchName = branch ∧ StrandedTree ticket e.marker tree := by
    unfold findings
    dsimp only
    rw [h.pulls, h.remotes, h.worktrees, h.locals, noHits_append, noHits_append, noHits_append]
    refine and_congr (and_congr (and_congr ?_ ?_) ?_) ?_
    · refine noHits_filterMap_iff.trans (forall₂_congr fun row _ => ?_)
      exact pullFinding_hit_iff.trans (hpull row)
    · refine noHits_filterMap_iff.trans (forall₂_congr fun branch _ => ?_)
      exact (remoteFinding_hit_iff haccepted).trans (hremote branch)
    · refine (noHits_scanWorktrees_iff hfailure).trans (forall₂_congr fun tree _ => ?_)
      exact htree tree
    · refine noHits_filterMap_iff.trans (forall₂_congr fun branch _ => ?_)
      exact localFinding_hit_iff.trans (hlocal branch)
  rw [hall]
  constructor
  · rintro ⟨⟨⟨hpulls, hremotes⟩, htrees⟩, hlocals⟩
    exact ⟨hpulls, hremotes, htrees, hlocals⟩
  · rintro ⟨hpulls, hremotes, htrees, hlocals⟩
    exact ⟨⟨⟨hpulls, hremotes⟩, htrees⟩, hlocals⟩

/-- The check reports a clear ticket if and only if it can read everything and all of it is
clear. -/
theorem exitCode_eq_zero_iff {word : List Char} (haccepted : ticket.Accepted word)
    (hexcluded : excludedBranches args ticket = .ok excluded) :
    exitCode (check ticket e args) = 0 ↔
      ∃ rows refs trees locals, e.Read args.remote excluded ticket rows refs trees locals ∧
        Clear excluded ticket e.marker rows refs trees locals := by
  rw [exitCode_check hexcluded]
  constructor
  · intro h
    split at h
    · cases h
    · rename_i hfailures
      obtain ⟨rows, refs, trees, locals, hread⟩ := failures_eq_nil_iff.1 (not_not.1 hfailures)
      split at h
      · cases h
      · rename_i hhits
        refine ⟨rows, refs, trees, locals, hread, ?_⟩
        exact (noHits_findings_iff haccepted hread).1 (noHits_iff.2 (not_not.1 hhits))
  · rintro ⟨rows, refs, trees, locals, hread, hclear⟩
    have hfailures := failures_eq_nil_iff.2 ⟨rows, refs, trees, locals, hread⟩
    have hhits := noHits_iff.1 ((noHits_findings_iff haccepted hread).2 hclear)
    rw [if_neg (not_not.2 hfailures), if_neg (not_not.2 hhits)]

/-- The exit code of the check, exactly: 2 if it is refused, 3 if anything that it has to read
cannot be read, and otherwise 0 or 1 as what is named after the ticket is left out of account or
stranded, or not. -/
theorem check_verdict_iff {word : List Char} (haccepted : ticket.Accepted word) (e : Evidence)
    (args : CheckArgs) :
    (exitCode (check ticket e args) = 2 ↔
      ∀ excluded, excludedBranches args ticket ≠ .ok excluded) ∧
    ∀ excluded, excludedBranches args ticket = .ok excluded →
      (exitCode (check ticket e args) = 3 ↔ ∀ rows refs trees locals,
        ¬ e.Read args.remote excluded ticket rows refs trees locals) ∧
      ∀ rows refs trees locals, e.Read args.remote excluded ticket rows refs trees locals →
        (exitCode (check ticket e args) = 0 ↔
            Clear excluded ticket e.marker rows refs trees locals) ∧
          (exitCode (check ticket e args) = 1 ↔
            ¬ Clear excluded ticket e.marker rows refs trees locals) := by
  constructor
  · cases hexcluded : excludedBranches args ticket with
    | error failure =>
        apply iff_of_true (exitCode_of_refused hexcluded)
        intro excluded hok
        cases hok
    | ok excluded =>
        apply iff_of_false
        · rw [exitCode_check hexcluded]
          split
          · decide
          · split
            · decide
            · decide
        · intro hnone
          exact hnone excluded rfl
  · intro excluded hexcluded
    rw [exitCode_check hexcluded]
    constructor
    · have hread := not_congr (@failures_eq_nil_iff excluded ticket e args)
      simp only [not_exists] at hread
      rw [← hread]
      constructor
      · intro h
        by_contra hnil
        rw [if_neg (not_not.2 hnil)] at h
        split at h
        · cases h
        · cases h
      · intro h
        rw [if_pos h]
    · intro rows refs trees locals h
      have hfailures := failures_eq_nil_iff.2 ⟨rows, refs, trees, locals, h⟩
      rw [if_neg (not_not.2 hfailures), ← noHits_findings_iff haccepted h, noHits_iff]
      by_cases hhits : (findings excluded ticket e args).filterMap Finding.hit? = []
      · rw [if_neg (not_not.2 hhits)]
        exact ⟨iff_of_true rfl hhits, iff_of_false (by decide) (not_not.2 hhits)⟩
      · rw [if_pos hhits]
        exact ⟨iff_of_false (by decide) hhits, iff_of_true rfl hhits⟩

/-- The stranded work is read, and clear. -/
theorem check_verdict_iff_stranded :
    ∃ rows refs trees locals,
      strandedEvidence.Read "origin" [] ⟨"FLA", "17"⟩ rows refs trees locals ∧
        Clear [] ⟨"FLA", "17"⟩ strandedEvidence.marker rows refs trees locals := by
  have hcode : exitCode (check ⟨"FLA", "17"⟩ strandedEvidence ⟨"origin", none, []⟩) = 0 := by
    decide +kernel
  obtain ⟨hunread, hverdict⟩ :=
    (check_verdict_iff accepted_fla17 strandedEvidence ⟨"origin", none, []⟩).2 [] rfl
  by_contra hnone
  have hthree := hunread.2 fun rows refs trees locals hread =>
    hnone ⟨rows, refs, trees, locals, hread, (hverdict _ _ _ _ hread).1.1 hcode⟩
  rw [hcode] at hthree
  cases hthree

end Verdict

end KyomiConnect.TicketWorktrees
