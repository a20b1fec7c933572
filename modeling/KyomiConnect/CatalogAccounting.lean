import KyomiConnect.Catalog
import KyomiConnect.Lib.InTurn

/-! # What a crawl accounts for

A crawl visits the containers in the order they were discovered and, in each
container whose tables could be listed, the tables in the order they were listed.
A visit keeps what the call for it came to. `discoverCatalog_accounts` reads the
result off the visits: every container and every table gives one entry or one
error, and what it gives depends on its own visit only.
-/

namespace KyomiConnect

/-! ## How a handler ends -/

namespace Handler

variable {σ α β : Type}

/-- From the state `s` the handler ends with an outcome in the state `s'`. -/
def Ends (x : Handler σ α) (s : σ) (outcome : Except String α) (s' : σ) : Prop :=
  (ExceptT.run x).run s = some (outcome, s')

/-- A handler that gives its value at once. -/
theorem ends_pure_iff {a : α} {s s' : σ} {outcome : Except String α} :
    Ends (pure a : Handler σ α) s outcome s' ↔ outcome = .ok a ∧ s' = s := by
  unfold Ends
  constructor
  · intro h
    cases h
    exact ⟨rfl, rfl⟩
  · rintro ⟨rfl, rfl⟩
    rfl

/-- A handler that fails at once. -/
theorem ends_throw_iff {e : String} {s s' : σ} {outcome : Except String α} :
    Ends (throw e : Handler σ α) s outcome s' ↔ outcome = .error e ∧ s' = s := by
  unfold Ends
  constructor
  · intro h
    cases h
    exact ⟨rfl, rfl⟩
  · rintro ⟨rfl, rfl⟩
    rfl

/-- The bind rule: a value goes on, an error stops. -/
theorem ends_bind_iff {x : Handler σ α} {f : α → Handler σ β} {s s' : σ}
    {outcome : Except String β} :
    Ends (x >>= f) s outcome s' ↔
      (∃ e, Ends x s (.error e) s' ∧ outcome = .error e) ∨
      ∃ a s₁, Ends x s (.ok a) s₁ ∧ Ends (f a) s₁ outcome s' := by
  unfold Ends
  rcases hx : (ExceptT.run x).run s with _ | ⟨_ | a, s₁⟩
  · simp [ExceptT.run_bind, hx]
  · simp only [ExceptT.run_bind, StateT.run_bind, hx]
    constructor
    · intro h
      cases h
      exact .inl ⟨_, rfl, rfl⟩
    · rintro (⟨e, he, rfl⟩ | ⟨a, s₂, ha, _⟩)
      · cases he
        rfl
      · cases ha
  · simp only [ExceptT.run_bind, StateT.run_bind, hx]
    constructor
    · intro h
      exact .inr ⟨a, s₁, rfl, h⟩
    · rintro (⟨e, he, _⟩ | ⟨b, s₂, hb, h⟩)
      · cases he
      · cases hb
        exact h

/-- Two handlers in sequence. -/
theorem Ends.bind {x : Handler σ α} {f : α → Handler σ β} {s s₁ s' : σ} {a : α}
    {outcome : Except String β} (hx : Ends x s (.ok a) s₁) (hf : Ends (f a) s₁ outcome s') :
    Ends (x >>= f) s outcome s' :=
  ends_bind_iff.2 (.inr ⟨a, s₁, hx, hf⟩)

/-- What was attempted is a value for what follows, an error too. -/
theorem ends_attempt_bind_iff {x : Handler σ α} {f : Except String α → Handler σ β} {s s' : σ}
    {outcome : Except String β} :
    Ends (attempt x >>= f) s outcome s' ↔ ∃ r s₁, Ends x s r s₁ ∧ Ends (f r) s₁ outcome s' := by
  have hattempt : ∀ r s₁, Ends (attempt x) s r s₁ ↔ ∃ r', r = .ok r' ∧ Ends x s r' s₁ := by
    intro r s₁
    unfold Ends attempt
    rcases hx : (ExceptT.run x).run s with _ | ⟨r', s₂⟩
    · simp [hx]
    · simp only [ExceptT.run_lift, StateT.run_map, hx]
      constructor
      · intro h
        cases h
        exact ⟨r', rfl, rfl⟩
      · rintro ⟨r', rfl, h⟩
        cases h
        rfl
  rw [ends_bind_iff]
  constructor
  · rintro (⟨e, he, _⟩ | ⟨r, s₁, hr, h⟩)
    · rcases (hattempt _ _).1 he with ⟨r', hr', _⟩
      cases hr'
    · rcases (hattempt _ _).1 hr with ⟨r', hr', hx⟩
      cases hr'
      exact ⟨r, s₁, hx, h⟩
  · rintro ⟨r, s₁, hx, h⟩
    exact .inr ⟨r, s₁, (hattempt _ _).2 ⟨r, rfl, hx⟩, h⟩

/-- A check before a value: it stops with an error or does nothing. -/
theorem ends_check_iff {failed : Bool} {message : String} {a : α} {s s' : σ}
    {outcome : Except String α} :
    Ends (do
        if failed then throw message
        return a : Handler σ α) s outcome s' ↔
      outcome = (if failed then .error message else .ok a) ∧ s' = s := by
  cases failed with
  | true => exact ends_throw_iff
  | false => exact ends_pure_iff

end Handler

open Handler (Ends)

/-! ## Visits -/

/-- The visit of a table: what `discover_columns` came to. -/
structure TableVisit where
  name : String
  type : String
  columns : Except String (List CatalogColumn)

/-- The visit of a container: what `discover_tables` came to, and the visits of
the tables it listed. -/
structure ContainerVisit where
  name : String
  tables : Except String (List TableVisit)

namespace TableVisit

/-- The table as the result has it. -/
def entry (v : TableVisit) : Option CatalogTable :=
  match v.columns with
  | .ok columns => some { name := v.name, nativeType := some v.type, columns }
  | .error _ => none

def error (v : TableVisit) : Option String :=
  match v.columns with
  | .ok _ => none
  | .error e => some e

theorem entry_or_error (v : TableVisit) : v.entry.isSome = v.error.isNone := by
  unfold entry error
  cases v.columns <;> rfl

end TableVisit

namespace ContainerVisit

/-- The container as the result has it. -/
def entry (v : ContainerVisit) : Option CatalogContainer :=
  match v.tables with
  | .ok tables => some { name := v.name, tables := tables.filterMap TableVisit.entry }
  | .error _ => none

/-- The error the container is behind. -/
def error (v : ContainerVisit) : Option String :=
  match v.tables with
  | .ok _ => none
  | .error e => some e

/-- The errors its tables are behind. -/
def tableErrors (v : ContainerVisit) : List String :=
  match v.tables with
  | .ok tables => tables.filterMap TableVisit.error
  | .error _ => []

def errors (v : ContainerVisit) : List String := v.error.toList ++ v.tableErrors

theorem entry_or_error (v : ContainerVisit) : v.entry.isSome = v.error.isNone := by
  unfold entry error
  cases v.tables <;> rfl

/-- A container that is not listed has an error. -/
theorem entry_eq_none_iff (v : ContainerVisit) : v.entry = none ↔ v.error.isSome := by
  unfold entry error
  cases v.tables <;> simp

end ContainerVisit

section Crawl

variable {σ Bytes : Type} (provider : DatasourceProvider σ Bytes) (dbType : String)

/-- A table is visited by asking for its columns. -/
def TableVisited (container : String) (s : σ) (table : String × String) (v : TableVisit)
    (s' : σ) : Prop :=
  v.name = table.1 ∧ v.type = table.2 ∧
    Ends (discoverColumns provider dbType container table.1) s v.columns s'

/-- A container is visited by asking for its tables, and then visiting them. -/
inductive ContainerVisited : σ → String → ContainerVisit → σ → Prop where
  | listed {s s₁ s' : σ} {name : String} {tables : List (String × String)}
      {visits : List TableVisit}
      (head : Ends (discoverTables provider dbType name) s (.ok tables) s₁)
      (inner : InTurn (TableVisited provider dbType name) s₁ tables visits s') :
      ContainerVisited s name { name, tables := .ok visits } s'
  | failed {s s' : σ} {name e : String}
      (head : Ends (discoverTables provider dbType name) s (.error e) s') :
      ContainerVisited s name { name, tables := .error e } s'

/-- What a crawl of tables goes on with after a visit. -/
def TableVisit.push (v : TableVisit) (crawled : List CatalogTable × List String) :
    List CatalogTable × List String :=
  (v.entry.toList ++ crawled.1, v.error.toList ++ crawled.2)

/-- The first table, then the others. -/
theorem crawlTables_cons (container : String) (table : String × String)
    (rest : List (String × String)) :
    crawlTables provider dbType container (table :: rest) = (do
      let columns ← Handler.attempt (discoverColumns provider dbType container table.1)
      let crawled ← crawlTables provider dbType container rest
      return TableVisit.push ⟨table.1, table.2, columns⟩ crawled) := by
  rw [crawlTables]
  congr
  funext columns
  cases columns <;> rfl

/-- The tables of a container are visited in turn, and the crawl keeps the entry
or the error of each visit. -/
theorem crawlTables_ends_iff (container : String) (tables : List (String × String)) (s s' : σ)
    (outcome : Except String (List CatalogTable × List String)) :
    Ends (crawlTables provider dbType container tables) s outcome s' ↔
      ∃ visits, InTurn (TableVisited provider dbType container) s tables visits s' ∧
        outcome = .ok (visits.filterMap TableVisit.entry, visits.filterMap TableVisit.error) := by
  -- table by table: each visit leaves an entry or an error
  induction tables generalizing s outcome s' with
  | nil =>
      unfold crawlTables
      rw [Handler.ends_pure_iff]
      constructor
      · rintro ⟨rfl, rfl⟩
        exact ⟨[], .done _, rfl⟩
      · rintro ⟨visits, hvisits, rfl⟩
        cases hvisits
        exact ⟨rfl, rfl⟩
  | cons table rest ih =>
      have hpush : ∀ (v : TableVisit) (visits : List TableVisit),
          v.push (visits.filterMap TableVisit.entry, visits.filterMap TableVisit.error) =
            ((v :: visits).filterMap TableVisit.entry,
              (v :: visits).filterMap TableVisit.error) := by
        intro v visits
        unfold TableVisit.push
        cases hentry : v.entry <;> cases herror : v.error <;> simp [hentry, herror]
      rw [crawlTables_cons, Handler.ends_attempt_bind_iff]
      constructor
      · rintro ⟨columns, s₁, hends, h⟩
        rcases Handler.ends_bind_iff.1 h with ⟨e, he, _⟩ | ⟨crawled, s₂, hcrawled, h⟩
        · -- the crawl of the rest does not fail
          rcases (ih _ _ _).1 he with ⟨visits, _, hvisits⟩
          cases hvisits
        · rcases (ih _ _ _).1 hcrawled with ⟨visits, hvisits, heq⟩
          rcases Handler.ends_pure_iff.1 h with ⟨rfl, rfl⟩
          cases heq
          exact ⟨_, .next ⟨rfl, rfl, hends⟩ hvisits, congrArg Except.ok (hpush _ _)⟩
      · rintro ⟨visits, hvisits, rfl⟩
        cases hvisits with
        | next head tail =>
            rename_i s₁ v visits
            rcases v with ⟨name, type, columns⟩
            rcases head with ⟨rfl, rfl, hends⟩
            have hrest := (ih s₁ s' _).2 ⟨visits, tail, rfl⟩
            refine ⟨columns, s₁, hends, hrest.bind ?_⟩
            exact Handler.ends_pure_iff.2 ⟨congrArg Except.ok (hpush _ _).symm, rfl⟩

/-- The containers are visited in turn, and the crawl keeps the entry of each visit
or its error, and the errors of its tables. -/
theorem crawlContainers_ends_iff (names : List String) (s s' : σ)
    (outcome : Except String (List CatalogContainer × List String)) :
    Ends (crawlContainers provider dbType names) s outcome s' ↔
      ∃ visits, InTurn (ContainerVisited provider dbType) s names visits s' ∧
        outcome = .ok (visits.filterMap ContainerVisit.entry,
          visits.flatMap ContainerVisit.errors) := by
  -- container by container: each visit leaves an entry or its errors
  induction names generalizing s outcome s' with
  | nil =>
      unfold crawlContainers
      rw [Handler.ends_pure_iff]
      constructor
      · rintro ⟨rfl, rfl⟩
        exact ⟨[], .done _, rfl⟩
      · rintro ⟨visits, hvisits, rfl⟩
        cases hvisits
        exact ⟨rfl, rfl⟩
  | cons name rest ih =>
      have hlisted : ∀ (tables : List TableVisit) (visits : List ContainerVisit),
          ((⟨name, .ok tables⟩ :: visits).filterMap ContainerVisit.entry,
            (⟨name, .ok tables⟩ :: visits).flatMap ContainerVisit.errors) =
          (⟨name, tables.filterMap TableVisit.entry⟩ :: visits.filterMap ContainerVisit.entry,
            tables.filterMap TableVisit.error ++ visits.flatMap ContainerVisit.errors) :=
        fun _ _ => rfl
      have hfailed : ∀ (e : String) (visits : List ContainerVisit),
          ((⟨name, .error e⟩ :: visits).filterMap ContainerVisit.entry,
            (⟨name, .error e⟩ :: visits).flatMap ContainerVisit.errors) =
          (visits.filterMap ContainerVisit.entry, e :: visits.flatMap ContainerVisit.errors) :=
        fun _ _ => rfl
      rw [crawlContainers, Handler.ends_attempt_bind_iff]
      constructor
      · rintro ⟨listed, s₁, hends, h⟩
        cases listed with
        | ok tables =>
            rcases Handler.ends_bind_iff.1 h with ⟨e, he, _⟩ | ⟨crawled, s₂, hcrawled, h⟩
            · rcases (crawlTables_ends_iff provider dbType _ _ _ _ _).1 he with ⟨_, _, hvisits⟩
              cases hvisits
            · rcases (crawlTables_ends_iff provider dbType _ _ _ _ _).1 hcrawled with
                ⟨inner, hinner, heq⟩
              cases heq
              rcases Handler.ends_bind_iff.1 h with ⟨e, he, _⟩ | ⟨crawled, s₃, hcrawled, h⟩
              · rcases (ih _ _ _).1 he with ⟨_, _, hvisits⟩
                cases hvisits
              · rcases (ih _ _ _).1 hcrawled with ⟨visits, hvisits, heq⟩
                cases heq
                rcases Handler.ends_pure_iff.1 h with ⟨rfl, rfl⟩
                refine ⟨_, .next (.listed hends hinner) hvisits, ?_⟩
                exact congrArg Except.ok (hlisted inner visits).symm
        | error e =>
            rcases Handler.ends_bind_iff.1 h with ⟨e', he, _⟩ | ⟨crawled, s₂, hcrawled, h⟩
            · rcases (ih _ _ _).1 he with ⟨_, _, hvisits⟩
              cases hvisits
            · rcases (ih _ _ _).1 hcrawled with ⟨visits, hvisits, heq⟩
              cases heq
              rcases Handler.ends_pure_iff.1 h with ⟨rfl, rfl⟩
              refine ⟨_, .next (.failed hends) hvisits, ?_⟩
              exact congrArg Except.ok (hfailed e visits).symm
      · rintro ⟨visits, hvisits, rfl⟩
        cases hvisits with
        | next head tail =>
            rename_i s₁ v visits
            have hrest := (ih s₁ s' _).2 ⟨visits, tail, rfl⟩
            cases head with
            | listed hends hinner =>
                rename_i s₂ tables inner
                have htables := (crawlTables_ends_iff provider dbType name tables s₂ s₁ _).2
                  ⟨inner, hinner, rfl⟩
                refine ⟨_, s₂, hends, htables.bind (hrest.bind ?_)⟩
                exact Handler.ends_pure_iff.2 ⟨congrArg Except.ok (hlisted inner visits), rfl⟩
            | failed hends =>
                rename_i e
                refine ⟨_, s₁, hends, hrest.bind ?_⟩
                exact Handler.ends_pure_iff.2 ⟨congrArg Except.ok (hfailed e visits), rfl⟩

/-- The crawl of a list of containers accounts for each of them: it stands behind
its visit, which gives one entry or one error. -/
structure Accounted (inScope : List String) (visits : List ContainerVisit)
    (outcome : Except String CatalogResult) : Prop where
  /-- The visits are of the containers in scope, in the order of discovery. -/
  visited : visits.map ContainerVisit.name = inScope
  /-- A total failure, and nothing else, is an error. -/
  error_iff : (∃ e, outcome = .error e) ↔ inScope ≠ [] ∧ ∀ v ∈ visits, v.error.isSome
  /-- The entries of the result are those of the visits, in their order. -/
  containers : ∀ r, outcome = .ok r → r.containers = visits.filterMap ContainerVisit.entry
  /-- The errors of the result are those of the visits, in their order. -/
  errors : ∀ r, outcome = .ok r → r.errors = visits.flatMap ContainerVisit.errors
  /-- The error of a total failure tells of every container. -/
  error_text : ∀ e, outcome = .error e →
    e = s!"discover_catalog failed for every container ({inScope.length} attempted): " ++
      "; ".intercalate (visits.filterMap ContainerVisit.error)
  /-- A container is in the result or behind one error. -/
  once : ∀ v ∈ visits, v.entry.isSome = v.error.isNone
  /-- A container in the result lists each of its tables, or has one error for it. -/
  tables_once : ∀ v ∈ visits, ∀ tables, v.tables = .ok tables →
    v.entry = some { name := v.name, tables := tables.filterMap TableVisit.entry } ∧
    v.errors = tables.filterMap TableVisit.error ∧
    ∀ t ∈ tables, t.entry.isSome = t.error.isNone
  /-- Entries and errors are as many as there are containers and tables. -/
  counted : (visits.filterMap ContainerVisit.entry).length +
      (visits.filterMap ContainerVisit.error).length = inScope.length ∧
    ∀ v ∈ visits, ∀ tables, v.tables = .ok tables →
      (tables.filterMap TableVisit.entry).length + (tables.filterMap TableVisit.error).length =
        tables.length

/-- The result of a crawl from what its loop collected. -/
def outcomeOfCrawl (inScope : List String) (visits : List ContainerVisit) :
    Except String CatalogResult :=
  if !inScope.isEmpty && (visits.filterMap ContainerVisit.entry).isEmpty then
    .error (s!"discover_catalog failed for every container ({inScope.length} attempted): " ++
      "; ".intercalate (visits.flatMap ContainerVisit.errors))
  else .ok { containers := visits.filterMap ContainerVisit.entry,
             errors := visits.flatMap ContainerVisit.errors }

/-- Without an entry every visit failed, and its errors are the containers'. -/
theorem errors_of_no_entry {visits : List ContainerVisit}
    (h : ∀ v ∈ visits, v.error.isSome = true) :
    visits.flatMap ContainerVisit.errors = visits.filterMap ContainerVisit.error := by
  induction visits with
  | nil => rfl
  | cons v rest ih =>
      have hv : v.error.isSome = true := h v (by simp)
      have hrest := ih fun w hw => h w (by simp [hw])
      rcases v with ⟨name, tables | e⟩
      · rw [List.flatMap_cons, hrest]
        rfl
      · cases hv

/-- Nothing is listed if and only if every container failed. -/
theorem isEmpty_entries_iff (visits : List ContainerVisit) :
    (visits.filterMap ContainerVisit.entry).isEmpty = true ↔
      ∀ v ∈ visits, v.error.isSome = true := by
  rw [List.isEmpty_iff, List.filterMap_eq_nil_iff]
  constructor
  · intro h v hv
    exact v.entry_eq_none_iff.1 (h v hv)
  · intro h v hv
    exact v.entry_eq_none_iff.2 (h v hv)

/-- The accounts are in order if and only if the outcome is the one of the crawl. -/
theorem accounted_iff {inScope : List String} {visits : List ContainerVisit}
    (hnames : visits.map ContainerVisit.name = inScope)
    (outcome : Except String CatalogResult) :
    Accounted inScope visits outcome ↔ outcome = outcomeOfCrawl inScope visits := by
  have hscope : (!inScope.isEmpty) = true ↔ inScope ≠ [] := by
    cases inScope <;> simp
  have hall : (!inScope.isEmpty && (visits.filterMap ContainerVisit.entry).isEmpty) = true ↔
      inScope ≠ [] ∧ ∀ v ∈ visits, v.error.isSome = true := by
    rw [Bool.and_eq_true, hscope, isEmpty_entries_iff]
  constructor
  · intro h
    unfold outcomeOfCrawl
    rcases outcome with e | r
    · have hfailed := h.error_iff.1 ⟨e, rfl⟩
      rw [if_pos (hall.2 hfailed), h.error_text e rfl, errors_of_no_entry hfailed.2]
    · have hok : ¬ (inScope ≠ [] ∧ ∀ v ∈ visits, v.error.isSome = true) := by
        intro hfailed
        rcases h.error_iff.2 hfailed with ⟨e, he⟩
        cases he
      rw [if_neg (mt hall.1 hok), ← h.containers r rfl, ← h.errors r rfl]
  · rintro rfl
    unfold outcomeOfCrawl
    have hcounted : (visits.filterMap ContainerVisit.entry).length +
        (visits.filterMap ContainerVisit.error).length = inScope.length := by
      rw [InTurn.length_filterMap_add fun v _ => v.entry_or_error, ← hnames, List.length_map]
    have hlisted : ∀ v ∈ visits, ∀ tables, v.tables = .ok tables →
        v.entry = some { name := v.name, tables := tables.filterMap TableVisit.entry } ∧
        v.errors = tables.filterMap TableVisit.error ∧
        ∀ t ∈ tables, t.entry.isSome = t.error.isNone := by
      intro v _ tables htables
      rcases v with ⟨name, listed⟩
      subst htables
      exact ⟨rfl, rfl, fun t _ => t.entry_or_error⟩
    have htables : ∀ v ∈ visits, ∀ tables, v.tables = .ok tables →
        (tables.filterMap TableVisit.entry).length + (tables.filterMap TableVisit.error).length =
          tables.length := by
      intro v _ tables _
      exact InTurn.length_filterMap_add fun t _ => t.entry_or_error
    by_cases hfailed : inScope ≠ [] ∧ ∀ v ∈ visits, v.error.isSome = true
    · rw [if_pos (hall.2 hfailed)]
      constructor
      · exact hnames
      · exact ⟨fun _ => hfailed, fun _ => ⟨_, rfl⟩⟩
      · intro r hr
        cases hr
      · intro r hr
        cases hr
      · intro e he
        cases he
        rw [errors_of_no_entry hfailed.2]
      · exact fun v _ => v.entry_or_error
      · exact hlisted
      · exact ⟨hcounted, htables⟩
    · rw [if_neg (mt hall.1 hfailed)]
      constructor
      · exact hnames
      · constructor
        · rintro ⟨e, he⟩
          cases he
        · intro h
          exact absurd h hfailed
      · intro r hr
        cases hr
        rfl
      · intro r hr
        cases hr
        rfl
      · intro e he
        cases he
      · exact fun v _ => v.entry_or_error
      · exact hlisted
      · exact ⟨hcounted, htables⟩

/-- A crawl ends with an error of the listing, or with the outcome its visits
account for. -/
theorem discoverCatalog_ends_iff (scope : Option (List String)) (includePublic : Option Bool)
    (s s' : σ) (outcome : Except String CatalogResult) :
    Ends (discoverCatalog provider dbType
        { containers := scope, includePublicDatasets := includePublic, containersOnly := false })
        s outcome s' ↔
      (∃ e, Ends (discoverContainers provider dbType) s (.error e) s' ∧ outcome = .error e) ∨
      ∃ names s₁ visits, Ends (discoverContainers provider dbType) s (.ok names) s₁ ∧
        InTurn (ContainerVisited provider dbType) s₁ (filterContainersToScope names scope)
          visits s' ∧
        outcome = outcomeOfCrawl (filterContainersToScope names scope) visits := by
  unfold discoverCatalog
  rw [Handler.ends_bind_iff]
  apply or_congr_right
  constructor
  · rintro ⟨names, s₁, hnames, h⟩
    rcases Handler.ends_bind_iff.1 h with ⟨e, he, _⟩ | ⟨crawled, s₂, hcrawled, h⟩
    · rcases (crawlContainers_ends_iff provider dbType _ _ _ _).1 he with ⟨_, _, hvisits⟩
      cases hvisits
    · rcases (crawlContainers_ends_iff provider dbType _ _ _ _).1 hcrawled with
        ⟨visits, hvisits, heq⟩
      cases heq
      rcases Handler.ends_check_iff.1 h with ⟨houtcome, rfl⟩
      exact ⟨names, s₁, visits, hnames, hvisits, houtcome⟩
  · rintro ⟨names, s₁, visits, hnames, hvisits, houtcome⟩
    have hcrawl := (crawlContainers_ends_iff provider dbType _ s₁ s' _).2 ⟨visits, hvisits, rfl⟩
    exact ⟨names, s₁, hnames, hcrawl.bind (Handler.ends_check_iff.2 ⟨houtcome, rfl⟩)⟩

/-- The scope keeps the containers it names, whatever the case of their ASCII
letters, and an empty scope keeps all of them. -/
theorem mem_filterContainersToScope {names : List String} {scope : Option (List String)}
    {name : String} :
    name ∈ filterContainersToScope names scope ↔
      name ∈ names ∧
        (scope.getD [] = [] ∨ ∃ x ∈ scope.getD [], Text.eqIgnoreAsciiCase x name = true) := by
  unfold filterContainersToScope
  rcases scope with _ | _ | ⟨x, rest⟩
  · simp
  · simp
  · simp

/-- The scope keeps the order of discovery. -/
theorem sublist_filterContainersToScope (names : List String) (scope : Option (List String)) :
    (filterContainersToScope names scope).Sublist names := by
  unfold filterContainersToScope
  rcases scope with _ | _ | ⟨x, rest⟩
  · exact List.Sublist.refl _
  · exact List.Sublist.refl _
  · exact List.filter_sublist

/-- A full crawl accounts for the containers in scope: it ends with the error of
the listing, or with an outcome in which each container, and each table of a
listed container, is in its place or behind one error. What it has for the others
does not depend on a container's, or a table's, visit. -/
theorem discoverCatalog_accounts (scope : Option (List String)) (includePublic : Option Bool) :
    (∀ names, (filterContainersToScope names scope).Sublist names ∧
      ∀ name, name ∈ filterContainersToScope names scope ↔
        name ∈ names ∧
          (scope.getD [] = [] ∨ ∃ x ∈ scope.getD [], Text.eqIgnoreAsciiCase x name = true)) ∧
    (∀ s s' outcome,
      Ends (discoverCatalog provider dbType
          { containers := scope, includePublicDatasets := includePublic, containersOnly := false })
          s outcome s' ↔
        (∃ e, Ends (discoverContainers provider dbType) s (.error e) s' ∧ outcome = .error e) ∨
        ∃ names s₁ visits, Ends (discoverContainers provider dbType) s (.ok names) s₁ ∧
          InTurn (ContainerVisited provider dbType) s₁ (filterContainersToScope names scope)
            visits s' ∧
          Accounted (filterContainersToScope names scope) visits outcome) ∧
    (∀ inScope (visits : List ContainerVisit) inScope' (visits' : List ContainerVisit) r r' (i : ℕ),
      Accounted inScope visits (.ok r) → Accounted inScope' visits' (.ok r') →
      (∀ j, j ≠ i → visits[j]? = visits'[j]?) →
      ∃ before after,
        r.containers = before ++ (visits[i]?.bind ContainerVisit.entry).toList ++ after ∧
        r'.containers = before ++ (visits'[i]?.bind ContainerVisit.entry).toList ++ after) ∧
    ∀ (tables tables' : List TableVisit) (i : ℕ), (∀ j, j ≠ i → tables[j]? = tables'[j]?) →
      ∃ before after,
        tables.filterMap TableVisit.entry =
          before ++ (tables[i]?.bind TableVisit.entry).toList ++ after ∧
        tables'.filterMap TableVisit.entry =
          before ++ (tables'[i]?.bind TableVisit.entry).toList ++ after := by
  refine ⟨?_, ?_, ?_, ?_⟩
  · intro names
    exact ⟨sublist_filterContainersToScope names scope, fun _ => mem_filterContainersToScope⟩
  · intro s s' outcome
    rw [discoverCatalog_ends_iff]
    apply or_congr_right
    have hiff : ∀ names s₁ visits,
        InTurn (ContainerVisited provider dbType) s₁ (filterContainersToScope names scope)
          visits s' →
        (Accounted (filterContainersToScope names scope) visits outcome ↔
          outcome = outcomeOfCrawl (filterContainersToScope names scope) visits) := by
      intro names s₁ visits hvisits
      apply accounted_iff
      have hnames := hvisits.map_eq id ContainerVisit.name (by
        intro s a b s' hvisited
        cases hvisited <;> rfl)
      rw [hnames, List.map_id]
    constructor
    · rintro ⟨names, s₁, visits, hnames, hvisits, houtcome⟩
      exact ⟨names, s₁, visits, hnames, hvisits, (hiff names s₁ visits hvisits).2 houtcome⟩
    · rintro ⟨names, s₁, visits, hnames, hvisits, haccounted⟩
      exact ⟨names, s₁, visits, hnames, hvisits, (hiff names s₁ visits hvisits).1 haccounted⟩
  · intro inScope visits inScope' visits' r r' i h h' hagree
    rw [h.containers r rfl, h'.containers r' rfl]
    exact InTurn.filterMap_around _ hagree
  · intro tables tables' i hagree
    exact InTurn.filterMap_around _ hagree

end Crawl

end KyomiConnect
