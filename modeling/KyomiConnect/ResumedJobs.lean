import KyomiConnect.RemoteResults

/-! # Resuming a job

A caller that has the id of a BigQuery job goes on reading its results without
submitting the query again. The call that submitted the job asks for the results
at the job's location; the call that resumes it knows no location and asks without
one. Both are run here beside a log of the requests they send, and compared by what
they ask for and what they return.
-/

namespace KyomiConnect

open Logged (note)

variable {σ : Type}

/-- The server answers every request alike in both states. -/
def Net.AnswersAlike (net : Net σ) (s t : σ) : Prop :=
  ∀ req, (net.send req s).1 = (net.send req t).1

namespace BigQueryProvider

variable (p : BigQueryProvider) (net : Net σ) (fmt : Formats)

/-! ## The results of a job -/

/-- What the answer to a request for results says. -/
def readResults : Except String HttpResponse → Except Error Json
  | .error e => .error (.internal ("BigQuery get results failed" ++ ": " ++ e))
  | .ok response =>
      match response.body with
      | .error e => .error (.internal ("Failed to parse BigQuery results response" ++ ": " ++ e))
      | .ok body =>
          if response.isError then .error (.internal (extractBigqueryError body)) else .ok body

/-- The request for results that a call with this limit and offset sends. -/
def callRequest (jobId location : String) (limit offset : Option UInt32) : HttpRequest :=
  p.resultsRequest jobId location (limit.getD 1000) (offset.getD 0).toUInt64

/-- Fetching the results is one request, whose answer gets the job's statistics. -/
theorem runs_getQueryResults (jobId location : String) (limit offset : Option UInt32)
    (jobBody : Json) (s : σ) :
    (p.getQueryResults net jobId location limit offset jobBody).runs s =
      ((readResults (net.send (p.callRequest jobId location limit offset) s).1).map
          (mergeStatistics jobBody),
        (net.send (p.callRequest jobId location limit offset) s).2) := by
  rcases hsend : net.send (p.callRequest jobId location limit offset) s with ⟨_ | response, s'⟩
  · unfold callRequest at hsend
    rw [getQueryResults, Call.runs_bind_error (Net.runs_request_error hsend)]
    rfl
  · unfold callRequest at hsend
    rw [getQueryResults, Call.runs_bind_ok (Net.runs_request_ok hsend)]
    cases hbody : response.body with
    | error e =>
        rw [Call.runs_bind_error (response.runs_json_error hbody _ s')]
        simp only [readResults, hbody]
        rfl
    | ok body =>
        rw [Call.runs_bind_ok (response.runs_json_ok hbody _ s')]
        simp only [readResults, hbody, checked]
        by_cases herror : response.isError
        · rw [if_pos herror, if_pos herror]
          rfl
        · rw [if_neg herror, if_neg herror]
          rfl

/-! ## What a call returns -/

/-- Columns, rows, whether there are more of them, and the job's id. -/
abbrev Shown : Type := Option (List ColumnInfo) × Option RecordBatch × Bool × Option String

/-- What a caller sees of a result. -/
def shown (r : QueryResult) : Shown := (r.columns, r.recordBatch, r.hasMore, r.jobId)

/-- What is shown of a call that ends with these results of a job; none if it panics. -/
def shownOf (limit : Option UInt32) :
    Except Error (String × Option Json) → Option Shown
  | .error _ => some (none, none, false, none)
  | .ok (_, none) => none
  | .ok (jobId, some results) => some (shown (resultOf fmt limit false 0 jobId results))

/-- What a call shows and the requests it sends are those of the results it gets. -/
theorem shown_executeQuery (sql : String) (limit offset : Option UInt32) (includeTotal : Bool)
    (jobId : Option String) (s : σ × List HttpRequest) :
    (p.executeQuery net.recorded fmt sql limit offset includeTotal jobId s).1.map (·.map shown) =
        (shownOf fmt limit ((p.jobResults net.recorded sql limit offset jobId).runs s).1).map .ok ∧
      (p.executeQuery net.recorded fmt sql limit offset includeTotal jobId s).2.2 =
        ((p.jobResults net.recorded sql limit offset jobId).runs s).2.2 := by
  unfold executeQuery
  rcases (p.jobResults net.recorded sql limit offset jobId).runs s with ⟨e | ⟨id, _ | results⟩, t⟩
  · exact ⟨rfl, net.recorded_elapsedMs t⟩
  · exact ⟨rfl, rfl⟩
  · exact ⟨rfl, net.recorded_elapsedMs t⟩

/-- The statistics of the job do not show. -/
theorem shownOf_mergeStatistics (limit : Option UInt32) (jobId : String) {job results page : Json}
    (h : mergeStatistics job results = some page) :
    shownOf fmt limit (.ok (jobId, some page)) = shownOf fmt limit (.ok (jobId, some results)) := by
  have hcolumns := (resultsPage_of_mergeStatistics h).1
  have hrows : bigqueryRows page = bigqueryRows results := by
    simp only [bigqueryRows, Json.getArray, get_of_mergeStatistics h "rows" (by decide)]
  simp only [shownOf, shown, resultOf, hcolumns, hrows]

/-! ## Resuming -/

/-- The job's statistics can be written into what the server answers: there are none, or
the answer is an object, null or no result at all. -/
def statisticsFit (job : Json) (answer : Except String HttpResponse) : Bool :=
  match readResults answer with
  | .error _ => true
  | .ok results => (mergeStatistics job results).isSome

variable (sql sql' : String) (limit offset : Option UInt32) (includeTotal includeTotal' : Bool)
  (job : Job) (s t t' : σ × List HttpRequest)

/-- The call that submitted the job, whose submission went from `s` to `t`, and the one that
resumes it in `t'` send the same request for results, and return the same. -/
def Continues : Prop :=
  let submitted := p.executeQuery net.recorded fmt sql limit offset includeTotal none s
  let resumed := p.executeQuery net.recorded fmt sql' limit offset includeTotal' (some job.jobId) t'
  (∃ request, submitted.2.2 = t.2 ++ [request] ∧ resumed.2.2 = t'.2 ++ [request]) ∧
    submitted.1.map (·.map shown) = resumed.1.map (·.map shown)

/-- A URL with a location is not the one without. -/
theorem withLocation_eq_self_iff {url separator location : String} :
    withLocation url separator location = url ↔ location = "" := by
  unfold withLocation
  split
  · rename_i hempty
    exact iff_of_true rfl hempty
  · rename_i hlocation
    refine iff_of_false (fun h => ?_) hlocation
    have hlength : (url ++ separator ++ "location=" ++ location).length = url.length :=
      congrArg String.length h
    have hpos : "location=".length = 9 := by decide
    rw [String.length_append, String.length_append, String.length_append, hpos] at hlength
    omega

/-- The location is part of the request. -/
theorem callRequest_eq_iff {jobId location : String} :
    p.callRequest jobId location limit offset = p.callRequest jobId "" limit offset ↔
      location = "" := by
  constructor
  · intro h
    exact withLocation_eq_self_iff.1 (congrArg HttpRequest.url h)
  · rintro rfl
    rfl

variable {p net fmt sql sql' limit offset includeTotal includeTotal' job s t t'}

variable (limit offset) in
/-- The results that the submitting call gets, and its request. -/
theorem runs_jobResults_none (h : (p.submitQueryJob net.recorded sql).runs s = (.ok job, t)) :
    ((p.jobResults net.recorded sql limit offset none).runs s).1 =
        (readResults (net.send (p.callRequest job.jobId job.location limit offset) t.1).1).map
          (fun results => (job.jobId, mergeStatistics job.body results)) ∧
      ((p.jobResults net.recorded sql limit offset none).runs s).2.2 =
        t.2 ++ [p.callRequest job.jobId job.location limit offset] := by
  have hresults :=
    p.runs_getQueryResults net.recorded job.jobId job.location limit offset job.body t
  rw [jobResults, Call.runs_bind_ok h, Call.runs_bind, hresults]
  simp only [Net.recorded, note]
  cases readResults (net.send (p.callRequest job.jobId job.location limit offset) t.1).1 with
  | error e => exact ⟨rfl, rfl⟩
  | ok results => exact ⟨rfl, rfl⟩

variable (p net sql limit offset t) in
/-- The results that the resuming call gets, and its request. -/
theorem runs_jobResults_some (jobId : String) :
    ((p.jobResults net.recorded sql limit offset (some jobId)).runs t).1 =
        (readResults (net.send (p.callRequest jobId "" limit offset) t.1).1).map
          (fun results => (jobId, some results)) ∧
      ((p.jobResults net.recorded sql limit offset (some jobId)).runs t).2.2 =
        t.2 ++ [p.callRequest jobId "" limit offset] := by
  have hresults := p.runs_getQueryResults net.recorded jobId "" limit offset (.object []) t
  rw [jobResults, Call.runs_bind, hresults]
  simp only [Net.recorded, note]
  cases readResults (net.send (p.callRequest jobId "" limit offset) t.1).1 with
  | error e => exact ⟨rfl, rfl⟩
  | ok results => exact ⟨rfl, rfl⟩

/-- Both calls show the same of the results, unless the submitting one panics. -/
theorem shownOf_submitted_iff {jobId : String} {jobBody : Json}
    {answer : Except String HttpResponse} :
    shownOf fmt limit ((readResults answer).map fun results =>
        (jobId, mergeStatistics jobBody results)) =
      shownOf fmt limit ((readResults answer).map fun results => (jobId, some results)) ↔
      statisticsFit jobBody answer := by
  unfold statisticsFit
  cases readResults answer with
  | error e => exact iff_of_true rfl rfl
  | ok results =>
      simp only [Except.map]
      cases hmerge : mergeStatistics jobBody results with
      | none => exact iff_of_false nofun nofun
      | some page => exact iff_of_true (shownOf_mergeStatistics fmt limit jobId hmerge) rfl

/-- Resuming equals continuing exactly for a job without a location whose statistics can be
written into its results. -/
theorem continues_iff (h : (p.submitQueryJob net.recorded sql).runs s = (.ok job, t))
    (hserver : net.AnswersAlike t.1 t'.1) :
    p.Continues net fmt sql sql' limit offset includeTotal includeTotal' job s t t' ↔
      job.location = "" ∧
        statisticsFit job.body (net.send (p.callRequest job.jobId "" limit offset) t.1).1 := by
  have hsubmitted := runs_jobResults_none limit offset h
  have hresumed := p.runs_jobResults_some net sql' limit offset t' job.jobId
  have hshown := p.shown_executeQuery net fmt sql limit offset includeTotal none s
  have hshown' := p.shown_executeQuery net fmt sql' limit offset includeTotal' (some job.jobId) t'
  have hrequest : (∃ request, t.2 ++ [p.callRequest job.jobId job.location limit offset] =
        t.2 ++ [request] ∧ t'.2 ++ [p.callRequest job.jobId "" limit offset] = t'.2 ++ [request]) ↔
      job.location = "" := by
    simp only [List.append_cancel_left_eq, List.cons.injEq, and_true, exists_eq_left']
    rw [eq_comm, callRequest_eq_iff]
  change (∃ request, _ ∧ _) ∧ _ ↔ _
  rw [hshown.1, hshown.2, hshown'.1, hshown'.2, hsubmitted.1, hsubmitted.2, hresumed.1, hresumed.2,
    hrequest]
  refine and_congr_right fun hlocation => ?_
  -- without a location both ask for the same, of a server that answers the same
  rw [hlocation, ← hserver, (Option.map_injective fun _ _ => Except.ok.inj).eq_iff,
    shownOf_submitted_iff]

/-! ## Jobs at a place -/

/-- A server whose only job has one row. It knows the job at its location only. -/
def jobServer (location : String) : Net Unit :=
  .stateless fun req =>
    if req.method = .post then
      .ofJson 200 (.object [("jobReference",
        .object [("jobId", .string "j"), ("location", .string location)]),
        ("status", .object [("state", .string "DONE")]),
        ("statistics", .object [("totalBytesProcessed", .string "1")])])
    else if req.url = (plainBigQuery.callRequest "j" location none none).url then
      .ofJson 200 (.object [("schema", .object [("fields",
        .array [.object [("name", .string "a"), ("type", .string "INT64")]])]),
        ("rows", .array [.object [("f", .array [.object [("v", .string "1")]])]])])
    else .ofJson 404 (.object [("error", .object [("message", .string "Not found: Job")])])

/-- The job of such a server, submitted. -/
def jobAt (location : String) : Job where
  jobId := "j"
  location
  body := .object [("jobReference",
    .object [("jobId", .string "j"), ("location", .string location)]),
    ("status", .object [("state", .string "DONE")]),
    ("statistics", .object [("totalBytesProcessed", .string "1")])]

/-- The requests that submitted it. -/
def submitted : List HttpRequest :=
  [plainBigQuery.postRequest plainBigQuery.queriesUrl (plainBigQuery.submitBody "SELECT 1")]

/-- A job without a location is resumed. -/
theorem continues_without_location :
    plainBigQuery.Continues (jobServer "") Formats.blank "SELECT 1" "SELECT 1" none none false false
      (jobAt "") ((), []) ((), submitted) ((), submitted) :=
  (continues_iff rfl fun _ => rfl).2 ⟨rfl, by rfl⟩

/-- A job in a region is not: it is not found. -/
theorem regional_job_not_resumed :
    (plainBigQuery.submitQueryJob (jobServer "asia-northeast1").recorded "SELECT 1").runs ((), []) =
        (.ok (jobAt "asia-northeast1"), (), submitted) ∧
      (plainBigQuery.executeQuery (jobServer "asia-northeast1").recorded Formats.blank "SELECT 1"
        none none false (some "j") ((), submitted)).1.map (·.map shown) =
        some (.ok (none, none, false, none)) ∧
      ¬ plainBigQuery.Continues (jobServer "asia-northeast1") Formats.blank "SELECT 1" "SELECT 1"
        none none false false (jobAt "asia-northeast1") ((), []) ((), submitted)
        ((), submitted) := by
  refine ⟨rfl, by rfl, fun h => ?_⟩
  have hjob := congrArg (fun r => r.bind fun x => x.toOption.bind fun x => x.2.2.2) h.2
  exact Option.some_ne_none "j" hjob

end BigQueryProvider

end KyomiConnect
