import SqlProxy.Base.Json
import SqlProxy.Outcomes

/-! `http/routes.cpp`: the answer to one POST /query. Requests that are no SQL request are
turned away before the pipeline. -/
namespace SqlProxy
open ByteText Json

/-- What the handler reads of a request; a header that is missing is empty. -/
structure Request where
  contentType : Bytes
  body : Bytes

structure Response where
  status : Nat
  contentType : Bytes
  body : Bytes
  deriving DecidableEq

structure FailureResponse where
  status : Nat
  code : Bytes
  message : Bytes
  deriving DecidableEq

namespace Routes

def maxSqlLength : Nat := 64 * 1024

def responseFor : ServiceFailure → FailureResponse
  | .emptyInput => ⟨400, ascii "empty_sql", ascii "The 'sql' field must not be empty."⟩
  | .unparseableSql => ⟨400, ascii "invalid_sql", ascii "The SQL statement could not be parsed."⟩
  | .policyRejected =>
    ⟨403, ascii "policy_rejected", ascii "The statement was rejected by policy."⟩
  | .queryFailed => ⟨400, ascii "query_failed", ascii "The database rejected the statement."⟩
  | .databaseUnavailable =>
    ⟨503, ascii "database_unavailable", ascii "The database is currently unavailable."⟩
  | .maskingRefused =>
    ⟨422, ascii "masking_refused",
      ascii "Results could not be safely masked and were not returned."⟩
  | .internalError => ⟨500, ascii "internal_error", ascii "An internal error occurred."⟩

def invalidContentType : FailureResponse :=
  ⟨400, ascii "invalid_content_type", ascii "Content-Type must be application/json."⟩

def invalidJson : FailureResponse :=
  ⟨400, ascii "invalid_json", ascii "Request body must be a JSON object."⟩

def invalidRequest : FailureResponse :=
  ⟨400, ascii "invalid_request", ascii "Request body must contain a string 'sql' field."⟩

def sqlTooLarge : FailureResponse :=
  ⟨400, ascii "sql_too_large", ascii "The 'sql' field exceeds the maximum accepted length."⟩

def errorBody (failure : FailureResponse) : Json :=
  .object (setFields [(ascii "error", .string failure.code),
    (ascii "message", .string failure.message)] [])

def writeBody (result : WriteResult) : Json :=
  .object (setFields [(ascii "affected_rows", .unsigned result.affectedRows)] [])

def cellJson : Cell → Json
  | some value => .string value
  | none => .null

def rowJson (row : List Cell) : Json := .array (row.map cellJson)

def readBody (masked : MaskedQueryResult) : Json :=
  .object (setFields [(ascii "columns", .array (masked.columnNames.map .string)),
    (ascii "rows", .array (masked.rows.map rowJson)),
    (ascii "row_count", .unsigned masked.rows.length)] [])

section Handler
variable (json : Library Exception)

/-- `set_content` of what is dumped. -/
def sendJson (status : Nat) (body : Json) : Except Exception Response := do
  let text ← json.dump body
  pure { status := status, contentType := ascii "application/json", body := text }

def sendError (failure : FailureResponse) : Except Exception Response :=
  sendJson json failure.status (errorBody failure)

/-- The transport checks: the statement carried, or what turns the request away. -/
def checkRequest (request : Request) : Except FailureResponse Bytes :=
  if !(ascii "application/json").isPrefixOf request.contentType then .error invalidContentType
  else match json.parse request.body with
    | some (.object fields) =>
      match findField (ascii "sql") fields with
      | some (.string sql) =>
        if sql.length > maxSqlLength then .error sqlTooLarge else .ok sql
      | _ => .error invalidRequest
    | _ => .error invalidJson

/-- The answer for what the service returned. -/
def respond : ServiceResult → Except Exception Response
  | .failure failure => sendError json (responseFor failure)
  | .writeSuccess result => sendJson json 200 (writeBody result)
  | .success masked => sendJson json 200 (readBody masked)

def handleQueryRequest (request : Request) : Service Response :=
  match checkRequest json request with
  | .error failure => liftM (sendError json failure)
  | .ok sql => do
    let result ← ProxyService.handle sql
    liftM (respond json result)

def healthBody : Json := .object (setFields [(ascii "status", .string (ascii "ok"))] [])

/-- GET /health, which asks nothing of the service. -/
def handleHealthRequest : Service Response := liftM (sendJson json 200 healthBody)

end Handler

/-! The bodies. -/

theorem canonical_errorBody (failure : FailureResponse) : (errorBody failure).Canonical :=
  canonical_setFields (by simp [Canonical])

theorem canonical_writeBody (result : WriteResult) : (writeBody result).Canonical :=
  canonical_setFields (by simp [Canonical])

theorem canonical_rowJson (row : List Cell) : (rowJson row).Canonical := by
  refine canonicalAll_iff.mpr fun item hitem => ?_
  obtain ⟨cell, -, rfl⟩ := List.mem_map.mp hitem
  cases cell <;> trivial

theorem canonical_readBody (masked : MaskedQueryResult) : (readBody masked).Canonical := by
  refine canonical_setFields (List.forall_mem_cons.mpr ⟨?_, List.forall_mem_cons.mpr ⟨?_, ?_⟩⟩)
  · refine canonicalAll_iff.mpr fun item hitem => ?_
    obtain ⟨name, -, rfl⟩ := List.mem_map.mp hitem
    trivial
  · refine canonicalAll_iff.mpr fun item hitem => ?_
    obtain ⟨row, -, rfl⟩ := List.mem_map.mp hitem
    exact canonical_rowJson row
  · simp [Canonical]

/-- Every fixed text can be encoded. -/
theorem encodable_responseFor (failure : ServiceFailure) :
    (errorBody (responseFor failure)).Encodable := by
  cases failure <;> decide +kernel

theorem encodable_rejections : (errorBody invalidContentType).Encodable ∧
    (errorBody invalidJson).Encodable ∧ (errorBody invalidRequest).Encodable ∧
    (errorBody sqlTooLarge).Encodable := by
  decide +kernel

theorem encodable_writeBody (result : WriteResult) : (writeBody result).Encodable := by
  intro s hs
  obtain ⟨field, hfield, hs⟩ := mem_strings_setFields hs
  have hkey : Utf8.Valid (ascii "affected_rows") := by decide
  obtain rfl := List.mem_singleton.mp hfield
  rcases hs with rfl | hs
  · exact hkey
  · simp [strings] at hs

theorem mem_strings_rowJson {row : List Cell} {s : Bytes} :
    s ∈ (rowJson row).strings ↔ some s ∈ row := by
  rw [rowJson, strings, mem_stringsAll]
  constructor
  · rintro ⟨item, hitem, hs⟩
    obtain ⟨cell, hcell, rfl⟩ := List.mem_map.mp hitem
    cases cell with
    | none => simp [cellJson, strings] at hs
    | some value =>
      rw [List.mem_singleton.mp hs]
      exact hcell
  · intro h
    exact ⟨.string s, List.mem_map.mpr ⟨some s, h, rfl⟩, List.mem_singleton.mpr rfl⟩

theorem readBody_eq (masked : MaskedQueryResult) :
    readBody masked = .object [(ascii "columns", .array (masked.columnNames.map .string)),
      (ascii "row_count", .unsigned masked.rows.length),
      (ascii "rows", .array (masked.rows.map rowJson))] := by
  rfl

/-- A read can be encoded exactly when its names and its values are UTF-8. -/
theorem encodable_readBody {masked : MaskedQueryResult} :
    (readBody masked).Encodable ↔ (∀ name ∈ masked.columnNames, Utf8.Valid name) ∧
      ∀ row ∈ masked.rows, ∀ value, some value ∈ row → Utf8.Valid value := by
  have hkeys : Utf8.Valid (ascii "columns") ∧ Utf8.Valid (ascii "row_count") ∧
      Utf8.Valid (ascii "rows") := by
    decide
  have hnames {s : Bytes} : s ∈ (Json.array (masked.columnNames.map .string)).strings ↔
      s ∈ masked.columnNames := by
    simp [strings, mem_stringsAll]
  have hrows {s : Bytes} : s ∈ (Json.array (masked.rows.map rowJson)).strings ↔
      ∃ row ∈ masked.rows, some s ∈ row := by
    simp [strings, mem_stringsAll, mem_strings_rowJson]
  have hmem {s : Bytes} : s ∈ (readBody masked).strings ↔
      s = ascii "columns" ∨ s ∈ masked.columnNames ∨ s = ascii "row_count" ∨
        s = ascii "rows" ∨ ∃ row ∈ masked.rows, some s ∈ row := by
    have hcount : s ∉ (Json.unsigned masked.rows.length).strings := List.not_mem_nil
    rw [readBody_eq, strings]
    simp only [stringsFields, List.mem_cons, List.mem_append, hnames, hrows, hcount,
      List.not_mem_nil, false_or, or_false]
  constructor
  · intro h
    refine ⟨fun name hname => h name (hmem.mpr (.inr (.inl hname))), ?_⟩
    intro row hrow value hvalue
    exact h value (hmem.mpr (.inr (.inr (.inr (.inr ⟨row, hrow, hvalue⟩)))))
  · rintro ⟨hn, hr⟩ s hs
    rcases hmem.mp hs with rfl | hs | rfl | rfl | ⟨row, hrow, hs⟩
    · exact hkeys.1
    · exact hn s hs
    · exact hkeys.2.1
    · exact hkeys.2.2
    · exact hr row hrow s hs

section Handler
variable {json : Library Exception}

/-- What can be encoded is sent, and reads back. -/
theorem sendJson_encodable (json : Library Exception) (status : Nat) {body : Json}
    (hc : body.Canonical) (he : body.Encodable) : ∃ text, sendJson json status body =
      .ok { status := status, contentType := ascii "application/json", body := text } ∧
      json.parse text = some body := by
  obtain ⟨text, htext⟩ := (json.dump_ok body).mpr he
  refine ⟨text, ?_, json.parse_dump body text hc htext⟩
  rw [sendJson, htext]
  rfl

/-- What cannot throws out of the handler. -/
theorem sendJson_throws (json : Library Exception) (status : Nat) {body : Json} (he : ¬ body.Encodable) :
    ∃ e, sendJson json status body = .error e := by
  cases hdump : json.dump body with
  | ok text => exact absurd ((json.dump_ok body).mp ⟨text, hdump⟩) he
  | error e => exact ⟨e, by rw [sendJson, hdump]; rfl⟩

theorem checkRequest_error {request : Request} {failure : FailureResponse}
    (h : checkRequest json request = .error failure) :
    failure.status = 400 ∧ (errorBody failure).Encodable := by
  obtain ⟨hc, hj, hr, hs⟩ := encodable_rejections
  unfold checkRequest at h
  split_ifs at h
  · cases h
    exact ⟨rfl, hc⟩
  · split at h
    · split at h
      · split_ifs at h
        · cases h
          exact ⟨rfl, hs⟩
      · cases h
        exact ⟨rfl, hr⟩
    · cases h
      exact ⟨rfl, hj⟩

/-- The statement a request carries, once it has passed the transport checks. -/
def Carries (json : Library Exception) (request : Request) (sql : Bytes) : Prop :=
  ascii "application/json" <+: request.contentType ∧
    ∃ fields, json.parse request.body = some (.object fields) ∧
      findField (ascii "sql") fields = some (.string sql) ∧ sql.length ≤ maxSqlLength

theorem checkRequest_ok {request : Request} {sql : Bytes} :
    checkRequest json request = .ok sql ↔ Carries json request sql := by
  unfold checkRequest Carries
  constructor
  · intro h
    split_ifs at h with hstart
    split at h
    · next fields hparse =>
      split at h
      · next sql' hfind =>
        split_ifs at h with hlong
        cases h
        exact ⟨by simpa using hstart, fields, hparse, hfind, Nat.not_lt.mp hlong⟩
      · cases h
    · cases h
  · rintro ⟨hstart, fields, hparse, hfind, hlen⟩
    have hlong : ¬ sql.length > maxSqlLength := Nat.not_lt.mpr hlen
    simp [List.isPrefixOf_iff_prefix.mpr hstart, hparse, hfind, hlong]

section Run
variable (json) (env : Environment) (request : Request)

/-- What the handler answers or throws. -/
def answered : Except Exception Response :=
  (handleQueryRequest json request).result env.answers

def calls : List ServiceEvent := (handleQueryRequest json request).trace env.answers

end Run

variable {env : Environment} {request : Request} {sql : Bytes} {failure : FailureResponse}

theorem answered_rejected (env : Environment) (h : checkRequest json request = .error failure) :
    answered json env request = sendError json failure ∧ calls json env request = [] := by
  simp only [answered, calls, handleQueryRequest, h, Environment.result_liftM,
    Environment.trace_liftM, and_self]

theorem answered_carried (env : Environment) (h : Carries json request sql) :
    answered json env request = (env.handled sql).bind (respond json) := by
  rw [← checkRequest_ok] at h
  simp only [answered, handleQueryRequest, h, CallProgram.result_bind,
    Environment.result_liftM]
  rfl

theorem calls_carried (h : Carries json request sql) :
    calls json env request = env.events sql := by
  rw [← checkRequest_ok] at h
  simp only [calls, handleQueryRequest, h, CallProgram.trace_bind, Environment.trace_liftM]
  cases (ProxyService.handle sql).result env.answers <;> simp [Environment.events]

end Handler
end Routes
end SqlProxy
