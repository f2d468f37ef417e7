import SqlProxy.Base.CallProgram
import SqlProxy.SqlAnalyzer
import SqlProxy.PolicyEngine
import SqlProxy.DataClassifier
import SqlProxy.PiiMasker
import SqlProxy.AuditRecord

/-! `core/proxy_service.cpp`: the pipeline analyze, policy, execute, classify, mask,
audit. `handle` is a program over its calls, from taking the mutex to releasing it. -/
namespace SqlProxy
open ByteText

structure MaskedQueryResult where
  columnNames : List Bytes
  rows : List (List Cell)
  deriving DecidableEq

structure WriteResult where
  affectedRows : Nat := 0
  deriving DecidableEq

inductive ServiceFailure where
  | emptyInput | unparseableSql | policyRejected | databaseUnavailable | queryFailed
  | maskingRefused | internalError
  deriving DecidableEq

inductive ServiceResult where
  | success (result : MaskedQueryResult)
  | writeSuccess (result : WriteResult)
  | failure (failure : ServiceFailure)
  deriving DecidableEq

def ServiceResult.succeeded : ServiceResult → Bool
  | .failure _ => false
  | _ => true

structure Processing where
  result : ServiceResult
  record : AuditRecord
  deriving DecidableEq

/-- What the service calls: its mutex, the clock, its id counter and the three ports. -/
inductive Call where
  | lock
  | clock
  | takeRequestId
  | parse (sql : Bytes)
  | execute (sql : Bytes)
  | append (record : AuditRecord)
  | unlock
  deriving DecidableEq

abbrev Call.Reply : Call → Type
  | .lock | .unlock => Unit
  | .clock => Int
  | .takeRequestId => UInt64
  | .parse _ => ParseResult
  | .execute _ => ExecutionResult
  | .append _ => AuditAppendResult

abbrev Service := CallProgram Call Call.Reply Exception

instance : MonadLift (Except Exception) Service := ⟨CallProgram.lift⟩

def ask (c : Call) : Service c.Reply := CallProgram.perform c

def lockMutex : Service Unit := ask .lock
def unlockMutex : Service Unit := ask .unlock
def nowEpochMs : Service Int := ask .clock
def takeRequestId : Service UInt64 := ask .takeRequestId
def askParser (sql : Bytes) : Service ParseResult := ask (.parse sql)
def askExecutor (sql : Bytes) : Service ExecutionResult := ask (.execute sql)
def askRepository (record : AuditRecord) : Service AuditAppendResult := ask (.append record)

namespace ProxyService
open CallProgram

def checkedCount (value : Int) (what : Bytes) : Except Exception Nat :=
  if value < 0 then .error (.invalidArgument (what ++ ascii " must not be negative"))
  else .ok value.toNat

def countColumn (summary : PiiSummary) (column : ColumnClassification) : PiiSummary :=
  match column.dataClass, column.piiCategory with
  | .pii, some .email => { summary with emailColumns := summary.emailColumns + 1 }
  | .pii, some .phone => { summary with phoneColumns := summary.phoneColumns + 1 }
  | .pii, some .creditCard =>
    { summary with creditCardColumns := summary.creditCardColumns + 1 }
  | _, _ => summary

def summarize (classification : ClassificationResult) : PiiSummary :=
  classification.columns.foldl countColumn {}

def toMaskedResult (masked : ExecutionResult) : MaskedQueryResult where
  columnNames := masked.columns.map ColumnInfo.name
  rows := masked.rows

def clientFailureFor : RejectReason → ServiceFailure
  | .emptyInput => .emptyInput
  | _ => .policyRejected

/-- The member `classifier_` of every service. -/
def classifier : DataClassifier := DataClassifier.default

section Process
variable (timestampMs : Int) (requestId : UInt64) (analysis : SqlAnalysis)

/-- The denial path. -/
def deny (reason : RejectReason) : Except Exception Processing :=
  if reason = .unparseableSql then
    .ok ⟨.failure .unparseableSql, .parsingFailure timestampMs requestId⟩
  else do
    let count ← checkedCount analysis.statementCount (ascii "statement_count")
    let record ← AuditRecord.policyRejected timestampMs requestId
      { reason := reason, statementType := analysis.statementType, statementCount := count }
      analysis.tables
    pure ⟨.failure (clientFailureFor reason), record⟩

/-- The database answered with a failure. -/
def databaseFailed (status : ExecutionStatus) : Except Exception Processing := do
  let connection := status = .connectionFailure
  let record ← AuditRecord.databaseFailure timestampMs requestId
    { category := if connection then .connectionFailure else .executionFailure
      statementType := analysis.statementType }
    analysis.tables
  pure ⟨.failure (if connection then .databaseUnavailable else .queryFailed), record⟩

/-- The one authorized write has been executed. -/
def wrote (execution : ExecutionResult) : Except Exception Processing := do
  let affected ← checkedCount execution.affectedRows (ascii "affected_rows")
  if affected ≠ 1 then
    pure ⟨.failure .internalError, .internalFailure timestampMs requestId⟩
  else do
    let record ← AuditRecord.writeSuccess timestampMs requestId
      { statementType := analysis.statementType, affectedRows := affected } analysis.tables
    pure ⟨.writeSuccess { affectedRows := affected }, record⟩

/-- The read path, which nothing leaves without going through the masker. -/
def read (execution : ExecutionResult) : Except Exception Processing := do
  let rowCount ← checkedCount execution.rowCount (ascii "row_count")
  let columnCount := execution.columns.length
  let classification := classifier.classify analysis execution.columns
  match PiiMasker.mask execution classification with
  | .failure .unattributedColumn => do
    let record ← AuditRecord.maskingRefused timestampMs requestId
      { statementType := analysis.statementType, columnCount := columnCount } analysis.tables
    pure ⟨.failure .maskingRefused, record⟩
  | .failure _ => pure ⟨.failure .internalError, .internalFailure timestampMs requestId⟩
  | .success masked => do
    let record ← AuditRecord.success timestampMs requestId
      { statementType := analysis.statementType, rowCount := rowCount,
        columnCount := columnCount, pii := summarize classification }
      analysis.tables
    pure ⟨.success (toMaskedResult masked), record⟩

/-- Everything after `execute` has returned. -/
def conclude (execution : ExecutionResult) : Except Exception Processing :=
  if execution.status ≠ .ok then
    databaseFailed timestampMs requestId analysis execution.status
  else if analysis.statementType = .insert then wrote timestampMs requestId analysis execution
  else read timestampMs requestId analysis execution

end Process

/-- `ProxyService::process`, over the injected parser and executor. -/
def process {m : Type → Type} [Monad m] [MonadLiftT (Except Exception) m]
    (parser : Bytes → m ParseResult) (executor : Bytes → m ExecutionResult)
    (sql : Bytes) (timestampMs : Int) (requestId : UInt64) : m Processing := do
  let analysis ← SqlAnalyzer.analyze parser sql
  let decision := PolicyEngine.evaluate analysis
  if !decision.allowed then
    liftM (deny timestampMs requestId analysis decision.reason)
  else do
    let execution ← executor sql
    liftM (conclude timestampMs requestId analysis execution)

/-- A throwing repository behaves like a failing one. -/
def appendSafely (record : AuditRecord) : Service AuditAppendResult :=
  (askRepository record).catching fun _ => pure .writeFailure

/-- What any exception of the pipeline becomes. -/
def internalProcessing (timestampMs : Int) (requestId : UInt64) : Processing :=
  ⟨.failure .internalError, .internalFailure timestampMs requestId⟩

/-- A success may not leave unaudited; a failure keeps its reason. -/
def answer (result : ServiceResult) (appended : AuditAppendResult) : ServiceResult :=
  if appended ≠ .ok && result.succeeded then .failure .internalError else result

/-- `process` under the one catch of the pipeline. -/
def processSafely (sql : Bytes) (timestampMs : Int) (requestId : UInt64) : Service Processing :=
  (process askParser askExecutor sql timestampMs requestId).catching fun _ =>
    pure (internalProcessing timestampMs requestId)

/-- The scope of the lock guard. -/
def guarded (sql : Bytes) : Service ServiceResult := do
  let timestampMs ← nowEpochMs
  let requestId ← takeRequestId
  let processing ← processSafely sql timestampMs requestId
  let appended ← appendSafely processing.record
  pure (answer processing.result appended)

def handle (sql : Bytes) : Service ServiceResult := do
  lockMutex
  (guarded sql).ensuring unlockMutex

end ProxyService

/-! One request against given answers. -/

/-- The answers one request gets. Each port is called at most once in a request, so a
function of the argument is as general as any port with a state of its own. -/
structure Environment where
  now : Int
  requestId : UInt64
  parse : Bytes → Except Exception ParseResult
  execute : Bytes → Except Exception ExecutionResult
  append : AuditRecord → Except Exception AuditAppendResult

def Environment.answers (env : Environment) : (c : Call) → Except Exception c.Reply
  | .lock | .unlock => .ok ()
  | .clock => .ok env.now
  | .takeRequestId => .ok env.requestId
  | .parse sql => env.parse sql
  | .execute sql => env.execute sql
  | .append record => env.append record

abbrev ServiceEvent := CallProgram.Event Call Call.Reply Exception

/-- The statements given to the executor, with what it answered. -/
def executions (es : List ServiceEvent) : List (Bytes × Except Exception ExecutionResult) :=
  es.filterMap fun
    | ⟨.execute sql, reply⟩ => some (sql, reply)
    | _ => none

/-- The records given to the audit repository, with what it answered. -/
def appends (es : List ServiceEvent) : List (AuditRecord × Except Exception AuditAppendResult) :=
  es.filterMap fun
    | ⟨.append record, reply⟩ => some (record, reply)
    | _ => none

@[simp] theorem executions_append (es fs : List ServiceEvent) :
    executions (es ++ fs) = executions es ++ executions fs := List.filterMap_append

@[simp] theorem appends_append (es fs : List ServiceEvent) :
    appends (es ++ fs) = appends es ++ appends fs := List.filterMap_append

namespace Environment
open CallProgram ProxyService
variable (env : Environment) (sql : Bytes)

def handled : Except Exception ServiceResult := (handle sql).result env.answers

def events : List ServiceEvent := (handle sql).trace env.answers

/-- The analysis of the request, or what the parser threw. -/
def analysis : Except Exception SqlAnalysis := SqlAnalyzer.analyze env.parse sql

def processed : Except Exception Processing :=
  process env.parse env.execute sql env.now env.requestId

/-- Result and record, once the catch-all has dealt with exceptions. -/
def processing : Processing :=
  match env.processed sql with
  | .ok processing => processing
  | .error _ => internalProcessing env.now env.requestId

def appended : AuditAppendResult :=
  match env.append (env.processing sql).record with
  | .ok appended => appended
  | .error _ => .writeFailure

section Ports

@[simp] theorem result_lockMutex : lockMutex.result env.answers = .ok () := rfl

@[simp] theorem result_unlockMutex : unlockMutex.result env.answers = .ok () := rfl

@[simp] theorem result_nowEpochMs : nowEpochMs.result env.answers = .ok env.now := rfl

@[simp] theorem result_takeRequestId :
    takeRequestId.result env.answers = .ok env.requestId := rfl

@[simp] theorem result_askParser : (askParser sql).result env.answers = env.parse sql := rfl

@[simp] theorem result_askExecutor :
    (askExecutor sql).result env.answers = env.execute sql := rfl

@[simp] theorem result_askRepository (record : AuditRecord) :
    (askRepository record).result env.answers = env.append record := rfl

@[simp] theorem trace_lockMutex : lockMutex.trace env.answers = [⟨.lock, .ok ()⟩] := rfl

@[simp] theorem trace_unlockMutex : unlockMutex.trace env.answers = [⟨.unlock, .ok ()⟩] := rfl

@[simp] theorem trace_nowEpochMs :
    nowEpochMs.trace env.answers = [⟨.clock, .ok env.now⟩] := rfl

@[simp] theorem trace_takeRequestId :
    takeRequestId.trace env.answers = [⟨.takeRequestId, .ok env.requestId⟩] := rfl

@[simp] theorem trace_askParser :
    (askParser sql).trace env.answers = [⟨.parse sql, env.parse sql⟩] := rfl

@[simp] theorem trace_askExecutor :
    (askExecutor sql).trace env.answers = [⟨.execute sql, env.execute sql⟩] := rfl

@[simp] theorem trace_askRepository (record : AuditRecord) :
    (askRepository record).trace env.answers = [⟨.append record, env.append record⟩] := rfl

@[simp] theorem result_liftM {α : Type} (r : Except Exception α) :
    (liftM r : Service α).result env.answers = r := rfl

@[simp] theorem trace_liftM {α : Type} (r : Except Exception α) :
    (liftM r : Service α).trace env.answers = [] := rfl

end Ports

theorem result_analyze :
    (SqlAnalyzer.analyze askParser sql).result env.answers = env.analysis sql := by
  unfold analysis SqlAnalyzer.analyze
  split
  · rfl
  · rw [result_bind, result_askParser]
    rfl

theorem result_process :
    (process askParser askExecutor sql env.now env.requestId).result env.answers =
      env.processed sql := by
  unfold processed process
  rw [result_bind, result_analyze]
  change (env.analysis sql).bind _ = (env.analysis sql).bind _
  congr 1
  funext analysis
  by_cases h : (!(PolicyEngine.evaluate analysis).allowed) = true
  · simp only [h, if_true]
    rfl
  · simp only [h, Bool.false_eq_true, if_false, result_bind, result_askExecutor]
    rfl

theorem result_processSafely :
    (processSafely sql env.now env.requestId).result env.answers =
      .ok (env.processing sql) := by
  unfold processSafely processing
  rw [result_catching, result_process]
  cases env.processed sql <;> rfl

theorem result_appendSafely :
    (appendSafely (env.processing sql).record).result env.answers =
      .ok (env.appended sql) := by
  unfold appendSafely appended
  rw [result_catching, result_askRepository]
  cases env.append (env.processing sql).record <;> rfl

theorem result_guarded :
    (guarded sql).result env.answers =
      .ok (answer (env.processing sql).result (env.appended sql)) := by
  simp only [guarded, result_bind, result_nowEpochMs, result_takeRequestId, Except.bind,
    result_processSafely, result_appendSafely, result_pure]

/-- No exception leaves `handle`. -/
theorem handled_eq :
    env.handled sql = .ok (answer (env.processing sql).result (env.appended sql)) := by
  simp only [handled, handle, result_bind, result_lockMutex, result_unlockMutex, Except.bind,
    result_ensuring, result_guarded]

/-! The calls of one request. -/

theorem trace_analyze :
    (SqlAnalyzer.analyze askParser sql).trace env.answers =
      if SqlAnalyzer.isBlank sql then [] else [⟨.parse sql, env.parse sql⟩] := by
  unfold SqlAnalyzer.analyze
  split
  · rfl
  · rw [trace_bind, trace_askParser, result_askParser]
    cases env.parse sql <;> rfl

theorem trace_process :
    (process askParser askExecutor sql env.now env.requestId).trace env.answers =
      (if SqlAnalyzer.isBlank sql then [] else [⟨.parse sql, env.parse sql⟩]) ++
      match env.analysis sql with
      | .ok analysis =>
        if (PolicyEngine.evaluate analysis).allowed then [⟨.execute sql, env.execute sql⟩] else []
      | .error _ => [] := by
  unfold process
  rw [trace_bind, trace_analyze, result_analyze]
  congr 1
  cases env.analysis sql with
  | error e => rfl
  | ok analysis =>
    cases h : (PolicyEngine.evaluate analysis).allowed with
    | false => simp [h]
    | true =>
      simp only [h, Bool.not_true, Bool.false_eq_true, if_false, if_true, trace_bind,
        trace_askExecutor, result_askExecutor]
      cases env.execute sql <;> simp

theorem trace_guarded :
    (guarded sql).trace env.answers =
      [⟨.clock, .ok env.now⟩, ⟨.takeRequestId, .ok env.requestId⟩] ++
      (process askParser askExecutor sql env.now env.requestId).trace env.answers ++
      [⟨.append (env.processing sql).record, env.append (env.processing sql).record⟩] := by
  have hp : (processSafely sql env.now env.requestId).trace env.answers =
      (process askParser askExecutor sql env.now env.requestId).trace env.answers := by
    unfold processSafely
    rw [trace_catching, result_process]
    cases env.processed sql <;> simp
  have ha : (appendSafely (env.processing sql).record).trace env.answers =
      [⟨.append (env.processing sql).record, env.append (env.processing sql).record⟩] := by
    unfold appendSafely
    rw [trace_catching, trace_askRepository, result_askRepository]
    cases env.append (env.processing sql).record <;> rfl
  simp only [guarded, trace_bind, trace_nowEpochMs, result_nowEpochMs, trace_takeRequestId,
    result_takeRequestId, hp, ha, result_processSafely, result_appendSafely, trace_pure,
    List.append_nil, List.cons_append, List.nil_append]

theorem events_eq :
    env.events sql = ⟨.lock, .ok ()⟩ :: (guarded sql).trace env.answers ++ [⟨.unlock, .ok ()⟩] := by
  simp only [events, handle, trace_bind, trace_lockMutex, result_lockMutex, trace_ensuring,
    trace_unlockMutex, List.cons_append, List.nil_append]

theorem executions_process :
    executions ((process askParser askExecutor sql env.now env.requestId).trace env.answers) =
      match env.analysis sql with
      | .ok analysis =>
        if (PolicyEngine.evaluate analysis).allowed then [(sql, env.execute sql)] else []
      | .error _ => [] := by
  rw [trace_process, executions_append]
  have hb : executions (if SqlAnalyzer.isBlank sql then []
      else [⟨.parse sql, env.parse sql⟩]) = [] := by
    split <;> rfl
  rw [hb, List.nil_append]
  cases env.analysis sql with
  | error e => rfl
  | ok analysis => cases h : (PolicyEngine.evaluate analysis).allowed <;> simp [executions, h]

/-- At most one statement is executed, and it is the text of the request. -/
theorem executions_events :
    executions (env.events sql) =
      match env.analysis sql with
      | .ok analysis =>
        if (PolicyEngine.evaluate analysis).allowed then [(sql, env.execute sql)] else []
      | .error _ => [] := by
  rw [← executions_process, events_eq, trace_guarded]
  simp [executions]

/-- One append, of the record of this request. -/
theorem appends_events :
    appends (env.events sql) =
      [((env.processing sql).record, env.append (env.processing sql).record)] := by
  have hp : appends ((process askParser askExecutor sql env.now env.requestId).trace
      env.answers) = [] := by
    rw [trace_process, appends_append]
    have hb : appends (if SqlAnalyzer.isBlank sql then []
        else [⟨.parse sql, env.parse sql⟩]) = [] := by
      split <;> rfl
    rw [hb, List.nil_append]
    cases env.analysis sql with
    | error e => rfl
    | ok analysis =>
      cases h : (PolicyEngine.evaluate analysis).allowed <;> simp [appends, h]
  rw [events_eq, trace_guarded]
  calc
    _ = appends ((process askParser askExecutor sql env.now env.requestId).trace env.answers) ++
        [((env.processing sql).record, env.append (env.processing sql).record)] := by
          simp [appends]
    _ = _ := by rw [hp, List.nil_append]

end Environment
end SqlProxy
