import SqlProxy.ReadPath

/-! `postgres/postgres_query_executor.cpp`: what the adapter makes of the driver's answer.
The driver, with its connection and its transaction, is a parameter. -/
namespace SqlProxy.PostgresQueryExecutor
open ByteText

def columnTypeFromOid : Nat → ColumnType
  | 25 | 1043 | 1042 => .text
  | 20 | 21 | 23 => .integer
  | 700 | 701 => .float
  | 1700 => .numeric
  | 16 => .boolean
  | 1114 | 1184 => .timestamp
  | 1082 => .date
  | _ => .other

/-- `pqxx::result`: the names and type ids of its columns, and a field, null or not, for each
row and column. -/
structure PqxxResult where
  columns : List (Bytes × Nat)
  size : Nat
  field : Nat → Nat → Cell
  affectedRows : Nat

def translate (result : PqxxResult) : ExecutionResult where
  status := .ok
  hasResultSet := result.columns.length > 0
  columns := result.columns.map fun c => { name := c.1, type := columnTypeFromOid c.2 }
  rows := (List.range result.size).map fun i =>
    (List.range result.columns.length).map (result.field i)
  rowCount := result.size
  affectedRows := result.affectedRows

def failure (status : ExecutionStatus) (error : Bytes) : ExecutionResult :=
  { status := status, error := error }

/-- What the driver throws, in the order of the catch clauses. -/
inductive DriverError where
  | brokenConnection
  | sqlError (sqlstate : Bytes)
  | failure
  | other

def execute (driver : Bytes → Except DriverError PqxxResult) (sql : Bytes) : ExecutionResult :=
  match driver sql with
  | .ok result => translate result
  | .error .brokenConnection => failure .connectionFailure (ascii "connection failed")
  | .error (.sqlError sqlstate) =>
    failure .executionFailure (ascii "statement failed (SQLSTATE " ++ sqlstate ++ ascii ")")
  | .error .failure => failure .executionFailure (ascii "statement failed")
  | .error .other => failure .executionFailure (ascii "executor failure")

/-- The rows are counted, and as wide as the column list. -/
structure WellShaped (result : ExecutionResult) : Prop where
  counted : result.rowCount = result.rows.length
  rectangular : PiiMasker.Rectangular result

theorem translate_wellShaped (result : PqxxResult) : WellShaped (translate result) := by
  constructor
  · simp [translate]
  · intro row hrow
    obtain ⟨i, -, rfl⟩ := List.mem_map.mp hrow
    simp [translate]

theorem failure_wellShaped (status : ExecutionStatus) (error : Bytes) :
    WellShaped (failure status error) :=
  ⟨rfl, List.forall_mem_nil _⟩

/-- So is every result of the adapter, a failure as well. -/
theorem execute_wellShaped (driver : Bytes → Except DriverError PqxxResult) (sql : Bytes) :
    WellShaped (execute driver sql) := by
  unfold execute
  cases driver sql with
  | ok result => exact translate_wellShaped result
  | error e => cases e <;> exact failure_wellShaped _ _

end SqlProxy.PostgresQueryExecutor
