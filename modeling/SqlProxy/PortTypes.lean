import SqlProxy.Base.ByteText

/-! The vocabulary shared by the core and its ports: `core/sql_analysis.h`,
`core/data_classification.h` and `ports/*.h`. -/
namespace SqlProxy
open ByteText

inductive StatementType where
  | select | insert | update | delete | create | alter | drop | unknown
  deriving DecidableEq

inductive StatementClass where
  | select | dml | ddl | unknown
  deriving DecidableEq

def statementClassOf : StatementType → StatementClass
  | .select => .select
  | .insert | .update | .delete => .dml
  | .create | .alter | .drop => .ddl
  | .unknown => .unknown

def StatementType.toBytes : StatementType → Bytes
  | .select => ascii "SELECT"
  | .insert => ascii "INSERT"
  | .update => ascii "UPDATE"
  | .delete => ascii "DELETE"
  | .create => ascii "CREATE"
  | .alter => ascii "ALTER"
  | .drop => ascii "DROP"
  | .unknown => ascii "UNKNOWN"

inductive InsertSource where
  | none | values | select
  deriving DecidableEq

inductive InsertValueKind where
  | unsupported | positiveIntegerLiteral | positiveDecimalLiteral | nonPositiveNumericLiteral
  deriving DecidableEq

inductive AnalysisStatus where
  | ok | emptyInput | parseError | multipleStatements
  deriving DecidableEq

structure SqlAnalysis where
  status : AnalysisStatus := .parseError
  statementType : StatementType := .unknown
  statementClass : StatementClass := .unknown
  statementCount : Int := 0
  tables : List Bytes := []
  projectionColumns : List Bytes := []
  hasWildcardProjection : Bool := false
  hasComputedProjection : Bool := false
  hasSafeCountStarProjection : Bool := false
  hasGroupBy : Bool := false
  affectedColumns : List Bytes := []
  insertSource : InsertSource := .none
  insertValueKinds : List InsertValueKind := []
  unsupportedFeatures : List Bytes := []
  errorReason : Bytes := []
  deriving DecidableEq

/-- `ports::TableRef`; the schema is empty when the reference is unqualified. -/
structure TableRef where
  schema : Bytes
  name : Bytes
  deriving DecidableEq

structure ParsedStatement where
  type : StatementType := .unknown
  tables : List TableRef := []
  projectionColumns : List Bytes := []
  hasWildcardProjection : Bool := false
  hasComputedProjection : Bool := false
  hasSafeCountStarProjection : Bool := false
  hasGroupBy : Bool := false
  affectedColumns : List Bytes := []
  insertSource : InsertSource := .none
  insertValueKinds : List InsertValueKind := []
  unsupportedFeatures : List Bytes := []
  deriving DecidableEq

structure ParseResult where
  success : Bool := false
  statements : List ParsedStatement := []
  error : Bytes := []
  deriving DecidableEq

inductive ColumnType where
  | text | integer | float | numeric | boolean | timestamp | date | other
  deriving DecidableEq

structure ColumnInfo where
  name : Bytes
  type : ColumnType := .other
  deriving DecidableEq

inductive ExecutionStatus where
  | ok | connectionFailure | executionFailure
  deriving DecidableEq

/-- `none` is SQL NULL and `some []` the empty string. -/
abbrev Cell := Option Bytes

/-- `long long` counts are kept as integers: nothing is computed from them, they
are only compared with zero and converted. -/
structure ExecutionResult where
  status : ExecutionStatus := .executionFailure
  error : Bytes := []
  hasResultSet : Bool := false
  columns : List ColumnInfo := []
  rows : List (List Cell) := []
  rowCount : Int := 0
  affectedRows : Int := 0
  deriving DecidableEq

inductive AuditAppendResult where
  | ok | openFailure | writeFailure
  deriving DecidableEq

inductive PiiCategory where
  | email | phone | creditCard
  deriving DecidableEq

inductive ColumnDataClass where
  | notClassifiedAsPii | pii | unattributed
  deriving DecidableEq

structure ColumnClassification where
  dataClass : ColumnDataClass := .unattributed
  piiCategory : Option PiiCategory := none
  deriving DecidableEq

structure ClassificationResult where
  columns : List ColumnClassification := []
  fullyAttributed : Bool := false
  deriving DecidableEq

/-- What travels when C++ code throws. `foreign` is anything thrown by a parser, an
executor or an audit repository; the service looks at neither. -/
inductive Exception where
  | invalidArgument (what : Bytes)
  | foreign
  deriving DecidableEq

end SqlProxy
