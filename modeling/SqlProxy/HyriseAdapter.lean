import SqlProxy.Base.Integers
import SqlProxy.PortTypes
import Mathlib.Tactic.SplitIfs

/-! `parser/hyrise_sql_parser.cpp`: from an hsql syntax tree to raw syntax facts.
The tree is what the external parser hands over, so nothing is assumed of it: every
pointer may be null and every field may go with every type tag. -/
namespace SqlProxy.Hsql
open ByteText

inductive ExprType where
  | literalFloat | literalString | literalInt | literalNull | literalDate | literalInterval
  | star | parameter | columnRef | functionRef | operator | select | hint | array
  | arrayIndex | extract | cast
  deriving DecidableEq

/-- A `double`; the adapter only compares it with zero. -/
inductive Double where
  | nan
  | infinite (negative : Bool)
  | finite (value : Rat)

def Double.positive : Double → Bool
  | .nan => false
  | .infinite negative => !negative
  | .finite value => 0 < value

/-- The fields of `hsql::Expr` that are read, with the alias that a result column is
reported under. `windowDescription` is whether that pointer is set. -/
structure Expr where
  type : ExprType
  name : Option Bytes := none
  table : Option Bytes := none
  aliasName : Option Bytes := none
  exprList : Option (List (Option Expr)) := none
  distinct : Bool := false
  windowDescription : Bool := false
  ival : Int := 0
  fval : Double := .finite 0

/-- A table alias, with the column list of `customers AS c(a, b)`. -/
structure Alias where
  name : Bytes
  columns : Option (List Bytes) := none

/-- `hsql::TableRef *`. A null `join` reads as two null sides and a null `list` as an
empty one. The query inside a FROM subquery is never looked at. -/
inductive TableRef where
  | null
  | tableName (schema name : Option Bytes) (tableAlias : Option Alias)
  | tableSelect
  | tableJoin (left right : TableRef)
  | tableCrossProduct (list : List TableRef)

structure WithDescription where
  aliasName : Bytes

structure SetOperation where
  isAll : Bool

/-- `groupBy` is whether the pointer is set. -/
structure SelectStatement where
  fromTable : TableRef := .null
  selectList : Option (List (Option Expr)) := none
  groupBy : Bool := false
  withDescriptions : Option (List WithDescription) := none
  setOperations : Option (List SetOperation) := none

def SelectStatement.entries (stmt : SelectStatement) : List (Option Expr) :=
  stmt.selectList.getD []

def SelectStatement.hasCte (stmt : SelectStatement) : Bool :=
  !(stmt.withDescriptions.getD []).isEmpty

def SelectStatement.hasSetOperation (stmt : SelectStatement) : Bool :=
  !(stmt.setOperations.getD []).isEmpty

inductive InsertType where
  | values | select
  deriving DecidableEq

structure InsertStatement where
  type : InsertType := .values
  schema : Option Bytes := none
  tableName : Option Bytes := none
  columns : Option (List (Option Bytes)) := none
  values : Option (List (Option Expr)) := none

structure UpdateClause where
  column : Option Bytes

structure UpdateStatement where
  table : TableRef := .null
  updates : Option (List (Option UpdateClause)) := none

structure DeleteStatement where
  schema : Option Bytes := none
  tableName : Option Bytes := none

inductive CreateType where
  | table | tableFromTbl | view | index
  deriving DecidableEq

structure CreateStatement where
  type : CreateType := .table
  schema : Option Bytes := none
  tableName : Option Bytes := none

inductive DropType where
  | table | schema | index | view | preparedStatement
  deriving DecidableEq

structure DropStatement where
  type : DropType := .table
  schema : Option Bytes := none
  name : Option Bytes := none

structure AlterStatement where
  schema : Option Bytes := none
  name : Option Bytes := none

/-- `other` is every statement kind without a translator of its own. -/
inductive SQLStatement where
  | select (stmt : SelectStatement)
  | insert (stmt : InsertStatement)
  | update (stmt : UpdateStatement)
  | delete (stmt : DeleteStatement)
  | create (stmt : CreateStatement)
  | drop (stmt : DropStatement)
  | alter (stmt : AlterStatement)
  | other

structure SQLParserResult where
  isValid : Bool
  statements : List (Option SQLStatement) := []
  errorLine : Int := 0
  errorColumn : Int := 0

end SqlProxy.Hsql

namespace SqlProxy.HyriseAdapter
open ByteText Hsql

def copyOrEmpty : Option Bytes → Bytes
  | none => []
  | some s => s

def isCountStar (e : Expr) : Bool :=
  if e.type ≠ .functionRef then false
  else if asciiLower (copyOrEmpty e.name) ≠ ascii "count" then false
  else if e.distinct || e.windowDescription then false
  else match e.exprList with
    | some [some argument] => argument.type = .star
    | _ => false

def noteInsertWithoutColumns : Bytes := ascii "INSERT without column list"
def noteFromSubquery : Bytes := ascii "subquery in FROM"
def noteWithCte : Bytes := ascii "WITH/CTE"
def noteSetOperation : Bytes := ascii "set operation (UNION/INTERSECT/EXCEPT)"
def noteNonTableCreate : Bytes := ascii "non-table CREATE"
def noteNonTableDrop : Bytes := ascii "non-table DROP"

def pushTable (out : ParsedStatement) (schema name : Option Bytes) : ParsedStatement :=
  { out with tables := out.tables ++ [⟨copyOrEmpty schema, copyOrEmpty name⟩] }

def pushFeature (out : ParsedStatement) (note : Bytes) : ParsedStatement :=
  { out with unsupportedFeatures := out.unsupportedFeatures ++ [note] }

mutual
def collectTables : Hsql.TableRef → ParsedStatement → ParsedStatement
  | .null, out => out
  | .tableName schema name _, out => pushTable out schema name
  | .tableJoin left right, out => collectTables right (collectTables left out)
  | .tableCrossProduct list, out => collectAll list out
  | .tableSelect, out => pushFeature out noteFromSubquery
def collectAll : List Hsql.TableRef → ParsedStatement → ParsedStatement
  | [], out => out
  | child :: list, out => collectAll list (collectTables child out)
end

/-- How a column reference is spelled in `projectionColumns`. -/
def columnSpelling (e : Expr) : Bytes :=
  (match e.table with
    | some table => table ++ [dot]
    | none => []) ++ copyOrEmpty e.name

/-- The body of the loop over the select list: exactly one arm fires. -/
def classifyEntry (out : ParsedStatement) : Option Expr → ParsedStatement
  | none => out
  | some e =>
    if e.type = .star then { out with hasWildcardProjection := true }
    else if e.type = .columnRef then
      { out with projectionColumns := out.projectionColumns ++ [columnSpelling e] }
    else if isCountStar e then { out with hasSafeCountStarProjection := true }
    else { out with hasComputedProjection := true }

def classifyProjection (selectList : Option (List (Option Expr)))
    (out : ParsedStatement) : ParsedStatement :=
  match selectList with
  | none => out
  | some list => list.foldl classifyEntry out

def translateSelect (stmt : SelectStatement) (out : ParsedStatement) : ParsedStatement :=
  let out := { out with type := .select }
  let out := collectTables stmt.fromTable out
  let out := classifyProjection stmt.selectList out
  let out := { out with hasGroupBy := stmt.groupBy }
  let out := if (stmt.withDescriptions.getD []).isEmpty then out else pushFeature out noteWithCte
  if (stmt.setOperations.getD []).isEmpty then out else pushFeature out noteSetOperation

def classifyInsertValue (e : Expr) : InsertValueKind :=
  match e.type with
  | .literalInt => if e.ival > 0 then .positiveIntegerLiteral else .nonPositiveNumericLiteral
  | .literalFloat =>
    if e.fval.positive then .positiveDecimalLiteral else .nonPositiveNumericLiteral
  | _ => .unsupported

def valueKind : Option Expr → InsertValueKind
  | none => .unsupported
  | some value => classifyInsertValue value

def translateInsert (stmt : InsertStatement) (out : ParsedStatement) : ParsedStatement :=
  let out := { out with type := .insert }
  let out := pushTable out stmt.schema stmt.tableName
  let out := match stmt.columns with
    | some columns =>
      { out with affectedColumns := out.affectedColumns ++ columns.map copyOrEmpty }
    | none => pushFeature out noteInsertWithoutColumns
  let out := { out with insertSource := if stmt.type = .select then .select else .values }
  match stmt.values with
  | some values =>
    if out.insertSource = .values then
      { out with insertValueKinds := out.insertValueKinds ++ values.map valueKind }
    else out
  | none => out

def translateUpdate (stmt : UpdateStatement) (out : ParsedStatement) : ParsedStatement :=
  let out := { out with type := .update }
  let out := collectTables stmt.table out
  match stmt.updates with
  | some updates =>
    { out with affectedColumns :=
        out.affectedColumns ++ updates.filterMap (Option.map fun c => copyOrEmpty c.column) }
  | none => out

def translateDelete (stmt : DeleteStatement) (out : ParsedStatement) : ParsedStatement :=
  pushTable { out with type := .delete } stmt.schema stmt.tableName

def translateCreate (stmt : CreateStatement) (out : ParsedStatement) : ParsedStatement :=
  let out := { out with type := .create }
  let out := if stmt.tableName.isSome then pushTable out stmt.schema stmt.tableName else out
  if stmt.type ≠ .table then pushFeature out noteNonTableCreate else out

def translateDrop (stmt : DropStatement) (out : ParsedStatement) : ParsedStatement :=
  let out := { out with type := .drop }
  let out := if stmt.name.isSome then pushTable out stmt.schema stmt.name else out
  if stmt.type ≠ .table then pushFeature out noteNonTableDrop else out

def translateAlter (stmt : AlterStatement) (out : ParsedStatement) : ParsedStatement :=
  let out := { out with type := .alter }
  if stmt.name.isSome then pushTable out stmt.schema stmt.name else out

def translateStatement (stmt : SQLStatement) : ParsedStatement :=
  let out : ParsedStatement := {}
  match stmt with
  | .select stmt => translateSelect stmt out
  | .insert stmt => translateInsert stmt out
  | .update stmt => translateUpdate stmt out
  | .delete stmt => translateDelete stmt out
  | .create stmt => translateCreate stmt out
  | .drop stmt => translateDrop stmt out
  | .alter stmt => translateAlter stmt out
  | .other => { out with type := .unknown }

def sanitizedError (result : SQLParserResult) : Bytes :=
  let error := ascii "syntax error"
  if result.errorLine ≥ 0 then
    error ++ ascii " at line " ++ integer (result.errorLine + 1) ++
      ascii ", column " ++ integer (result.errorColumn + 1)
  else error

/-- `HyriseSqlParser::parse` around the external `hsql::SQLParser::parse`, which may
throw; no exception leaves the adapter. -/
def parse (hsqlParse : Bytes → Except Exception SQLParserResult) (sql : Bytes) : ParseResult :=
  match hsqlParse sql with
  | .ok result =>
    if result.isValid then
      { success := true
        statements := (result.statements.filterMap id).map translateStatement }
    else { success := false, error := sanitizedError result }
  | .error _ => { success := false, error := ascii "parser failure" }

/-! What the translators write, as functions of the tree alone. -/

mutual
/-- The named tables of a FROM tree, left to right. -/
def fromTables : Hsql.TableRef → List SqlProxy.TableRef
  | .null | .tableSelect => []
  | .tableName schema name _ => [⟨copyOrEmpty schema, copyOrEmpty name⟩]
  | .tableJoin left right => fromTables left ++ fromTables right
  | .tableCrossProduct list => fromTablesAll list
def fromTablesAll : List Hsql.TableRef → List SqlProxy.TableRef
  | [] => []
  | child :: list => fromTables child ++ fromTablesAll list
end

mutual
/-- How many of the leaves of a FROM tree are subqueries. -/
def fromSubqueries : Hsql.TableRef → Nat
  | .null | .tableName _ _ _ => 0
  | .tableSelect => 1
  | .tableJoin left right => fromSubqueries left + fromSubqueries right
  | .tableCrossProduct list => fromSubqueriesAll list
def fromSubqueriesAll : List Hsql.TableRef → Nat
  | [] => 0
  | child :: list => fromSubqueries child + fromSubqueriesAll list
end

mutual
theorem collectTables_eq (ref : Hsql.TableRef) (out : ParsedStatement) :
    collectTables ref out =
      { out with
        tables := out.tables ++ fromTables ref
        unsupportedFeatures := out.unsupportedFeatures ++
          List.replicate (fromSubqueries ref) noteFromSubquery } := by
  cases ref with
  | null => simp [collectTables, fromTables, fromSubqueries]
  | tableName schema name tableAlias =>
    simp [collectTables, pushTable, fromTables, fromSubqueries]
  | tableSelect => simp [collectTables, pushFeature, fromTables, fromSubqueries]
  | tableJoin left right =>
    rw [collectTables, collectTables_eq left, collectTables_eq right]
    simp [fromTables, fromSubqueries]
  | tableCrossProduct list =>
    rw [collectTables, collectAll_eq list]
    simp [fromTables, fromSubqueries]
theorem collectAll_eq (list : List Hsql.TableRef) (out : ParsedStatement) :
    collectAll list out =
      { out with
        tables := out.tables ++ fromTablesAll list
        unsupportedFeatures := out.unsupportedFeatures ++
          List.replicate (fromSubqueriesAll list) noteFromSubquery } := by
  cases list with
  | nil => simp [collectAll, fromTablesAll, fromSubqueriesAll]
  | cons child list =>
    rw [collectAll, collectTables_eq child, collectAll_eq list]
    simp [fromTablesAll, fromSubqueriesAll]
end

inductive EntryKind where
  | nothing | star | column | countStar | computed
  deriving DecidableEq

/-- The arm of the loop that a select-list entry takes. -/
def entryKind : Option Expr → EntryKind
  | none => .nothing
  | some e =>
    if e.type = .star then .star
    else if e.type = .columnRef then .column
    else if isCountStar e then .countStar
    else .computed

def entrySpelling : Option Expr → Option Bytes
  | none => none
  | some e => if e.type = .columnRef then some (columnSpelling e) else none

theorem entrySpelling_isSome (entry : Option Expr) :
    (entrySpelling entry).isSome ↔ entryKind entry = .column := by
  cases entry with
  | none => simp [entrySpelling, entryKind]
  | some e =>
    by_cases hc : e.type = .columnRef
    · simp [entrySpelling, entryKind, hc]
    · simp only [entrySpelling, entryKind, hc, if_false]
      split_ifs <;> simp

theorem classifyEntry_eq (out : ParsedStatement) (entry : Option Expr) :
    classifyEntry out entry =
      { out with
        projectionColumns := out.projectionColumns ++ (entrySpelling entry).toList
        hasWildcardProjection := out.hasWildcardProjection || entryKind entry = .star
        hasComputedProjection := out.hasComputedProjection || entryKind entry = .computed
        hasSafeCountStarProjection :=
          out.hasSafeCountStarProjection || entryKind entry = .countStar } := by
  cases entry with
  | none => simp [classifyEntry, entrySpelling, entryKind]
  | some e =>
    by_cases hs : e.type = .star
    · simp [classifyEntry, entrySpelling, entryKind, hs]
    · by_cases hc : e.type = .columnRef
      · simp [classifyEntry, entrySpelling, entryKind, hc]
      · by_cases hn : isCountStar e <;> simp [classifyEntry, entrySpelling, entryKind, hs, hc, hn]

theorem foldl_classifyEntry (list : List (Option Expr)) (out : ParsedStatement) :
    list.foldl classifyEntry out =
      { out with
        projectionColumns := out.projectionColumns ++ list.filterMap entrySpelling
        hasWildcardProjection :=
          out.hasWildcardProjection || list.any fun e => entryKind e = .star
        hasComputedProjection :=
          out.hasComputedProjection || list.any fun e => entryKind e = .computed
        hasSafeCountStarProjection :=
          out.hasSafeCountStarProjection || list.any fun e => entryKind e = .countStar } := by
  induction list generalizing out with
  | nil => simp
  | cons entry list ih =>
    rw [List.foldl_cons, classifyEntry_eq, ih]
    cases h : entrySpelling entry <;> simp [h, Bool.or_assoc]

/-- The three notes a SELECT can carry. -/
def selectNotes (stmt : SelectStatement) : List Bytes :=
  List.replicate (fromSubqueries stmt.fromTable) noteFromSubquery ++
    (if stmt.hasCte then [noteWithCte] else []) ++
    (if stmt.hasSetOperation then [noteSetOperation] else [])

theorem translateSelect_eq (stmt : SelectStatement) :
    translateSelect stmt {} =
      { type := .select
        tables := fromTables stmt.fromTable
        projectionColumns := stmt.entries.filterMap entrySpelling
        hasWildcardProjection := stmt.entries.any fun e => entryKind e = .star
        hasComputedProjection := stmt.entries.any fun e => entryKind e = .computed
        hasSafeCountStarProjection := stmt.entries.any fun e => entryKind e = .countStar
        hasGroupBy := stmt.groupBy
        unsupportedFeatures := selectNotes stmt } := by
  have hproj : ∀ out, classifyProjection stmt.selectList out = stmt.entries.foldl classifyEntry out := by
    intro out
    unfold classifyProjection SelectStatement.entries
    cases stmt.selectList <;> rfl
  unfold translateSelect
  simp only [collectTables_eq, hproj, foldl_classifyEntry, pushFeature]
  unfold selectNotes SelectStatement.hasCte SelectStatement.hasSetOperation
  cases (stmt.withDescriptions.getD []).isEmpty <;>
    cases (stmt.setOperations.getD []).isEmpty <;> simp

theorem translateStatement_type (stmt : SQLStatement) :
    (translateStatement stmt).type =
      match stmt with
      | .select _ => .select
      | .insert _ => .insert
      | .update _ => .update
      | .delete _ => .delete
      | .create _ => .create
      | .drop _ => .drop
      | .alter _ => .alter
      | .other => .unknown := by
  cases stmt with
  | select stmt => simp [translateStatement, translateSelect_eq]
  | insert stmt =>
    simp only [translateStatement, translateInsert, pushTable, pushFeature]
    cases stmt.columns <;> cases stmt.values <;> simp <;> split_ifs <;> rfl
  | update stmt =>
    simp only [translateStatement, translateUpdate, collectTables_eq]
    cases stmt.updates <;> rfl
  | delete stmt => rfl
  | create stmt =>
    simp only [translateStatement, translateCreate, pushTable, pushFeature]
    split_ifs <;> rfl
  | drop stmt =>
    simp only [translateStatement, translateDrop, pushTable, pushFeature]
    split_ifs <;> rfl
  | alter stmt =>
    simp only [translateStatement, translateAlter, pushTable]
    split_ifs <;> rfl
  | other => rfl

/-- What an INSERT from VALUES reports; a missing value list reports no kinds. -/
theorem translateInsert_eq (stmt : InsertStatement) :
    translateInsert stmt {} =
      { type := .insert
        tables := [⟨copyOrEmpty stmt.schema, copyOrEmpty stmt.tableName⟩]
        affectedColumns := (stmt.columns.getD []).map copyOrEmpty
        insertSource := if stmt.type = .select then .select else .values
        insertValueKinds :=
          if stmt.type = .select then [] else (stmt.values.getD []).map valueKind
        unsupportedFeatures :=
          if stmt.columns.isSome then [] else [noteInsertWithoutColumns] } := by
  unfold translateInsert pushTable pushFeature
  cases stmt.columns <;> cases stmt.values <;> by_cases ht : stmt.type = .select <;> simp [ht]

end SqlProxy.HyriseAdapter
