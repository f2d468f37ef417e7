import SqlProxy.PortTypes
import Mathlib.Algebra.Group.Nat.Defs
import Mathlib.Data.List.Dedup
import Mathlib.Tactic.SplitIfs

/-! `core/sql_analyzer.cpp`: from raw syntax facts to the analysis the core decides on.
The injected parser is a parameter, in whatever monad the caller runs. -/
namespace SqlProxy.SqlAnalyzer
open ByteText

/-- The bytes of `" \t\n\r\f\v"`. -/
def blanks : Bytes := [32, 9, 10, 13, 12, 11]

def isBlank (sql : Bytes) : Bool := sql.all fun c => blanks.contains c

def qualifiedName (table : TableRef) : Bytes :=
  if table.schema.isEmpty then table.name
  else table.schema ++ [dot] ++ table.name

def pushName (result : List Bytes) (table : TableRef) : List Bytes :=
  if result.contains (qualifiedName table) then result
  else result ++ [qualifiedName table]

def normalizedTables (tables : List TableRef) : List Bytes := tables.foldl pushName []

/-- `static_cast<int>` of a `size_t`. -/
def toInt (n : Nat) : Int := (n : Int).bmod 4294967296

/-- `SqlAnalyzer::analyze` after the parser has answered. -/
def analyzeParsed (parsed : ParseResult) : SqlAnalysis :=
  let analysis : SqlAnalysis := { statementCount := toInt parsed.statements.length }
  if !parsed.success then
    { analysis with
      status := .parseError
      errorReason :=
        if parsed.error.isEmpty then ascii "parser reported failure" else parsed.error }
  else
    match parsed.statements with
    | [] =>
      { analysis with
        status := .parseError
        errorReason := ascii "parser returned success with no statements" }
    | _ :: _ :: _ => { analysis with status := .multipleStatements }
    | [statement] =>
      { analysis with
        status := .ok
        statementType := statement.type
        statementClass := statementClassOf statement.type
        tables := normalizedTables statement.tables
        projectionColumns := statement.projectionColumns
        hasWildcardProjection := statement.hasWildcardProjection
        hasComputedProjection := statement.hasComputedProjection
        hasSafeCountStarProjection := statement.hasSafeCountStarProjection
        hasGroupBy := statement.hasGroupBy
        affectedColumns := statement.affectedColumns
        insertSource := statement.insertSource
        insertValueKinds := statement.insertValueKinds
        unsupportedFeatures := statement.unsupportedFeatures }

def analyze {m : Type → Type} [Monad m] (parser : Bytes → m ParseResult)
    (sql : Bytes) : m SqlAnalysis :=
  if isBlank sql then pure { status := .emptyInput }
  else do
    let parsed ← parser sql
    pure (analyzeParsed parsed)

theorem mem_pushName (result : List Bytes) (table : TableRef) (name : Bytes) :
    name ∈ pushName result table ↔ name ∈ result ∨ qualifiedName table = name := by
  unfold pushName
  by_cases h : result.contains (qualifiedName table)
  · have hm : qualifiedName table ∈ result := by simpa using h
    rw [if_pos h]
    constructor
    · exact .inl
    · rintro (hr | rfl)
      · exact hr
      · exact hm
  · rw [if_neg h, List.mem_append, List.mem_singleton, eq_comm]

theorem mem_foldl_pushName (tables : List TableRef) (result : List Bytes) (name : Bytes) :
    name ∈ tables.foldl pushName result ↔
      name ∈ result ∨ ∃ table ∈ tables, qualifiedName table = name := by
  induction tables generalizing result with
  | nil => simp
  | cons table tables ih =>
    rw [List.foldl_cons, ih, mem_pushName]
    simp [or_assoc]

/-- Deduplication loses no table and adds none. -/
theorem mem_normalizedTables (tables : List TableRef) (name : Bytes) :
    name ∈ normalizedTables tables ↔ ∃ table ∈ tables, qualifiedName table = name := by
  simp [normalizedTables, mem_foldl_pushName]

theorem pushName_eraseDups (names : List Bytes) (table : TableRef) :
    pushName names.eraseDups table = (names ++ [qualifiedName table]).eraseDups := by
  unfold pushName
  rw [List.eraseDups_append]
  by_cases h : qualifiedName table ∈ names
  · simp [h, List.removeAll]
  · simp [h, List.removeAll, List.eraseDups_cons]

/-- What is left are the names in the order of the tables, without later duplicates. -/
theorem normalizedTables_eq_eraseDups (tables : List TableRef) :
    normalizedTables tables = (tables.map qualifiedName).eraseDups := by
  have hrun : ∀ names : List Bytes, tables.foldl pushName names.eraseDups =
      (names ++ tables.map qualifiedName).eraseDups := by
    induction tables with
    | nil => simp
    | cons table tables ih =>
      intro names
      rw [List.foldl_cons, pushName_eraseDups, ih]
      simp
  exact hrun []

@[simp] theorem normalizedTables_singleton (table : TableRef) :
    normalizedTables [table] = [qualifiedName table] := by
  simp [normalizedTables, pushName]

/-- Below the range of `int` the count is the number of statements. -/
theorem toInt_of_lt {n : Nat} (h : n < 2 ^ 31) : toInt n = n := by
  unfold toInt Int.bmod
  have hm : (n : Int) % ((4294967296 : Nat) : Int) = n := Int.emod_eq_of_lt (by omega) (by omega)
  simp only [hm]
  rw [if_pos (by omega)]

theorem analyzeParsed_one (statement : ParsedStatement) (error : Bytes) :
    analyzeParsed { success := true, statements := [statement], error := error } =
      { status := .ok
        statementCount := 1
        statementType := statement.type
        statementClass := statementClassOf statement.type
        tables := normalizedTables statement.tables
        projectionColumns := statement.projectionColumns
        hasWildcardProjection := statement.hasWildcardProjection
        hasComputedProjection := statement.hasComputedProjection
        hasSafeCountStarProjection := statement.hasSafeCountStarProjection
        hasGroupBy := statement.hasGroupBy
        affectedColumns := statement.affectedColumns
        insertSource := statement.insertSource
        insertValueKinds := statement.insertValueKinds
        unsupportedFeatures := statement.unsupportedFeatures } := by
  have h : toInt 1 = 1 := toInt_of_lt (by omega)
  simp [analyzeParsed, h]

theorem analyzeParsed_statementCount (parsed : ParseResult) :
    (analyzeParsed parsed).statementCount = toInt parsed.statements.length := by
  obtain ⟨success, statements, error⟩ := parsed
  cases success with
  | false => simp [analyzeParsed]
  | true =>
    match statements with
    | [] => simp [analyzeParsed]
    | [statement] => simp [analyzeParsed]
    | _ :: _ :: _ => simp [analyzeParsed]

theorem analyzeParsed_class (parsed : ParseResult) :
    (analyzeParsed parsed).statementClass =
      statementClassOf (analyzeParsed parsed).statementType := by
  obtain ⟨success, statements, error⟩ := parsed
  cases success with
  | false => simp [analyzeParsed, statementClassOf]
  | true =>
    match statements with
    | [] => simp [analyzeParsed, statementClassOf]
    | [statement] => simp [analyzeParsed]
    | _ :: _ :: _ => simp [analyzeParsed, statementClassOf]

end SqlProxy.SqlAnalyzer
