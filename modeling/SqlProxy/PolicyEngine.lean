import SqlProxy.PortTypes
import Mathlib.Tactic.SplitIfs

/-! `core/policy_engine.cpp`: the one authorization point, rules R1 to R11 in order. -/
namespace SqlProxy

inductive RejectReason where
  | notEvaluated | none | emptyInput | unparseableSql | multipleStatements
  | unsupportedStatementType | unsupportedSqlFeature | ddlNotAllowed | dmlNotAllowed
  | systemTableAccess | unattributableProjection | insertTargetNotAllowed
  | unsupportedInsertShape
  deriving DecidableEq

structure PolicyDecision where
  allowed : Bool := false
  reason : RejectReason := .notEvaluated
  deriving DecidableEq

namespace PolicyEngine
open ByteText

def isSystemTable (tableEntry : Bytes) : Bool :=
  let lowered := asciiLower tableEntry
  let schema := match find dot lowered with
    | none => []
    | some i => lowered.take i
  let table := match find dot lowered with
    | none => lowered
    | some i => lowered.drop (i + 1)
  if schema = ascii "pg_catalog" ∨ schema = ascii "information_schema" then true
  else (ascii "pg_").isPrefixOf table

def insertTargetTable : Bytes := ascii "orders"

def isAllowedOrderInsert (analysis : SqlAnalysis) : Bool :=
  analysis.unsupportedFeatures.isEmpty
    && analysis.insertSource = .values
    && analysis.affectedColumns.length = 2
    && analysis.affectedColumns[0]? = some (ascii "customer_id")
    && analysis.affectedColumns[1]? = some (ascii "amount")
    && analysis.insertValueKinds.length = 2
    && analysis.insertValueKinds[0]? = some .positiveIntegerLiteral
    && (analysis.insertValueKinds[1]? = some .positiveIntegerLiteral
      || analysis.insertValueKinds[1]? = some .positiveDecimalLiteral)

def targetsInsertTable (analysis : SqlAnalysis) : Bool :=
  analysis.tables.length = 1 && analysis.tables[0]? = some insertTargetTable

def reject (reason : RejectReason) : PolicyDecision := ⟨false, reason⟩

def allow : PolicyDecision := ⟨true, .none⟩

/-- R8 to R11, for an analysis of class SELECT. -/
def evaluateSelect (analysis : SqlAnalysis) : PolicyDecision :=
  if !analysis.unsupportedFeatures.isEmpty then reject .unsupportedSqlFeature
  else if analysis.tables.any isSystemTable then reject .systemTableAccess
  else if analysis.hasWildcardProjection && !analysis.projectionColumns.isEmpty then
    reject .unattributableProjection
  else allow

/-- The one exception to the blanket rejection of DML. -/
def evaluateDml (analysis : SqlAnalysis) : PolicyDecision :=
  if analysis.statementType ≠ .insert then reject .dmlNotAllowed
  else if !targetsInsertTable analysis then reject .insertTargetNotAllowed
  else if !isAllowedOrderInsert analysis then reject .unsupportedInsertShape
  else allow

def evaluate (analysis : SqlAnalysis) : PolicyDecision :=
  match analysis.status with
  | .emptyInput => reject .emptyInput
  | .parseError => reject .unparseableSql
  | .multipleStatements => reject .multipleStatements
  | .ok =>
    if analysis.statementCount ≠ 1 then reject .multipleStatements
    else match analysis.statementClass with
      | .unknown => reject .unsupportedStatementType
      | .ddl => reject .ddlNotAllowed
      | .dml => evaluateDml analysis
      | .select => evaluateSelect analysis

@[simp] theorem reject_allowed (reason : RejectReason) : (reject reason).allowed = false := rfl

@[simp] theorem allow_allowed : allow.allowed = true := rfl

theorem evaluateSelect_allowed {analysis : SqlAnalysis} :
    (evaluateSelect analysis).allowed = true ↔
      analysis.unsupportedFeatures = [] ∧
      (∀ table ∈ analysis.tables, isSystemTable table = false) ∧
      ¬ (analysis.hasWildcardProjection = true ∧ analysis.projectionColumns ≠ []) := by
  unfold evaluateSelect
  split_ifs with hf hs hw
  · simp_all
  · simp only [reject_allowed, Bool.false_eq_true, false_iff, not_and]
    intro _ hall
    obtain ⟨table, ht, hsys⟩ := List.any_eq_true.mp hs
    rw [hall table ht] at hsys
    cases hsys
  · simp_all
  · simp_all

theorem evaluateDml_allowed {analysis : SqlAnalysis} :
    (evaluateDml analysis).allowed = true ↔
      analysis.statementType = .insert ∧ targetsInsertTable analysis = true ∧
      isAllowedOrderInsert analysis = true := by
  unfold evaluateDml
  split_ifs with ht hg hi <;> simp_all

/-- Only a single analyzed SELECT or DML statement gets past R1 to R7. -/
theorem evaluate_allowed {analysis : SqlAnalysis} :
    (evaluate analysis).allowed = true ↔
      analysis.status = .ok ∧ analysis.statementCount = 1 ∧
      (analysis.statementClass = .select ∧ (evaluateSelect analysis).allowed = true ∨
        analysis.statementClass = .dml ∧ (evaluateDml analysis).allowed = true) := by
  unfold evaluate
  cases analysis.status with
  | ok =>
    by_cases hc : analysis.statementCount = 1
    · cases analysis.statementClass <;> simp [hc]
    · simp [hc]
  | emptyInput => simp
  | parseError => simp
  | multipleStatements => simp

/-- A denial names a rule: never the sentinel, and `none` only where it allows. -/
theorem evaluate_reason (analysis : SqlAnalysis) (h : (evaluate analysis).allowed = false) :
    (evaluate analysis).reason ≠ .none ∧ (evaluate analysis).reason ≠ .notEvaluated := by
  unfold evaluate evaluateDml evaluateSelect at *
  cases hs : analysis.status with
  | ok =>
    simp only [hs] at h ⊢
    by_cases hc : analysis.statementCount ≠ 1
    · simp [hc, reject]
    · simp only [hc, if_false] at h ⊢
      cases hk : analysis.statementClass <;> simp only [hk] at h ⊢
      · split_ifs at h ⊢ <;> simp_all [reject, allow]
      · split_ifs at h ⊢ <;> simp_all [reject, allow]
      · simp [reject]
      · simp [reject]
  | emptyInput => simp [reject]
  | parseError => simp [reject]
  | multipleStatements => simp [reject]

end PolicyEngine
end SqlProxy
