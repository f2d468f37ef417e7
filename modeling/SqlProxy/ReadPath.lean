import SqlProxy.MaskerChecks
import SqlProxy.ProxyService

/-! What the stages of `process` do together: which analyses reach the executor, what
the masker makes of a result under the classification of its own columns, and each way
out of the pipeline as one equation. -/
namespace SqlProxy
open ByteText

namespace PiiMasker
open DataClassifier

/-- The classification of a result's own columns always passes the masker's checks, so
only a ragged row or an unattributed column stops it. -/
theorem mask_classify (classifier : DataClassifier) (analysis : SqlAnalysis)
    (execution : ExecutionResult) :
    mask execution (classifier.classify analysis execution.columns) =
      if ¬ Rectangular execution then .failure .structuralMismatch
      else if (classifier.classify analysis execution.columns).fullyAttributed then
        .success { execution with
          rows := execution.rows.map
            (maskRow (classifier.classify analysis execution.columns).columns) }
      else .failure .unattributedColumn := by
  have hshape : Misshapen execution (classifier.classify analysis execution.columns) ↔
      ¬ Rectangular execution := by
    simp [Misshapen, Rectangular]
  have hflag : HasUnattributed (classifier.classify analysis execution.columns) ↔
      ¬ (classifier.classify analysis execution.columns).fullyAttributed = true := by
    rw [classify_flag, HasUnattributed]
    simp
  rw [mask_eq]
  simp only [hshape, classify_consistent, hflag, if_false, ite_not]

end PiiMasker

namespace ProxyService
open PiiMasker

/-- The classes of the columns of a result. -/
def classes (analysis : SqlAnalysis) (execution : ExecutionResult) : ClassificationResult :=
  classifier.classify analysis execution.columns

def maskedRows (analysis : SqlAnalysis) (execution : ExecutionResult) : List (List Cell) :=
  execution.rows.map (maskRow (classes analysis execution).columns)

/-- What an analysis must say of its own type. -/
def Consistent (analysis : SqlAnalysis) : Prop :=
  analysis.statementClass = statementClassOf analysis.statementType

theorem statementClassOf_select {type : StatementType} :
    statementClassOf type = .select ↔ type = .select := by
  cases type <;> simp [statementClassOf]

/-- What the policy lets through is a SELECT or an INSERT. -/
theorem allowed_type {analysis : SqlAnalysis} (hc : Consistent analysis)
    (ha : (PolicyEngine.evaluate analysis).allowed = true) :
    analysis.statementType = .select ∨ analysis.statementType = .insert := by
  obtain ⟨-, -, ⟨hcls, -⟩ | ⟨-, hdml⟩⟩ := PolicyEngine.evaluate_allowed.mp ha
  · left
    rw [hc] at hcls
    exact statementClassOf_select.mp hcls
  · exact .inr (PolicyEngine.evaluateDml_allowed.mp hdml).1

section
variable (timestampMs : Int) (requestId : UInt64) {analysis : SqlAnalysis}

theorem deny_unparseable :
    deny timestampMs requestId analysis .unparseableSql =
      .ok ⟨.failure .unparseableSql, .parsingFailure timestampMs requestId⟩ := rfl

theorem deny_eq {reason : RejectReason} (hc : 0 ≤ analysis.statementCount)
    (hr : (Details.policyRejected
      ⟨reason, analysis.statementType, analysis.statementCount.toNat⟩).Admissible) :
    deny timestampMs requestId analysis reason =
      .ok ⟨.failure (clientFailureFor reason),
        .construct timestampMs requestId (.policyRejected
          ⟨reason, analysis.statementType, analysis.statementCount.toNat⟩) analysis.tables hr⟩ := by
  have hneg : ¬ analysis.statementCount < 0 := Int.not_lt.mpr hc
  have hu : reason ≠ .unparseableSql := hr.2
  simp only [deny, hu, if_false, checkedCount, hneg, bind, Except.bind, pure, Except.pure,
    AuditRecord.policyRejected_eq _ _ _ _ hr]

theorem databaseFailed_eq (status : ExecutionStatus)
    (ht : analysis.statementType = .select ∨ analysis.statementType = .insert) :
    databaseFailed timestampMs requestId analysis status =
      .ok ⟨.failure (if status = .connectionFailure then .databaseUnavailable else .queryFailed),
        .construct timestampMs requestId (.databaseFailure
          ⟨if status = .connectionFailure then .connectionFailure else .executionFailure,
            analysis.statementType⟩) analysis.tables ht⟩ := by
  simp only [databaseFailed, bind, Except.bind, pure, Except.pure,
    AuditRecord.databaseFailure_eq _ _ ⟨_, analysis.statementType⟩ _ ht]

theorem wrote_one {execution : ExecutionResult} (ht : analysis.statementType = .insert)
    (ha : execution.affectedRows = 1) :
    wrote timestampMs requestId analysis execution =
      .ok ⟨.writeSuccess ⟨1⟩, .construct timestampMs requestId
        (.writeSuccess ⟨analysis.statementType, 1⟩) analysis.tables ht⟩ := by
  simp [wrote, checkedCount, ha, bind, Except.bind, pure, Except.pure,
    AuditRecord.writeSuccess_eq _ _ ⟨analysis.statementType, 1⟩ _ ht]

theorem wrote_other (analysis : SqlAnalysis) {execution : ExecutionResult} (ha : execution.affectedRows ≠ 1) :
    (∃ e, wrote timestampMs requestId analysis execution = .error e) ∨
      wrote timestampMs requestId analysis execution =
        .ok (internalProcessing timestampMs requestId) := by
  by_cases hneg : execution.affectedRows < 0
  · exact .inl ⟨_, by simp [wrote, checkedCount, hneg, bind, Except.bind]; rfl⟩
  · have hn : execution.affectedRows.toNat ≠ 1 := by omega
    right
    simp only [wrote, checkedCount, hneg, if_false, bind, Except.bind, hn, ne_eq,
      not_false_eq_true, if_true]
    rfl

theorem read_negative (analysis : SqlAnalysis) {execution : ExecutionResult} (h : execution.rowCount < 0) :
    ∃ e, read timestampMs requestId analysis execution = .error e :=
  ⟨_, by simp [read, checkedCount, h, bind, Except.bind]; rfl⟩

theorem read_ragged {execution : ExecutionResult} (hn : 0 ≤ execution.rowCount)
    (hr : ¬ Rectangular execution) :
    read timestampMs requestId analysis execution =
      .ok (internalProcessing timestampMs requestId) := by
  have hneg : ¬ execution.rowCount < 0 := Int.not_lt.mpr hn
  simp only [read, checkedCount, hneg, if_false, bind, Except.bind, mask_classify, hr,
    not_false_eq_true, if_true]
  rfl

theorem read_refused {execution : ExecutionResult} (hn : 0 ≤ execution.rowCount)
    (hr : Rectangular execution) (ht : analysis.statementType = .select)
    (hf : (classes analysis execution).fullyAttributed = false) :
    read timestampMs requestId analysis execution =
      .ok ⟨.failure .maskingRefused, .construct timestampMs requestId
        (.maskingRefused ⟨analysis.statementType, execution.columns.length⟩)
        analysis.tables ht⟩ := by
  have hneg : ¬ execution.rowCount < 0 := Int.not_lt.mpr hn
  unfold classes at hf
  simp only [read, checkedCount, hneg, if_false, bind, Except.bind, mask_classify, hr,
    not_true_eq_false, hf, Bool.false_eq_true, pure, Except.pure,
    AuditRecord.maskingRefused_eq _ _ ⟨analysis.statementType, execution.columns.length⟩ _ ht]

theorem read_released {execution : ExecutionResult} (hn : 0 ≤ execution.rowCount)
    (hr : Rectangular execution) (ht : analysis.statementType = .select)
    (hf : (classes analysis execution).fullyAttributed = true) :
    read timestampMs requestId analysis execution =
      .ok ⟨.success ⟨execution.columns.map ColumnInfo.name, maskedRows analysis execution⟩,
        .construct timestampMs requestId
          (.success ⟨analysis.statementType, execution.rowCount.toNat, execution.columns.length,
            summarize (classes analysis execution)⟩) analysis.tables ht⟩ := by
  have hneg : ¬ execution.rowCount < 0 := Int.not_lt.mpr hn
  unfold classes at hf
  simp only [read, checkedCount, hneg, if_false, bind, Except.bind, mask_classify, hr,
    not_true_eq_false, hf, if_true, pure, Except.pure,
    AuditRecord.success_eq _ _ ⟨analysis.statementType, execution.rowCount.toNat,
      execution.columns.length, summarize (classifier.classify analysis execution.columns)⟩ _ ht]
  rfl

end
end ProxyService
end SqlProxy
