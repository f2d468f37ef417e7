import SqlProxy.ReadPath

/-! Every way a request can end, and the correspondence between what the client is
told and what the audit trail records. -/
namespace SqlProxy
open ByteText ProxyService PiiMasker

/-- The unexpected events that the catch-all turns into an internal failure. -/
inductive Fault (env : Environment) (sql : Bytes) : Prop where
  | parserThrew {e : Exception} (hb : SqlAnalyzer.isBlank sql = false)
      (hp : env.parse sql = .error e)
  | executorThrew {a : SqlAnalysis} {e : Exception} (h : env.analysis sql = .ok a)
      (ha : (PolicyEngine.evaluate a).allowed = true) (hx : env.execute sql = .error e)
  | affectedRows {a : SqlAnalysis} {r : ExecutionResult} (h : env.analysis sql = .ok a)
      (ha : (PolicyEngine.evaluate a).allowed = true) (hx : env.execute sql = .ok r)
      (hs : r.status = .ok) (ht : a.statementType = .insert) (hn : r.affectedRows ≠ 1)
  | rowCount {a : SqlAnalysis} {r : ExecutionResult} (h : env.analysis sql = .ok a)
      (ha : (PolicyEngine.evaluate a).allowed = true) (hx : env.execute sql = .ok r)
      (hs : r.status = .ok) (ht : a.statementType = .select) (hn : r.rowCount < 0)
  | raggedRow {a : SqlAnalysis} {r : ExecutionResult} (h : env.analysis sql = .ok a)
      (ha : (PolicyEngine.evaluate a).allowed = true) (hx : env.execute sql = .ok r)
      (hs : r.status = .ok) (ht : a.statementType = .select) (hr : ¬ Rectangular r)

/-- The ways out of the pipeline, each with the result and the record it makes. -/
inductive Outcome (env : Environment) (sql : Bytes) : Processing → Prop where
  | unparseable {a : SqlAnalysis} (h : env.analysis sql = .ok a)
      (hd : PolicyEngine.evaluate a = PolicyEngine.reject .unparseableSql) :
      Outcome env sql ⟨.failure .unparseableSql, .parsingFailure env.now env.requestId⟩
  | denied {a : SqlAnalysis} (h : env.analysis sql = .ok a)
      (hd : (PolicyEngine.evaluate a).allowed = false) (hc : 0 ≤ a.statementCount)
      (hr : (Details.policyRejected ⟨(PolicyEngine.evaluate a).reason, a.statementType,
        a.statementCount.toNat⟩).Admissible) :
      Outcome env sql ⟨.failure (clientFailureFor (PolicyEngine.evaluate a).reason),
        .construct env.now env.requestId (.policyRejected ⟨(PolicyEngine.evaluate a).reason,
          a.statementType, a.statementCount.toNat⟩) a.tables hr⟩
  | databaseFailed {a : SqlAnalysis} {r : ExecutionResult} (h : env.analysis sql = .ok a)
      (ha : (PolicyEngine.evaluate a).allowed = true) (hx : env.execute sql = .ok r)
      (hs : r.status ≠ .ok) (ht : a.statementType = .select ∨ a.statementType = .insert) :
      Outcome env sql
        ⟨.failure (if r.status = .connectionFailure then .databaseUnavailable else .queryFailed),
          .construct env.now env.requestId (.databaseFailure
            ⟨if r.status = .connectionFailure then .connectionFailure else .executionFailure,
              a.statementType⟩) a.tables ht⟩
  | wrote {a : SqlAnalysis} {r : ExecutionResult} (h : env.analysis sql = .ok a)
      (ha : (PolicyEngine.evaluate a).allowed = true) (hx : env.execute sql = .ok r)
      (hs : r.status = .ok) (ht : a.statementType = .insert) (hn : r.affectedRows = 1) :
      Outcome env sql ⟨.writeSuccess ⟨1⟩, .construct env.now env.requestId
        (.writeSuccess ⟨a.statementType, 1⟩) a.tables ht⟩
  | refused {a : SqlAnalysis} {r : ExecutionResult} (h : env.analysis sql = .ok a)
      (ha : (PolicyEngine.evaluate a).allowed = true) (hx : env.execute sql = .ok r)
      (hs : r.status = .ok) (ht : a.statementType = .select) (hn : 0 ≤ r.rowCount)
      (hr : Rectangular r) (hf : (classes a r).fullyAttributed = false) :
      Outcome env sql ⟨.failure .maskingRefused, .construct env.now env.requestId
        (.maskingRefused ⟨a.statementType, r.columns.length⟩) a.tables ht⟩
  | released {a : SqlAnalysis} {r : ExecutionResult} (h : env.analysis sql = .ok a)
      (ha : (PolicyEngine.evaluate a).allowed = true) (hx : env.execute sql = .ok r)
      (hs : r.status = .ok) (ht : a.statementType = .select) (hn : 0 ≤ r.rowCount)
      (hr : Rectangular r) (hf : (classes a r).fullyAttributed = true) :
      Outcome env sql ⟨.success ⟨r.columns.map ColumnInfo.name, maskedRows a r⟩,
        .construct env.now env.requestId (.success ⟨a.statementType, r.rowCount.toNat,
          r.columns.length, summarize (classes a r)⟩) a.tables ht⟩
  | internal (hf : Fault env sql) : Outcome env sql (internalProcessing env.now env.requestId)
  | miscounted {a : SqlAnalysis} (h : env.analysis sql = .ok a) (hn : a.statementCount < 0) :
      Outcome env sql (internalProcessing env.now env.requestId)

namespace Environment
variable {env : Environment} {sql : Bytes} {a : SqlAnalysis} {r : ExecutionResult}

theorem analysis_blank (hb : SqlAnalyzer.isBlank sql = true) :
    env.analysis sql = .ok { status := .emptyInput } := by
  simp [analysis, SqlAnalyzer.analyze, hb, pure, Except.pure]

theorem analysis_parse (hb : SqlAnalyzer.isBlank sql = false) :
    env.analysis sql = (env.parse sql).map SqlAnalyzer.analyzeParsed := by
  simp only [analysis, SqlAnalyzer.analyze, hb, Bool.false_eq_true, if_false]
  cases env.parse sql <;> rfl

theorem analysis_consistent (h : env.analysis sql = .ok a) : Consistent a := by
  cases hb : SqlAnalyzer.isBlank sql with
  | true =>
    rw [analysis_blank hb] at h
    cases h
    rfl
  | false =>
    rw [analysis_parse hb] at h
    cases hp : env.parse sql with
    | error e => simp [hp, Except.map] at h
    | ok parsed =>
      rw [hp] at h
      cases h
      exact SqlAnalyzer.analyzeParsed_class parsed

theorem processed_error {e : Exception} (h : env.analysis sql = .error e) :
    env.processed sql = .error e := by
  change (env.analysis sql).bind _ = _
  rw [h]
  rfl

theorem processed_denied (h : env.analysis sql = .ok a)
    (hd : (PolicyEngine.evaluate a).allowed = false) :
    env.processed sql =
      deny env.now env.requestId a (PolicyEngine.evaluate a).reason := by
  change (env.analysis sql).bind _ = _
  rw [h]
  simp only [Except.bind, hd, Bool.not_false, if_true]
  rfl

theorem processed_allowed (h : env.analysis sql = .ok a)
    (ha : (PolicyEngine.evaluate a).allowed = true) :
    env.processed sql = (env.execute sql).bind (conclude env.now env.requestId a) := by
  change (env.analysis sql).bind _ = _
  rw [h]
  simp only [Except.bind, ha, Bool.not_true, Bool.false_eq_true, if_false]
  rfl

theorem processing_of_ok {p : Processing} (h : env.processed sql = .ok p) :
    env.processing sql = p := by
  rw [processing, h]

theorem processing_of_error {e : Exception} (h : env.processed sql = .error e) :
    env.processing sql = internalProcessing env.now env.requestId := by
  rw [processing, h]

theorem conclude_select {timestampMs : Int} {requestId : UInt64} (hs : r.status = .ok)
    (ht : a.statementType = .select) :
    conclude timestampMs requestId a r = ProxyService.read timestampMs requestId a r := by
  simp [conclude, hs, ht]

theorem conclude_insert {timestampMs : Int} {requestId : UInt64} (hs : r.status = .ok)
    (ht : a.statementType = .insert) :
    conclude timestampMs requestId a r = ProxyService.wrote timestampMs requestId a r := by
  simp [conclude, hs, ht]

/-- A request whose SELECT the database has answered goes down the read path. -/
theorem processed_select (h : env.analysis sql = .ok a)
    (ha : (PolicyEngine.evaluate a).allowed = true) (hx : env.execute sql = .ok r)
    (hs : r.status = .ok) (ht : a.statementType = .select) :
    env.processed sql = ProxyService.read env.now env.requestId a r := by
  rw [processed_allowed h ha, hx]
  exact conclude_select hs ht

theorem processed_insert (h : env.analysis sql = .ok a)
    (ha : (PolicyEngine.evaluate a).allowed = true) (hx : env.execute sql = .ok r)
    (hs : r.status = .ok) (ht : a.statementType = .insert) :
    env.processed sql = ProxyService.wrote env.now env.requestId a r := by
  rw [processed_allowed h ha, hx]
  exact conclude_insert hs ht

theorem outcome_denied (h : env.analysis sql = .ok a)
    (hd : (PolicyEngine.evaluate a).allowed = false) : Outcome env sql (env.processing sql) := by
  have hp := processed_denied h hd
  by_cases hu : (PolicyEngine.evaluate a).reason = .unparseableSql
  · rw [hu, deny_unparseable] at hp
    rw [processing_of_ok hp]
    refine .unparseable h ?_
    cases hev : PolicyEngine.evaluate a
    simp_all [PolicyEngine.reject]
  · by_cases hc : 0 ≤ a.statementCount
    · have hr : (Details.policyRejected ⟨(PolicyEngine.evaluate a).reason, a.statementType,
          a.statementCount.toNat⟩).Admissible := ⟨PolicyEngine.evaluate_reason a hd, hu⟩
      rw [deny_eq _ _ hc hr] at hp
      rw [processing_of_ok hp]
      exact .denied h hd hc hr
    · have hneg : a.statementCount < 0 := Int.not_le.mp hc
      have he : deny env.now env.requestId a (PolicyEngine.evaluate a).reason =
          .error (.invalidArgument (ascii "statement_count" ++ ascii " must not be negative")) := by
        simp [deny, hu, checkedCount, hneg, bind, Except.bind]
      rw [he] at hp
      rw [processing_of_error hp]
      exact .miscounted h hneg

theorem outcome_insert (h : env.analysis sql = .ok a)
    (ha : (PolicyEngine.evaluate a).allowed = true) (hx : env.execute sql = .ok r)
    (hs : r.status = .ok) (ht : a.statementType = .insert) :
    Outcome env sql (env.processing sql) := by
  have hp := processed_insert h ha hx hs ht
  by_cases hone : r.affectedRows = 1
  · rw [wrote_one _ _ ht hone] at hp
    rw [processing_of_ok hp]
    exact .wrote h ha hx hs ht hone
  · have hf : Fault env sql := .affectedRows h ha hx hs ht hone
    rcases wrote_other env.now env.requestId a hone with ⟨e, he⟩ | hi
    · rw [processing_of_error (hp.trans he)]
      exact .internal hf
    · rw [processing_of_ok (hp.trans hi)]
      exact .internal hf

theorem outcome_select (h : env.analysis sql = .ok a)
    (ha : (PolicyEngine.evaluate a).allowed = true) (hx : env.execute sql = .ok r)
    (hs : r.status = .ok) (ht : a.statementType = .select) :
    Outcome env sql (env.processing sql) := by
  have hp := processed_select h ha hx hs ht
  by_cases hn : 0 ≤ r.rowCount
  · by_cases hr : Rectangular r
    · cases hf : (classes a r).fullyAttributed with
      | true =>
        rw [processing_of_ok (hp.trans (read_released _ _ hn hr ht hf))]
        exact .released h ha hx hs ht hn hr hf
      | false =>
        rw [processing_of_ok (hp.trans (read_refused _ _ hn hr ht hf))]
        exact .refused h ha hx hs ht hn hr hf
    · rw [processing_of_ok (hp.trans (read_ragged _ _ hn hr))]
      exact .internal (.raggedRow h ha hx hs ht hr)
  · have hneg : r.rowCount < 0 := Int.not_le.mp hn
    obtain ⟨e, he⟩ := read_negative env.now env.requestId a hneg
    rw [processing_of_error (hp.trans he)]
    exact .internal (.rowCount h ha hx hs ht hneg)

/-- There is no other way out. -/
theorem processing_outcome (env : Environment) (sql : Bytes) :
    Outcome env sql (env.processing sql) := by
  cases h : env.analysis sql with
  | error e =>
    rw [processing_of_error (processed_error h)]
    cases hb : SqlAnalyzer.isBlank sql with
    | true => simp [analysis_blank hb] at h
    | false =>
      rw [analysis_parse hb] at h
      cases hp : env.parse sql with
      | ok parsed => simp [hp, Except.map] at h
      | error e => exact .internal (.parserThrew hb hp)
  | ok a =>
    cases ha : (PolicyEngine.evaluate a).allowed with
    | false => exact outcome_denied h ha
    | true =>
      have ht := allowed_type (analysis_consistent h) ha
      cases hx : env.execute sql with
      | error e =>
        have hp := processed_allowed h ha
        rw [hx] at hp
        rw [processing_of_error hp]
        exact .internal (.executorThrew h ha hx)
      | ok r =>
        by_cases hs : r.status = .ok
        · rcases ht with ht | ht
          · exact outcome_select h ha hx hs ht
          · exact outcome_insert h ha hx hs ht
        · have hp := processed_allowed h ha
          rw [hx] at hp
          change _ = conclude env.now env.requestId a r at hp
          simp only [conclude, hs, ne_eq, not_false_eq_true, if_true,
            databaseFailed_eq env.now env.requestId r.status ht] at hp
          rw [processing_of_ok hp]
          exact .databaseFailed h ha hx hs ht

/-- An audited request returns what the pipeline made. -/
theorem handled_of_append (h : env.append (env.processing sql).record = .ok .ok) :
    env.handled sql = .ok (env.processing sql).result := by
  rw [handled_eq, appended, h]
  rfl

/-- What is answered, as a function of the result and of what the repository replied. -/
theorem handled_paired (env : Environment) (sql : Bytes) :
    env.handled sql = .ok (if (env.processing sql).result.succeeded = true ∧
        env.append (env.processing sql).record ≠ .ok .ok then .failure .internalError
      else (env.processing sql).result) := by
  rw [handled_eq, appended, answer]
  cases hreply : env.append (env.processing sql).record with
  | error e => simp
  | ok appended => cases appended <;> simp

/-- A failure and a write are no read, whatever becomes of their audit. -/
theorem audited_of_success {masked : MaskedQueryResult}
    (h : env.handled sql = .ok (.success masked)) :
    (env.processing sql).result = .success masked ∧
      env.append (env.processing sql).record = .ok .ok := by
  have hpaired := (handled_paired env sql).symm.trans h
  split_ifs at hpaired with hno
  · cases hpaired
  · have hresult := Except.ok.inj hpaired
    rw [hresult] at hno
    exact ⟨hresult, by simpa [ServiceResult.succeeded] using hno⟩

/-- The count handed to the policy is never negative below the range of `int`. -/
theorem statementCount_nonneg
    (hcount : ∀ parsed, env.parse sql = .ok parsed → parsed.statements.length < 2 ^ 31)
    (h : env.analysis sql = .ok a) : 0 ≤ a.statementCount := by
  cases hb : SqlAnalyzer.isBlank sql with
  | true =>
    rw [analysis_blank hb] at h
    cases h
    decide
  | false =>
    rw [analysis_parse hb] at h
    cases hp : env.parse sql with
    | error e => simp [hp, Except.map] at h
    | ok parsed =>
      rw [hp] at h
      cases h
      rw [SqlAnalyzer.analyzeParsed_statementCount, SqlAnalyzer.toInt_of_lt (hcount parsed hp)]
      omega

end Environment

/-- The database has answered an allowed SELECT with `r`, and every check on `r` passes. -/
structure Released (env : Environment) (sql : Bytes) (a : SqlAnalysis) (r : ExecutionResult) :
    Prop where
  analysis : env.analysis sql = .ok a
  allowed : (PolicyEngine.evaluate a).allowed = true
  select : a.statementType = .select
  executed : env.execute sql = .ok r
  status : r.status = .ok
  counted : 0 ≤ r.rowCount
  rectangular : Rectangular r
  attributed : (classes a r).fullyAttributed = true

/-- The masked result that is returned for `r`. -/
def maskedResult (a : SqlAnalysis) (r : ExecutionResult) : MaskedQueryResult :=
  ⟨r.columns.map ColumnInfo.name, maskedRows a r⟩

theorem Released.processing_eq {env : Environment} {sql : Bytes} {a : SqlAnalysis}
    {r : ExecutionResult} (h : Released env sql a r) :
    env.processing sql = ⟨.success (maskedResult a r), .construct env.now env.requestId
      (.success ⟨a.statementType, r.rowCount.toNat, r.columns.length, summarize (classes a r)⟩)
      a.tables h.select⟩ := by
  have hread := Environment.processed_select h.analysis h.allowed h.executed h.status h.select
  rw [read_released _ _ h.counted h.rectangular h.select h.attributed] at hread
  exact Environment.processing_of_ok hread

/-- Nothing else is returned as a read. -/
theorem released_of_success {env : Environment} {sql : Bytes} {masked : MaskedQueryResult}
    (h : env.handled sql = .ok (.success masked)) :
    ∃ a r, Released env sql a r ∧ masked = maskedResult a r := by
  have hout := Environment.processing_outcome env sql
  obtain ⟨hresult, -⟩ := Environment.audited_of_success h
  generalize env.processing sql = made at hout hresult
  cases hout with
  | @released a r hanalysis ha hx hs ht hn hr hf =>
    cases hresult
    exact ⟨a, r, ⟨hanalysis, ha, ht, hx, hs, hn, hr, hf⟩, rfl⟩
  | _ => cases hresult

/-- What a client is told, beside the record of the same request. -/
inductive Corresponds : ServiceResult → Details → Prop where
  | emptyInput {d : PolicyRejectedDetails} (h : d.reason = .emptyInput) :
      Corresponds (.failure .emptyInput) (.policyRejected d)
  | unparseableSql : Corresponds (.failure .unparseableSql) .parsingFailure
  | policyRejected {d : PolicyRejectedDetails} (h₁ : d.reason ≠ .none)
      (h₂ : d.reason ≠ .notEvaluated) (h₃ : d.reason ≠ .emptyInput)
      (h₄ : d.reason ≠ .unparseableSql) :
      Corresponds (.failure .policyRejected) (.policyRejected d)
  | databaseUnavailable {d : DatabaseFailureDetails} (h : d.category = .connectionFailure) :
      Corresponds (.failure .databaseUnavailable) (.databaseFailure d)
  | queryFailed {d : DatabaseFailureDetails} (h : d.category = .executionFailure) :
      Corresponds (.failure .queryFailed) (.databaseFailure d)
  | maskingRefused {d : MaskingRefusedDetails} :
      Corresponds (.failure .maskingRefused) (.maskingRefused d)
  | success {rows : MaskedQueryResult} {d : SuccessDetails} :
      Corresponds (.success rows) (.success d)
  | writeSuccess {d : WriteSuccessDetails} (h : d.affectedRows = 1) :
      Corresponds (.writeSuccess { affectedRows := 1 }) (.writeSuccess d)
  | internalError : Corresponds (.failure .internalError) .internalFailure

theorem corresponds_denied {d : PolicyRejectedDetails}
    (h : (Details.policyRejected d).Admissible) :
    Corresponds (.failure (clientFailureFor d.reason)) (.policyRejected d) := by
  obtain ⟨⟨h₁, h₂⟩, h₃⟩ := h
  by_cases he : d.reason = .emptyInput
  · rw [he]
    exact .emptyInput he
  · have hclient : clientFailureFor d.reason = .policyRejected := by
      unfold clientFailureFor
      split
      · next heq => exact absurd heq he
      · rfl
    rw [hclient]
    exact .policyRejected h₁ h₂ he h₃

theorem corresponds_database (status : ExecutionStatus) (type : StatementType) :
    Corresponds
      (.failure (if status = .connectionFailure then .databaseUnavailable else .queryFailed))
      (.databaseFailure
        ⟨if status = .connectionFailure then .connectionFailure else .executionFailure, type⟩) := by
  by_cases hc : status = .connectionFailure
  · rw [if_pos hc, if_pos hc]
    exact .databaseUnavailable rfl
  · rw [if_neg hc, if_neg hc]
    exact .queryFailed rfl

theorem Outcome.corresponds {env : Environment} {sql : Bytes} {p : Processing}
    (h : Outcome env sql p) : Corresponds p.result p.record.details := by
  cases h with
  | unparseable h hd => exact .unparseableSql
  | denied h hd hc hr => exact corresponds_denied hr
  | databaseFailed h ha hx hs ht => exact corresponds_database _ _
  | wrote h ha hx hs ht hn => exact .writeSuccess rfl
  | refused h ha hx hs ht hn hr hf => exact .maskingRefused
  | released h ha hx hs ht hn hr hf => exact .success
  | internal hf => exact .internalError
  | miscounted h hn => exact .internalError

/-- One record is handed to the repository; it and the answer form a pair, unless a
success could not be audited; and an internal failure has one of the listed causes. -/
theorem outcomes_correspond (env : Environment) (sql : Bytes)
    (hcount : ∀ parsed, env.parse sql = .ok parsed → parsed.statements.length < 2 ^ 31) :
    ∃ record reply result answered,
      appends (env.events sql) = [(record, reply)] ∧ Corresponds result record.details ∧
      env.handled sql = .ok answered ∧
      answered = (if result.succeeded = true ∧ reply ≠ .ok .ok then .failure .internalError
        else result) ∧
      (record.details = .internalFailure → Fault env sql) := by
  have hout := Environment.processing_outcome env sql
  refine ⟨_, _, (env.processing sql).result, _, Environment.appends_events env sql,
    hout.corresponds, Environment.handled_paired env sql, rfl, ?_⟩
  intro hd
  generalize env.processing sql = p at hout hd
  cases hout with
  | internal hf => exact hf
  | miscounted h hn =>
    have hnn := Environment.statementCount_nonneg hcount h
    omega
  | _ => cases hd

/-- `SELECT c.email` before a database that is gone. -/
def emailEnvironment : Environment where
  now := 0
  requestId := 0
  parse := fun _ => .ok { success := true, statements :=
    [{ type := .select, projectionColumns := [ascii "c.email"] }] }
  execute := fun _ => .error .foreign
  append := fun _ => .ok .ok

theorem outcomes_correspond_email :
    ∃ record reply result answered,
      appends (emailEnvironment.events (ascii "x")) = [(record, reply)] ∧
      Corresponds result record.details ∧
      emailEnvironment.handled (ascii "x") = .ok answered ∧
      answered = (if result.succeeded = true ∧ reply ≠ .ok .ok then .failure .internalError
        else result) ∧
      (record.details = .internalFailure → Fault emailEnvironment (ascii "x")) := by
  refine outcomes_correspond emailEnvironment (ascii "x") ?_
  intro parsed hp
  cases hp
  decide

end SqlProxy
