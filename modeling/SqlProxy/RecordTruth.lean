import SqlProxy.DatabaseRuns

/-! What the record of a request says, beside its text and what came of it. -/
namespace SqlProxy.Deployment
open ByteText CallProgram HyriseAdapter PiiMasker PostgresQueryExecutor ProxyService Routes

def failureCategory : DriverError → DbFailureCategory
  | .brokenConnection => .connectionFailure
  | _ => .executionFailure

theorem failureCategory_caught (e : DriverError) :
    (if (caught e).status = .connectionFailure then DbFailureCategory.connectionFailure
      else .executionFailure) = failureCategory e := by
  cases e <;> rfl

theorem translate_columns (answer : PqxxResult) :
    (PostgresQueryExecutor.translate answer).columns.length = answer.columns.length := by
  simp [PostgresQueryExecutor.translate]

theorem evaluateDml_reason (a : SqlAnalysis) :
    (PolicyEngine.evaluateDml a).reason ≠ .unparseableSql := by
  unfold PolicyEngine.evaluateDml
  split_ifs <;> simp [PolicyEngine.reject, PolicyEngine.allow]

theorem evaluateSelect_reason (a : SqlAnalysis) :
    (PolicyEngine.evaluateSelect a).reason ≠ .unparseableSql := by
  unfold PolicyEngine.evaluateSelect
  split_ifs <;> simp [PolicyEngine.reject, PolicyEngine.allow]

theorem evaluate_unparseable {a : SqlAnalysis} :
    (PolicyEngine.evaluate a).reason = .unparseableSql ↔ a.status = .parseError := by
  unfold PolicyEngine.evaluate
  cases a.status with
  | emptyInput => simp [PolicyEngine.reject]
  | parseError => simp [PolicyEngine.reject]
  | multipleStatements => simp [PolicyEngine.reject]
  | ok =>
    simp only [reduceCtorEq, iff_false]
    by_cases hcount : a.statementCount = 1
    · rw [if_neg (not_not.mpr hcount)]
      cases a.statementClass with
      | unknown => simp [PolicyEngine.reject]
      | ddl => simp [PolicyEngine.reject]
      | dml => exact evaluateDml_reason a
      | select => exact evaluateSelect_reason a
    · rw [if_pos hcount]
      simp [PolicyEngine.reject]

/-- What the analyzer makes of a text behind the adapter. -/
def analysisOf (lib : Bytes → Except Exception Hsql.SQLParserResult) (sql : Bytes) : SqlAnalysis :=
  Id.run (SqlAnalyzer.analyze (fun text => pure (parse lib text)) sql)

section Analysis
variable {lib : Bytes → Except Exception Hsql.SQLParserResult} {sql : Bytes}

theorem analysisOf_blank (hb : SqlAnalyzer.isBlank sql = true) :
    analysisOf lib sql = { status := .emptyInput } := by
  simp [analysisOf, SqlAnalyzer.analyze, hb]

theorem analysisOf_parse (hb : SqlAnalyzer.isBlank sql = false) :
    analysisOf lib sql = SqlAnalyzer.analyzeParsed (parse lib sql) := by
  simp [analysisOf, SqlAnalyzer.analyze, hb]

theorem parse_failed (h : (parse lib sql).success = false) : (parse lib sql).statements = [] := by
  unfold parse at h ⊢
  split at h
  · split_ifs at h ⊢
    rfl
  · rfl

/-- The policy calls a text unparseable if it is not blank and no statement was found in it. -/
theorem unparseable_iff :
    (PolicyEngine.evaluate (analysisOf lib sql)).reason = .unparseableSql ↔
      SqlAnalyzer.isBlank sql = false ∧ (parse lib sql).statements = [] := by
  rw [evaluate_unparseable]
  cases hb : SqlAnalyzer.isBlank sql with
  | true => simp [analysisOf_blank hb]
  | false =>
    rw [analysisOf_parse hb]
    cases hsuccess : (parse lib sql).success with
    | false => simp [SqlAnalyzer.analyzeParsed, hsuccess, parse_failed hsuccess]
    | true =>
      cases hs : (parse lib sql).statements with
      | nil => simp [SqlAnalyzer.analyzeParsed, hsuccess, hs]
      | cons stmt rest => cases rest <;> simp [SqlAnalyzer.analyzeParsed, hsuccess, hs]

/-- The number of statements is negative only beyond the range of `int`. -/
theorem many_of_uncounted (h : (analysisOf lib sql).statementCount < 0) :
    2 ^ 31 ≤ (parse lib sql).statements.length := by
  cases hb : SqlAnalyzer.isBlank sql with
  | true =>
    rw [analysisOf_blank hb] at h
    cases h
  | false =>
    rw [analysisOf_parse hb, SqlAnalyzer.analyzeParsed_statementCount] at h
    by_contra hfew
    rw [SqlAnalyzer.toInt_of_lt (by omega)] at h
    omega

end Analysis

/-- What the details of a record and its tables have to be for a text and the transaction it has
led to. Where there was none, the statement was not permitted: the text is not blank and holds no
statement, or a rule denies what it holds, and which rule is recorded with the type and the number
of statements; beyond the range of `int` there may be no such number. -/
inductive Tells (lib : Bytes → Except Exception Hsql.SQLParserResult) (sql : Bytes) :
    Option (Except DriverError PqxxResult) → Details → List Bytes → Prop where
  | unparseable (h : ¬ Permitted lib sql) (hb : SqlAnalyzer.isBlank sql = false)
      (hs : (parse lib sql).statements = []) : Tells lib sql none .parsingFailure []
  | denied (h : ¬ Permitted lib sql)
      (hs : SqlAnalyzer.isBlank sql = true ∨ (parse lib sql).statements ≠ [])
      (hc : 0 ≤ (analysisOf lib sql).statementCount) :
      Tells lib sql none
        (.policyRejected ⟨(PolicyEngine.evaluate (analysisOf lib sql)).reason,
          (analysisOf lib sql).statementType, (analysisOf lib sql).statementCount.toNat⟩)
        (analysisOf lib sql).tables
  | uncounted (h : ¬ Permitted lib sql) (hc : (analysisOf lib sql).statementCount < 0)
      (hcount : 2 ^ 31 ≤ (parse lib sql).statements.length) :
      Tells lib sql none .internalFailure []
  | databaseFailed {stmt : Hsql.SQLStatement} (h : Submitted lib sql [stmt])
      (ha : Authorized [stmt]) (e : DriverError) :
      Tells lib sql (some (.error e))
        (.databaseFailure ⟨failureCategory e, (translateStatement stmt).type⟩)
        (analysisOf lib sql).tables
  | released {stmt : Hsql.SelectStatement} (h : Submitted lib sql [.select stmt])
      (ha : AuthorizedSelect stmt) (answer : PqxxResult)
      (hf : (classes (analysisOf lib sql) (translate answer)).fullyAttributed = true) :
      Tells lib sql (some (.ok answer))
        (.success ⟨.select, answer.size, answer.columns.length,
          summarize (classes (analysisOf lib sql) (translate answer))⟩)
        (analysisOf lib sql).tables
  | refused {stmt : Hsql.SelectStatement} (h : Submitted lib sql [.select stmt])
      (ha : AuthorizedSelect stmt) (answer : PqxxResult)
      (hf : (classes (analysisOf lib sql) (translate answer)).fullyAttributed = false) :
      Tells lib sql (some (.ok answer)) (.maskingRefused ⟨.select, answer.columns.length⟩)
        (analysisOf lib sql).tables
  | wrote {stmt : Hsql.InsertStatement} (h : Submitted lib sql [.insert stmt])
      (ha : AuthorizedInsert stmt) (answer : PqxxResult) (hone : answer.affectedRows = 1) :
      Tells lib sql (some (.ok answer)) (.writeSuccess ⟨.insert, 1⟩) (analysisOf lib sql).tables
  | miscounted {stmt : Hsql.InsertStatement} (h : Submitted lib sql [.insert stmt])
      (ha : AuthorizedInsert stmt) (answer : PqxxResult) (hother : answer.affectedRows ≠ 1) :
      Tells lib sql (some (.ok answer)) .internalFailure []

/-- The record tells the truth about the text and the transaction it has led to. -/
def Truthful (lib : Bytes → Except Exception Hsql.SQLParserResult) (sql : Bytes)
    (outcome : Option (Except DriverError PqxxResult)) (record : AuditRecord) : Prop :=
  ∃ tables, record.referencedTables = classifyTables tables ∧
    Tells lib sql outcome record.details tables

section Tells
variable {lib : Bytes → Except Exception Hsql.SQLParserResult} {sql : Bytes}
  {outcome : Option (Except DriverError PqxxResult)} {details details' : Details}
  {tables tables' : List Bytes}

theorem submitted_unique {stmts stmts' : List Hsql.SQLStatement} (h : Submitted lib sql stmts)
    (h' : Submitted lib sql stmts') : stmts = stmts' := by
  obtain ⟨-, result, hlib, -, rfl⟩ := h
  obtain ⟨-, result', hlib', -, rfl⟩ := h'
  cases hlib.symm.trans hlib'
  rfl

/-- There is one truth about a text and its transaction. -/
theorem Tells.unique (h : Tells lib sql outcome details tables)
    (h' : Tells lib sql outcome details' tables') : details = details' ∧ tables = tables' := by
  cases h with
  | unparseable _ hb hs =>
    cases h' with
    | unparseable => exact ⟨rfl, rfl⟩
    | denied _ hs' =>
      cases hs' with
      | inl hblank => cases hblank.symm.trans hb
      | inr hsome => exact absurd hs hsome
    | uncounted _ _ hcount => simp [hs] at hcount
  | denied _ hs hc =>
    cases h' with
    | denied => exact ⟨rfl, rfl⟩
    | unparseable _ hb hs' =>
      cases hs with
      | inl hblank => cases hblank.symm.trans hb
      | inr hsome => exact absurd hs' hsome
    | uncounted _ hneg => omega
  | uncounted _ hneg hcount =>
    cases h' with
    | uncounted => exact ⟨rfl, rfl⟩
    | unparseable _ _ hs => simp [hs] at hcount
    | denied _ _ hc => omega
  | databaseFailed hstmt =>
    cases h' with
    | databaseFailed hstmt' =>
      cases submitted_unique hstmt hstmt'
      exact ⟨rfl, rfl⟩
  | released hstmt _ _ hf =>
    cases h' with
    | released => exact ⟨rfl, rfl⟩
    | refused _ _ _ hf' => cases hf.symm.trans hf'
    | wrote hstmt' => cases submitted_unique hstmt hstmt'
    | miscounted hstmt' => cases submitted_unique hstmt hstmt'
  | refused hstmt _ _ hf =>
    cases h' with
    | refused => exact ⟨rfl, rfl⟩
    | released _ _ _ hf' => cases hf.symm.trans hf'
    | wrote hstmt' => cases submitted_unique hstmt hstmt'
    | miscounted hstmt' => cases submitted_unique hstmt hstmt'
  | wrote hstmt _ _ hone =>
    cases h' with
    | wrote => exact ⟨rfl, rfl⟩
    | miscounted _ _ _ hother => exact absurd hone hother
    | released hstmt' => cases submitted_unique hstmt hstmt'
    | refused hstmt' => cases submitted_unique hstmt hstmt'
  | miscounted hstmt _ _ hother =>
    cases h' with
    | miscounted => exact ⟨rfl, rfl⟩
    | wrote _ _ _ hone => exact absurd hone hother
    | released hstmt' => cases submitted_unique hstmt hstmt'
    | refused hstmt' => cases submitted_unique hstmt hstmt'

/-- All of a record but its two stamps is determined by the text and what came of it. -/
theorem Truthful.unique {record record' : AuditRecord} (h : Truthful lib sql outcome record)
    (h' : Truthful lib sql outcome record') (htime : record.timestampMs = record'.timestampMs)
    (hid : record.requestId = record'.requestId) : record = record' := by
  obtain ⟨tables, htables, htells⟩ := h
  obtain ⟨tables', htables', htells'⟩ := h'
  obtain ⟨hdetails, rfl⟩ := htells.unique htells'
  cases record
  cases record'
  cases htime
  cases hid
  cases hdetails
  cases htables.trans htables'.symm
  rfl

/-- A statement has a transaction exactly if it is permitted. -/
theorem Truthful.permitted_iff {record : AuditRecord} (h : Truthful lib sql outcome record) :
    Permitted lib sql ↔ outcome.isSome = true := by
  obtain ⟨tables, -, htells⟩ := h
  generalize record.details = details at htells
  cases htells with
  | unparseable h => simpa using h
  | denied h => simpa using h
  | uncounted h => simpa using h
  | databaseFailed h ha => exact ⟨fun _ => rfl, fun _ => ⟨_, h, ha⟩⟩
  | released h ha => exact ⟨fun _ => rfl, fun _ => ⟨_, h, .select ha⟩⟩
  | refused h ha => exact ⟨fun _ => rfl, fun _ => ⟨_, h, .select ha⟩⟩
  | wrote h ha => exact ⟨fun _ => rfl, fun _ => ⟨_, h, .insert ha⟩⟩
  | miscounted h ha => exact ⟨fun _ => rfl, fun _ => ⟨_, h, .insert ha⟩⟩

end Tells

section Request
variable {lib : Bytes → Except Exception Hsql.SQLParserResult} {env : Environment} {sql : Bytes}
  {a : SqlAnalysis} {history : List Attempt}

theorem analysis_of_adapted (h : Adapted lib env sql) :
    env.analysis sql = .ok (analysisOf lib sql) := by
  cases hb : SqlAnalyzer.isBlank sql with
  | true =>
    rw [Environment.analysis_blank hb, analysisOf_blank hb]
  | false =>
    rw [Environment.analysis_parse hb, h hb, analysisOf_parse hb]
    rfl

theorem not_permitted (h : Adapted lib env sql) (ha : env.analysis sql = .ok a)
    (hdenied : (PolicyEngine.evaluate a).allowed = false) : ¬ Permitted lib sql := by
  rintro ⟨stmts, hstmts, hauthorized⟩
  rw [analysis_adapted h] at ha
  cases (analysis_submitted hstmts).symm.trans ha
  have hallowed := (decided_iff stmts).mpr hauthorized
  unfold decided at hallowed
  rw [hdenied] at hallowed
  cases hallowed

theorem statement_of_allowed (h : Adapted lib env sql) (ha : env.analysis sql = .ok a)
    (hallowed : (PolicyEngine.evaluate a).allowed = true) :
    ∃ stmt, Submitted lib sql [stmt] ∧ Authorized [stmt] ∧
      a.statementType = (translateStatement stmt).type := by
  obtain ⟨stmts, hstmts, hauthorized, rfl⟩ := submitted_of_allowed h ha hallowed
  cases hauthorized with
  | select hselect => exact ⟨_, hstmts, .select hselect, rfl⟩
  | insert hinsert => exact ⟨_, hstmts, .insert hinsert, rfl⟩

theorem select_of_allowed (h : Adapted lib env sql) (ha : env.analysis sql = .ok a)
    (hallowed : (PolicyEngine.evaluate a).allowed = true) (ht : a.statementType = .select) :
    ∃ stmt, Submitted lib sql [.select stmt] ∧ AuthorizedSelect stmt := by
  obtain ⟨stmt, hstmt, hauthorized, htype⟩ := statement_of_allowed h ha hallowed
  rw [ht, translateStatement_type] at htype
  cases hauthorized with
  | select hselect => exact ⟨_, hstmt, hselect⟩
  | insert => cases htype

theorem insert_of_allowed (h : Adapted lib env sql) (ha : env.analysis sql = .ok a)
    (hallowed : (PolicyEngine.evaluate a).allowed = true) (ht : a.statementType = .insert) :
    ∃ stmt, Submitted lib sql [.insert stmt] ∧ AuthorizedInsert stmt := by
  obtain ⟨stmt, hstmt, hauthorized, htype⟩ := statement_of_allowed h ha hallowed
  rw [ht, translateStatement_type] at htype
  cases hauthorized with
  | select => cases htype
  | insert hinsert => exact ⟨_, hstmt, hinsert⟩

/-- Nothing comes of what is not allowed. -/
theorem attempts_denied (ha : env.analysis sql = .ok a)
    (hdenied : (PolicyEngine.evaluate a).allowed = false)
    (hexec : executions (env.events sql) = history.map Attempt.report) : history = [] := by
  rw [Environment.executions_events, ha] at hexec
  simp only [hdenied, Bool.false_eq_true, if_false] at hexec
  exact List.map_eq_nil_iff.mp hexec.symm

/-- One transaction comes of what is allowed, and the service is told its outcome. -/
theorem attempts_allowed (ha : env.analysis sql = .ok a)
    (hallowed : (PolicyEngine.evaluate a).allowed = true)
    (hexec : executions (env.events sql) = history.map Attempt.report) :
    ∃ outcome, history = [(sql, outcome)] ∧
      env.execute sql = .ok (execute (fun _ => outcome) sql) := by
  rw [Environment.executions_events, ha] at hexec
  simp only [hallowed, if_true] at hexec
  obtain ⟨⟨sql', outcome⟩, rfl, hreport⟩ := List.map_eq_singleton_iff.mp hexec.symm
  obtain ⟨hsql, hreply⟩ := Prod.mk.inj hreport
  change sql' = sql at hsql
  subst hsql
  exact ⟨outcome, rfl, hreply.symm⟩

/-- The status tells whether the transaction has answered or failed. -/
theorem answer_of_executed {r : ExecutionResult} {outcome : Except DriverError PqxxResult}
    (hx : env.execute sql = .ok r) (hreply : env.execute sql = .ok (execute (fun _ => outcome) sql))
    (hs : r.status = .ok) :
    ∃ answer, outcome = .ok answer ∧ r = PostgresQueryExecutor.translate answer := by
  cases hx.symm.trans hreply
  cases outcome with
  | ok answer => exact ⟨answer, rfl, execute_ok rfl⟩
  | error e =>
    rw [execute_error rfl] at hs
    exact absurd hs (caught_status e)

theorem error_of_executed {r : ExecutionResult} {outcome : Except DriverError PqxxResult}
    (hx : env.execute sql = .ok r) (hreply : env.execute sql = .ok (execute (fun _ => outcome) sql))
    (hs : r.status ≠ .ok) : ∃ e, outcome = .error e ∧ r = caught e := by
  cases hx.symm.trans hreply
  cases outcome with
  | ok answer => exact absurd (congrArg ExecutionResult.status (execute_ok rfl)) hs
  | error e => exact ⟨e, rfl, execute_error rfl⟩

/-- The only fault that the adapters leave is an INSERT of another number of rows than one. -/
theorem truthful_fault (h : Adapted lib env sql)
    (hexec : executions (env.events sql) = history.map Attempt.report) (hf : Fault env sql) :
    ∃ outcome : Option (Except DriverError PqxxResult),
      history = (outcome.map fun outcome => (sql, outcome)).toList ∧
        Tells lib sql outcome .internalFailure [] := by
  cases hf with
  | parserThrew hb hp => cases hp.symm.trans (h hb)
  | executorThrew ha hallowed hx =>
    obtain ⟨outcome, -, hreply⟩ := attempts_allowed ha hallowed hexec
    cases hx.symm.trans hreply
  | affectedRows ha hallowed hx hs ht hn =>
    obtain ⟨outcome, hhistory, hreply⟩ := attempts_allowed ha hallowed hexec
    obtain ⟨stmt, hstmt, hinsert⟩ := insert_of_allowed h ha hallowed ht
    obtain ⟨answer, rfl, rfl⟩ := answer_of_executed hx hreply hs
    have hother : answer.affectedRows ≠ 1 := fun hone => hn (congrArg Nat.cast hone)
    exact ⟨some (.ok answer), hhistory, .miscounted hstmt hinsert answer hother⟩
  | rowCount ha hallowed hx hs ht hn =>
    obtain ⟨outcome, -, hreply⟩ := attempts_allowed ha hallowed hexec
    obtain ⟨answer, rfl, rfl⟩ := answer_of_executed hx hreply hs
    change (answer.size : Int) < 0 at hn
    omega
  | raggedRow ha hallowed hx hs ht hr =>
    obtain ⟨outcome, -, hreply⟩ := attempts_allowed ha hallowed hexec
    obtain ⟨answer, rfl, rfl⟩ := answer_of_executed hx hreply hs
    exact absurd (translate_wellShaped answer).rectangular hr

/-- The record of a request tells what came of it. -/
theorem truthful_of_executions (h : Adapted lib env sql)
    (hexec : executions (env.events sql) = history.map Attempt.report) :
    ∃ outcome : Option (Except DriverError PqxxResult),
      history = (outcome.map fun outcome => (sql, outcome)).toList ∧
        Truthful lib sql outcome (env.processing sql).record := by
  have hanalysis := analysis_of_adapted h
  have hout := Environment.processing_outcome env sql
  generalize env.processing sql = p at hout
  cases hout with
  | unparseable ha hd =>
    cases hanalysis.symm.trans ha
    have hdenied := congrArg PolicyDecision.allowed hd
    have hreason := congrArg PolicyDecision.reason hd
    obtain ⟨hb, hs⟩ := unparseable_iff.mp hreason
    exact ⟨none, attempts_denied ha hdenied hexec, [], rfl,
      .unparseable (not_permitted h ha hdenied) hb hs⟩
  | denied ha hdenied hc hr =>
    cases hanalysis.symm.trans ha
    have hfound : SqlAnalyzer.isBlank sql = true ∨ (parse lib sql).statements ≠ [] := by
      have hparsed := mt unparseable_iff.mpr hr.2
      rwa [not_and_or, Bool.not_eq_false] at hparsed
    exact ⟨none, attempts_denied ha hdenied hexec, _, rfl,
      .denied (not_permitted h ha hdenied) hfound hc⟩
  | @databaseFailed a r ha hallowed hx hs ht =>
    cases hanalysis.symm.trans ha
    obtain ⟨outcome, hhistory, hreply⟩ := attempts_allowed ha hallowed hexec
    obtain ⟨stmt, hstmt, hauthorized, htype⟩ := statement_of_allowed h ha hallowed
    obtain ⟨e, rfl, rfl⟩ := error_of_executed hx hreply hs
    refine ⟨some (.error e), hhistory, _, rfl, ?_⟩
    change Tells lib sql _ (.databaseFailure ⟨if (caught e).status = .connectionFailure then
      .connectionFailure else .executionFailure, (analysisOf lib sql).statementType⟩) _
    rw [failureCategory_caught, htype]
    exact .databaseFailed hstmt hauthorized e
  | @wrote a r ha hallowed hx hs ht hn =>
    cases hanalysis.symm.trans ha
    obtain ⟨outcome, hhistory, hreply⟩ := attempts_allowed ha hallowed hexec
    obtain ⟨stmt, hstmt, hinsert⟩ := insert_of_allowed h ha hallowed ht
    obtain ⟨answer, rfl, rfl⟩ := answer_of_executed hx hreply hs
    refine ⟨some (.ok answer), hhistory, _, rfl, ?_⟩
    change Tells lib sql _ (.writeSuccess ⟨(analysisOf lib sql).statementType, 1⟩) _
    rw [ht]
    exact .wrote hstmt hinsert answer (Int.ofNat.inj hn)
  | @refused a r ha hallowed hx hs ht hn hr hf =>
    cases hanalysis.symm.trans ha
    obtain ⟨outcome, hhistory, hreply⟩ := attempts_allowed ha hallowed hexec
    obtain ⟨stmt, hstmt, hselect⟩ := select_of_allowed h ha hallowed ht
    obtain ⟨answer, rfl, rfl⟩ := answer_of_executed hx hreply hs
    refine ⟨some (.ok answer), hhistory, _, rfl, ?_⟩
    change Tells lib sql _ (.maskingRefused ⟨(analysisOf lib sql).statementType,
      (translate answer).columns.length⟩) _
    rw [ht, translate_columns]
    exact .refused hstmt hselect answer hf
  | @released a r ha hallowed hx hs ht hn hr hf =>
    cases hanalysis.symm.trans ha
    obtain ⟨outcome, hhistory, hreply⟩ := attempts_allowed ha hallowed hexec
    obtain ⟨stmt, hstmt, hselect⟩ := select_of_allowed h ha hallowed ht
    obtain ⟨answer, rfl, rfl⟩ := answer_of_executed hx hreply hs
    refine ⟨some (.ok answer), hhistory, _, rfl, ?_⟩
    change Tells lib sql _ (.success ⟨(analysisOf lib sql).statementType,
      (translate answer).rowCount.toNat, (translate answer).columns.length,
      summarize (classes (analysisOf lib sql) (translate answer))⟩) _
    rw [ht, translate_columns]
    exact .released hstmt hselect answer hf
  | internal hf =>
    obtain ⟨outcome, hhistory, htells⟩ := truthful_fault h hexec hf
    exact ⟨outcome, hhistory, [], rfl, htells⟩
  | @miscounted a ha hn =>
    cases hanalysis.symm.trans ha
    have hdenied : (PolicyEngine.evaluate (analysisOf lib sql)).allowed = false := by
      rw [Bool.eq_false_iff]
      intro hallowed
      have hone := (PolicyEngine.evaluate_allowed.mp hallowed).2.1
      omega
    exact ⟨none, attempts_denied ha hdenied hexec, [], rfl,
      .uncounted (not_permitted h ha hdenied) hn (many_of_uncounted hn)⟩

end Request
end SqlProxy.Deployment
