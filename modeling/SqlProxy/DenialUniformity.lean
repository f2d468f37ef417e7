import SqlProxy.HttpAgreement

/-! What a client learns from a denial: nothing but that there was one. The reason goes to
the audit trail, and the answer is fixed before the trail is heard. -/
namespace SqlProxy
open ByteText Json Routes ProxyService

/-- A request whose statement is denied by a rule of the policy, and not because there is
no statement or none that parses. -/
structure PolicyDenied (json : Library Exception) (env : Environment) (request : Request)
    (sql : Bytes) (a : SqlAnalysis) : Prop where
  carries : Carries json request sql
  analysis : env.analysis sql = .ok a
  counted : ∀ parsed, env.parse sql = .ok parsed → parsed.statements.length < 2 ^ 31
  denied : (PolicyEngine.evaluate a).allowed = false
  notEmpty : (PolicyEngine.evaluate a).reason ≠ .emptyInput
  parsed : (PolicyEngine.evaluate a).reason ≠ .unparseableSql

theorem clientFailureFor_of_ne {reason : RejectReason} (h : reason ≠ .emptyInput) :
    clientFailureFor reason = .policyRejected := by
  cases reason <;> first | rfl | exact absurd rfl h

namespace PolicyDenied
variable {json : Library Exception} {env : Environment} {request : Request} {sql : Bytes}
  {a : SqlAnalysis}

/-- No factory throws: a denial has a record, whatever the rule. -/
theorem processing_result (h : PolicyDenied json env request sql a) :
    (env.processing sql).result = .failure .policyRejected := by
  have hcount := Environment.statementCount_nonneg h.counted h.analysis
  have hreason : (Details.policyRejected ⟨(PolicyEngine.evaluate a).reason, a.statementType,
      a.statementCount.toNat⟩).Admissible :=
    ⟨PolicyEngine.evaluate_reason a h.denied, h.parsed⟩
  have hprocessed := Environment.processed_denied h.analysis h.denied
  rw [deny_eq _ _ hcount hreason] at hprocessed
  rw [Environment.processing_of_ok hprocessed]
  exact congrArg ServiceResult.failure (clientFailureFor_of_ne h.notEmpty)

/-- What the repository replies does not replace the denial. -/
theorem handled (h : PolicyDenied json env request sql a) :
    env.handled sql = .ok (.failure .policyRejected) := by
  rw [Environment.handled_paired, h.processing_result]
  rw [if_neg]
  intro hno
  cases hno.1

theorem answered (h : PolicyDenied json env request sql a) :
    answered json env request = sendError json (responseFor .policyRejected) := by
  rw [answered_carried env h.carries, h.handled]
  rfl

theorem executions (h : PolicyDenied json env request sql a) :
    executions (calls json env request) = [] := by
  rw [calls_carried h.carries, Environment.executions_events, h.analysis]
  simp [h.denied]

end PolicyDenied

/-- Two denials get the same response, to the byte, and neither reaches the database. -/
theorem denials_indistinguishable {json : Library Exception} {env env' : Environment}
    {request request' : Request} {sql sql' : Bytes} {a a' : SqlAnalysis}
    (h : PolicyDenied json env request sql a) (h' : PolicyDenied json env' request' sql' a') :
    ∃ response, answered json env request = .ok response ∧
      answered json env' request' = .ok response ∧
      executions (calls json env request) = [] ∧ executions (calls json env' request') = [] := by
  obtain ⟨text, hsend, -⟩ := sendJson_encodable json (responseFor .policyRejected).status
    (canonical_errorBody _) (encodable_responseFor .policyRejected)
  refine ⟨_, h.answered.trans hsend, h'.answered.trans hsend, h.executions, h'.executions⟩

theorem counted_libraryOf (stmt : Hsql.SQLStatement) (sql : Bytes) (parsed : ParseResult)
    (h : Except.ok (ε := Exception) (HyriseAdapter.parse (libraryOf stmt) sql) = .ok parsed) :
    parsed.statements.length < 2 ^ 31 := by
  cases h
  change 1 < 2 ^ 31
  decide

/-- A DROP, and a SELECT of a system table whose record is lost. -/
def dropEnvironment : Environment :=
  (answering {}).adapted (libraryOf (.drop { name := some (ascii "customers") }))

def catalogEnvironment : Environment :=
  { (answering latinResult).adapted (libraryOf (.select
      { fromTable := .tableName none (some (ascii "pg_authid")) none })) with
    append := fun _ => .error .foreign }

theorem denials_indistinguishable_drop :
    ∃ response, answered (Compact.library .foreign) dropEnvironment nameRequest = .ok response ∧
      answered (Compact.library .foreign) catalogEnvironment nameRequest = .ok response ∧
      executions (calls (Compact.library .foreign) dropEnvironment nameRequest) = [] ∧
      executions (calls (Compact.library .foreign) catalogEnvironment nameRequest) = [] := by
  have hc : Carries (Compact.library Exception.foreign) nameRequest
      (ascii "SELECT name FROM customers") := checkRequest_ok.mp (by decide +kernel)
  exact denials_indistinguishable
    ⟨hc, rfl, counted_libraryOf _ _, by decide +kernel, by decide +kernel, by decide +kernel⟩
    ⟨hc, rfl, counted_libraryOf _ _, by decide +kernel, by decide +kernel, by decide +kernel⟩

end SqlProxy
