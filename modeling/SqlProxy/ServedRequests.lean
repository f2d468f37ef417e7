import SqlProxy.Authorization
import SqlProxy.Deployment

/-! What one request does to the deployed components, whole or as far as it has come. -/
namespace SqlProxy.Deployment
open ByteText CallProgram Config Json Monitor PostgresQueryExecutor ProxyService Routes

section Responses

theorem sendJson_status {json : Library Exception} {status : Nat} {body : Json}
    {response : Response} (h : sendJson json status body = .ok response) :
    response.status = status := by
  unfold sendJson at h
  cases hdump : json.dump body with
  | error e =>
    rw [hdump] at h
    cases h
  | ok text =>
    rw [hdump] at h
    cases h
    rfl

theorem respond_ok {json : Library Exception} {result : ServiceResult} {response : Response}
    (h : respond json result = .ok response) (hstatus : response.status = 200) :
    result.succeeded = true := by
  cases result with
  | success masked => rfl
  | writeSuccess written => rfl
  | failure failure =>
    exact absurd ((sendJson_status h).symm.trans hstatus) (responseFor_status failure)

/-- What a request that succeeds returns: the answer to its SELECT, masked, or that its INSERT has
added a row. -/
inductive Returns (a : SqlAnalysis) (r : ExecutionResult) : ServiceResult → Prop where
  | rows (ht : a.statementType = .select) (hf : (classes a r).fullyAttributed = true) :
      Returns a r (.success (maskedResult a r))
  | inserted (ht : a.statementType = .insert) (hn : r.affectedRows = 1) :
      Returns a r (.writeSuccess ⟨1⟩)

/-- What lies behind a success: a statement that was executed, and a record that was taken. -/
structure Succeeded (env : Environment) (sql : Bytes) (a : SqlAnalysis) (r : ExecutionResult)
    (record : AuditRecord) (result : ServiceResult) : Prop where
  analysis : env.analysis sql = .ok a
  allowed : (PolicyEngine.evaluate a).allowed = true
  executed : executions (env.events sql) = [(sql, .ok r)]
  status : r.status = .ok
  appended : appends (env.events sql) = [(record, .ok .ok)]
  success : record.outcome = .success
  returns : Returns a r result

theorem succeeded_of_handled {env : Environment} {sql : Bytes} {result : ServiceResult}
    (h : env.handled sql = .ok result) (hsucceeded : result.succeeded = true) :
    ∃ a r record, Succeeded env sql a r record result := by
  obtain ⟨record, hrecord, hsuccess⟩ := (succeeded_iff h).mp hsucceeded
  have hout := Environment.processing_outcome env sql
  rw [Environment.appends_events, List.mem_singleton, Prod.mk.injEq] at hrecord
  obtain ⟨rfl, happ⟩ := hrecord
  have happended : appends (env.events sql) = [((env.processing sql).record, .ok .ok)] := by
    rw [Environment.appends_events, ← happ]
  have hresult : (env.processing sql).result = result := by
    rw [Environment.handled_of_append happ.symm] at h
    exact Except.ok.inj h
  have hexecutions := Environment.executions_events env sql
  generalize env.processing sql = p at hout hsuccess happended hresult
  cases hout with
  | @wrote a r ha hallowed hx hs ht hn =>
    cases hresult
    have hexecuted : executions (env.events sql) = [(sql, .ok r)] := by
      simp [hexecutions, ha, hallowed, hx]
    exact ⟨a, r, _, ha, hallowed, hexecuted, hs, happended, hsuccess, .inserted ht hn⟩
  | @released a r ha hallowed hx hs ht hn hr hf =>
    cases hresult
    have hexecuted : executions (env.events sql) = [(sql, .ok r)] := by
      simp [hexecutions, ha, hallowed, hx]
    exact ⟨a, r, _, ha, hallowed, hexecuted, hs, happended, hsuccess, .rows ht hf⟩
  | unparseable => cases hsuccess
  | denied => cases hsuccess
  | databaseFailed => cases hsuccess
  | refused => cases hsuccess
  | internal => cases hsuccess
  | miscounted => cases hsuccess

/-- What turns a request away is not a 200. -/
theorem checkRequest_of_ok {env : Environment} {json : Library Exception} {request : Request}
    {response : Response} (h : answered json env request = .ok response)
    (hstatus : response.status = 200) :
    ∃ sql result, Carries json request sql ∧ env.handled sql = .ok result ∧
      respond json result = .ok response := by
  cases hcheck : checkRequest json request with
  | error failure =>
    have hsent := (answered_rejected env hcheck).1.symm.trans h
    have hsame := (sendJson_status hsent).symm.trans hstatus
    cases (checkRequest_error hcheck).1.symm.trans hsame
  | ok sql =>
    have hcarries := checkRequest_ok.mp hcheck
    have hhandled := Environment.handled_eq env sql
    rw [answered_carried env hcarries, hhandled] at h
    exact ⟨sql, _, hcarries, hhandled, h⟩

end Responses

section Requests
variable {δ : Type} {w : Wiring δ} {s s' : Stack δ} {es : List ServiceEvent} {endpoint : Endpoint}
  {rest : Service Response}

theorem granted_of_run (h : Run (Answers w) s es s') : ∀ e ∈ es, Granted e.call e.reply :=
  (numbers_answers w).granted_of_run h

/-- What has been answered so far could all be answered by one environment. -/
theorem exists_answers {request : Request} (hpath : Path (serve w.json (.query request)) es rest)
    (hgranted : ∀ e ∈ es, Granted e.call e.reply) :
    ∃ env : Environment, calls w.json env request = es ++ rest.trace env.answers ∧
      answered w.json env request = rest.result env.answers := by
  have hpair := (hpath.ranked (serve_ranked w.json (.query request))).1
  obtain ⟨env, henv⟩ := exists_environment hpair hgranted
  exact ⟨env, hpath.run henv⟩

/-- A request that has made a call carries a statement, and its calls are the first calls of the
service for that statement. -/
theorem exists_events (hpath : Path (serve w.json endpoint) es rest)
    (hgranted : ∀ e ∈ es, Granted e.call e.reply) (hne : es ≠ []) :
    ∃ request, ∃ env : Environment, ∃ sql, endpoint = .query request ∧ Carries w.json request sql ∧
      env.events sql = es ++ rest.trace env.answers := by
  cases endpoint with
  | health =>
    have hnil : es = [] := (Path.of_done hpath).1
    exact absurd hnil hne
  | query request =>
    obtain ⟨env, htrace, -⟩ := exists_answers hpath hgranted
    cases hcheck : checkRequest w.json request with
    | error failure =>
      rw [(answered_rejected env hcheck).2] at htrace
      exact absurd (List.append_eq_nil_iff.mp htrace.symm).1 hne
    | ok sql =>
      have hcarries := checkRequest_ok.mp hcheck
      rw [calls_carried hcarries] at htrace
      exact ⟨request, env, sql, rfl, hcarries, htrace⟩

theorem serve_callsHandle (w : Wiring δ) : CallsHandle (serve w.json) := by
  intro endpoint es rest hpath hgranted hne
  obtain ⟨request, env, sql, -, -, hevents⟩ := exists_events hpath hgranted hne
  exact ⟨env, sql, hevents⟩

/-- A request that is answered 200 has had its statement executed and its success recorded. -/
theorem success_of_ok {request : Request} {response : Response}
    (hpath : Path (serve w.json (.query request)) es (.done (.ok response)))
    (hgranted : ∀ e ∈ es, Granted e.call e.reply) (hstatus : response.status = 200) :
    ∃ env sql a r record result, env.events sql = es ∧ Carries w.json request sql ∧
      Succeeded env sql a r record result ∧ respond w.json result = .ok response := by
  obtain ⟨env, htrace, hanswered⟩ := exists_answers hpath hgranted
  obtain ⟨sql, result, hcarries, hhandled, hresponse⟩ := checkRequest_of_ok hanswered hstatus
  obtain ⟨a, r, record, hsucceeded⟩ :=
    succeeded_of_handled hhandled (respond_ok hresponse hstatus)
  rw [trace_done, List.append_nil, calls_carried hcarries] at htrace
  exact ⟨env, sql, a, r, record, result, htrace, hcarries, hsucceeded, hresponse⟩

end Requests
end SqlProxy.Deployment
