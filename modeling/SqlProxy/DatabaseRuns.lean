import SqlProxy.ServedRequests

/-! What the requests of a deployed service have done to the database. -/
namespace SqlProxy.Deployment
open ByteText CallProgram Monitor PostgresQueryExecutor ProxyService Routes

/-- A statement that was executed, and what came of its transaction. -/
abbrev Attempt := Bytes × Except DriverError PqxxResult

/-- What the service is told of an attempt. -/
def Attempt.report (attempt : Attempt) : Bytes × Except Exception ExecutionResult :=
  (attempt.1, .ok (execute (fun _ => attempt.2) attempt.1))

section Replay
variable {δ : Type} (w : Wiring δ)

/-- Transactions one after another, the only ones that change the data. -/
inductive Replay : δ → List Attempt → δ → Prop
  | nil (data : δ) : Replay data [] data
  | cons {data data₁ data₂ : δ} {sql : Bytes} {outcome : Except DriverError PqxxResult}
      {calls : List DriverEvent} {rest : List Attempt}
      (h : Ended w.effect w.config sql data calls outcome data₁) (hrest : Replay data₁ rest data₂) :
      Replay data ((sql, outcome) :: rest) data₂

variable {w} {s s' : Stack δ} {es : List ServiceEvent} {endpoint : Endpoint}
  {rest : Service Response}

theorem replay_of_run (hrun : Run (Answers w) s es s') :
    ∃ history, Replay w s.data history s'.data ∧ executions es = history.map Attempt.report := by
  induction hrun with
  | nil s => exact ⟨[], .nil _, rfl⟩
  | cons hc _ ih =>
    obtain ⟨history, hreplay, hexecuted⟩ := ih
    cases hc with
    | @execute _ sql r session h =>
      obtain ⟨calls, hpath, hcalls⟩ := h
      obtain ⟨outcome, data', rfl, rfl, hended⟩ := executeCalls_ended w.effect hpath hcalls
      exact ⟨(sql, outcome) :: history, .cons hended hreplay, congrArg (List.cons _) hexecuted⟩
    | _ => exact ⟨history, hreplay, hexecuted⟩

theorem parse_of_run (hrun : Run (Answers w) s es s') {sql : Bytes}
    {reply : Except Exception ParseResult} (h : (⟨.parse sql, reply⟩ : ServiceEvent) ∈ es) :
    reply = .ok (HyriseAdapter.parse w.hsqlParse sql) := by
  induction hrun with
  | nil s => cases h
  | cons hc _ ih =>
    cases List.mem_cons.mp h with
    | inr h => exact ih h
    | inl h =>
      cases h
      cases hc
      rfl

theorem parse_mem_events {env : Environment} {sql : Bytes} (hb : SqlAnalyzer.isBlank sql = false) :
    (⟨.parse sql, env.parse sql⟩ : ServiceEvent) ∈ env.events sql := by
  rw [Environment.events_eq, Environment.trace_guarded, Environment.trace_process]
  simp [hb]

/-- The statements that the service is there to execute. -/
def Permitted (hsqlParse : Bytes → Except Exception Hsql.SQLParserResult) (sql : Bytes) : Prop :=
  ∃ stmts, Submitted hsqlParse sql stmts ∧ Authorized stmts

/-- The adapters read an authorized statement in the text, and this is its analysis. -/
def Analyzed (lib : Bytes → Except Exception Hsql.SQLParserResult) (sql : Bytes)
    (a : SqlAnalysis) : Prop :=
  ∃ stmts, Submitted lib sql stmts ∧ Authorized stmts ∧ a = SqlAnalyzer.analyzeParsed
    { success := true, statements := stmts.map HyriseAdapter.translateStatement }

section Analysis
variable {lib : Bytes → Except Exception Hsql.SQLParserResult} {env : Environment} {sql : Bytes}

/-- A text that is not blank has been parsed by the adapter. -/
def Adapted (lib : Bytes → Except Exception Hsql.SQLParserResult) (env : Environment)
    (sql : Bytes) : Prop :=
  SqlAnalyzer.isBlank sql = false → env.parse sql = .ok (HyriseAdapter.parse lib sql)

theorem analysis_adapted (h : Adapted lib env sql) :
    env.analysis sql = (env.adapted lib).analysis sql := by
  cases hb : SqlAnalyzer.isBlank sql with
  | true => rw [Environment.analysis_blank hb, Environment.analysis_blank hb]
  | false =>
    rw [Environment.analysis_parse hb, Environment.analysis_parse hb, h hb]
    rfl

/-- What is allowed is an authorized statement and analyzed as such. -/
theorem submitted_of_allowed {a : SqlAnalysis} (h : Adapted lib env sql)
    (ha : env.analysis sql = .ok a) (hallowed : (PolicyEngine.evaluate a).allowed = true) :
    Analyzed lib sql a := by
  rw [analysis_adapted h] at ha
  by_cases hsubmitted : ∃ stmts, Submitted lib sql stmts
  · obtain ⟨stmts, hstmts⟩ := hsubmitted
    cases (analysis_submitted hstmts).symm.trans ha
    exact ⟨stmts, hstmts, (decided_iff stmts).mp hallowed, rfl⟩
  · obtain ⟨a', ha', hdenied⟩ := analysis_not_submitted env (not_exists.mp hsubmitted)
    cases ha'.symm.trans ha
    rw [hallowed] at hdenied
    cases hdenied

end Analysis

/-- The parser has answered what the adapter makes of the text. -/
theorem adapted_of_run (hrun : Run (Answers w) s es s') {env : Environment} {sql : Bytes}
    {fs : List ServiceEvent} {e : ServiceEvent} (hevents : env.events sql = es ++ fs) (he : e ∈ es)
    (hrank : 3 ≤ e.call.rank) : Adapted w.hsqlParse env sql :=
  fun hb => parse_of_run hrun (mem_first hevents he (parse_mem_events hb) hrank)

/-- No request executes anything but an authorized statement. -/
theorem authorized_of_run (hpath : Path (serve w.json endpoint) es rest)
    (hrun : Run (Answers w) s es s') {sql : Bytes} {reply : Except Exception ExecutionResult}
    (hexecuted : (sql, reply) ∈ executions es) : Permitted w.hsqlParse sql := by
  have hmem := mem_executions.mp hexecuted
  obtain ⟨request, env, sql', -, -, hevents⟩ :=
    exists_events hpath (granted_of_run hrun) (List.ne_nil_of_mem hmem)
  have hall : (sql, reply) ∈ executions (env.events sql') := by
    rw [hevents, executions_append]
    exact List.mem_append_left _ hexecuted
  rw [Environment.executions_events] at hall
  cases hanalysis : env.analysis sql' with
  | error e =>
    rw [hanalysis] at hall
    cases hall
  | ok a =>
    rw [hanalysis] at hall
    by_cases hallowed : (PolicyEngine.evaluate a).allowed = true
    · simp only [hallowed, if_true, List.mem_singleton] at hall
      cases hall
      have hadapted := adapted_of_run hrun hevents hmem (show 3 ≤ 4 by decide)
      obtain ⟨stmts, hstmts, hauthorized, -⟩ := submitted_of_allowed hadapted hanalysis hallowed
      exact ⟨stmts, hstmts, hauthorized⟩
    · simp [hallowed] at hall

section Serial
variable {ι : Type} {init mid : Stack δ} {served : List (ServedRequest ι)}

theorem authorized_serial (h : Serial (Answers w) (serve w.json) init served mid) :
    ∀ e ∈ executions (served.flatMap Served.events), Permitted w.hsqlParse e.1 := by
  induction h with
  | nil => exact List.forall_mem_nil _
  | snoc _ e hpath hrun ih =>
    rw [List.flatMap_append, List.flatMap_singleton, executions_append]
    exact List.forall_mem_append.mpr ⟨ih, fun e he => authorized_of_run hpath hrun he⟩

end Serial

theorem executions_flatMap {β : Type} (l : List β) (f : β → List ServiceEvent) :
    executions (l.flatMap f) = l.flatMap fun x => executions (f x) :=
  List.filterMap_flatMap

end Replay

/-- The account of the calls `es` of a server. The database is where authorized statements have
brought it, one transaction for each that was executed, in this order. Each client finds those it
was told of there in its own order. Where it was answered 200, its statement was committed, and
the answer is what the service makes of the answer of the database: the masked rows, or that one
row was added. -/
structure Accounted {δ ι : Type} (w : Wiring δ) (data : δ) (s : Server ι δ)
    (es : List ServiceEvent) (history : List Attempt) : Prop where
  executed : executions es = history.map Attempt.report
  replay : Replay w data history s.state.data
  permitted : ∀ attempt ∈ history, Permitted w.hsqlParse attempt.1
  clients : ∀ i, ((s.clients i).completed.flatMap fun done => executions done.events).Sublist
    (history.map Attempt.report)
  successes : ∀ i, ∀ done ∈ (s.clients i).completed, ∀ request response,
    done.job = .query request → done.result = .ok response → response.status = 200 →
    ∃ sql answer a result, Carries w.json request sql ∧ (sql, .ok answer) ∈ history ∧
      executions done.events = [(sql, .ok (translate answer))] ∧
      Analyzed w.hsqlParse sql a ∧ Returns a (translate answer) result ∧
      respond w.json result = .ok response

section Account
variable {δ ι : Type} [DecidableEq ι] {w : Wiring δ} {init : Stack δ} {s : Server ι δ}
  {served : List (ServedRequest ι)} {es : List ServiceEvent} {history : List Attempt}

theorem permitted_of_history
    (hhistory : History (Answers w) (serve w.json) init s served es) :
    ∀ e ∈ executions (served.flatMap Served.events ++ es), Permitted w.hsqlParse e.1 := by
  obtain ⟨mid, hserial, hrun⟩ := hhistory.runs
  intro e he
  rw [executions_append] at he
  cases List.mem_append.mp he with
  | inl he => exact authorized_serial hserial e he
  | inr he =>
    cases ho : s.owner with
    | none =>
      rw [hhistory.free ho] at he
      cases he
    | some i =>
      obtain ⟨run, -, -, hpath⟩ := hhistory.owned i ho
      exact authorized_of_run hpath hrun he

/-- A request that is answered 200 has its committed transaction in the history. -/
theorem committed_of_ok (hhistory : History (Answers w) (serve w.json) init s served es)
    (hexecuted : executions (served.flatMap Served.events ++ es) = history.map Attempt.report)
    {i : ι} {done : Completed Call Call.Reply Exception Response Endpoint}
    (hdone : done ∈ (s.clients i).completed) {request : Request} {response : Response}
    (hjob : done.job = .query request) (hresult : done.result = .ok response)
    (hstatus : response.status = 200) :
    ∃ sql answer a result, Carries w.json request sql ∧ (sql, .ok answer) ∈ history ∧
      executions done.events = [(sql, .ok (translate answer))] ∧
      Analyzed w.hsqlParse sql a ∧ Returns a (translate answer) result ∧
      respond w.json result = .ok response := by
  obtain ⟨s₁, s₂, hwhole, hmade⟩ := hhistory.completed_run hdone
  rw [hjob, hresult] at hwhole
  obtain ⟨env, sql, a, r, record, result, hevents, hcarries, hsucceeded, hresponse⟩ :=
    success_of_ok hwhole (granted_of_run hmade) hstatus
  have hexecution := hsucceeded.executed
  rw [hevents] at hexecution
  have hevent : (⟨.execute sql, .ok r⟩ : ServiceEvent) ∈ done.events :=
    mem_executions.mp (by simp [hexecution])
  have hadapted := adapted_of_run (e := ⟨.execute sql, .ok r⟩) hmade
    (hevents.trans (List.append_nil _).symm) hevent (show 3 ≤ 4 by decide)
  have hanalyzed := submitted_of_allowed hadapted hsucceeded.analysis hsucceeded.allowed
  have hmem : (sql, .ok r) ∈ executions (served.flatMap Served.events ++ es) :=
    mem_executions.mpr (List.mem_append_left _ (hhistory.mem_events hdone hevent))
  rw [hexecuted] at hmem
  obtain ⟨⟨sql', outcome⟩, hattempt, hreport⟩ := List.mem_map.mp hmem
  cases hreport
  cases outcome with
  | error e =>
    have hok := hsucceeded.status
    rw [execute_error rfl] at hok
    exact absurd hok (caught_status e)
  | ok answer =>
    exact ⟨sql', answer, a, result, hcarries, hattempt, hexecution, hanalyzed,
      hsucceeded.returns, hresponse⟩

end Account

/-- In every state that a server reaches, the database tells of the statements that its requests
have executed, in the order in which these were served. -/
theorem database_accounted {δ ι : Type} [DecidableEq ι] (w : Wiring δ) (init : Stack δ)
    (s : Server ι δ) (h : Reachable w init s) :
    ∃ served es history, History (Answers w) (serve w.json) init s served es ∧
      Accounted w init.data s (served.flatMap Served.events ++ es) history := by
  obtain ⟨served, es, hhistory, -⟩ := history_of_reachable (serve_sectioned w) h
  obtain ⟨history, hreplay, hexecuted⟩ := replay_of_run hhistory.run
  have hfront : (served.flatMap fun e => executions e.events).Sublist
      (history.map Attempt.report) := by
    rw [← hexecuted, executions_append, executions_flatMap]
    exact List.sublist_append_left _ _
  refine ⟨served, es, history, hhistory, hexecuted, hreplay, ?_,
    fun i => (hhistory.sublist rfl i).trans hfront, ?_⟩
  · intro attempt hattempt
    have hreport : attempt.report ∈ executions (served.flatMap Served.events ++ es) := by
      rw [hexecuted]
      exact List.mem_map_of_mem hattempt
    exact permitted_of_history hhistory _ hreport
  · intro i done hdone request response hjob hresult hstatus
    exact committed_of_ok hhistory hexecuted hdone hjob hresult hstatus

theorem database_accounted_orders :
    ∃ s, InTurn fullSink s ∧ ∃ served es history,
      History (Answers shop) (serve shop.json) (.opened true [] 0) s served es ∧
      Accounted shop 0 s (served.flatMap Served.events ++ es) history := by
  obtain ⟨s, hs⟩ := exists_inTurn fullSink
  exact ⟨s, hs, database_accounted shop (.opened true [] 0) s hs.reachable⟩

end SqlProxy.Deployment
