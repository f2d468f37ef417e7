import SqlProxy.Base.MonitorProgress
import SqlProxy.AppendRuns
import SqlProxy.Authorization
import SqlProxy.HttpAgreement
import SqlProxy.Interleaving
import SqlProxy.PostgresTransaction

/-! The components as `main.cpp` puts them together: HTTP requests in parallel, one service, one
audit file, and a database behind `PostgresQueryExecutor`. -/
namespace SqlProxy.Deployment
open ByteText CallProgram Config Json Monitor PostgresQueryExecutor Routes

/-- The two routes that the server registers. -/
inductive Endpoint where
  | query (request : Request)
  | health

def serve (json : Library Exception) : Endpoint → Service Response
  | .query request => handleQueryRequest json request
  | .health => handleHealthRequest json

/-- What the requests share behind the mutex. -/
structure Stack (δ : Type) where
  nextRequestId : UInt64 := 1
  audit : OFStream
  data : δ

/-- As `main` leaves them: the repository has tried to open its file. -/
def Stack.opened {δ : Type} (opens : Bool) (content : Bytes) (data : δ) : Stack δ :=
  { audit := .opened opens content, data := data }

/-- What the service is wired to: the JSON library, the SQL library behind the parser, the
settings of the database, and the server behind its driver. -/
structure Wiring (δ : Type) where
  json : Library Exception
  hsqlParse : Bytes → Except Exception Hsql.SQLParserResult
  config : DatabaseConfig
  effect : Effect δ

section Machine
variable {δ : Type} (w : Wiring δ)

/-- How a call of the service is answered. The clock may answer anything, and the server and the
sink behind the two other adapters may fail in every way. -/
inductive Answers : Machine Call Call.Reply Exception (Stack δ)
  | lock {s : Stack δ} : Answers s .lock (.ok ()) s
  | unlock {s : Stack δ} : Answers s .unlock (.ok ()) s
  | clock {s : Stack δ} (now : Int) : Answers s .clock (.ok now) s
  | takeRequestId {s : Stack δ} : Answers s .takeRequestId (.ok s.nextRequestId)
      { s with nextRequestId := s.nextRequestId + 1 }
  | parse {s : Stack δ} (sql : Bytes) :
      Answers s (.parse sql) (.ok (HyriseAdapter.parse w.hsqlParse sql)) s
  | execute {s : Stack δ} {sql : Bytes} {r : Except DriverError ExecutionResult}
      {session : Session δ}
      (h : Executes (Serves w.effect) (executeCalls w.config sql) { data := s.data } r session) :
      Answers s (.execute sql) (r.mapError fun _ => .foreign) { s with data := session.data }
  | append {s : Stack δ} (record : AuditRecord) (sink : AppendReplies) :
      Answers s (.append record) (.ok (JsonlAuditRepository.append w.json record sink s.audit).1)
        { s with audit := (JsonlAuditRepository.append w.json record sink s.audit).2 }

/-- The whole system. -/
abbrev Server (ι δ : Type) := Monitor.System Call Call.Reply Exception Response (Stack δ) ι Endpoint

abbrev ServedRequest (ι : Type) := Monitor.Served Call Call.Reply Exception Response ι Endpoint

theorem granted_of_answers {s s' : Stack δ} {c : Call} {r : Except Exception c.Reply}
    (h : Answers w s c r s') : Granted c r := by
  cases h with
  | lock => exact ⟨(), rfl⟩
  | unlock => exact ⟨(), rfl⟩
  | clock now => exact ⟨now, rfl⟩
  | takeRequestId => exact ⟨s.nextRequestId, rfl⟩
  | _ => trivial

theorem numbers_answers : Numbers (Answers w) Stack.nextRequestId where
  granted := granted_of_answers w
  takes h := by
    cases h
    exact ⟨rfl, rfl⟩
  keeps h hne := by
    cases h with
    | takeRequestId => exact absurd rfl hne
    | _ => rfl

/-- All that a request does with the ports it does while it holds the mutex. -/
theorem serve_sectioned (endpoint : Endpoint) :
    Sectioned mutexUse (Answers w) .before (serve w.json endpoint) := by
  cases endpoint with
  | health => trivial
  | query request =>
    change Sectioned mutexUse (Answers w) .before (handleQueryRequest w.json request)
    unfold handleQueryRequest
    cases checkRequest w.json request with
    | error failure => trivial
    | ok sql =>
      exact sectioned_bind (handle_sectioned (numbers_answers w) sql) (fun _ r => nofun)
        fun result => ⟨respond w.json result, rfl⟩

/-- The calls of a request stand in a fixed order. -/
theorem serve_ranked (json : Library Exception) (endpoint : Endpoint) :
    (serve json endpoint).Ranked Call.rank 0 7 := by
  cases endpoint with
  | health => exact Nat.zero_le 7
  | query request =>
    change (handleQueryRequest json request).Ranked Call.rank 0 7
    unfold handleQueryRequest
    cases checkRequest json request with
    | error failure => exact Nat.zero_le 7
    | ok sql => exact (handle_ranked sql).bind (fun result => Nat.le_refl 7) (Nat.le_refl 7)

theorem rank_lt_seven (c : Call) : c.rank < 7 := by
  cases c <;> simp [Call.rank]

/-- So a request makes each of them at most once. -/
theorem length_le_seven {json : Library Exception} {endpoint : Endpoint} {es : List ServiceEvent}
    {rest : Service Response} (h : Path (serve json endpoint) es rest) : es.length ≤ 7 := by
  have hpair := (h.ranked (serve_ranked json endpoint)).1
  have hranks : (es.map fun e => e.call.rank).Nodup :=
    List.pairwise_map.mpr (hpair.imp fun hlt => Nat.ne_of_lt hlt)
  have hsub : (es.map fun e => e.call.rank) ⊆ List.range 7 := by
    intro rank hrank
    obtain ⟨e, -, rfl⟩ := List.mem_map.mp hrank
    exact List.mem_range.mpr (rank_lt_seven e.call)
  have hlength := (List.subperm_of_subset hranks hsub).length_le
  rwa [List.length_map, List.length_range] at hlength

/-- Every call has some answer: the least that a port can do is to fail. -/
theorem answers_total (s : Stack δ) (c : Call) : ∃ r s', Answers w s c r s' := by
  cases c with
  | lock => exact ⟨_, _, .lock⟩
  | unlock => exact ⟨_, _, .unlock⟩
  | clock => exact ⟨_, _, .clock 0⟩
  | takeRequestId => exact ⟨_, _, .takeRequestId⟩
  | parse sql => exact ⟨_, _, .parse sql⟩
  | append record =>
    let fails : SinkReply := ⟨0, true⟩
    exact ⟨_, _, .append record ⟨fails, fails, fails⟩⟩
  | execute sql =>
    have hpath : Path (executeCalls w.config sql)
        [⟨.connect w.config.connectionString, .error .other⟩] (.done (.ok (caught .other))) :=
      .cons _ (.nil _)
    have hthrows : Serves w.effect { data := s.data } (.connect w.config.connectionString)
        (.error .other) { data := s.data } := by
      apply Serves.throws
      · exact nofun
      · exact nofun
    exact ⟨_, _, .execute ⟨_, hpath, .cons hthrows (.nil _)⟩⟩

/-- The states of a server that has just been started on a file and a database. -/
def Reachable {ι : Type} [DecidableEq ι] (init : Stack δ) (s : Server ι δ) : Prop :=
  Monitor.Reachable mutexUse (Answers w) (serve w.json) init s

end Machine

/-- Requests in parallel are served as if one after another, in the order in which they give up
the mutex: that order, with what the request that has the mutex has done since, leads the service,
its audit file and its database to where they are; each client is told what it would be told in
it; and what has been served stays served first. -/
theorem requests_linearizable {δ ι : Type} [DecidableEq ι] (w : Wiring δ) (init : Stack δ)
    (s : Server ι δ) (h : Reachable w init s) :
    ∃ served es, History (Answers w) (serve w.json) init s served es ∧
      ∀ s', Steps mutexUse (Answers w) (serve w.json) s s' →
        ∃ new es', History (Answers w) (serve w.json) init s' (served ++ new) es' :=
  history_of_reachable (serve_sectioned w) h

/-- When no more requests come in, those under way are answered, in every order of steps: each
takes at most eight, and nothing is left over when there is no step to take. -/
theorem requests_end {δ ι : Type} [DecidableEq ι] (w : Wiring δ) (init : Stack δ) (s : Server ι δ)
    (h : Reachable w init s) :
    ∃ clients : Finset ι, (∀ i, i ∈ clients ↔ (s.clients i).running ≠ none) ∧
      ∀ movers s', Advances mutexUse (Answers w) movers s s' →
        (∀ i, movers.count i ≤ 8) ∧ (∀ i ∈ movers, i ∈ clients) ∧
        movers.length ≤ clients.card * 8 ∧
        ((∀ i s'', ¬ Advance mutexUse (Answers w) i s' s'') →
          ∀ i, (s'.clients i).running = none) :=
  Monitor.Reachable.ends (serve_sectioned w) (fun _ _ _ => length_le_seven) (answers_total w) h

/-! Two clients place orders with a fresh server. -/

def orderText : Bytes := ascii "INSERT INTO orders (customer_id, amount) VALUES (7, 12.5)"

def orderRequest : Request where
  contentType := ascii "application/json"
  body := ascii "\x7b\"sql\":\"INSERT INTO orders (customer_id, amount) VALUES (7, 12.5)\"\x7d"

def oneRow : PqxxResult where
  columns := []
  size := 0
  field := fun _ _ => none
  affectedRows := 1

/-- The data are the number of orders. -/
def shop : Wiring Nat where
  json := Compact.library .foreign
  hsqlParse := libraryOf (.insert orderInsert)
  config := { connectionString := ascii "postgresql://localhost/shop", statementTimeoutMs := 30000 }
  effect := fun sql orders answer orders' =>
    answer = oneRow ∧ orders' = if sql = orderText then orders + 1 else orders

/-- What is answered to an order, before a stream whose sink behaves in some way. -/
def orderEnvironment (requestId : UInt64) (audit : OFStream) (sink : AppendReplies) :
    Environment where
  now := 0
  requestId := requestId
  parse := fun sql => .ok (HyriseAdapter.parse shop.hsqlParse sql)
  execute := fun _ => .ok (translate oneRow)
  append := fun record => .ok (JsonlAuditRepository.append shop.json record sink audit).1

/-- An order up to its execution. -/
def orderCalls (requestId : UInt64) : List ServiceEvent :=
  [⟨.lock, .ok ()⟩, ⟨.clock, .ok 0⟩, ⟨.takeRequestId, .ok requestId⟩,
    ⟨.parse orderText, .ok (HyriseAdapter.parse shop.hsqlParse orderText)⟩,
    ⟨.execute orderText, .ok (translate oneRow)⟩]

section Order
variable (s : Stack Nat) (requestId : UInt64) (audit : OFStream) (sink : AppendReplies)

theorem order_events : ∃ record, (orderEnvironment requestId audit sink).events orderText =
    orderCalls requestId ++ [⟨.append record,
      .ok (JsonlAuditRepository.append shop.json record sink audit).1⟩, ⟨.unlock, .ok ()⟩] := by
  have hb : SqlAnalyzer.isBlank orderText = false := by decide +kernel
  have hanalysis :
      ((orderEnvironment requestId audit sink).adapted shop.hsqlParse).analysis orderText = _ :=
    analysis_submitted (submitted_libraryOf (.insert orderInsert) hb)
  change (orderEnvironment requestId audit sink).analysis orderText = _ at hanalysis
  have hallowed := (decided_iff [.insert orderInsert]).mpr orderInsert_authorized
  unfold decided at hallowed
  refine ⟨((orderEnvironment requestId audit sink).processing orderText).record, ?_⟩
  rw [Environment.events_eq, Environment.trace_guarded, Environment.trace_process, hanalysis]
  simp only [hb, hallowed, Bool.false_eq_true, if_false, if_true, List.cons_append,
    List.nil_append]
  generalize ((orderEnvironment requestId audit sink).processing orderText).record = record
  rfl

theorem order_executes (orders : Nat) :
    Executes (Serves shop.effect) (executeCalls shop.config orderText) { data := orders }
      (.ok (translate oneRow)) { data := orders + 1 } := by
  have htext : setStatementTimeout shop.config.statementTimeoutMs ≠ orderText := by decide +kernel
  have hset : shop.effect (setStatementTimeout shop.config.statementTimeoutMs) orders oneRow
      orders := ⟨rfl, (if_neg htext).symm⟩
  have hinsert : shop.effect orderText orders oneRow (orders + 1) := ⟨rfl, (if_pos rfl).symm⟩
  refine ⟨[⟨.connect shop.config.connectionString, .ok ()⟩, ⟨.begin, .ok ()⟩,
    ⟨.exec (setStatementTimeout shop.config.statementTimeoutMs), .ok oneRow⟩,
    ⟨.exec orderText, .ok oneRow⟩, ⟨.commit, .ok ()⟩, ⟨.endWork, .ok ()⟩,
    ⟨.disconnect, .ok ()⟩], ?_, ?_⟩
  · exact .cons _ (.cons _ (.cons _ (.cons _ (.cons _ (.cons _ (.cons _ (.nil _)))))))
  · exact .cons (.connect _) (.cons (.begin rfl) (.cons (.exec rfl hset) (.cons (.exec rfl hinsert)
      (.cons (.commit rfl) (.cons .endWork (.cons .disconnect (.nil _)))))))

theorem order_calls : Run (Answers shop) s (orderCalls s.nextRequestId)
    { s with nextRequestId := s.nextRequestId + 1, data := s.data + 1 } := by
  let numbered : Stack Nat := { s with nextRequestId := s.nextRequestId + 1 }
  have hexecuted : Answers shop numbered (.execute orderText) (.ok (translate oneRow))
      { numbered with data := s.data + 1 } := by
    have hanswer := Answers.execute (w := shop) (s := numbered) (order_executes s.data)
    exact hanswer
  exact .cons .lock (.cons (.clock 0) (.cons .takeRequestId (.cons (.parse _)
    (.cons hexecuted (.nil _)))))

theorem order_run :
    ∃ audit, Run (Answers shop) s ((orderEnvironment s.nextRequestId s.audit sink).events orderText)
      ⟨s.nextRequestId + 1, audit, s.data + 1⟩ := by
  obtain ⟨record, hevents⟩ := order_events s.nextRequestId s.audit sink
  let paid : Stack Nat := { s with nextRequestId := s.nextRequestId + 1, data := s.data + 1 }
  have happended : Answers shop paid (.append record)
      (.ok (JsonlAuditRepository.append shop.json record sink s.audit).1)
      { paid with audit := (JsonlAuditRepository.append shop.json record sink s.audit).2 } :=
    .append record sink
  rw [hevents]
  exact ⟨_, (order_calls s).append (.cons happended (.cons .unlock (.nil _)))⟩

theorem order_carried : Carries shop.json orderRequest orderText :=
  checkRequest_ok.mp (by decide +kernel)

/-- A request is served by the calls that its environment answers. -/
theorem path_serve (json : Library Exception) (env : Environment) (request : Request) :
    Path (serve json (.query request)) (calls json env request)
      (.done (answered json env request)) :=
  Path.of_run env.answers (handleQueryRequest json request)

theorem order_path (env : Environment) :
    Path (serve shop.json (.query orderRequest)) (env.events orderText)
      (.done (answered shop.json env orderRequest)) := by
  have hpath := path_serve shop.json env orderRequest
  rwa [calls_carried order_carried] at hpath

end Order

/-- A sink that has everything when it is flushed. -/
def wholeSink : AppendReplies := ⟨⟨0, false⟩, ⟨0, false⟩, ⟨0, false⟩⟩

/-- A sink that is full after nine bytes. -/
def fullSink : AppendReplies := ⟨⟨9, true⟩, ⟨0, true⟩, ⟨0, true⟩⟩

/-- Of any number of clients two have placed orders. The first order was answered; the second has
been executed and has the mutex; and the client of the first waits for it with a third. -/
structure InTurn (sink : AppendReplies) (s : Server Nat Nat) : Prop where
  reachable : Reachable shop (.opened true [] 0) s
  owner : s.owner = some 1
  orders : s.state.data = 2
  waits : s.clients 0 = ⟨some ⟨.query orderRequest, [], serve shop.json (.query orderRequest)⟩,
    [⟨.query orderRequest, (orderEnvironment 1 (.opened true []) sink).events orderText,
      answered shop.json (orderEnvironment 1 (.opened true []) sink) orderRequest⟩]⟩
  holds : ∃ rest, s.clients 1 = ⟨some ⟨.query orderRequest, orderCalls 2, rest⟩, []⟩
  others : ∀ i, i ≠ 0 → i ≠ 1 → s.clients i = {}

theorem exists_inTurn (sink : AppendReplies) : ∃ s, InTurn sink s := by
  obtain ⟨audit, hrun⟩ : ∃ audit, Run (Answers shop) (.opened true [] 0)
      ((orderEnvironment 1 (.opened true []) sink).events orderText) ⟨2, audit, 1⟩ :=
    order_run (.opened true [] 0) sink
  obtain ⟨record, hevents⟩ := order_events 1 (.opened true []) sink
  obtain ⟨record', hevents'⟩ := order_events 2 audit wholeSink
  have hwhole := order_path (orderEnvironment 1 (.opened true []) sink)
  have hlater := order_path (orderEnvironment 2 audit wholeSink)
  rw [hevents'] at hlater
  obtain ⟨rest, hbegun, -⟩ := hlater.split
  have hcalls := order_calls ⟨2, audit, 1⟩
  have hands : Hands mutexUse 1 none (orderCalls 2) (some 1) :=
    .cons .acquire (.cons (.other _) (.cons (.other _) (.cons (.other _) (.cons (.other _)
      (.nil _)))))
  have hfirst := hevents
  rw [orderCalls, List.cons_append] at hfirst
  rw [hfirst] at hrun hwhole
  obtain ⟨s, hreach, howner, hstate, hwaits, hholds, hothers⟩ :=
    pair_reachable (a := 0) (serve_sectioned shop) (by decide) (.query orderRequest) hwhole hrun
      hbegun hcalls hands
  refine ⟨s, hreach, howner, ?_, ?_, ⟨rest, hholds⟩, hothers⟩
  · rw [hstate]
  · rw [hwaits, hfirst]

theorem requests_linearizable_orders :
    ∃ s, InTurn wholeSink s ∧ ∃ served es,
      History (Answers shop) (serve shop.json) (.opened true [] 0) s served es ∧
        ∀ s', Steps mutexUse (Answers shop) (serve shop.json) s s' →
          ∃ new es', History (Answers shop) (serve shop.json) (.opened true [] 0) s'
            (served ++ new) es' := by
  obtain ⟨s, hs⟩ := exists_inTurn wholeSink
  exact ⟨s, hs, requests_linearizable shop (.opened true [] 0) s hs.reachable⟩

theorem requests_end_orders :
    ∃ s, InTurn wholeSink s ∧
      ∃ clients : Finset Nat, (∀ i, i ∈ clients ↔ (s.clients i).running ≠ none) ∧
        ∀ movers s', Advances mutexUse (Answers shop) movers s s' →
          (∀ i, movers.count i ≤ 8) ∧ (∀ i ∈ movers, i ∈ clients) ∧
          movers.length ≤ clients.card * 8 ∧
          ((∀ i s'', ¬ Advance mutexUse (Answers shop) i s' s'') →
            ∀ i, (s'.clients i).running = none) := by
  obtain ⟨s, hs⟩ := exists_inTurn wholeSink
  exact ⟨s, hs, requests_end shop (.opened true [] 0) s hs.reachable⟩

end SqlProxy.Deployment
