import SqlProxy.Base.Machine
import SqlProxy.Config
import SqlProxy.PostgresQueryExecutor

/-! `PostgresQueryExecutor::execute` call by call: one connection and one transaction for each
statement, both ended on every way out. The server behind the driver is a parameter. -/
namespace SqlProxy.PostgresQueryExecutor
open ByteText CallProgram Config

/-- What the adapter asks of the driver. The last two are made by destructors. -/
inductive DriverCall where
  | connect (connectionString : Bytes)
  | begin
  | exec (sql : Bytes)
  | commit
  | endWork
  | disconnect
  deriving DecidableEq

abbrev DriverCall.Reply : DriverCall → Type
  | .exec _ => PqxxResult
  | _ => Unit

abbrev Driver := CallProgram DriverCall DriverCall.Reply DriverError

abbrev DriverEvent := CallProgram.Event DriverCall DriverCall.Reply DriverError

def askDriver (c : DriverCall) : Driver c.Reply := perform c

def connect (connectionString : Bytes) : Driver Unit := askDriver (.connect connectionString)
def beginWork : Driver Unit := askDriver .begin
def exec (sql : Bytes) : Driver PqxxResult := askDriver (.exec sql)
def commit : Driver Unit := askDriver .commit
def endWork : Driver Unit := askDriver .endWork
def disconnect : Driver Unit := askDriver .disconnect

/-- Scoped to its transaction. -/
def setStatementTimeout (statementTimeoutMs : Int) : Bytes :=
  ascii "SET LOCAL statement_timeout = " ++ integer statementTimeoutMs

/-- The body of the try block, with its two objects that clean up. -/
def transact (config : DatabaseConfig) (sql : Bytes) : Driver ExecutionResult := do
  connect config.connectionString
  CallProgram.ensuring
    (do
      beginWork
      CallProgram.ensuring
        (do
          let _ ← exec (setStatementTimeout config.statementTimeoutMs)
          let result ← exec sql
          let out := translate result
          commit
          pure out)
        endWork)
    disconnect

/-- The catch clauses, in their order. -/
def caught : DriverError → ExecutionResult
  | .brokenConnection => failure .connectionFailure (ascii "connection failed")
  | .sqlError sqlstate =>
    failure .executionFailure (ascii "statement failed (SQLSTATE " ++ sqlstate ++ ascii ")")
  | .failure => failure .executionFailure (ascii "statement failed")
  | .other => failure .executionFailure (ascii "executor failure")

def executeCalls (config : DatabaseConfig) (sql : Bytes) : Driver ExecutionResult :=
  (transact config sql).catching fun e => pure (caught e)

theorem caught_status (e : DriverError) : (caught e).status ≠ .ok := by
  cases e <;> exact nofun

/-- What is left of an outcome is what `execute` makes of it. -/
theorem execute_ok {driver : Bytes → Except DriverError PqxxResult} {sql : Bytes}
    {result : PqxxResult} (h : driver sql = .ok result) :
    execute driver sql = translate result := by
  rw [execute, h]

theorem execute_error {driver : Bytes → Except DriverError PqxxResult} {sql : Bytes}
    {e : DriverError} (h : driver sql = .error e) : execute driver sql = caught e := by
  rw [execute, h]
  cases e <;> rfl

/-! The server. -/

/-- The committed data, and what the open transaction has made of it. -/
structure Session (δ : Type) where
  data : δ
  connected : Bool := false
  work : Option δ := none

/-- How a statement, in a transaction that sees some data, may be answered, and what the
transaction sees then. -/
abbrev Effect (δ : Type) := Bytes → δ → PqxxResult → δ → Prop

section Server
variable {δ : Type} (effect : Effect δ)

/-- Every call but those of the destructors may throw anything. A commit may also be made and
its answer lost. -/
inductive Serves : Machine DriverCall DriverCall.Reply DriverError (Session δ)
  | connect {s : Session δ} (connectionString : Bytes) :
      Serves s (.connect connectionString) (.ok ()) { s with connected := true }
  | begin {s : Session δ} (h : s.connected = true) :
      Serves s .begin (.ok ()) { s with work := some s.data }
  | exec {s : Session δ} {view view' : δ} {sql : Bytes} {result : PqxxResult}
      (h : s.work = some view) (he : effect sql view result view') :
      Serves s (.exec sql) (.ok result) { s with work := some view' }
  | commit {s : Session δ} {view : δ} (h : s.work = some view) :
      Serves s .commit (.ok ()) { s with data := view, work := none }
  | commitUnanswered {s : Session δ} {view : δ} (h : s.work = some view) (e : DriverError) :
      Serves s .commit (.error e) { s with data := view, work := none }
  | throws {s : Session δ} {c : DriverCall} (hw : c ≠ .endWork) (hd : c ≠ .disconnect)
      (e : DriverError) : Serves s c (.error e) s
  | endWork {s : Session δ} : Serves s .endWork (.ok ()) { s with work := none }
  | disconnect {s : Session δ} :
      Serves s .disconnect (.ok ()) { s with connected := false, work := none }

/-- The transaction of one statement: the time limit, then the statement itself. -/
def Transaction (config : DatabaseConfig) (sql : Bytes) (data : δ) (answer : PqxxResult)
    (data' : δ) : Prop :=
  ∃ set view, effect (setStatementTimeout config.statementTimeoutMs) data set view ∧
    effect sql view answer data'

/-- How one statement can end: the outcome, and the data there are then. -/
inductive Ended (config : DatabaseConfig) (sql : Bytes) (data : δ) (es : List DriverEvent) :
    Except DriverError PqxxResult → δ → Prop
  | committed {answer : PqxxResult} {data' : δ}
      (h : Transaction effect config sql data answer data')
      (hanswered : ⟨.exec sql, .ok answer⟩ ∈ es) : Ended config sql data es (.ok answer) data'
  | failed (e : DriverError) : Ended config sql data es (.error e) data
  | unanswered {answer : PqxxResult} {data' : δ}
      (h : Transaction effect config sql data answer data') (e : DriverError)
      (hlost : ⟨.commit, .error e⟩ ∈ es) : Ended config sql data es (.error e) data'

section Calls
variable {effect} {config : DatabaseConfig} {sql : Bytes} {data : δ}

theorem Ended.mono {es fs : List DriverEvent} {outcome : Except DriverError PqxxResult} {data' : δ}
    (h : Ended effect config sql data es outcome data') (hsub : es ⊆ fs) :
    Ended effect config sql data fs outcome data' := by
  cases h with
  | committed h hanswered => exact .committed h (hsub hanswered)
  | failed e => exact .failed e
  | unanswered h e hlost => exact .unanswered h e (hsub hlost)

variable (effect config sql data) in
/-- What the try block has come to, whether its objects are gone yet or not. -/
def Leaves (r : Except DriverError ExecutionResult) (s : Session δ × List DriverEvent) : Prop :=
  ∃ outcome, r = outcome.map translate ∧ Ended effect config sql data s.2 outcome s.1.data

/-- A call may succeed or throw. -/
theorem wp_askDriver {c : DriverCall} {s : Session δ} {past : List DriverEvent}
    {post : Except DriverError c.Reply → Session δ × List DriverEvent → Prop}
    (hok : ∀ r s', Serves effect s c (.ok r) s' → post (.ok r) (s', past ++ [⟨c, .ok r⟩]))
    (herror : ∀ e s', Serves effect s c (.error e) s' →
      post (.error e) (s', past ++ [⟨c, .error e⟩])) :
    (askDriver c).wp (recording (Serves effect)) post (s, past) := by
  rintro r ⟨s', es⟩ ⟨h, rfl⟩
  cases r with
  | ok r => exact hok r s' h
  | error e => exact herror e s' h

/-- Only a commit does something when it throws. -/
theorem leaves_error {c : DriverCall} {s s' : Session δ} {past : List DriverEvent}
    {e : DriverError} (hc : c ≠ .commit) (h : Serves effect s c (.error e) s')
    (hdata : s.data = data) :
    Leaves effect config sql data (.error e) (s', past ++ [⟨c, .error e⟩]) := by
  cases h with
  | commitUnanswered => exact absurd rfl hc
  | throws => exact ⟨.error e, rfl, hdata ▸ .failed e⟩

theorem wp_statement {s : Session δ} (hdata : s.data = data) (hwork : s.work = some data)
    (past : List DriverEvent) :
    (do let _ ← exec (setStatementTimeout config.statementTimeoutMs)
        let result ← exec sql
        let out := translate result
        commit
        pure out : Driver ExecutionResult).wp (recording (Serves effect))
      (Leaves effect config sql data) (s, past) := by
  rw [wp_bind]
  refine wp_askDriver ?_ fun e s₁ h => leaves_error nofun h hdata
  intro set s₁ h
  cases h with
  | exec hview hset =>
    cases hwork.symm.trans hview
    rw [onOk_ok, wp_bind]
    refine wp_askDriver ?_ fun e s₂ h => leaves_error nofun h hdata
    intro answer s₂ h
    cases h with
    | exec hview hstatement =>
      cases hview
      have htransaction : Transaction effect config sql data answer _ := ⟨set, _, hset, hstatement⟩
      rw [onOk_ok, wp_bind]
      refine wp_askDriver ?_ ?_
      · intro r s₃ h
        cases h with
        | commit hview =>
          cases hview
          exact ⟨.ok answer, rfl, .committed htransaction (by simp)⟩
      · intro e s₃ h
        cases h with
        | commitUnanswered hview =>
          cases hview
          exact ⟨.error e, rfl, .unanswered htransaction e (by simp)⟩
        | throws => exact ⟨.error e, rfl, hdata ▸ .failed e⟩

/-- The end of the transaction's scope changes nothing that is committed. -/
theorem wp_ensuring_endWork {p : Driver ExecutionResult} {s : Session δ × List DriverEvent}
    (h : p.wp (recording (Serves effect)) (Leaves effect config sql data) s) :
    (p.ensuring endWork).wp (recording (Serves effect)) (Leaves effect config sql data) s := by
  rw [wp_ensuring]
  refine wp_mono ?_ h
  rintro r ⟨s₁, past⟩ ⟨outcome, rfl, hended⟩
  refine wp_askDriver ?_ ?_
  · intro _ s₂ h
    cases h
    exact ⟨outcome, rfl, hended.mono (by simp)⟩
  · intro e s₂ h
    cases h with
    | throws hw _ => exact absurd rfl hw

/-- Nor does the end of the connection's, and nothing stays open behind it. -/
theorem wp_ensuring_disconnect {p : Driver ExecutionResult} {s : Session δ × List DriverEvent}
    (h : p.wp (recording (Serves effect)) (Leaves effect config sql data) s) :
    (p.ensuring disconnect).wp (recording (Serves effect))
      (fun r s => Leaves effect config sql data r s ∧ s.1 = { data := s.1.data }) s := by
  rw [wp_ensuring]
  refine wp_mono ?_ h
  rintro r ⟨s₁, past⟩ ⟨outcome, rfl, hended⟩
  refine wp_askDriver ?_ ?_
  · intro _ s₂ h
    cases h
    exact ⟨⟨outcome, rfl, hended.mono (by simp)⟩, rfl⟩
  · intro e s₂ h
    cases h with
    | throws _ hd => exact absurd rfl hd

theorem wp_transact (past : List DriverEvent) :
    (transact config sql).wp (recording (Serves effect))
      (fun r s => Leaves effect config sql data r s ∧ s.1 = { data := s.1.data })
      ({ data := data }, past) := by
  rw [transact, wp_bind]
  refine wp_askDriver ?_ ?_
  · intro _ s₁ h
    cases h
    rw [onOk_ok]
    refine wp_ensuring_disconnect ?_
    rw [wp_bind]
    refine wp_askDriver ?_ fun e s₂ h => leaves_error nofun h rfl
    intro _ s₂ h
    cases h
    rw [onOk_ok]
    exact wp_ensuring_endWork (wp_statement rfl rfl _)
  · intro e s₁ h
    cases h with
    | throws => exact ⟨⟨.error e, rfl, .failed e⟩, rfl⟩

end Calls

/-- No exception gets out, nothing is left open, and what is reported is what became of the
transaction, but for a commit whose answer was lost. -/
theorem executeCalls_ended {config : DatabaseConfig} {sql : Bytes} {data : δ}
    {es : List DriverEvent} {r : Except DriverError ExecutionResult} {s' : Session δ}
    (hpath : Path (executeCalls config sql) es (.done r))
    (hrun : Run (Serves effect) { data := data } es s') :
    ∃ outcome data', r = .ok (execute (fun _ => outcome) sql) ∧ s' = { data := data' } ∧
      Ended effect config sql data es outcome data' := by
  have hwp : (executeCalls config sql).wp (recording (Serves effect))
      (fun r s => ∃ outcome data', r = .ok (execute (fun _ => outcome) sql) ∧
        s.1 = { data := data' } ∧ Ended effect config sql data s.2 outcome data')
      ({ data := data }, []) := by
    rw [executeCalls, wp_catching]
    refine wp_mono ?_ (wp_transact [])
    rintro r ⟨s₁, past⟩ ⟨⟨outcome, rfl, hended⟩, hclosed⟩
    cases outcome with
    | ok answer =>
      exact ⟨.ok answer, s₁.data, congrArg Except.ok (execute_ok rfl).symm, hclosed, hended⟩
    | error e =>
      exact ⟨.error e, s₁.data, congrArg Except.ok (execute_error rfl).symm, hclosed, hended⟩
  exact wp_recording hwp hpath hrun

end Server

/-- One statement is executed whole or not at all, whatever the server does: no exception gets
out and nothing is left open, what is reported as done is committed with its time limit and was
answered so, and behind a reported failure nothing has changed, unless the answer to the commit
was lost. -/
theorem execute_whole_or_nothing {δ : Type} (effect : Effect δ) (config : DatabaseConfig)
    (sql : Bytes) (data : δ) {es : List DriverEvent} {r : Except DriverError ExecutionResult}
    {s' : Session δ} (hpath : Path (executeCalls config sql) es (.done r))
    (hrun : Run (Serves effect) { data := data } es s') :
    ∃ result data', r = .ok result ∧ s' = { data := data' } ∧
      (result.status = .ok → ∃ answer, result = translate answer ∧
        ⟨.exec sql, .ok answer⟩ ∈ es ∧ Transaction effect config sql data answer data') ∧
      (result.status ≠ .ok → data' = data ∨
        ∃ answer e, Transaction effect config sql data answer data' ∧
          ⟨.commit, .error e⟩ ∈ es) := by
  obtain ⟨outcome, data', hr, hclosed, hended⟩ := executeCalls_ended effect hpath hrun
  refine ⟨_, data', hr, hclosed, ?_⟩
  cases hended with
  | committed h hanswered =>
    rw [execute_ok rfl]
    exact ⟨fun _ => ⟨_, rfl, hanswered, h⟩, fun hno => absurd rfl hno⟩
  | failed e =>
    rw [execute_error rfl]
    exact ⟨fun hok => absurd hok (caught_status e), fun _ => .inl rfl⟩
  | @unanswered answer _ h e hlost =>
    rw [execute_error rfl]
    exact ⟨fun hok => absurd hok (caught_status e), fun _ => .inr ⟨answer, e, h, hlost⟩⟩

/-- A server that counts what it has executed. -/
def counts : Effect Nat := fun _ n answer n' =>
  answer = ⟨[], 0, fun _ _ => none, 1⟩ ∧ n' = n + 1

/-- The connection breaks while the commit is made. -/
def lostCommit : List DriverEvent :=
  [⟨.connect [], .ok ()⟩, ⟨.begin, .ok ()⟩,
    ⟨.exec (setStatementTimeout 5000), .ok ⟨[], 0, fun _ _ => none, 1⟩⟩,
    ⟨.exec [], .ok ⟨[], 0, fun _ _ => none, 1⟩⟩, ⟨.commit, .error .brokenConnection⟩,
    ⟨.endWork, .ok ()⟩, ⟨.disconnect, .ok ()⟩]

/-- The client is told of a failure, and the transaction has taken place. -/
theorem execute_whole_or_nothing_lost :
    ∃ result data', (Except.ok (caught .brokenConnection) : Except DriverError ExecutionResult) =
        .ok result ∧ ({ data := 2 } : Session Nat) = { data := data' } ∧
      (result.status = .ok → ∃ answer, result = translate answer ∧
        ⟨.exec [], .ok answer⟩ ∈ lostCommit ∧ Transaction counts {} [] 0 answer data') ∧
      (result.status ≠ .ok → data' = 0 ∨ ∃ answer e, Transaction counts {} [] 0 answer data' ∧
        ⟨.commit, .error e⟩ ∈ lostCommit) := by
  refine execute_whole_or_nothing counts {} [] 0 ?_ ?_
  · exact .cons _ (.cons _ (.cons _ (.cons _ (.cons _ (.cons _ (.cons _ (.nil _)))))))
  · have hcounts (n : Nat) : counts (setStatementTimeout 5000) n ⟨[], 0, fun _ _ => none, 1⟩
        (n + 1) ∧ counts [] n ⟨[], 0, fun _ _ => none, 1⟩ (n + 1) := ⟨⟨rfl, rfl⟩, rfl, rfl⟩
    exact .cons (.connect _) (.cons (.begin rfl) (.cons (.exec rfl (hcounts 0).1)
      (.cons (.exec rfl (hcounts 1).2) (.cons (.commitUnanswered rfl _)
        (.cons .endWork (.cons .disconnect (.nil _)))))))

end SqlProxy.PostgresQueryExecutor
