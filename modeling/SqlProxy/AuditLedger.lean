import SqlProxy.AuditTrail
import SqlProxy.RecordTruth

/-! The audit trail and the database of a deployed service, side by side: one ledger, with a line
for each request that was served. -/
namespace SqlProxy.Deployment
open ByteText CallProgram Monitor PostgresQueryExecutor ProxyService Routes

/-- The text of a request, its record, and what came of the statement if it was executed. -/
structure Entry where
  sql : Bytes
  record : AuditRecord
  outcome : Option (Except DriverError PqxxResult)

def Entry.attempt (entry : Entry) : Option Attempt :=
  entry.outcome.map fun outcome => (entry.sql, outcome)

/-- The records that were given to the repository, whether they were acknowledged or not. -/
def given (es : List ServiceEvent) : List AuditRecord := (appends es).map Prod.fst

@[simp] theorem given_append (es fs : List ServiceEvent) :
    given (es ++ fs) = given es ++ given fs := by
  simp [given]

theorem recordIds_given (es : List ServiceEvent) :
    recordIds es = (given es).map AuditRecord.requestId := by
  simp [recordIds, given, Function.comp_def]

section Entries
variable {δ : Type} (w : Wiring δ)

/-- The entry is that of a request with these calls. Its text is the one that the request carries,
its transaction the one that was executed, if the text is permitted, and its record the one that
was given to the repository: with the time and the number that the request was told, and true.
There is no other true record with this time and this number. -/
structure Settles (endpoint : Endpoint) (es : List ServiceEvent) (entry : Entry) : Prop where
  carried : ∃ request, endpoint = .query request ∧ Carries w.json request entry.sql
  executed : executions es = entry.attempt.toList.map Attempt.report
  recorded : given es = [entry.record]
  time : ⟨.clock, .ok entry.record.timestampMs⟩ ∈ es
  number : Took es entry.record.requestId
  permitted : Permitted w.hsqlParse entry.sql ↔ entry.outcome.isSome = true
  truthful : Truthful w.hsqlParse entry.sql entry.outcome entry.record
  only : ∀ record, Truthful w.hsqlParse entry.sql entry.outcome record →
    record.timestampMs = entry.record.timestampMs →
    record.requestId = entry.record.requestId → record = entry.record

/-- What a request under way has come to. It has given no record yet, and has had at most its one
permitted statement executed; or it has its entry. -/
inductive Underway (endpoint : Endpoint) (es : List ServiceEvent) :
    List Entry → List Attempt → Prop
  | pending {attempts : List Attempt} (hexecuted : executions es = attempts.map Attempt.report)
      (hgiven : given es = []) (hfew : attempts.length ≤ 1)
      (hpermitted : ∀ attempt ∈ attempts, Permitted w.hsqlParse attempt.1 ∧
        ∃ request, endpoint = .query request ∧ Carries w.json request attempt.1) :
      Underway endpoint es [] attempts
  | settled {entry : Entry} (h : Settles w endpoint es entry) : Underway endpoint es [entry] []

end Entries

section Runs
variable {δ : Type} {w : Wiring δ} {s s' : Stack δ} {es : List ServiceEvent} {endpoint : Endpoint}
  {rest : Service Response} {last : List Entry} {pending : List Attempt}

theorem Replay.append {data data₁ data₂ : δ} {l l' : List Attempt} (h : Replay w data l data₁)
    (h' : Replay w data₁ l' data₂) : Replay w data (l ++ l') data₂ := by
  induction h with
  | nil data => exact h'
  | cons hended _ ih => exact .cons hended (ih h')

theorem clock_mem_events (env : Environment) (sql : Bytes) :
    (⟨.clock, .ok env.now⟩ : ServiceEvent) ∈ env.events sql := by
  rw [Environment.events_eq, Environment.trace_guarded]
  simp

/-- A request executes no text but its own, and that once. -/
theorem executions_text (env : Environment) (sql : Bytes) :
    (executions (env.events sql)).length ≤ 1 ∧ ∀ e ∈ executions (env.events sql), e.1 = sql := by
  rw [Environment.executions_events]
  cases env.analysis sql with
  | error e => exact ⟨Nat.zero_le 1, List.forall_mem_nil _⟩
  | ok a =>
    cases h : (PolicyEngine.evaluate a).allowed with
    | true => simp [h]
    | false => simp [h]

/-- A request has its entry from when it gives its record to the repository. -/
theorem exists_settled (hpath : Path (serve w.json endpoint) es rest)
    (hrun : Run (Answers w) s es s') (hgiven : given es ≠ []) :
    ∃ entry, Settles w endpoint es entry ∧ Replay w s.data entry.attempt.toList s'.data := by
  obtain ⟨history, hreplay, hexecuted⟩ := replay_of_run hrun
  obtain ⟨record, hrecord⟩ := List.exists_mem_of_ne_nil _ hgiven
  obtain ⟨⟨_, reply⟩, happend, rfl⟩ := List.mem_map.mp hrecord
  have hmem := mem_appends.mp happend
  obtain ⟨request, env, sql, hquery, hcarries, hevents⟩ :=
    exists_events hpath (granted_of_run hrun) (List.ne_nil_of_mem hmem)
  have hlater : executions (rest.trace env.answers) = [] := by
    refine List.eq_nil_iff_forall_not_mem.mpr fun e he => ?_
    have hlt := rank_lt hevents hmem (mem_executions.mp he)
    exact absurd hlt (show ¬ 5 < 4 by decide)
  have hwhole : executions (env.events sql) = history.map Attempt.report := by
    rw [hevents, executions_append, hlater, List.append_nil, hexecuted]
  have hrecorded : given es = [(env.processing sql).record] := by
    have hall : given (env.events sql) = [(env.processing sql).record] := by
      rw [given, Environment.appends_events]
      rfl
    rw [hevents, given_append] at hall
    exact (List.append_eq_singleton_iff.mp hall).resolve_left (fun h => hgiven h.1) |>.1
  have hadapted := adapted_of_run hrun hevents hmem (show 3 ≤ 5 by decide)
  have hout := Environment.processing_outcome env sql
  have hclock := mem_first hevents hmem (clock_mem_events env sql) (show 1 ≤ 5 by decide)
  have htook := mem_first hevents hmem (took_events env sql) (show 2 ≤ 5 by decide)
  obtain ⟨outcome, rfl, htruthful⟩ := truthful_of_executions hadapted hwhole
  refine ⟨⟨sql, (env.processing sql).record, outcome⟩,
    ⟨⟨request, hquery, hcarries⟩, hexecuted, hrecorded, ?_, ?_, htruthful.permitted_iff, htruthful,
      fun record h => h.unique htruthful⟩, hreplay⟩
  · rw [hout.timestampMs]
    exact hclock
  · rw [hout.requestId]
    exact htook

theorem exists_underway (hpath : Path (serve w.json endpoint) es rest)
    (hrun : Run (Answers w) s es s') :
    ∃ last pending, Underway w endpoint es last pending ∧
      Replay w s.data (last.filterMap Entry.attempt ++ pending) s'.data := by
  by_cases hgiven : given es = []
  · obtain ⟨history, hreplay, hexecuted⟩ := replay_of_run hrun
    refine ⟨[], history, .pending hexecuted hgiven ?_ ?_, hreplay⟩
    · by_cases hne : es = []
      · subst hne
        rw [List.map_eq_nil_iff.mp hexecuted.symm]
        exact Nat.zero_le 1
      · obtain ⟨request, env, sql, -, -, hevents⟩ := exists_events hpath (granted_of_run hrun) hne
        have hfew := (executions_text env sql).1
        rw [hevents, executions_append, hexecuted, List.length_append, List.length_map] at hfew
        omega
    · intro attempt hattempt
      have hreport : attempt.report ∈ executions es := by
        rw [hexecuted]
        exact List.mem_map_of_mem hattempt
      have hne : es ≠ [] := List.ne_nil_of_mem (mem_executions.mp hreport)
      obtain ⟨request, env, sql, hquery, hcarries, hevents⟩ :=
        exists_events hpath (granted_of_run hrun) hne
      have htext : attempt.report.1 = sql := by
        refine (executions_text env sql).2 _ ?_
        rw [hevents, executions_append]
        exact List.mem_append_left _ hreport
      exact ⟨authorized_of_run hpath hrun hreport, request, hquery, htext ▸ hcarries⟩
  · obtain ⟨entry, hsettles, hreplay⟩ := exists_settled hpath hrun hgiven
    refine ⟨[entry], [], .settled hsettles, ?_⟩
    rw [List.append_nil, List.filterMap_eq_flatMap_toList, List.flatMap_singleton]
    exact hreplay

/-- A request that was served has its entry. -/
theorem given_of_done {result : Except Exception Response}
    (hpath : Path (serve w.json endpoint) es (.done result)) (hrun : Run (Answers w) s es s')
    (hne : es ≠ []) : given es ≠ [] := by
  obtain ⟨request, env, sql, -, -, hevents⟩ := exists_events hpath (granted_of_run hrun) hne
  rw [trace_done, List.append_nil] at hevents
  rw [← hevents, given, Environment.appends_events]
  exact List.cons_ne_nil _ _

theorem Underway.given (h : Underway w endpoint es last pending) :
    Deployment.given es = last.map Entry.record := by
  cases h with
  | pending _ hgiven => exact hgiven
  | settled h => exact h.recorded

variable {ι : Type} {init mid : Stack δ} {served : List (ServedRequest ι)} {front : List Entry}

/-- Requests served one after another have their entries in this order. -/
theorem settled_serial (h : Serial (Answers w) (serve w.json) init served mid)
    (hne : ∀ e ∈ served, e.events ≠ []) :
    ∃ front, List.Forall₂ (fun e entry => Settles w e.job e.events entry) served front ∧
      Replay w init.data (front.filterMap Entry.attempt) mid.data := by
  induction h with
  | nil => exact ⟨[], .nil, .nil _⟩
  | snoc _ e hpath hrun ih =>
    obtain ⟨hbefore, hlast⟩ := List.forall_mem_append.mp hne
    obtain ⟨front, hfront, hreplay⟩ := ih hbefore
    have hgiven := given_of_done hpath hrun (hlast e (List.mem_singleton_self e))
    obtain ⟨entry, hsettles, hone⟩ := exists_settled hpath hrun hgiven
    refine ⟨front ++ [entry], List.rel_append hfront (.cons hsettles .nil), ?_⟩
    rw [List.filterMap_append, List.filterMap_eq_flatMap_toList _ [entry], List.flatMap_singleton]
    exact hreplay.append hone

theorem given_settled
    (h : List.Forall₂ (fun e entry => Settles w e.job e.events entry) served front) :
    given (served.flatMap Monitor.Served.events) = front.map Entry.record := by
  induction h with
  | nil => rfl
  | cons hsettles _ ih =>
    rw [List.flatMap_cons, given_append, hsettles.recorded, ih]
    rfl

end Runs

/-- One ledger lies under the audit trail and the database. Each request that was served has its
entry, in the order in which these were served, and the one that has the mutex has come as far as
it says. The transactions of the entries have made the data, with one more at most, which has no
record yet. The file has the lines of the entries whose records were acknowledged: they are the
first ones, all of them while no write has failed, and behind their lines stands at most a first
part of the line of the next one. -/
structure Ledger {δ ι : Type} (w : Wiring δ) (content : Bytes) (data : δ) (s : Server ι δ)
    (served : List (ServedRequest ι)) (es : List ServiceEvent) (front last : List Entry)
    (pending : List Attempt) : Prop where
  settled : List.Forall₂ (fun e entry => Settles w e.job e.events entry) served front
  free : s.owner = none → last = [] ∧ pending = []
  owned : ∀ i run, s.owner = some i → (s.clients i).running = some run →
    Underway w run.job es last pending
  database : Replay w data ((front ++ last).filterMap Entry.attempt ++ pending) s.state.data
  numbered : (front ++ last).map (fun entry => entry.record.requestId) =
    List.iterate (· + 1) 1 (front ++ last).length
  file : ∃ (written lost : List Entry) (lines : List Bytes) (torn : Bytes),
    front ++ last = written ++ lost ∧
    written.map Entry.record = acknowledged (served.flatMap Monitor.Served.events ++ es) ∧
    List.Forall₂ (fun entry line => w.json.dump (serialize entry.record) = .ok line) written lines ∧
    s.state.audit.file = content ++ Lines.unlines lines ++ torn ∧
    (torn = [] ∨ ∃ entry ∈ lost.head?, ∃ line,
      w.json.dump (serialize entry.record) = .ok line ∧ torn <+: line ++ [newline]) ∧
    (s.state.audit.failed = false → lost = [])

section Ledger
variable {δ ι : Type} [DecidableEq ι] {w : Wiring δ} {content : Bytes} {s : Server ι δ}
  {served : List (ServedRequest ι)} {es : List ServiceEvent}

/-- What the request that has the mutex has come to. -/
theorem underway_of_history {init mid : Stack δ} (hrun : Run (Answers w) mid es s.state)
    (h : History (Answers w) (serve w.json) init s served es) :
    ∃ last pending, given es = last.map Entry.record ∧
      (s.owner = none → last = [] ∧ pending = []) ∧
      (∀ i run, s.owner = some i → (s.clients i).running = some run →
        Underway w run.job es last pending) ∧
      Replay w mid.data (last.filterMap Entry.attempt ++ pending) s.state.data := by
  cases ho : s.owner with
  | none =>
    cases h.free ho
    cases hrun
    refine ⟨[], [], rfl, fun _ => ⟨rfl, rfl⟩, ?_, .nil _⟩
    intro i run hi
    cases hi
  | some i =>
    obtain ⟨run, hi, -, hpath⟩ := h.owned i ho
    obtain ⟨last, pending, hunderway, hreplay⟩ := exists_underway hpath hrun
    refine ⟨last, pending, hunderway.given, ?_, ?_, hreplay⟩
    · intro hno
      cases hno
    · intro k run' hk hrunning
      cases hk
      cases hi.symm.trans hrunning
      exact hunderway

end Ledger

/-- In every state that a server reaches, one ledger lies under its file and its database. -/
theorem audit_ledger {δ ι : Type} [DecidableEq ι] (w : Wiring δ) (opens : Bool) (content : Bytes)
    (data : δ) (s : Server ι δ) (h : Reachable w (.opened opens content data) s) :
    ∃ served es front last pending,
      History (Answers w) (serve w.json) (.opened opens content data) s served es ∧
      Ledger w content data s served es front last pending := by
  obtain ⟨served, es, records, lost, hhistory, htrail⟩ := trail_of_reachable h
  obtain ⟨mid, hserial, hrun⟩ := hhistory.runs
  obtain ⟨front, hfront, hbefore⟩ :=
    settled_serial hserial fun e he => (hhistory.mem_done he).1
  obtain ⟨last, pending, hlast, hfree, howned, hnow⟩ := underway_of_history hrun hhistory
  have hgiven : given (served.flatMap Monitor.Served.events ++ es) =
      (front ++ last).map Entry.record := by
    rw [given_append, given_settled hfront, hlast, List.map_append]
  have hrecords : (front ++ last).map Entry.record = records ++ lost.map Prod.fst := by
    rw [← hgiven, given, htrail.appended]
    simp [Function.comp_def]
  obtain ⟨written, others, hbook, hwritten, hothers⟩ := List.map_eq_append_iff.mp hrecords
  obtain ⟨lines, torn, hlines, hfile, htorn⟩ := htrail.file
  refine ⟨served, es, front, last, pending, hhistory, hfront, hfree, howned, ?_, ?_,
    written, others, lines, torn, hbook, ?_, ?_, hfile, ?_, ?_⟩
  · rw [List.filterMap_append, List.append_assoc]
    exact hbefore.append hnow
  · have hids := recordIds_history (numbers_answers w) (serve_callsHandle w) hhistory
    have hbookIds : recordIds (served.flatMap Monitor.Served.events ++ es) =
        (front ++ last).map fun entry => entry.record.requestId := by
      rw [recordIds_given, hgiven, List.map_map]
      rfl
    rw [hbookIds, List.length_map] at hids
    exact hids
  · rw [hwritten]
    exact htrail.acknowledged_eq.symm
  · rw [← hwritten] at hlines
    exact List.forall₂_map_left_iff.mp hlines
  · obtain htorn | ⟨e, he, line, hline, htorn⟩ := htorn
    · exact .inl htorn
    · obtain ⟨more, rfl⟩ := List.head?_eq_some_iff.mp (Option.mem_def.mp he)
      rw [List.map_cons] at hothers
      obtain ⟨entry, more', rfl, hentry, -⟩ := List.map_eq_cons_iff.mp hothers
      rw [← hentry] at hline
      exact .inr ⟨entry, rfl, line, hline, htorn⟩
  · intro hgood
    obtain ⟨rfl, -⟩ := htrail.good hgood
    exact List.map_eq_nil_iff.mp hothers

theorem audit_ledger_orders :
    ∃ s, InTurn wholeSink s ∧ ∃ served es front last pending,
      History (Answers shop) (serve shop.json) (.opened true [] 0) s served es ∧
      Ledger shop [] 0 s served es front last pending := by
  obtain ⟨s, hs⟩ := exists_inTurn wholeSink
  exact ⟨s, hs, audit_ledger shop true [] 0 s hs.reachable⟩

end SqlProxy.Deployment
