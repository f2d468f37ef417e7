import SqlProxy.Base.Monitor
import SqlProxy.Outcomes
import Mathlib.Data.List.Iterate

/-! Requests in parallel. Each client is what is left of its call of `handle`, and a
step answers the next call of one client; the only thing that keeps two requests apart
is the mutex. -/
namespace SqlProxy
open ByteText ProxyService CallProgram Monitor

/-- The order in which a request makes its calls. -/
def Call.rank : Call → Nat
  | .lock => 0
  | .clock => 1
  | .takeRequestId => 2
  | .parse _ => 3
  | .execute _ => 4
  | .append _ => 5
  | .unlock => 6

def mutexUse : Call → Use
  | .lock => .acquire
  | .unlock => .release
  | _ => .other

section Order

theorem ask_ranked (c : Call) : (ask c).Ranked Call.rank c.rank (c.rank + 1) :=
  ⟨Nat.le_refl _, fun _ => Nat.le_refl _⟩

theorem analyze_ranked (sql : Bytes) :
    (SqlAnalyzer.analyze askParser sql).Ranked Call.rank 3 4 := by
  unfold SqlAnalyzer.analyze
  by_cases h : SqlAnalyzer.isBlank sql = true
  · rw [if_pos h]
    exact Nat.le_succ 3
  · rw [if_neg h]
    exact (ask_ranked (.parse sql)).bind (fun parsed => Nat.le_refl 4) (Nat.le_refl 4)

theorem process_ranked (sql : Bytes) (timestampMs : Int) (requestId : UInt64) :
    (process askParser askExecutor sql timestampMs requestId).Ranked Call.rank 3 5 := by
  refine (analyze_ranked sql).bind ?_ (by decide)
  intro analysis
  cases h : (PolicyEngine.evaluate analysis).allowed with
  | false =>
    simp only [h, Bool.not_false, if_true]
    exact Nat.le_succ 4
  | true =>
    simp only [h, Bool.not_true, Bool.false_eq_true, if_false]
    exact (ask_ranked (.execute sql)).bind (fun execution => Nat.le_refl 5) (Nat.le_refl 5)

theorem guarded_ranked (sql : Bytes) : (guarded sql).Ranked Call.rank 1 6 := by
  refine (ask_ranked .clock).bind ?_ (by decide)
  intro timestampMs
  refine (ask_ranked .takeRequestId).bind ?_ (by decide)
  intro requestId
  have hsafely : (processSafely sql timestampMs requestId).Ranked Call.rank 3 5 :=
    (process_ranked sql timestampMs requestId).catching (fun e => Nat.le_refl 5) (Nat.le_refl 5)
  refine hsafely.bind ?_ (by decide)
  intro processing
  have happend : (appendSafely processing.record).Ranked Call.rank 5 6 :=
    (ask_ranked (.append processing.record)).catching (fun e => Nat.le_refl 6) (Nat.le_refl 6)
  exact happend.bind (fun appended => Nat.le_refl 6) (Nat.le_refl 6)

/-- A request makes each kind of call at most once, in this order. -/
theorem handle_ranked (sql : Bytes) : (handle sql).Ranked Call.rank 0 7 :=
  (ask_ranked .lock).bind
    (fun _ => (guarded_ranked sql).ensuring (ask_ranked .unlock)) (by decide)

end Order

section Runs

/-- The mutex, the clock and the counter do not fail. -/
def Granted : (c : Call) → Except Exception c.Reply → Prop
  | .lock, r | .unlock, r => ∃ u, r = .ok u
  | .clock, r => ∃ now, r = .ok now
  | .takeRequestId, r => ∃ requestId, r = .ok requestId
  | .parse _, _ | .execute _, _ | .append _, _ => True

theorem granted_answers (env : Environment) (c : Call) : Granted c (env.answers c) := by
  cases c with
  | lock => exact ⟨(), rfl⟩
  | unlock => exact ⟨(), rfl⟩
  | clock => exact ⟨env.now, rfl⟩
  | takeRequestId => exact ⟨env.requestId, rfl⟩
  | _ => trivial

def Unanswered : Environment where
  now := 0
  requestId := 0
  parse := fun _ => .error .foreign
  execute := fun _ => .error .foreign
  append := fun _ => .error .foreign

theorem exists_environment {es : List ServiceEvent}
    (hpair : es.Pairwise fun e f => e.call.rank < f.call.rank)
    (hgranted : ∀ e ∈ es, Granted e.call e.reply) :
    ∃ env : Environment, ∀ e ∈ es, env.answers e.call = e.reply := by
  have hall := answersOf_induction (P := Granted) (granted_answers Unanswered) hgranted
  obtain ⟨now, hnow⟩ := hall .clock
  obtain ⟨requestId, hid⟩ := hall .takeRequestId
  obtain ⟨⟨⟩, hlock⟩ := hall .lock
  obtain ⟨⟨⟩, hunlock⟩ := hall .unlock
  refine ⟨⟨now, requestId, fun sql => answersOf Unanswered.answers es (.parse sql),
    fun sql => answersOf Unanswered.answers es (.execute sql),
    fun record => answersOf Unanswered.answers es (.append record)⟩, ?_⟩
  intro e he
  rw [← answersOf_mem Unanswered.answers hpair he]
  cases e.call with
  | lock => exact hlock.symm
  | unlock => exact hunlock.symm
  | clock => exact hnow.symm
  | takeRequestId => exact hid.symm
  | _ => rfl

variable {sql : Bytes} {past : List ServiceEvent} {rest : Service ServiceResult}

/-- Whatever a request has been answered so far, it is a run against some environment. -/
theorem exists_run (hpath : Path (handle sql) past rest)
    (hgranted : ∀ e ∈ past, Granted e.call e.reply) :
    ∃ env : Environment, env.events sql = past ++ rest.trace env.answers ∧
      env.handled sql = rest.result env.answers := by
  obtain ⟨env, henv⟩ := exists_environment (hpath.ranked (handle_ranked sql)).1 hgranted
  exact ⟨env, hpath.run henv⟩

theorem events_pairwise (env : Environment) (sql : Bytes) :
    (env.events sql).Pairwise fun e f => e.call.rank < f.call.rank :=
  ((Path.of_run env.answers (handle sql)).ranked (handle_ranked sql)).1

/-- A request that has returned is a run of `handle` against some environment. -/
theorem past_of_done {result : Except Exception ServiceResult}
    (hpath : Path (handle sql) past (.done result))
    (hgranted : ∀ e ∈ past, Granted e.call e.reply) :
    ∃ env : Environment, past = env.events sql ∧ result = env.handled sql := by
  obtain ⟨env, hevents, hresult⟩ := exists_run hpath hgranted
  rw [trace_done, List.append_nil] at hevents
  exact ⟨env, hevents.symm, hresult.symm⟩

end Runs

/-! The calls of a request as data. -/

def Took (past : List ServiceEvent) (requestId : UInt64) : Prop :=
  ⟨.takeRequestId, .ok requestId⟩ ∈ past

/-- The ids that were given out. -/
def taken (es : List ServiceEvent) : List UInt64 :=
  es.filterMap fun
    | ⟨.takeRequestId, .ok requestId⟩ => some requestId
    | _ => none

/-- The ids in the records that were given to the repository. -/
def recordIds (es : List ServiceEvent) : List UInt64 :=
  (appends es).map fun e => e.1.requestId

section Events
variable {env : Environment} {sql : Bytes} {es fs : List ServiceEvent} {e f : ServiceEvent}

@[simp] theorem taken_append (es fs : List ServiceEvent) :
    taken (es ++ fs) = taken es ++ taken fs := List.filterMap_append

@[simp] theorem recordIds_append (es fs : List ServiceEvent) :
    recordIds (es ++ fs) = recordIds es ++ recordIds fs := by
  simp [recordIds]

theorem mem_taken {requestId : UInt64} : requestId ∈ taken es ↔ Took es requestId := by
  simp only [taken, Took, List.mem_filterMap]
  constructor
  · rintro ⟨e, he, hid⟩
    split at hid
    · cases hid
      exact he
    · cases hid
  · intro h
    exact ⟨_, h, rfl⟩

theorem mem_executions {reply : Except Exception ExecutionResult} :
    (sql, reply) ∈ executions es ↔ (⟨.execute sql, reply⟩ : ServiceEvent) ∈ es := by
  simp only [executions, List.mem_filterMap]
  constructor
  · rintro ⟨e, he, hexec⟩
    split at hexec
    · cases hexec
      exact he
    · cases hexec
  · intro h
    exact ⟨_, h, rfl⟩

theorem mem_appends {record : AuditRecord} {reply : Except Exception AuditAppendResult} :
    (record, reply) ∈ appends es ↔ (⟨.append record, reply⟩ : ServiceEvent) ∈ es := by
  simp only [appends, List.mem_filterMap]
  constructor
  · rintro ⟨e, he, happ⟩
    split at happ
    · cases happ
      exact he
    · cases happ
  · intro h
    exact ⟨_, h, rfl⟩

theorem took_events (env : Environment) (sql : Bytes) : Took (env.events sql) env.requestId := by
  rw [Took, Environment.events_eq, Environment.trace_guarded]
  simp

theorem taken_events (env : Environment) (sql : Bytes) :
    taken (env.events sql) = [env.requestId] := by
  have hprocess : taken ((process askParser askExecutor sql env.now env.requestId).trace
      env.answers) = [] := by
    rw [Environment.trace_process, taken_append]
    have hblank : taken (if SqlAnalyzer.isBlank sql then []
        else [⟨.parse sql, env.parse sql⟩]) = [] := by
      split <;> rfl
    rw [hblank, List.nil_append]
    cases env.analysis sql with
    | error e => rfl
    | ok a => cases h : (PolicyEngine.evaluate a).allowed <;> simp [taken, h]
  rw [Environment.events_eq, Environment.trace_guarded]
  calc
    _ = env.requestId ::
        taken ((process askParser askExecutor sql env.now env.requestId).trace env.answers) := by
          simp [taken]
    _ = _ := by rw [hprocess]

theorem Outcome.requestId {p : Processing} (h : Outcome env sql p) :
    p.record.requestId = env.requestId := by
  cases h <;> rfl

theorem Outcome.timestampMs {p : Processing} (h : Outcome env sql p) :
    p.record.timestampMs = env.now := by
  cases h <;> rfl

theorem recordIds_events (env : Environment) (sql : Bytes) :
    recordIds (env.events sql) = [env.requestId] := by
  rw [recordIds, Environment.appends_events, List.map_singleton]
  exact congrArg (fun requestId => [requestId]) (Environment.processing_outcome env sql).requestId

/-- What a request calls first is of lower rank than what it calls later. -/
theorem rank_lt (hevents : env.events sql = es ++ fs) (he : e ∈ es) (hf : f ∈ fs) :
    e.call.rank < f.call.rank := by
  have hpair := events_pairwise env sql
  rw [hevents, List.pairwise_append] at hpair
  exact hpair.2.2 e he f hf

/-- The first calls of a request hold every call of lower rank than one of them. -/
theorem mem_first (hevents : env.events sql = es ++ fs) (he : e ∈ es) (hf : f ∈ env.events sql)
    (hrank : f.call.rank ≤ e.call.rank) : f ∈ es := by
  rw [hevents] at hf
  cases List.mem_append.mp hf with
  | inl hf => exact hf
  | inr hf =>
    have hlt := rank_lt hevents he hf
    omega

/-- A request makes one attempt, under its own id and with its own outcome, and what it returns
depends on what became of that. -/
theorem events_attempt (env : Environment) (sql : Bytes) :
    ∃ record reply result answered, appends (env.events sql) = [(record, reply)] ∧
      Took (env.events sql) record.requestId ∧ Corresponds result record.details ∧
      env.handled sql = .ok answered ∧
      answered = (if result.succeeded = true ∧ reply ≠ .ok .ok then .failure .internalError
        else result) ∧
      (answered.succeeded = true → reply = .ok .ok) := by
  have hout := Environment.processing_outcome env sql
  refine ⟨_, _, (env.processing sql).result, _, Environment.appends_events env sql, ?_,
    hout.corresponds, Environment.handled_paired env sql, rfl, ?_⟩
  · rw [hout.requestId]
    exact took_events env sql
  · intro hsucceeded
    by_contra hreply
    split at hsucceeded
    · cases hsucceeded
    · next hno => exact hno ⟨hsucceeded, hreply⟩

end Events

/-! The discipline of a request, on any machine behind the service. -/

/-- The mutex, the clock and the counter of the machine do not fail, and the counter gives out
one id after another. -/
structure Numbers {σ : Type} (m : Machine Call Call.Reply Exception σ) (counter : σ → UInt64) :
    Prop where
  granted : ∀ {s c r s'}, m s c r s' → Granted c r
  takes : ∀ {s r s'}, m s .takeRequestId r s' → r = .ok (counter s) ∧ counter s' = counter s + 1
  keeps : ∀ {s c r s'}, m s c r s' → c ≠ .takeRequestId → counter s' = counter s

/-- What these programs call are the first calls of a request, all of them when they end. -/
def CallsHandle {J α : Type} (program : J → Service α) : Prop :=
  ∀ j es rest, Path (program j) es rest → (∀ e ∈ es, Granted e.call e.reply) → es ≠ [] →
    ∃ (env : Environment) (sql : Bytes), env.events sql = es ++ rest.trace env.answers

theorem handle_callsHandle : CallsHandle handle := by
  intro sql es rest hpath hgranted _
  obtain ⟨env, hevents, -⟩ := exists_run hpath hgranted
  exact ⟨env, sql, hevents⟩

section Numbering
variable {σ J α ι : Type} {m : Machine Call Call.Reply Exception σ} {program : J → Service α}
  {counter : σ → UInt64} {s s' : σ} {es : List ServiceEvent}

theorem mutexUse_other {c : Call} (hlow : 1 ≤ c.rank) (hhigh : c.rank < 6) :
    mutexUse c = .other := by
  cases c with
  | lock => exact absurd hlow (by decide)
  | unlock => exact absurd hhigh (by decide)
  | _ => rfl

instance : Inhabited Exception := ⟨.foreign⟩

/-- All that a request does with the ports it does while it holds the mutex. -/
theorem handle_sectioned (hm : Numbers m counter) (sql : Bytes) :
    Sectioned mutexUse m .before (handle sql) := by
  refine ⟨rfl, fun r hr => ?_⟩
  obtain ⟨s, s', hanswer⟩ := hr
  obtain ⟨u, rfl⟩ := hm.granted hanswer
  have hfree : Free mutexUse (guarded sql) :=
    free_of_ranked (guarded_ranked sql) fun c => mutexUse_other
  exact sectioned_ensuring hfree rfl fun r => ⟨r, rfl⟩

theorem Numbers.granted_of_run (hm : Numbers m counter) (h : Run m s es s') :
    ∀ e ∈ es, Granted e.call e.reply := by
  induction h with
  | nil s => exact List.forall_mem_nil _
  | cons hc _ ih => exact List.forall_mem_cons.mpr ⟨hm.granted hc, ih⟩

/-- The ids that a run gives out count up from where the counter stood. -/
theorem Numbers.taken_of_run (hm : Numbers m counter) (hrun : Run m s es s') :
    taken es = List.iterate (· + 1) (counter s) (taken es).length := by
  induction hrun with
  | nil s => rfl
  | @cons s s₁ s₂ c r es hc _ ih =>
    by_cases htake : c = .takeRequestId
    · subst htake
      obtain ⟨rfl, hnext⟩ := hm.takes hc
      rw [hnext] at ih
      exact congrArg (List.cons _) ih
    · have hnone : taken (⟨c, r⟩ :: es) = taken es := by
        cases c with
        | takeRequestId => exact absurd rfl htake
        | _ => rfl
      rw [hm.keeps hc htake] at ih
      rw [hnone]
      exact ih

section Program
variable {j : J} {rest : Service α}

/-- A record bears the id that its request took. -/
theorem recordIds_prefix (hp : CallsHandle program) (hpath : Path (program j) es rest)
    (hgranted : ∀ e ∈ es, Granted e.call e.reply) : recordIds es <+: taken es := by
  by_cases hne : es = []
  · subst hne
    exact List.prefix_refl _
  obtain ⟨env, sql, hevents⟩ := hp j es rest hpath hgranted hne
  have hids := recordIds_events env sql
  have htaken := taken_events env sql
  rw [hevents, recordIds_append] at hids
  cases hrecords : recordIds es with
  | nil => exact List.nil_prefix
  | cons requestId ids =>
    rw [hrecords, List.cons_append, List.cons.injEq, List.append_eq_nil_iff] at hids
    obtain ⟨rfl, rfl, -⟩ := hids
    have hmem : env.requestId ∈ recordIds es := by simp [hrecords]
    obtain ⟨e, he, -⟩ := List.mem_map.mp hmem
    have htook : env.requestId ∈ taken es := mem_taken.mpr
      (mem_first hevents (mem_appends.mp he) (took_events env sql) (show 2 ≤ 5 by decide))
    rw [hevents, taken_append] at htaken
    obtain ⟨before, after, hsplit⟩ := List.append_of_mem htook
    rw [hsplit] at htaken ⊢
    cases before with
    | nil => exact ⟨after, rfl⟩
    | cons => simp at htaken

/-- A request that has run to its end has made its record, if it had to. -/
theorem recordIds_whole (hp : CallsHandle program) {result : Except Exception α}
    (hpath : Path (program j) es (.done result))
    (hgranted : ∀ e ∈ es, Granted e.call e.reply) : recordIds es = taken es := by
  by_cases hne : es = []
  · subst hne
    rfl
  obtain ⟨env, sql, hevents⟩ := hp j es _ hpath hgranted hne
  rw [trace_done, List.append_nil] at hevents
  rw [← hevents, recordIds_events, taken_events]

end Program

theorem recordIds_serial (hm : Numbers m counter) (hp : CallsHandle program) {init mid : σ}
    {served : List (Served Call Call.Reply Exception α ι J)}
    (h : Serial m program init served mid) :
    recordIds (served.flatMap Served.events) = taken (served.flatMap Served.events) := by
  induction h with
  | nil => rfl
  | snoc _ e hpath hrun ih =>
    rw [List.flatMap_append, List.flatMap_singleton, recordIds_append, taken_append, ih,
      recordIds_whole hp hpath (hm.granted_of_run hrun)]

/-- The records that have been given to the repository are numbered without a gap. -/
theorem recordIds_history [DecidableEq ι] (hm : Numbers m counter) (hp : CallsHandle program)
    {init : σ} {system : System Call Call.Reply Exception α σ ι J}
    {served : List (Served Call Call.Reply Exception α ι J)}
    (h : History m program init system served es) :
    recordIds (served.flatMap Served.events ++ es) =
      List.iterate (· + 1) (counter init)
        (recordIds (served.flatMap Served.events ++ es)).length := by
  obtain ⟨mid, hserial, hrun⟩ := h.runs
  have hlast : recordIds es <+: taken es := by
    cases ho : system.owner with
    | none =>
      rw [h.free ho]
      exact List.prefix_refl _
    | some i =>
      obtain ⟨run, -, -, hpath⟩ := h.owned i ho
      exact recordIds_prefix hp hpath (hm.granted_of_run hrun)
  have hfront : recordIds (served.flatMap Served.events ++ es) <+:
      taken (served.flatMap Served.events ++ es) := by
    rw [recordIds_append, taken_append, recordIds_serial hm hp hserial]
    exact (List.prefix_append_right_inj _).mpr hlast
  have htaken := hm.taken_of_run h.run
  have hlength := hfront.length_le
  rw [List.prefix_iff_eq_take.mp hfront, htaken, List.take_iterate, List.length_iterate,
    Nat.min_eq_left hlength]

end Numbering

/-! The system. -/

/-- What the requests share behind the mutex: the id counter, and the append attempts of the
service in order. -/
structure Shared where
  nextRequestId : UInt64 := 1
  log : List (AuditRecord × Except Exception AuditAppendResult) := []

/-- How a call may be answered. The ports answer anything at all. -/
inductive Answered : Machine Call Call.Reply Exception Shared
  | lock {g : Shared} : Answered g .lock (.ok ()) g
  | unlock {g : Shared} : Answered g .unlock (.ok ()) g
  | clock {g : Shared} (now : Int) : Answered g .clock (.ok now) g
  | takeRequestId {g : Shared} : Answered g .takeRequestId (.ok g.nextRequestId)
      { g with nextRequestId := g.nextRequestId + 1 }
  | parse {g : Shared} (sql : Bytes) (reply : Except Exception ParseResult) :
      Answered g (.parse sql) reply g
  | execute {g : Shared} (sql : Bytes) (reply : Except Exception ExecutionResult) :
      Answered g (.execute sql) reply g
  | append {g : Shared} (record : AuditRecord) (reply : Except Exception AuditAppendResult) :
      Answered g (.append record) reply { g with log := g.log ++ [(record, reply)] }

/-- Clients that call `handle`. -/
abbrev Callers (ι : Type) := Monitor.System Call Call.Reply Exception ServiceResult Shared ι Bytes

section System
variable {ι : Type} [DecidableEq ι]

/-- The states of a freshly built service under every order of steps. -/
def Reachable (s : Callers ι) : Prop := Monitor.Reachable mutexUse Answered handle {} s

/-- A client that waits for the parser, the executor or the repository. -/
def Inside (s : Callers ι) (i : ι) : Prop :=
  ∃ sql past c next, (s.clients i).running = some ⟨sql, past, .call c next⟩ ∧
    ((∃ text, c = .parse text) ∨ (∃ text, c = .execute text) ∨ ∃ record, c = .append record)

theorem numbers_answered : Numbers Answered Shared.nextRequestId where
  granted h := by
    cases h with
    | lock => exact ⟨(), rfl⟩
    | unlock => exact ⟨(), rfl⟩
    | clock now => exact ⟨now, rfl⟩
    | takeRequestId => exact ⟨_, rfl⟩
    | _ => trivial
  takes h := by
    cases h
    exact ⟨rfl, rfl⟩
  keeps h hne := by
    cases h with
    | takeRequestId => exact absurd rfl hne
    | _ => rfl

theorem log_of_run {g g' : Shared} {es : List ServiceEvent} (hrun : Run Answered g es g') :
    g'.log = g.log ++ appends es := by
  induction hrun with
  | nil g => exact (List.append_nil _).symm
  | cons hc _ ih =>
    cases hc with
    | append record reply =>
      rw [ih, List.append_assoc]
      rfl
    | _ => exact ih

theorem iterate_succ_one (k : Nat) : (· + 1)^[k] (1 : UInt64) = UInt64.ofNat (k + 1) := by
  induction k with
  | zero => rfl
  | succ k ih =>
    rw [Function.iterate_succ_apply', ih, UInt64.ofNat_add (k + 1) 1]
    rfl

/-- Requests that are served one at a time: only one is among the ports; the attempts are
numbered (modulo the width of the counter) and are those that the clients' requests have made, all
of them and no others; and each request has made one, under its own id and with its own outcome,
and is no success unless that was audited. -/
structure Serialized (s : Callers ι) : Prop where
  alone : ∀ i j, Inside s i → Inside s j → i = j
  numbered : ∀ k attempt, s.state.log[k]? = some attempt →
    attempt.1.requestId = UInt64.ofNat (k + 1)
  attempts : ∃ calls : List (ι × ServiceEvent), s.state.log = appends (calls.map Prod.snd) ∧
    ∀ i, (calls.filter fun call => call.1 = i).map Prod.snd = (s.clients i).events
  audited : ∀ i, ∀ done ∈ (s.clients i).completed, ∃ record reply result answered,
    appends done.events = [(record, reply)] ∧ Took done.events record.requestId ∧
    Corresponds result record.details ∧ done.result = .ok answered ∧
    answered = (if result.succeeded = true ∧ reply ≠ .ok .ok then .failure .internalError
      else result) ∧
    (answered.succeeded = true → reply = .ok .ok)

variable {s : Callers ι}

theorem linearized (h : Reachable s) :
    ∃ served, Linearized mutexUse Answered handle {} s served :=
  linearized_of_reachable (handle_sectioned numbers_answered) h

theorem numbered_of_reachable (h : Reachable s) (k : Nat)
    (attempt : AuditRecord × Except Exception AuditAppendResult)
    (hk : s.state.log[k]? = some attempt) : attempt.1.requestId = UInt64.ofNat (k + 1) := by
  obtain ⟨served, hserved⟩ := linearized h
  obtain ⟨es, hhistory⟩ := hserved.history
  have hids := recordIds_history numbers_answered handle_callsHandle hhistory
  have hlog := log_of_run hhistory.run
  rw [List.nil_append] at hlog
  unfold recordIds at hids
  rw [← hlog] at hids
  have hlt : k < (s.state.log.map fun e => e.1.requestId).length := by
    rw [List.length_map]
    exact (List.getElem?_eq_some_iff.mp hk).1
  have hid : (s.state.log.map fun e => e.1.requestId)[k]? = some attempt.1.requestId := by
    rw [List.getElem?_map, hk]
    rfl
  rw [hids, List.getElem?_iterate _ _ _ _ hlt, iterate_succ_one] at hid
  exact (Option.some.inj hid).symm

/-- Requests are serialized whatever the order of steps. -/
theorem requests_serialized {ι : Type} [DecidableEq ι] (s : Callers ι) (h : Reachable s) :
    Serialized s := by
  obtain ⟨served, hserved⟩ := linearized h
  obtain ⟨es, hhistory⟩ := hserved.history
  have howner : ∀ i, Inside s i → s.owner = some i := by
    rintro i ⟨sql, past, c, next, hrunning, hc⟩
    refine hserved.owner_of_other hrunning ?_
    rcases hc with ⟨text, rfl⟩ | ⟨text, rfl⟩ | ⟨record, rfl⟩ <;> rfl
  refine ⟨?_, numbered_of_reachable h, ?_, ?_⟩
  · intro i j hi hj
    exact Option.some.inj ((howner i hi).symm.trans (howner j hj))
  · obtain ⟨calls, hrun, hcalls⟩ := calls_of_reachable h
    have hlog := log_of_run hrun
    rw [List.nil_append] at hlog
    exact ⟨calls, hlog, hcalls⟩
  · intro i done hdone
    obtain ⟨g, g', hwhole, hmade⟩ := hhistory.completed_run hdone
    obtain ⟨env, hevents, hresult⟩ :=
      past_of_done hwhole (numbers_answered.granted_of_run hmade)
    rw [hevents, hresult]
    exact events_attempt env done.job

end System

/-! Two clients read the same column. -/

def oneEmail : ExecutionResult where
  status := .ok
  columns := [{ name := ascii "email" }]
  rows := [[some (ascii "ada@example.org")]]
  rowCount := 1

def emailRead (requestId : UInt64) : Environment :=
  { emailEnvironment with requestId := requestId, execute := fun _ => .ok oneEmail }

theorem events_emailRead (requestId : UInt64) :
    (emailRead requestId).events (ascii "x") =
      [⟨.lock, .ok ()⟩, ⟨.clock, .ok 0⟩, ⟨.takeRequestId, .ok requestId⟩,
        ⟨.parse (ascii "x"), emailEnvironment.parse (ascii "x")⟩,
        ⟨.execute (ascii "x"), .ok oneEmail⟩,
        ⟨.append ((emailRead requestId).processing (ascii "x")).record, .ok .ok⟩,
        ⟨.unlock, .ok ()⟩] := rfl

/-- One client has read; while it had the mutex the other has asked, has it now, and waits for the
executor; and the first has asked again and waits for the mutex. -/
theorem requests_serialized_two :
    ∃ s : Callers Bool, Reachable s ∧ s.owner = some false ∧ Inside s false ∧
      (s.clients true).running = some ⟨ascii "y", [], handle (ascii "y")⟩ ∧
      (s.clients true).completed.length = 1 ∧ s.state.log.length = 1 ∧ Serialized s := by
  have hwhole : Path (handle (ascii "x")) ((emailRead 1).events (ascii "x"))
      (.done ((emailRead 1).handled (ascii "x"))) := Path.of_run _ _
  have hrun : Run Answered {} ((emailRead 1).events (ascii "x"))
      ⟨2, [(((emailRead 1).processing (ascii "x")).record, .ok .ok)]⟩ := by
    rw [events_emailRead]
    exact .cons .lock (.cons (.clock 0) (.cons .takeRequestId (.cons (.parse _ _)
      (.cons (.execute _ _) (.cons (.append _ _) (.cons .unlock (.nil _)))))))
  let begun : List ServiceEvent := [⟨.lock, .ok ()⟩, ⟨.clock, .ok 0⟩, ⟨.takeRequestId, .ok 2⟩,
    ⟨.parse (ascii "x"), emailEnvironment.parse (ascii "x")⟩]
  obtain ⟨rest, hbegun, hrest⟩ :
      ∃ rest, Path (handle (ascii "x")) begun rest ∧
        Path rest [⟨.execute (ascii "x"), .ok oneEmail⟩,
          ⟨.append ((emailRead 2).processing (ascii "x")).record, .ok .ok⟩, ⟨.unlock, .ok ()⟩]
          (.done ((emailRead 2).handled (ascii "x"))) := by
    refine Path.split ?_
    rw [List.cons_append, List.cons_append, List.cons_append, List.cons_append, List.nil_append,
      ← events_emailRead 2]
    exact Path.of_run _ _
  cases hrest with
  | @cons _ next _ _ _ _ =>
    have hlater (log) : Run Answered ⟨2, log⟩ begun ⟨3, log⟩ :=
      .cons .lock (.cons (.clock 0) (.cons .takeRequestId (.cons (.parse _ _) (.nil _))))
    have hands : Hands mutexUse false none begun (some false) :=
      .cons .acquire (.cons (.other _) (.cons (.other _) (.cons (.other _) (.nil _))))
    obtain ⟨s, hreach, howner, hstate, hwaits, hholds, -⟩ :=
      pair_reachable (a := true) (handle_sectioned numbers_answered) (by decide) (ascii "y") hwhole
        hrun hbegun (hlater _) hands
    refine ⟨s, hreach, howner, ⟨_, _, _, _, congrArg Client.running hholds, .inr (.inl ⟨_, rfl⟩)⟩,
      congrArg Client.running hwaits, ?_, ?_, requests_serialized s hreach⟩
    · rw [hwaits]
      rfl
    · rw [hstate]
      rfl

/-! One client asks again and again. -/

/-- The answers to an empty text, which never gets past the policy. -/
def emptyRequest (requestId : UInt64) : Environment where
  now := 0
  requestId := requestId
  parse := fun _ => .error .foreign
  execute := fun _ => .error .foreign
  append := fun _ => .ok .ok

theorem exists_long_run (n : Nat) :
    ∃ served g, Serial (ι := Unit) Answered handle {} served g ∧ g.log.length = n := by
  induction n with
  | zero => exact ⟨[], {}, .nil, rfl⟩
  | succ n ih =>
    obtain ⟨served, g, hserial, hlength⟩ := ih
    let env := emptyRequest g.nextRequestId
    have hrun : Run Answered g (env.events []) _ :=
      .cons .lock (.cons (.clock 0) (.cons .takeRequestId (.cons (.append _ _)
        (.cons .unlock (.nil _)))))
    refine ⟨_, _, hserial.snoc ⟨(), [], env.events [], env.handled []⟩
      (Path.of_run env.answers (handle [])) hrun, ?_⟩
    rw [List.length_append, hlength]
    rfl

/-- The counter is 64 bits wide, so the attempt after `2 ^ 64 - 1` others carries id 0. -/
theorem requestId_wraps :
    ¬ ∀ s : Callers Unit, Reachable s → ∀ k attempt, s.state.log[k]? = some attempt →
      attempt.1.requestId.toNat = k + 1 := by
  intro h
  obtain ⟨served, g, hserial, hlength⟩ := exists_long_run (2 ^ 64)
  have hreach := hserial.reachable (handle_sectioned numbers_answered)
  have hlt : 2 ^ 64 - 1 < g.log.length := by
    rw [hlength]
    decide
  have hattempt := List.getElem?_eq_getElem hlt
  have hid := numbered_of_reachable hreach _ _ hattempt
  have hnat := h _ hreach _ _ hattempt
  rw [hid] at hnat
  simp at hnat

end SqlProxy
