import SqlProxy.Base.Lockstep
import SqlProxy.DatabaseRuns

/-! Two deployments side by side. The texts that their clients send belong together, and so do the
results that their databases give for them; what the service makes of the one and of the other
then belongs together as well, through whole runs. -/
namespace SqlProxy.Deployment
open ByteText CallProgram Config Json Monitor PostgresQueryExecutor ProxyService Routes

/-- What may stand in each other's place: texts, the results of two texts, and what two clients
are told. -/
structure Disguise where
  texts : Bytes → Bytes → Prop
  results : Bytes → Bytes → ExecutionResult → ExecutionResult → Prop
  told : ServiceResult → ServiceResult → Prop

theorem Analyzed.permitted {lib : Bytes → Except Exception Hsql.SQLParserResult} {sql : Bytes}
    {a : SqlAnalysis} (h : Analyzed lib sql a) : Permitted lib sql := by
  obtain ⟨stmts, hsubmitted, hauthorized, -⟩ := h
  exact ⟨stmts, hsubmitted, hauthorized⟩

namespace Disguise
variable (d : Disguise)

def swap : Disguise where
  texts sql' sql := d.texts sql sql'
  results sql' sql r' r := d.results sql sql' r r'
  told result' result := d.told result result'

/-- Ends of the pipeline with one record between them. -/
def SameRecord (p p' : Processing) : Prop := p.record = p'.record ∧ d.told p.result p'.result

/-- The service does not see through the disguise. -/
structure Sound (lib : Bytes → Except Exception Hsql.SQLParserResult) : Prop where
  blank : ∀ sql sql', d.texts sql sql' → SqlAnalyzer.isBlank sql = SqlAnalyzer.isBlank sql'
  parsed : ∀ sql sql', d.texts sql sql' → HyriseAdapter.parse lib sql = HyriseAdapter.parse lib sql'
  caught : ∀ sql sql' e, d.results sql sql' (caught e) (caught e)
  concluded : ∀ sql sql' a r r' timestampMs requestId, d.texts sql sql' → Analyzed lib sql a →
    d.results sql sql' r r' → Both d.SameRecord (conclude timestampMs requestId a r)
      (conclude timestampMs requestId a r')
  same : ∀ result, d.told result result
  answered : ∀ result result' appended, d.told result result' →
    d.told (answer result appended) (answer result' appended)

variable {d} in
theorem Sound.sameRecord {lib : Bytes → Except Exception Hsql.SQLParserResult} (hd : d.Sound lib)
    (p : Processing) : d.SameRecord p p := ⟨rfl, hd.same p.result⟩

section Pairings
variable (lib : Bytes → Except Exception Hsql.SQLParserResult) (config : DatabaseConfig)

/-- Texts that reach the two databases as statements of clients. -/
def Submits (sql sql' : Bytes) : Prop :=
  d.texts sql sql' ∧ Permitted lib sql ∧ Permitted lib sql'

/-- Texts that reach them at all. -/
def Sent (sql sql' : Bytes) : Prop :=
  sql = setStatementTimeout config.statementTimeoutMs ∧
      sql' = setStatementTimeout config.statementTimeoutMs ∨ d.Submits lib sql sql'

/-- Whatever the one database does with a text the other can do with the text beside it, with a
result that may stand in the place of the first. The data stay related by `D`. -/
def Mirrors {δ δ' : Type} (D : δ → δ' → Prop) (effect : Effect δ) (effect' : Effect δ') : Prop :=
  ∀ sql sql' data data' answer view, d.Sent lib config sql sql' → D data data' →
    effect sql data answer view → ∃ answer' view', effect' sql' data' answer' view' ∧
      D view view' ∧ (d.Submits lib sql sql' →
        d.results sql sql' (translate answer) (translate answer'))

inductive DriverCalls : DriverCall → DriverCall → Prop
  | same {c : DriverCall} (hc : ∀ sql, c ≠ .exec sql) : DriverCalls c c
  | exec {sql sql' : Bytes} (h : d.Sent lib config sql sql') :
      DriverCalls (.exec sql) (.exec sql')

inductive DriverReplies : (c c' : DriverCall) → Except DriverError c.Reply →
    Except DriverError c'.Reply → Prop
  | same {c : DriverCall} (hc : ∀ sql, c ≠ .exec sql) (r : Except DriverError c.Reply) :
      DriverReplies c c r r
  | exec {sql sql' : Bytes} {r r' : Except DriverError PqxxResult}
      (h : Both (fun answer answer' => d.Submits lib sql sql' →
        d.results sql sql' (translate answer) (translate answer')) r r') :
      DriverReplies (.exec sql) (.exec sql') r r'

/-- How the executors use their drivers. -/
def driver : Pairing DriverCall DriverCall.Reply DriverError where
  calls := d.DriverCalls lib config
  replies := d.DriverReplies lib

inductive PortCalls : Call → Call → Prop
  | same {c : Call} (hp : ∀ sql, c ≠ .parse sql) (he : ∀ sql, c ≠ .execute sql) : PortCalls c c
  | parse {sql sql' : Bytes} (h : d.texts sql sql') : PortCalls (.parse sql) (.parse sql')
  | execute {sql sql' : Bytes} (h : d.Submits lib sql sql') :
      PortCalls (.execute sql) (.execute sql')

inductive PortReplies : (c c' : Call) → Except Exception c.Reply → Except Exception c'.Reply → Prop
  | same {c : Call} (hp : ∀ sql, c ≠ .parse sql) (he : ∀ sql, c ≠ .execute sql)
      (r : Except Exception c.Reply) : PortReplies c c r r
  | parse (sql sql' : Bytes) : PortReplies (.parse sql) (.parse sql')
      (.ok (HyriseAdapter.parse lib sql)) (.ok (HyriseAdapter.parse lib sql'))
  | execute {sql sql' : Bytes} {r r' : Except Exception ExecutionResult}
      (h : Both (d.results sql sql') r r') : PortReplies (.execute sql) (.execute sql') r r'

/-- How the services use their ports. -/
def ports : Pairing Call Call.Reply Exception where
  calls := d.PortCalls lib
  replies := d.PortReplies lib

/-- Requests that both fail the same check, or that carry texts that belong together. -/
inductive Twins (json : Library Exception) : Endpoint → Endpoint → Prop
  | health : Twins json .health .health
  | rejected {request request' : Request} {failure : FailureResponse}
      (h : checkRequest json request = .error failure)
      (h' : checkRequest json request' = .error failure) :
      Twins json (.query request) (.query request')
  | query {request request' : Request} {sql sql' : Bytes} (h : Carries json request sql)
      (h' : Carries json request' sql') (ht : d.texts sql sql') :
      Twins json (.query request) (.query request')

end Pairings

variable {d} {lib : Bytes → Except Exception Hsql.SQLParserResult} {config : DatabaseConfig}
  {sql sql' : Bytes}

theorem Submits.swap (h : d.Submits lib sql sql') : d.swap.Submits lib sql' sql :=
  ⟨h.1, h.2.2, h.2.1⟩

/-! The executors. -/

theorem askDriver_lockstep (c : DriverCall) (hc : ∀ sql, c ≠ .exec sql) :
    Lockstep (d.driver lib config) (Both Eq) (askDriver c) (askDriver c) := by
  refine .perform (.same hc) fun r r' hr => ?_
  cases hr with
  | same => exact .refl (fun _ => rfl) r
  | exec => exact absurd rfl (hc _)

theorem exec_lockstep (h : d.Sent lib config sql sql') :
    Lockstep (d.driver lib config) (Both fun answer answer' => d.Submits lib sql sql' →
        d.results sql sql' (translate answer) (translate answer')) (exec sql) (exec sql') := by
  have hcalls : (d.driver lib config).calls (.exec sql) (.exec sql') := DriverCalls.exec h
  refine .perform hcalls fun r r' hr => ?_
  cases hr with
  | same hc => exact absurd rfl (hc sql)
  | exec h => exact h

/-- They ask the same of them, whatever stands in the place of the answers. -/
theorem executeCalls_lockstep (hcaught : ∀ e, d.results sql sql' (caught e) (caught e))
    (h : d.Submits lib sql sql') :
    Lockstep (d.driver lib config) (Both (d.results sql sql')) (executeCalls config sql)
      (executeCalls config sql') := by
  unfold executeCalls transact
  refine .catching (.bind (askDriver_lockstep (.connect _) nofun) fun _ _ _ => ?_)
    fun e => .done (.ok (hcaught e))
  refine .ensuring (.bind (askDriver_lockstep .begin nofun) fun _ _ _ => ?_)
    (askDriver_lockstep .disconnect nofun)
  refine .ensuring (.bind (exec_lockstep (.inl ⟨rfl, rfl⟩)) fun _ _ _ => ?_)
    (askDriver_lockstep .endWork nofun)
  refine .bind (exec_lockstep (.inr h)) fun answer answer' hresults => ?_
  exact .bind (askDriver_lockstep .commit nofun) fun _ _ _ => .done (.ok (hresults h))

/-! The services. -/

theorem ask_lockstep (c : Call) (hp : ∀ sql, c ≠ .parse sql) (he : ∀ sql, c ≠ .execute sql) :
    Lockstep (d.ports lib) (Both Eq) (ask c) (ask c) := by
  refine .perform (.same hp he) fun r r' hr => ?_
  cases hr with
  | same => exact .refl (fun _ => rfl) r
  | parse => exact absurd rfl (hp _)
  | execute => exact absurd rfl (he _)

theorem askExecutor_lockstep (h : d.Submits lib sql sql') :
    Lockstep (d.ports lib) (Both (d.results sql sql')) (askExecutor sql) (askExecutor sql') := by
  have hcalls : (d.ports lib).calls (.execute sql) (.execute sql') := PortCalls.execute h
  refine .perform hcalls fun r r' hr => ?_
  cases hr with
  | same hp he => exact absurd rfl (he sql)
  | execute h => exact h

/-- Texts that belong together are analyzed alike, and as authorized statements if at all. -/
theorem analyze_lockstep (hd : d.Sound lib) (h : d.texts sql sql') :
    Lockstep (d.ports lib)
      (Both fun a a' => a = a' ∧ ((PolicyEngine.evaluate a).allowed = true →
        Analyzed lib sql a ∧ Analyzed lib sql' a))
      (SqlAnalyzer.analyze askParser sql) (SqlAnalyzer.analyze askParser sql') := by
  let env : Environment := ⟨0, 0, fun sql => .ok (HyriseAdapter.parse lib sql),
    fun _ => .error .foreign, fun _ => .error .foreign⟩
  have hadapted (sql : Bytes) : Adapted lib env sql := fun _ => rfl
  have hanalyzed {a : SqlAnalysis} (ha : env.analysis sql = .ok a)
      (ha' : env.analysis sql' = .ok a) (hallowed : (PolicyEngine.evaluate a).allowed = true) :
      Analyzed lib sql a ∧ Analyzed lib sql' a :=
    ⟨submitted_of_allowed (hadapted sql) ha hallowed,
      submitted_of_allowed (hadapted sql') ha' hallowed⟩
  have hblank := hd.blank sql sql' h
  unfold SqlAnalyzer.analyze
  cases hb : SqlAnalyzer.isBlank sql with
  | true =>
    rw [hb] at hblank
    rw [← hblank]
    exact .done (.ok ⟨rfl, hanalyzed (Environment.analysis_blank hb)
      (Environment.analysis_blank hblank.symm)⟩)
  | false =>
    rw [hb] at hblank
    rw [← hblank]
    refine .call (PortCalls.parse h) fun r r' hr => ?_
    cases hr with
    | same hp => exact absurd rfl (hp sql)
    | parse =>
      have ha : env.analysis sql = _ := Environment.analysis_parse hb
      have ha' : env.analysis sql' = _ := Environment.analysis_parse hblank.symm
      have hsame := congrArg SqlAnalyzer.analyzeParsed (hd.parsed sql sql' h)
      exact .done (.ok ⟨hsame, hanalyzed ha (hsame ▸ ha')⟩)

theorem lift_lockstep {k : Pairing Call Call.Reply Exception} {α : Type} {Q : α → α → Prop}
    (hQ : ∀ a, Q a a) (r : Except Exception α) :
    Lockstep k (Both Q) (liftM r : Service α) (liftM r) :=
  .done (.refl hQ r)

theorem process_lockstep (hd : d.Sound lib) (h : d.texts sql sql') (timestampMs : Int)
    (requestId : UInt64) :
    Lockstep (d.ports lib) (Both d.SameRecord)
      (process askParser askExecutor sql timestampMs requestId : Service Processing)
      (process askParser askExecutor sql' timestampMs requestId) := by
  unfold process
  refine (analyze_lockstep hd h).bind fun a a' ha => ?_
  obtain ⟨rfl, hanalyzed⟩ := ha
  cases hallowed : (PolicyEngine.evaluate a).allowed with
  | false =>
    simp only [hallowed, Bool.not_false, if_true]
    exact lift_lockstep hd.sameRecord _
  | true =>
    obtain ⟨ha, ha'⟩ := hanalyzed hallowed
    simp only [hallowed, Bool.not_true, Bool.false_eq_true, if_false]
    refine (askExecutor_lockstep ⟨h, ha.permitted, ha'.permitted⟩).bind fun r r' hresults => ?_
    exact .done (hd.concluded sql sql' a r r' timestampMs requestId h ha hresults)

theorem processSafely_lockstep (hd : d.Sound lib) (h : d.texts sql sql') (timestampMs : Int)
    (requestId : UInt64) :
    Lockstep (d.ports lib) (Both d.SameRecord) (processSafely sql timestampMs requestId)
      (processSafely sql' timestampMs requestId) :=
  (process_lockstep hd h timestampMs requestId).catching fun _ => .done (.ok (hd.sameRecord _))

theorem appendSafely_lockstep (record : AuditRecord) :
    Lockstep (d.ports lib) (Both Eq) (appendSafely record) (appendSafely record) :=
  (ask_lockstep (.append record) nofun nofun).catching fun _ => .done (.ok rfl)

/-- A request goes on like the one it belongs to. -/
theorem handle_lockstep (hd : d.Sound lib) (h : d.texts sql sql') :
    Lockstep (d.ports lib) (Both d.told) (handle sql) (handle sql') := by
  unfold handle guarded
  refine .bind (ask_lockstep .lock nofun nofun) fun _ _ _ => ?_
  refine .ensuring ?_ (ask_lockstep .unlock nofun nofun)
  refine .bind (ask_lockstep .clock nofun nofun) fun timestampMs _ htime => ?_
  subst htime
  refine .bind (ask_lockstep .takeRequestId nofun nofun) fun requestId _ hid => ?_
  subst hid
  refine .bind (processSafely_lockstep hd h timestampMs requestId) fun p p' hprocessed => ?_
  obtain ⟨hrecord, htold⟩ := hprocessed
  rw [← hrecord]
  refine .bind (appendSafely_lockstep p.record) fun appended _ hsame => ?_
  subst hsame
  exact .done (.ok (hd.answered _ _ appended htold))

theorem serve_lockstep (hd : d.Sound lib) {json : Library Exception} {endpoint endpoint' : Endpoint}
    {R : Except Exception Response → Except Exception Response → Prop} (hsame : ∀ r, R r r)
    (htold : ∀ result result', d.told result result' →
      R (respond json result) (respond json result')) (h : d.Twins json endpoint endpoint') :
    Lockstep (d.ports lib) R (serve json endpoint) (serve json endpoint') := by
  cases h with
  | health => exact .done (hsame _)
  | rejected h h' =>
    simp only [serve, handleQueryRequest, h, h']
    exact .done (hsame _)
  | query h h' ht =>
    simp only [serve, handleQueryRequest, checkRequest_ok.mpr h, checkRequest_ok.mpr h']
    refine (handle_lockstep hd ht).bind_of (fun result result' hresults => ?_) fun e => hsame _
    exact .done (htold result result' hresults)

/-! The machines. -/

structure SessionBeside {δ δ' : Type} (D : δ → δ' → Prop) (s : Session δ) (t : Session δ') :
    Prop where
  data : D s.data t.data
  connected : s.connected = t.connected
  work : Option.Rel D s.work t.work

structure StackBeside {δ δ' : Type} (D : δ → δ' → Prop) (s : Stack δ) (t : Stack δ') : Prop where
  nextRequestId : s.nextRequestId = t.nextRequestId
  audit : s.audit = t.audit
  data : D s.data t.data

theorem StackBeside.symm {δ δ' : Type} {D : δ → δ' → Prop} {s : Stack δ} {t : Stack δ'}
    (h : StackBeside D s t) : StackBeside (fun data' data => D data data') t s :=
  ⟨h.nextRequestId.symm, h.audit.symm, h.data⟩

section Machines
variable {δ δ' : Type} {D : δ → δ' → Prop} {effect : Effect δ} {effect' : Effect δ'}

theorem serves_follows (h : d.Mirrors lib config D effect effect') :
    Follows (d.driver lib config) (SessionBeside D) (Serves effect) (Serves effect') := by
  rintro s ⟨data', connected, work'⟩ c c' r s' ⟨hdata, rfl, hwork⟩ hcalls hserved
  cases hcalls with
  | @exec sql sql' hsent =>
    cases hserved with
    | exec hview he =>
      rw [hview] at hwork
      cases hwork with
      | some hviews =>
        obtain ⟨answer', view', he', hD, hresults⟩ := h _ _ _ _ _ _ hsent hviews he
        exact ⟨_, _, .exec rfl he', .exec (.ok hresults), hdata, rfl, .some hD⟩
    | throws _ _ e =>
      have hthrows : Serves effect' ⟨data', s.connected, work'⟩ (.exec sql') (.error e) _ :=
        .throws (by simp) (by simp) e
      exact ⟨_, _, hthrows, .exec (.error e), hdata, rfl, hwork⟩
  | same hc =>
    cases hserved with
    | connect => exact ⟨_, _, .connect _, .same hc _, hdata, rfl, hwork⟩
    | begin hconnected => exact ⟨_, _, .begin hconnected, .same hc _, hdata, rfl, .some hdata⟩
    | exec => exact absurd rfl (hc _)
    | commit hview =>
      rw [hview] at hwork
      cases hwork with
      | some hviews => exact ⟨_, _, .commit rfl, .same hc _, hviews, rfl, .none⟩
    | commitUnanswered hview e =>
      rw [hview] at hwork
      cases hwork with
      | some hviews => exact ⟨_, _, .commitUnanswered rfl e, .same hc _, hviews, rfl, .none⟩
    | throws hw hd e => exact ⟨_, _, .throws hw hd e, .same hc _, hdata, rfl, hwork⟩
    | endWork => exact ⟨_, _, .endWork, .same hc _, hdata, rfl, .none⟩
    | disconnect => exact ⟨_, _, .disconnect, .same hc _, hdata, rfl, .none⟩

theorem answers_follow (json : Library Exception)
    (hcaught : ∀ sql sql' e, d.results sql sql' (caught e) (caught e))
    (h : d.Mirrors lib config D effect effect') :
    Follows (d.ports lib) (StackBeside D) (Answers ⟨json, lib, config, effect⟩)
      (Answers ⟨json, lib, config, effect'⟩) := by
  rintro s ⟨nextRequestId, audit, data'⟩ c c' r s' ⟨rfl, rfl, hdata⟩ hcalls hanswered
  cases hcalls with
  | parse =>
    cases hanswered
    exact ⟨_, _, .parse _, .parse _ _, rfl, rfl, hdata⟩
  | @execute sql sql' hsubmits =>
    cases hanswered with
    | @execute _ _ r session hexec =>
      have hstart : SessionBeside D ({ data := s.data } : Session δ) { data := data' } :=
        ⟨hdata, rfl, .none⟩
      have hlockstep : Lockstep (d.driver lib config) _ (executeCalls config sql) _ :=
        executeCalls_lockstep (hcaught sql sql') hsubmits
      obtain ⟨r', session', hexec', hresults, hsessions⟩ :=
        hlockstep.executes (serves_follows h) hstart hexec
      refine ⟨_, _, .execute hexec', .execute ?_, rfl, rfl, hsessions.data⟩
      cases hresults with
      | ok hresults => exact .ok hresults
      | error e => exact .error _
  | same hp he =>
    cases hanswered with
    | lock => exact ⟨_, _, .lock, .same hp he _, rfl, rfl, hdata⟩
    | unlock => exact ⟨_, _, .unlock, .same hp he _, rfl, rfl, hdata⟩
    | clock now => exact ⟨_, _, .clock now, .same hp he _, rfl, rfl, hdata⟩
    | takeRequestId => exact ⟨_, _, .takeRequestId, .same hp he _, rfl, rfl, hdata⟩
    | append record sink => exact ⟨_, _, .append record sink, .same hp he _, rfl, rfl, hdata⟩
    | parse => exact absurd rfl (hp _)
    | execute => exact absurd rfl (he _)

/-- The same the other way round. -/
theorem answers_follow_back (json : Library Exception)
    (hcaught : ∀ sql sql' e, d.results sql sql' (caught e) (caught e))
    (h : d.swap.Mirrors lib config (fun data' data => D data data') effect' effect) :
    Follows (d.ports lib).swap (fun t s => StackBeside D s t) (Answers ⟨json, lib, config, effect'⟩)
      (Answers ⟨json, lib, config, effect⟩) := by
  have hfollows := answers_follow json (fun sql' sql e => hcaught sql sql' e) h
  intro t s c' c r' t' hbeside hcalls hanswered
  have hswapped : (d.swap.ports lib).calls c' c := by
    change d.PortCalls lib c c' at hcalls
    cases hcalls with
    | same hp he => exact .same hp he
    | parse ht => exact .parse ht
    | execute hsubmits => exact .execute hsubmits.swap
  obtain ⟨r, s', hanswers, hreplies, hbeside'⟩ :=
    hfollows t s c' c r' t' hbeside.symm hswapped hanswered
  refine ⟨r, s', hanswers, ?_, hbeside'.symm⟩
  change d.PortReplies lib c c' r r'
  cases hreplies with
  | same hp he => exact .same hp he r'
  | parse => exact .parse _ _
  | execute hresults => exact .execute hresults.swap

/-- Servers before such databases cannot be told apart by what shows nothing that is not the same
on both. -/
theorem bisimilar {ι V : Type} [DecidableEq ι] (json : Library Exception) (hd : d.Sound lib)
    (hforth : d.Mirrors lib config D effect effect')
    (hback : d.swap.Mirrors lib config (fun data' data => D data data') effect' effect)
    {twins : Endpoint → Endpoint → Prop} {P P' : Endpoint → Prop}
    (htwins : ∀ endpoint endpoint', twins endpoint endpoint' → d.Twins json endpoint endpoint')
    (hP : ∀ endpoint, P endpoint ↔ ∃ endpoint', twins endpoint endpoint')
    (hP' : ∀ endpoint', P' endpoint' ↔ ∃ endpoint, twins endpoint endpoint')
    {R : Except Exception Response → Except Exception Response → Prop} (hsame : ∀ r, R r r)
    (htold : ∀ result result', d.told result result' →
      R (respond json result) (respond json result'))
    {view : Server ι δ → V} {view' : Server ι δ' → V}
    (hview : ∀ s t, System.Beside (d.ports lib) twins R (StackBeside D) s t → view s = view' t)
    {init : Stack δ} {init' : Stack δ'} (h : StackBeside D init init') :
    Bisimilar (StepOf mutexUse (Answers ⟨json, lib, config, effect⟩) (serve json) P)
      (StepOf mutexUse (Answers ⟨json, lib, config, effect'⟩) (serve json) P') view view'
      { state := init } { state := init' } := by
  refine bisimilar_of_follows (fun c c' hcalls => ?_) (answers_follow json hd.caught hforth)
    (answers_follow_back json hd.caught hback) (fun endpoint endpoint' hendpoints => ?_) hP hP'
    hview h
  · cases hcalls <;> rfl
  · exact serve_lockstep hd hsame htold (htwins endpoint endpoint' hendpoints)

end Machines

end Disguise

/-- The same components over another database. -/
def Wiring.over {δ δ' : Type} (w : Wiring δ) (effect' : Effect δ') : Wiring δ' where
  json := w.json
  hsqlParse := w.hsqlParse
  config := w.config
  effect := effect'

/-- The same service and the same file, before other data. -/
def Stack.before {δ δ' : Type} (s : Stack δ) (data : δ') : Stack δ' where
  nextRequestId := s.nextRequestId
  audit := s.audit
  data := data

end SqlProxy.Deployment
