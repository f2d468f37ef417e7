import SqlProxy.Disguise
import SqlProxy.LiteralBlindness

/-! The audit file of a deployment tells nothing of literals and cells: two deployments whose
clients send texts that differ in their literals, before databases whose results differ in their
cells, write the same file. -/
namespace SqlProxy.Deployment
open ByteText CallProgram Config Hsql Json Monitor PostgresQueryExecutor ProxyService Routes

/-- One text, or two that the library reads as statements that differ in literals. -/
def SameButLiterals (lib : Bytes → Except Exception SQLParserResult) (sql sql' : Bytes) : Prop :=
  sql = sql' ∨ ∃ stmts stmts', Submitted lib sql stmts ∧ Submitted lib sql' stmts' ∧
    List.Forall₂ SQLStatement.SameButLiterals stmts stmts'

/-- Results of one shape. What the clients are told is free. -/
def shaped (texts : Bytes → Bytes → Prop) : Disguise where
  texts := texts
  results _ _ := SameShape
  told _ _ := True

section Shaped
variable {lib : Bytes → Except Exception SQLParserResult} {texts : Bytes → Bytes → Prop}
  {sql sql' : Bytes}

theorem parse_submitted {stmts : List SQLStatement} (h : Submitted lib sql stmts) :
    HyriseAdapter.parse lib sql =
      { success := true, statements := stmts.map HyriseAdapter.translateStatement } := by
  obtain ⟨-, result, hlib, hvalid, rfl⟩ := h
  simp [HyriseAdapter.parse, hlib, hvalid]

theorem SameButLiterals.blank (h : SameButLiterals lib sql sql') :
    SqlAnalyzer.isBlank sql = SqlAnalyzer.isBlank sql' := by
  obtain rfl | ⟨stmts, stmts', hsubmitted, hsubmitted', -⟩ := h
  · rfl
  · exact hsubmitted.1.trans hsubmitted'.1.symm

theorem SameButLiterals.parsed (h : SameButLiterals lib sql sql') :
    HyriseAdapter.parse lib sql = HyriseAdapter.parse lib sql' := by
  obtain rfl | ⟨stmts, stmts', hsubmitted, hsubmitted', hliterals⟩ := h
  · rfl
  · have htranslated := map_eq_of_forall₂ hliterals fun _ _ => translateStatement_literals
    rw [parse_submitted hsubmitted, parse_submitted hsubmitted', htranslated]

theorem caught_sameShape (e : DriverError) : SameShape (caught e) (caught e) := by
  cases e <;> exact ⟨rfl, rfl, rfl, rfl, List.forall_mem_nil _, List.forall_mem_nil _⟩

/-- At one time and for one request, the record does not depend on more than the shape. -/
theorem conclude_sameShape {r r' : ExecutionResult} (h : SameShape r r') (timestampMs : Int)
    (requestId : UInt64) (a : SqlAnalysis) :
    Both (shaped texts).SameRecord (conclude timestampMs requestId a r)
      (conclude timestampMs requestId a r') := by
  have hself : SameShape r r := ⟨rfl, rfl, rfl, rfl, h.rectangular, h.rectangular⟩
  have hrecord := (conclude_restamped timestampMs timestampMs requestId requestId a h).trans
    (conclude_restamped timestampMs timestampMs requestId requestId a hself).symm
  generalize conclude timestampMs requestId a r = made at hrecord
  generalize conclude timestampMs requestId a r' = made' at hrecord
  cases made with
  | error e =>
    cases made' with
    | error e' =>
      cases hrecord
      exact .error e
    | ok p' => cases hrecord
  | ok p =>
    cases made' with
    | error e' => cases hrecord
    | ok p' => exact .ok ⟨(Except.ok.inj hrecord).symm, trivial⟩

theorem shaped_sound (h : ∀ sql sql', texts sql sql' → SameButLiterals lib sql sql') :
    (shaped texts).Sound lib where
  blank sql sql' ht := (h sql sql' ht).blank
  parsed sql sql' ht := (h sql sql' ht).parsed
  caught _ _ e := caught_sameShape e
  concluded _ _ a _ _ timestampMs requestId _ _ hr :=
    conclude_sameShape hr timestampMs requestId a
  same _ := trivial
  answered _ _ _ _ := trivial

end Shaped

/-- What shows of a server to one who reads the audit file and sees the clients come and go. -/
structure AuditView (ι : Type) where
  owner : Option ι
  nextRequestId : UInt64
  audit : OFStream
  underWay : ι → Option Nat
  served : ι → Nat

def auditView {ι δ : Type} (s : Server ι δ) : AuditView ι where
  owner := s.owner
  nextRequestId := s.state.nextRequestId
  audit := s.state.audit
  underWay i := (s.clients i).running.map fun run => run.past.length
  served i := (s.clients i).completed.length

/-- Where the texts of the requests differ in nothing but literals, and what two databases answer
them in nothing but cells, the audit files are the same, byte for byte and at every step, under
any order of steps. -/
theorem audit_file_blind {δ δ' ι : Type} [DecidableEq ι] (w : Wiring δ) (effect' : Effect δ')
    (texts : Bytes → Bytes → Prop) (D : δ → δ' → Prop) (init : Stack δ) (data' : δ')
    (htexts : ∀ sql sql', texts sql sql' → SameButLiterals w.hsqlParse sql sql')
    (hforth : (shaped texts).Mirrors w.hsqlParse w.config D w.effect effect')
    (hback : (shaped texts).swap.Mirrors w.hsqlParse w.config (fun data' data => D data data')
      effect' w.effect)
    (hdata : D init.data data') :
    Bisimilar
      (StepOf mutexUse (Answers w) (serve w.json) fun endpoint =>
        ∃ endpoint', (shaped texts).Twins w.json endpoint endpoint')
      (StepOf mutexUse (Answers (w.over effect')) (serve w.json) fun endpoint' =>
        ∃ endpoint, (shaped texts).Twins w.json endpoint endpoint')
      (auditView : Server ι δ → AuditView ι) auditView { state := init }
      { state := init.before data' } := by
  obtain ⟨json, lib, config, effect⟩ := w
  refine Disguise.bisimilar json (shaped_sound htexts) hforth hback (fun _ _ h => h)
    (fun _ => Iff.rfl) (fun _ => Iff.rfl) (R := fun _ _ => True) (fun _ => trivial)
    (fun _ _ _ => trivial) (fun s t hbeside => ?_) ⟨rfl, rfl, hdata⟩
  have hserved : (fun i => (s.clients i).completed.length) =
      fun i => (t.clients i).completed.length :=
    funext fun i => (hbeside.clients i).completed.length_eq
  have hunderWay : (fun i => (s.clients i).running.map fun run => run.past.length) =
      fun i => (t.clients i).running.map fun run => run.past.length := by
    funext i
    cases hi : (s.clients i).running with
    | none => rw [(hbeside.clients i).idle hi]
    | some run =>
      obtain ⟨run', hi', hrun⟩ := (hbeside.clients i).under_way hi
      have hlength := hrun.calls.length_eq
      rw [List.length_map, List.length_map] at hlength
      rw [hi', Option.map_some, Option.map_some, hlength]
  simp only [auditView, hbeside.owner, hbeside.state.nextRequestId, hbeside.state.audit, hserved,
    hunderWay]

/-- The order of another customer, of another amount. -/
def otherText : Bytes := ascii "INSERT INTO orders (customer_id, amount) VALUES (8, 40.0)"

def readOrders (sql : Bytes) : Except Exception SQLParserResult :=
  if sql = orderText then libraryOf (.insert orderInsert) sql
  else libraryOf (.insert otherInsert) sql

theorem readOrders_literals : SameButLiterals readOrders orderText otherText := by
  have hne : otherText ≠ orderText := by decide +kernel
  have hfirst : readOrders orderText = libraryOf (.insert orderInsert) orderText := by
    rw [readOrders, if_pos rfl]
  have hsecond : readOrders otherText = libraryOf (.insert otherInsert) otherText := by
    rw [readOrders, if_neg hne]
  exact .inr ⟨[.insert orderInsert], [.insert otherInsert],
    ⟨by decide +kernel, _, hfirst, rfl, rfl⟩, ⟨by decide +kernel, _, hsecond, rfl, rfl⟩,
    .cons otherInsert_literals .nil⟩

/-- The data are the statements that were executed. -/
def orderBook : Wiring (List Bytes) where
  json := Compact.library .foreign
  hsqlParse := readOrders
  config := {}
  effect := fun sql rows answer rows' => answer = oneRow ∧ rows' = sql :: rows

theorem oneRow_sameShape : SameShape (translate oneRow) (translate oneRow) :=
  have hshaped := (translate_wellShaped oneRow).rectangular
  ⟨rfl, rfl, rfl, rfl, hshaped, hshaped⟩

theorem audit_file_blind_orders :
    Bisimilar
      (StepOf mutexUse (Answers orderBook) (serve orderBook.json) fun endpoint =>
        ∃ endpoint', (shaped fun sql sql' => sql = orderText ∧ sql' = otherText).Twins
          orderBook.json endpoint endpoint')
      (StepOf mutexUse (Answers (orderBook.over orderBook.effect)) (serve orderBook.json)
        fun endpoint' => ∃ endpoint, (shaped fun sql sql' => sql = orderText ∧
          sql' = otherText).Twins orderBook.json endpoint endpoint')
      (auditView : Server Bool (List Bytes) → AuditView Bool) auditView
      { state := .opened true [] [orderText] }
      { state := (Stack.opened true [] [orderText]).before [otherText] } := by
  refine audit_file_blind orderBook orderBook.effect
    (fun sql sql' => sql = orderText ∧ sql' = otherText)
    (fun rows rows' => rows.length = rows'.length) (.opened true [] [orderText]) [otherText]
    ?_ ?_ ?_ (by simp [Stack.opened])
  · rintro sql sql' ⟨rfl, rfl⟩
    exact readOrders_literals
  · rintro sql sql' rows rows' answer view - h ⟨rfl, rfl⟩
    exact ⟨oneRow, sql' :: rows', ⟨rfl, rfl⟩, congrArg (· + 1) h, fun _ => oneRow_sameShape⟩
  · rintro sql' sql rows' rows answer view - h ⟨rfl, rfl⟩
    exact ⟨oneRow, sql :: rows, ⟨rfl, rfl⟩, congrArg (· + 1) h, fun _ => oneRow_sameShape⟩

end SqlProxy.Deployment
