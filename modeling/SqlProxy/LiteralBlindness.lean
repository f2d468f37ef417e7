import SqlProxy.Authorization
import SqlProxy.JsonlAudit

/-! Two requests that differ in their literals, and in the cells and error texts the
database answers: the policy decides them alike, and their audit lines differ in the
timestamp and the request id alone. The literals of clauses that the adapter never reads
(WHERE, ON, SET, LIMIT, a subquery) are no part of the tree it is given, so trees that
differ there are one tree here. -/
namespace SqlProxy
open ByteText Json Hsql HyriseAdapter ProxyService PiiMasker

namespace Hsql

/-- The literals with a payload: a text or a number. -/
def ExprType.hasPayload : ExprType → Bool
  | .literalFloat | .literalString | .literalInt | .literalDate | .literalInterval => true
  | _ => false

/-- Expressions that differ in the payloads of literals, at any depth. -/
inductive Expr.SameButLiterals : Expr → Expr → Prop where
  | same (e : Expr) : SameButLiterals e e
  | literal (e : Expr) (name : Option Bytes) (ival : Int) (fval : Double)
      (hpayload : e.type.hasPayload = true) :
      SameButLiterals e { e with name := name, ival := ival, fval := fval }
  | arguments (e : Expr) {list list' : List (Option Expr)} (hlist : e.exprList = some list)
      (h : List.Forall₂ (Option.Rel SameButLiterals) list list') :
      SameButLiterals e { e with exprList := some list' }

/-- The same for a value of an INSERT, where a number stays positive or stays not. -/
structure Expr.SameButValue (e e' : Expr) : Prop where
  literals : e.SameButLiterals e'
  integer : e.type = .literalInt → (0 < e.ival ↔ 0 < e'.ival)
  decimal : e.type = .literalFloat → e.fval.positive = e'.fval.positive

inductive SQLStatement.SameButLiterals : SQLStatement → SQLStatement → Prop where
  | same (stmt : SQLStatement) : SameButLiterals stmt stmt
  | select (stmt : SelectStatement) {list list' : List (Option Expr)}
      (hlist : stmt.selectList = some list)
      (h : List.Forall₂ (Option.Rel Expr.SameButLiterals) list list') :
      SameButLiterals (.select stmt) (.select { stmt with selectList := some list' })
  | insert (stmt : InsertStatement) {values values' : List (Option Expr)}
      (hvalues : stmt.values = some values)
      (h : List.Forall₂ (Option.Rel Expr.SameButValue) values values') :
      SameButLiterals (.insert stmt) (.insert { stmt with values := some values' })

end Hsql

theorem map_eq_of_forall₂ {α β : Type} {R : α → α → Prop} {f : α → β} {l l' : List α}
    (h : List.Forall₂ R l l') (hf : ∀ a b, R a b → f b = f a) : l'.map f = l.map f := by
  induction h with
  | nil => rfl
  | cons hab _ ih => rw [List.map_cons, List.map_cons, hf _ _ hab, ih]

section Adapter
variable {e e' : Expr}

theorem type_literals (h : e.SameButLiterals e') : e'.type = e.type := by
  cases h <;> rfl

/-- Of its arguments, only the type of the first tells whether a call is COUNT(*). -/
theorem isCountStar_literals (h : e.SameButLiterals e') : isCountStar e' = isCountStar e := by
  cases h with
  | same => rfl
  | literal e name ival fval hpayload =>
    have hfunction : e.type ≠ .functionRef := by
      intro ht
      simp [ht, ExprType.hasPayload] at hpayload
    simp [isCountStar, hfunction]
  | arguments e hlist h =>
    simp only [isCountStar, hlist]
    cases h with
    | nil => rfl
    | cons hfirst hrest =>
      cases hrest with
      | cons => simp
      | nil =>
        cases hfirst with
        | none => rfl
        | some hargument => simp [type_literals hargument]

theorem entryKind_literals {entry entry' : Option Expr}
    (h : Option.Rel Expr.SameButLiterals entry entry') : entryKind entry' = entryKind entry := by
  cases h with
  | none => rfl
  | some he => simp only [entryKind, type_literals he, isCountStar_literals he]

theorem entrySpelling_literals {entry entry' : Option Expr}
    (h : Option.Rel Expr.SameButLiterals entry entry') :
    entrySpelling entry' = entrySpelling entry := by
  cases h with
  | none => rfl
  | @some e e' he =>
    cases he with
    | same => rfl
    | arguments => rfl
    | literal e name ival fval hpayload =>
      have hcolumn : e.type ≠ .columnRef := by
        intro ht
        simp [ht, ExprType.hasPayload] at hpayload
      simp [entrySpelling, hcolumn]

theorem valueKind_literals {value value' : Option Expr}
    (h : Option.Rel Expr.SameButValue value value') : valueKind value' = valueKind value := by
  cases h with
  | none => rfl
  | @some e e' he =>
    simp only [valueKind, classifyInsertValue, type_literals he.literals]
    cases ht : e.type with
    | literalInt => simp only [gt_iff_lt, he.integer ht]
    | literalFloat => simp only [he.decimal ht]
    | _ => rfl

theorem translateSelect_literals (stmt : SelectStatement) {list list' : List (Option Expr)}
    (hlist : stmt.selectList = some list)
    (h : List.Forall₂ (Option.Rel Expr.SameButLiterals) list list') :
    translateSelect { stmt with selectList := some list' } {} = translateSelect stmt {} := by
  have hkinds := map_eq_of_forall₂ h fun _ _ => entryKind_literals
  have hspellings := map_eq_of_forall₂ h fun _ _ => entrySpelling_literals
  have hany (kind : EntryKind) : (list'.any fun e => entryKind e = kind) =
      list.any fun e => entryKind e = kind := by
    have hkind := congrArg (fun kinds => kinds.any fun k => k = kind) hkinds
    simpa only [List.any_map, Function.comp_def] using hkind
  have hmap : list'.filterMap entrySpelling = list.filterMap entrySpelling := by
    have hspelled := congrArg (fun spellings => spellings.filterMap id) hspellings
    simpa only [List.filterMap_map, Function.id_comp] using hspelled
  simp only [translateSelect_eq, SelectStatement.entries, hlist, Option.getD_some, hany, hmap]
  rfl

theorem translateInsert_literals (stmt : InsertStatement) {values values' : List (Option Expr)}
    (hvalues : stmt.values = some values)
    (h : List.Forall₂ (Option.Rel Expr.SameButValue) values values') :
    translateInsert { stmt with values := some values' } {} = translateInsert stmt {} := by
  have hkinds := map_eq_of_forall₂ h fun _ _ => valueKind_literals
  simp only [translateInsert_eq, hvalues, Option.getD_some, hkinds]

/-- The adapter hands on nothing of a literal but its kind. -/
theorem translateStatement_literals {stmt stmt' : SQLStatement} (h : stmt.SameButLiterals stmt') :
    translateStatement stmt' = translateStatement stmt := by
  cases h with
  | same => rfl
  | select stmt hlist h => exact translateSelect_literals stmt hlist h
  | insert stmt hvalues h => exact translateInsert_literals stmt hvalues h

end Adapter

/-- The same record, of another request at another time. -/
def AuditRecord.restamped (timestampMs : Int) (requestId : UInt64) (record : AuditRecord) :
    AuditRecord :=
  { record with timestampMs := timestampMs, requestId := requestId }

namespace AuditRecord
variable (timestampMs timestampMs' : Int) (requestId requestId' : UInt64)

/-- A factory checks its details without a look at the time or the request id. -/
theorem checked_restamped {p : Prop} (check : Except Exception (PLift p)) {details : Details}
    (tables : List Bytes) (h : p → details.Admissible) :
    (check.bind fun held => .ok (construct timestampMs' requestId' details tables (h held.down))) =
      (check.bind fun held => .ok (construct timestampMs requestId details tables
        (h held.down))).map (restamped timestampMs' requestId') := by
  cases check <;> rfl

theorem success_restamped (d : SuccessDetails) (tables : List Bytes) :
    success timestampMs' requestId' d tables =
      (success timestampMs requestId d tables).map (restamped timestampMs' requestId') :=
  checked_restamped _ _ _ _ (requireSelect d.statementType (ascii "success")) tables id

theorem writeSuccess_restamped (d : WriteSuccessDetails) (tables : List Bytes) :
    writeSuccess timestampMs' requestId' d tables =
      (writeSuccess timestampMs requestId d tables).map (restamped timestampMs' requestId') :=
  checked_restamped _ _ _ _ (requireInsert d.statementType (ascii "write_success")) tables id

theorem databaseFailure_restamped (d : DatabaseFailureDetails) (tables : List Bytes) :
    databaseFailure timestampMs' requestId' d tables =
      (databaseFailure timestampMs requestId d tables).map
        (restamped timestampMs' requestId') :=
  checked_restamped _ _ _ _
    (requireSelectOrInsert d.statementType (ascii "database_failure")) tables id

theorem maskingRefused_restamped (d : MaskingRefusedDetails) (tables : List Bytes) :
    maskingRefused timestampMs' requestId' d tables =
      (maskingRefused timestampMs requestId d tables).map
        (restamped timestampMs' requestId') :=
  checked_restamped _ _ _ _ (requireSelect d.statementType (ascii "masking_refused")) tables id

theorem policyRejected_restamped (d : PolicyRejectedDetails) (tables : List Bytes) :
    policyRejected timestampMs' requestId' d tables =
      (policyRejected timestampMs requestId d tables).map
        (restamped timestampMs' requestId') := by
  unfold policyRejected
  split_ifs <;> rfl

end AuditRecord

/-- Results that agree in what the audit may tell of them. Their cells, how many rows of
them there are and their error texts are free. -/
structure SameShape (r r' : ExecutionResult) : Prop where
  status : r.status = r'.status
  columns : r.columns = r'.columns
  rowCount : r.rowCount = r'.rowCount
  affectedRows : r.affectedRows = r'.affectedRows
  rectangular : Rectangular r
  rectangular' : Rectangular r'

/-- An executor that throws may throw anything. -/
inductive SameShapeAnswers :
    Except Exception ExecutionResult → Except Exception ExecutionResult → Prop where
  | returned {r r' : ExecutionResult} (h : SameShape r r') : SameShapeAnswers (.ok r) (.ok r')
  | threw (e e' : Exception) : SameShapeAnswers (.error e) (.error e')

namespace ProxyService
open AuditRecord
variable (timestampMs timestampMs' : Int) (requestId requestId' : UInt64)
  (analysis : SqlAnalysis) {r r' : ExecutionResult}

/-- Two stages of the pipeline that end in the same record, but for time and request id. -/
def SameRecord (made made' : Except Exception Processing) : Prop :=
  made'.map Processing.record =
    (made.map Processing.record).map (restamped timestampMs' requestId')

theorem deny_restamped (reason : RejectReason) :
    SameRecord timestampMs' requestId' (deny timestampMs requestId analysis reason)
      (deny timestampMs' requestId' analysis reason) := by
  unfold SameRecord deny
  split_ifs with hreason
  · rfl
  · cases checkedCount analysis.statementCount (ascii "statement_count") with
    | error e => rfl
    | ok count =>
      simp only [bind, Except.bind, policyRejected_restamped timestampMs timestampMs' requestId]
      cases policyRejected timestampMs requestId
        { reason := reason, statementType := analysis.statementType, statementCount := count }
        analysis.tables <;> rfl

theorem databaseFailed_restamped (status : ExecutionStatus) :
    SameRecord timestampMs' requestId' (databaseFailed timestampMs requestId analysis status)
      (databaseFailed timestampMs' requestId' analysis status) := by
  unfold SameRecord databaseFailed
  simp only [bind, Except.bind, databaseFailure_restamped timestampMs timestampMs' requestId]
  cases databaseFailure timestampMs requestId _ analysis.tables <;> rfl

theorem wrote_restamped (h : SameShape r r') :
    SameRecord timestampMs' requestId' (wrote timestampMs requestId analysis r)
      (wrote timestampMs' requestId' analysis r') := by
  unfold SameRecord wrote
  rw [← h.affectedRows]
  cases checkedCount r.affectedRows (ascii "affected_rows") with
  | error e => rfl
  | ok affected =>
    simp only [bind, Except.bind, writeSuccess_restamped timestampMs timestampMs' requestId]
    split_ifs
    · rfl
    · cases writeSuccess timestampMs requestId _ analysis.tables <;> rfl

/-- Of two rectangular results under one column list the masker refuses both or neither. -/
theorem read_restamped (h : SameShape r r') :
    SameRecord timestampMs' requestId' (read timestampMs requestId analysis r)
      (read timestampMs' requestId' analysis r') := by
  have hmask := mask_classify classifier analysis r
  have hmask' := mask_classify classifier analysis r'
  rw [← h.columns] at hmask'
  simp only [h.rectangular, h.rectangular', not_true_eq_false, if_false] at hmask hmask'
  unfold SameRecord read
  rw [← h.rowCount, ← h.columns]
  cases checkedCount r.rowCount (ascii "row_count") with
  | error e => rfl
  | ok rowCount =>
    simp only [bind, Except.bind, hmask, hmask']
    cases (classifier.classify analysis r.columns).fullyAttributed with
    | true =>
      simp only [if_true, success_restamped timestampMs timestampMs' requestId]
      cases success timestampMs requestId _ analysis.tables <;> rfl
    | false =>
      simp only [Bool.false_eq_true, if_false,
        maskingRefused_restamped timestampMs timestampMs' requestId]
      cases maskingRefused timestampMs requestId _ analysis.tables <;> rfl

theorem conclude_restamped (h : SameShape r r') :
    SameRecord timestampMs' requestId' (conclude timestampMs requestId analysis r)
      (conclude timestampMs' requestId' analysis r') := by
  unfold conclude
  rw [← h.status]
  split_ifs
  · exact databaseFailed_restamped timestampMs timestampMs' requestId requestId' analysis r.status
  · exact wrote_restamped timestampMs timestampMs' requestId requestId' analysis h
  · exact read_restamped timestampMs timestampMs' requestId requestId' analysis h

end ProxyService

namespace Environment
variable {env env' : Environment} {sql sql' : Bytes} {a : SqlAnalysis}

/-- What the catch-all makes of an exception keeps the records alike. -/
theorem record_of_sameRecord
    (h : SameRecord env'.now env'.requestId (env.processed sql) (env'.processed sql')) :
    (env'.processing sql').record =
      (env.processing sql).record.restamped env'.now env'.requestId := by
  unfold SameRecord at h
  unfold processing
  cases hp : env.processed sql with
  | error e =>
    cases hp' : env'.processed sql' with
    | error e' => rfl
    | ok made => simp [hp, hp', Except.map] at h
  | ok made =>
    cases hp' : env'.processed sql' with
    | error e' => simp [hp, hp', Except.map] at h
    | ok made' =>
      rw [hp, hp'] at h
      exact Except.ok.inj h

/-- Two requests of one analysis, with answers of one shape, are recorded alike. -/
theorem record_restamped (h : env.analysis sql = .ok a) (h' : env'.analysis sql' = .ok a)
    (hanswers : (PolicyEngine.evaluate a).allowed = true →
      SameShapeAnswers (env.execute sql) (env'.execute sql')) :
    (env'.processing sql').record =
      (env.processing sql).record.restamped env'.now env'.requestId := by
  cases ha : (PolicyEngine.evaluate a).allowed with
  | false =>
    apply record_of_sameRecord
    rw [processed_denied h ha, processed_denied h' ha]
    exact deny_restamped env.now env'.now env.requestId env'.requestId a _
  | true =>
    have hp := processed_allowed h ha
    have hp' := processed_allowed h' ha
    have hanswered := hanswers ha
    revert hp hp'
    generalize env.execute sql = answer at hanswered
    generalize env'.execute sql' = answer' at hanswered
    intro hp hp'
    cases hanswered with
    | threw e e' =>
      rw [processing_of_error hp, processing_of_error hp']
      rfl
    | returned hshape =>
      apply record_of_sameRecord
      rw [hp, hp']
      exact conclude_restamped env.now env'.now env.requestId env'.requestId a hshape

end Environment

/-- The fields of a record that tell when and for which request it was written. -/
def stampKeys : List Bytes := [ascii "timestamp", ascii "request_id"]

theorem serialize_restamped (timestampMs : Int) (requestId : UInt64) (record : AuditRecord) :
    (serialize (record.restamped timestampMs requestId)).without stampKeys =
      (serialize record).without stampKeys := by
  have henvelope : keepFields (fun key => !stampKeys.contains key)
      (envelopeFields (record.restamped timestampMs requestId)) =
      keepFields (fun key => !stampKeys.contains key) (envelopeFields record) := by
    have htimestamp : stampKeys.contains (ascii "timestamp") = true := by decide
    have hrequest : stampKeys.contains (ascii "request_id") = true := by decide
    simp only [envelopeFields, keepFields_cons, htimestamp, hrequest, Bool.not_true,
      Bool.false_eq_true, if_false]
    rfl
  simp only [serialize, without, keepFields_setFields keysSorted_nil, keepFields_append,
    henvelope]
  rfl

/-- Requests whose statements differ in literals, and whose results differ in cells and error
texts, are decided alike, and their audit lines differ in the two stamps alone. -/
theorem audit_literal_blind (lib : Bytes → Except Exception SQLParserResult)
    (env env' : Environment) (sql sql' : Bytes) {stmts stmts' : List SQLStatement}
    (h : Submitted lib sql stmts) (h' : Submitted lib sql' stmts')
    (hliterals : List.Forall₂ SQLStatement.SameButLiterals stmts stmts')
    (hanswers : Authorized stmts → SameShapeAnswers (env.execute sql) (env'.execute sql')) :
    (∃ decision,
      ((env.adapted lib).analysis sql).map PolicyEngine.evaluate = .ok decision ∧
      ((env'.adapted lib).analysis sql').map PolicyEngine.evaluate = .ok decision) ∧
    ∃ record record' reply reply',
      appends ((env.adapted lib).events sql) = [(record, reply)] ∧
      appends ((env'.adapted lib).events sql') = [(record', reply')] ∧
      record' = record.restamped env'.now env'.requestId ∧
      (serialize record').without stampKeys = (serialize record).without stampKeys := by
  have htranslated : stmts'.map translateStatement = stmts.map translateStatement :=
    map_eq_of_forall₂ hliterals fun _ _ => translateStatement_literals
  have hanalysis : (env.adapted lib).analysis sql = .ok (SqlAnalyzer.analyzeParsed
      { success := true, statements := stmts.map translateStatement }) := analysis_submitted h
  have hanalysis' : (env'.adapted lib).analysis sql' = .ok (SqlAnalyzer.analyzeParsed
      { success := true, statements := stmts.map translateStatement }) := by
    rw [← htranslated]
    exact analysis_submitted h'
  have hrecord := Environment.record_restamped hanalysis hanalysis'
    fun hallowed => hanswers ((decided_iff stmts).mp hallowed)
  refine ⟨⟨_, congrArg _ hanalysis, congrArg _ hanalysis'⟩, _, _, _, _,
    Environment.appends_events _ sql, Environment.appends_events _ sql', hrecord, ?_⟩
  rw [hrecord]
  exact serialize_restamped _ _ _

/-- `INSERT INTO orders (customer_id, amount) VALUES (8, 40.0)`. -/
def otherInsert : InsertStatement :=
  { orderInsert with
    values := some [some { type := .literalInt, ival := 8 },
      some { type := .literalFloat, fval := .finite 40 }] }

theorem otherInsert_literals :
    SQLStatement.SameButLiterals (.insert orderInsert) (.insert otherInsert) := by
  have hamount : (Double.finite (25 / 2)).positive = true := decide_eq_true (by norm_num)
  have hother : (Double.finite 40).positive = true := rfl
  have hinteger : Expr.SameButValue { type := .literalInt, ival := 7 }
      { type := .literalInt, ival := 8 } :=
    ⟨.literal _ none 8 (.finite 0) rfl, fun _ => by decide, fun ht => by cases ht⟩
  have hdecimal : Expr.SameButValue { type := .literalFloat, fval := .finite (25 / 2) }
      { type := .literalFloat, fval := .finite 40 } :=
    ⟨.literal _ none 0 (.finite 40) rfl, fun ht => (by cases ht), fun _ => hamount.trans hother.symm⟩
  exact .insert orderInsert rfl (.cons (.some hinteger) (.cons (.some hdecimal) .nil))

/-- Two texts, read as the two inserts. -/
def twoInserts (sql : Bytes) : Except Exception SQLParserResult :=
  if sql = ascii "x" then libraryOf (.insert orderInsert) sql
  else libraryOf (.insert otherInsert) sql

/-- A database that refuses a row, and tells its value. -/
def refusing (requestId : UInt64) (value : Bytes) : Environment :=
  { answering { status := .executionFailure, error := ascii "duplicate " ++ value } with
    requestId := requestId }

theorem audit_literal_blind_insert :
    (∃ decision,
      (((refusing 1 (ascii "7")).adapted twoInserts).analysis (ascii "x")).map
        PolicyEngine.evaluate = .ok decision ∧
      (((refusing 2 (ascii "8")).adapted twoInserts).analysis (ascii "y")).map
        PolicyEngine.evaluate = .ok decision) ∧
    ∃ record record' reply reply',
      appends (((refusing 1 (ascii "7")).adapted twoInserts).events (ascii "x")) =
        [(record, reply)] ∧
      appends (((refusing 2 (ascii "8")).adapted twoInserts).events (ascii "y")) =
        [(record', reply')] ∧
      record' = record.restamped 0 2 ∧
      (serialize record').without stampKeys = (serialize record).without stampKeys :=
  audit_literal_blind twoInserts (refusing 1 (ascii "7")) (refusing 2 (ascii "8"))
    (ascii "x") (ascii "y") ⟨by decide, _, rfl, rfl, rfl⟩ ⟨by decide, _, rfl, rfl, rfl⟩
    (.cons otherInsert_literals .nil)
    fun _ => .returned ⟨rfl, rfl, rfl, rfl, List.forall_mem_nil _, List.forall_mem_nil _⟩

end SqlProxy
