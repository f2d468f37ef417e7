import SqlProxy.Outcomes

/-! What a failed request leaves in the database. The executor commits inside its own
call, so a failure found after that call cannot undo the write: the failures that may
follow a commit are listed here, and every other failure leaves the database alone. -/
namespace SqlProxy
open ByteText ProxyService PiiMasker

/-- An executor over database states. A change is committed only under status Ok. -/
structure Database (δ : Type) where
  step : Bytes → δ → Except Exception ExecutionResult × δ
  uncommitted : ∀ sql d, (∀ r, (step sql d).1 = .ok r → r.status ≠ .ok) → (step sql d).2 = d

variable {δ : Type}

/-- The service in front of a database in state `d`. -/
def Environment.over (env : Environment) (db : Database δ) (d : δ) : Environment :=
  { env with execute := fun sql => (db.step sql d).1 }

/-- The state after the statements that a trace gave to the executor. -/
def Database.after (db : Database δ) (d : δ) (es : List ServiceEvent) : δ :=
  (executions es).foldl (fun d e => (db.step e.1 d).2) d

/-- The failures that can stand in front of a committed statement. -/
inductive LateFailure (env : Environment) (sql : Bytes) : ServiceFailure → Prop where
  | insert {a : SqlAnalysis} {r : ExecutionResult} (h : env.analysis sql = .ok a)
      (ht : a.statementType = .insert) (hx : env.execute sql = .ok r) (hs : r.status = .ok)
      (hn : r.affectedRows ≠ 1 ∨ env.appended sql ≠ .ok) : LateFailure env sql .internalError
  | refused {a : SqlAnalysis} {r : ExecutionResult} (h : env.analysis sql = .ok a)
      (ht : a.statementType = .select) (hx : env.execute sql = .ok r) (hs : r.status = .ok) :
      LateFailure env sql .maskingRefused
  | select {a : SqlAnalysis} {r : ExecutionResult} (h : env.analysis sql = .ok a)
      (ht : a.statementType = .select) (hx : env.execute sql = .ok r) (hs : r.status = .ok)
      (hn : r.rowCount < 0 ∨ ¬ Rectangular r ∨ env.appended sql ≠ .ok) :
      LateFailure env sql .internalError

section After
variable {env : Environment} {db : Database δ} {d : δ} {sql : Bytes}

theorem after_error {e : Exception} (h : (env.over db d).analysis sql = .error e) :
    db.after d ((env.over db d).events sql) = d := by
  rw [Database.after, Environment.executions_events, h]
  rfl

theorem after_denied {a : SqlAnalysis} (h : (env.over db d).analysis sql = .ok a)
    (hd : (PolicyEngine.evaluate a).allowed = false) :
    db.after d ((env.over db d).events sql) = d := by
  rw [Database.after, Environment.executions_events, h]
  simp only [hd, Bool.false_eq_true, if_false]
  rfl

theorem after_allowed {a : SqlAnalysis} (h : (env.over db d).analysis sql = .ok a)
    (ha : (PolicyEngine.evaluate a).allowed = true) :
    db.after d ((env.over db d).events sql) = (db.step sql d).2 := by
  rw [Database.after, Environment.executions_events, h]
  simp only [ha, if_true]
  rfl

theorem after_uncommitted {a : SqlAnalysis} (h : (env.over db d).analysis sql = .ok a)
    (ha : (PolicyEngine.evaluate a).allowed = true)
    (hu : ∀ r, (env.over db d).execute sql = .ok r → r.status ≠ .ok) :
    db.after d ((env.over db d).events sql) = d := by
  rw [after_allowed h ha]
  exact db.uncommitted sql d hu

theorem answer_failure {result : ServiceResult} {appended : AuditAppendResult}
    {failure : ServiceFailure} (h : answer result appended = .failure failure) :
    result = .failure failure ∨
      result.succeeded = true ∧ appended ≠ .ok ∧ failure = .internalError := by
  unfold answer at h
  split at h
  · next hc =>
    simp only [Bool.and_eq_true, decide_eq_true_eq] at hc
    cases h
    exact .inr ⟨hc.2, hc.1, rfl⟩
  · exact .inl h

end After

/-- A failed request left the database unchanged, or its statement was committed before
the failure was found. -/
theorem failure_uncommitted_or_late (env : Environment) (db : Database δ) (d : δ) (sql : Bytes)
    (failure : ServiceFailure) (h : (env.over db d).handled sql = .ok (.failure failure)) :
    db.after d ((env.over db d).events sql) = d ∨ LateFailure (env.over db d) sql failure := by
  rw [Environment.handled_eq, Except.ok.injEq] at h
  have hanswer := answer_failure h
  clear h
  have hout := Environment.processing_outcome (env.over db d) sql
  generalize (env.over db d).processing sql = p at hout hanswer
  cases hout with
  | unparseable h hd =>
    left
    apply after_denied h
    rw [hd]
    rfl
  | denied h hd hc hr => exact .inl (after_denied h hd)
  | databaseFailed h ha hx hs ht =>
    left
    apply after_uncommitted h ha
    intro r hr
    rw [hx] at hr
    cases hr
    exact hs
  | wrote h ha hx hs ht hn =>
    rcases hanswer with hr | ⟨-, happ, rfl⟩
    · cases hr
    · exact .inr (.insert h ht hx hs (.inr happ))
  | refused h ha hx hs ht hn hr hf =>
    rcases hanswer with hres | ⟨hsucc, -, -⟩
    · cases hres
      exact .inr (.refused h ht hx hs)
    · cases hsucc
  | released h ha hx hs ht hn hr hf =>
    rcases hanswer with hres | ⟨-, happ, rfl⟩
    · cases hres
    · exact .inr (.select h ht hx hs (.inr (.inr happ)))
  | internal hf =>
    have hfailure : failure = .internalError := by
      rcases hanswer with hres | ⟨hsucc, -, -⟩
      · cases hres
        rfl
      · cases hsucc
    subst hfailure
    cases hf with
    | parserThrew hb hp =>
      left
      have herr : (env.over db d).analysis sql =
          ((env.over db d).parse sql).map SqlAnalyzer.analyzeParsed :=
        Environment.analysis_parse hb
      rw [hp] at herr
      exact after_error herr
    | executorThrew h ha hx =>
      left
      apply after_uncommitted h ha
      intro r hr
      rw [hx] at hr
      cases hr
    | affectedRows h ha hx hs ht hn => exact .inr (.insert h ht hx hs (.inl hn))
    | rowCount h ha hx hs ht hn => exact .inr (.select h ht hx hs (.inl hn))
    | raggedRow h ha hx hs ht hr => exact .inr (.select h ht hx hs (.inr (.inl hr)))
  | miscounted h hn =>
    left
    apply after_denied h
    rw [Bool.eq_false_iff]
    intro ha
    have hone := (PolicyEngine.evaluate_allowed.mp ha).2.1
    omega

/-- A table of orders, as the number of its rows. -/
def orderTable : Database Nat where
  step := fun _ n => (.ok { status := .ok, affectedRows := 1 }, n + 1)
  uncommitted := by
    intro sql n h
    exact absurd rfl (h _ rfl)

/-- `INSERT INTO orders (customer_id, amount) VALUES (7, 12)`, with a full audit disk. -/
def unauditedInsert : Environment where
  now := 0
  requestId := 0
  parse := fun _ => .ok { success := true, statements :=
    [{ type := .insert
       tables := [⟨[], ascii "orders"⟩]
       affectedColumns := [ascii "customer_id", ascii "amount"]
       insertSource := .values
       insertValueKinds := [.positiveIntegerLiteral, .positiveIntegerLiteral] }] }
  execute := fun _ => .error .foreign
  append := fun _ => .ok .writeFailure

/-- An order stays in the database although the client was told that it failed. -/
theorem failure_after_commit :
    ¬ ∀ (env : Environment) (db : Database Nat) (d : Nat) (sql : Bytes)
        (failure : ServiceFailure), (env.over db d).handled sql = .ok (.failure failure) →
      db.after d ((env.over db d).events sql) = d := by
  intro h
  have hfail : (unauditedInsert.over orderTable 0).handled (ascii "x") =
      .ok (.failure .internalError) := by decide
  have hafter : orderTable.after 0 ((unauditedInsert.over orderTable 0).events (ascii "x")) = 1 := by
    decide
  have hsame := h unauditedInsert orderTable 0 (ascii "x") .internalError hfail
  rw [hafter] at hsame
  cases hsame

theorem failure_uncommitted_or_late_insert :
    orderTable.after 0 ((unauditedInsert.over orderTable 0).events (ascii "x")) = 0 ∨
      LateFailure (unauditedInsert.over orderTable 0) (ascii "x") .internalError :=
  failure_uncommitted_or_late unauditedInsert orderTable 0 (ascii "x") .internalError (by decide)

end SqlProxy
