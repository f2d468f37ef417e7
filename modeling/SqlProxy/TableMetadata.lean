import SqlProxy.Authorization

/-! What an audit record says of the tables of a request: all of their names, that they
were left out, or nothing. The client is told the same in each case. -/
namespace SqlProxy
open ByteText Hsql HyriseAdapter ProxyService PiiMasker

/-- The names of the tables of a statement, in order and each once. -/
def tableNames (stmt : ParsedStatement) : List Bytes :=
  (stmt.tables.map SqlAnalyzer.qualifiedName).eraseDups

/-- The parser made one statement of the text, so its analysis is Ok. -/
structure Analyzed (env : Environment) (sql : Bytes) (stmt : ParsedStatement) : Prop where
  notBlank : SqlAnalyzer.isBlank sql = false
  parsed : ∃ error, env.parse sql = .ok { success := true, statements := [stmt], error := error }

/-- Neither a parsing failure nor an internal one. -/
def Detailed (record : AuditRecord) : Prop :=
  record.outcome ≠ .parsingFailure ∧ record.outcome ≠ .internalFailure

/-- The leaves of the FROM tree, rendered, left to right. -/
theorem tableNames_select (stmt : SelectStatement) :
    tableNames (translateStatement (.select stmt)) =
      ((fromTables stmt.fromTable).map SqlAnalyzer.qualifiedName).eraseDups := by
  rw [tableNames, translateStatement, translateSelect_eq]

/-- What the adapter hands over is analyzed. -/
theorem analyzed_submitted {lib : Bytes → Except Exception SQLParserResult} {sql : Bytes}
    {stmt : SQLStatement} (h : Submitted lib sql [stmt]) (env : Environment) :
    Analyzed (env.adapted lib) sql (translateStatement stmt) := by
  obtain ⟨hb, result, hl, hv, hstmts⟩ := h
  have hparse : (env.adapted lib).parse sql = .ok
      { success := true, statements := (result.statements.filterMap id).map translateStatement } := by
    simp [Environment.adapted, HyriseAdapter.parse, hl, hv]
  refine ⟨hb, [], ?_⟩
  rw [hparse, hstmts]
  rfl

section Metadata
variable {env : Environment} {sql : Bytes}

theorem Analyzed.analysis {stmt : ParsedStatement} (h : Analyzed env sql stmt) :
    ∃ a, env.analysis sql = .ok a ∧ a.status = .ok ∧ a.tables = tableNames stmt := by
  obtain ⟨hb, error, hp⟩ := h
  refine ⟨SqlAnalyzer.analyzeParsed { success := true, statements := [stmt], error := error },
    ?_, ?_⟩
  · rw [Environment.analysis_parse hb, hp]
    rfl
  · rw [SqlAnalyzer.analyzeParsed_one]
    exact ⟨rfl, SqlAnalyzer.normalizedTables_eq_eraseDups stmt.tables⟩

/-- No other analysis is Ok, or names a table. -/
theorem analyzed_of_status {a : SqlAnalysis} (h : env.analysis sql = .ok a) :
    (a.status = .ok ∧ ∃ stmt, Analyzed env sql stmt) ∨ (a.status ≠ .ok ∧ a.tables = []) := by
  cases hb : SqlAnalyzer.isBlank sql with
  | true =>
    rw [Environment.analysis_blank hb] at h
    cases h
    exact .inr ⟨by simp, rfl⟩
  | false =>
    rw [Environment.analysis_parse hb] at h
    cases hp : env.parse sql with
    | error e => simp [hp, Except.map] at h
    | ok parsed =>
      rw [hp] at h
      cases h
      obtain ⟨success, statements, error⟩ := parsed
      cases success with
      | false => exact .inr (by simp [SqlAnalyzer.analyzeParsed])
      | true =>
        cases statements with
        | nil => exact .inr (by simp [SqlAnalyzer.analyzeParsed])
        | cons stmt rest =>
          cases rest with
          | nil => exact .inl ⟨by simp [SqlAnalyzer.analyzeParsed], stmt, hb, error, hp⟩
          | cons _ _ => exact .inr (by simp [SqlAnalyzer.analyzeParsed])

/-- Each way out of the pipeline records the tables of the analysis, or none. -/
theorem Outcome.tables {p : Processing} (h : Outcome env sql p) :
    (Detailed p.record ∧ ∃ a, env.analysis sql = .ok a ∧
      p.record.referencedTables = classifyTables a.tables) ∨
    (¬ Detailed p.record ∧ p.record.referencedTables = classifyTables []) := by
  cases h with
  | unparseable h hd => exact .inr ⟨fun hd => hd.1 rfl, rfl⟩
  | denied h hd hc hr => exact .inl ⟨⟨nofun, nofun⟩, _, h, rfl⟩
  | databaseFailed h ha hx hs ht => exact .inl ⟨⟨nofun, nofun⟩, _, h, rfl⟩
  | wrote h ha hx hs ht hn => exact .inl ⟨⟨nofun, nofun⟩, _, h, rfl⟩
  | refused h ha hx hs ht hn hr hf => exact .inl ⟨⟨nofun, nofun⟩, _, h, rfl⟩
  | released h ha hx hs ht hn hr hf => exact .inl ⟨⟨nofun, nofun⟩, _, h, rfl⟩
  | internal hf => exact .inr ⟨fun hd => hd.2 rfl, rfl⟩
  | miscounted h hn => exact .inr ⟨fun hd => hd.2 rfl, rfl⟩

/-- The names a record was made from: those of the one statement, where there is one and
the record has details. -/
theorem recorded_names (env : Environment) (sql : Bytes) :
    ∃ names, (env.processing sql).record.referencedTables = classifyTables names ∧
      (names ≠ [] → Detailed (env.processing sql).record ∧
        ∃ stmt, Analyzed env sql stmt ∧ tableNames stmt = names) ∧
      ∀ stmt, Analyzed env sql stmt → Detailed (env.processing sql).record →
        tableNames stmt = names := by
  obtain ⟨hd, a, ha, hrecord⟩ | ⟨hd, hrecord⟩ := (Environment.processing_outcome env sql).tables
  · have hnames : ∀ stmt, Analyzed env sql stmt → tableNames stmt = a.tables := by
      intro stmt hstmt
      obtain ⟨a', ha', -, htables⟩ := hstmt.analysis
      rw [ha] at ha'
      cases ha'
      exact htables.symm
    refine ⟨a.tables, hrecord, ?_, fun stmt hstmt _ => hnames stmt hstmt⟩
    intro hne
    obtain ⟨-, stmt, hstmt⟩ | ⟨-, hempty⟩ := analyzed_of_status ha
    · exact ⟨hd, stmt, hstmt, hnames stmt hstmt⟩
    · exact absurd hempty hne
  · exact ⟨[], hrecord, fun h => absurd rfl h, fun _ _ hd' => absurd hd' hd⟩

variable (env sql)

theorem present_iff (tables : List Bytes) :
    (env.processing sql).record.referencedTables = { state := .present, tables := tables } ↔
      ∃ stmt, Analyzed env sql stmt ∧ tables = tableNames stmt ∧ Auditable tables ∧
        Detailed (env.processing sql).record := by
  obtain ⟨names, hrecord, hsome, hall⟩ := recorded_names env sql
  rw [hrecord, classifyTables_eq_present]
  constructor
  · rintro ⟨rfl, h⟩
    have hne : tables ≠ [] := by
      rintro rfl
      exact not_auditable_nil h
    obtain ⟨hd, stmt, hstmt, hnames⟩ := hsome hne
    exact ⟨stmt, hstmt, hnames.symm, h, hd⟩
  · rintro ⟨stmt, hstmt, rfl, h, hd⟩
    have hnames := hall stmt hstmt hd
    rw [hnames] at h ⊢
    exact ⟨rfl, h⟩

theorem omitted_iff :
    (env.processing sql).record.referencedTables = { state := .omitted } ↔
      ∃ stmt, Analyzed env sql stmt ∧ tableNames stmt ≠ [] ∧ ¬ Auditable (tableNames stmt) ∧
        Detailed (env.processing sql).record := by
  obtain ⟨names, hrecord, hsome, hall⟩ := recorded_names env sql
  rw [hrecord, classifyTables_eq_omitted]
  constructor
  · rintro ⟨hne, h⟩
    obtain ⟨hd, stmt, hstmt, rfl⟩ := hsome hne
    exact ⟨stmt, hstmt, hne, h, hd⟩
  · rintro ⟨stmt, hstmt, hne, h, hd⟩
    rw [← hall stmt hstmt hd]
    exact ⟨hne, h⟩

theorem absent_iff :
    (env.processing sql).record.referencedTables = { state := .absent } ↔
      ¬ ∃ stmt, Analyzed env sql stmt ∧ tableNames stmt ≠ [] ∧
        Detailed (env.processing sql).record := by
  obtain ⟨names, hrecord, hsome, hall⟩ := recorded_names env sql
  rw [hrecord, classifyTables_eq_absent]
  constructor
  · rintro rfl ⟨stmt, hstmt, hne, hd⟩
    exact hne (hall stmt hstmt hd)
  · intro h
    by_contra hne
    obtain ⟨hd, stmt, hstmt, rfl⟩ := hsome hne
    exact h ⟨stmt, hstmt, hne, hd⟩

end Metadata

/-! The client. -/

/-- What is answered for a run of the pipeline, before its audit. -/
def resultOf : Except Exception Processing → ServiceResult
  | .ok processing => processing.result
  | .error _ => .failure .internalError

theorem processing_result (env : Environment) (sql : Bytes) :
    (env.processing sql).result = resultOf (env.processed sql) := by
  unfold Environment.processing
  cases env.processed sql <;> rfl

section Blind
variable {a : SqlAnalysis} (timestampMs : Int) (requestId : UInt64) (names : List Bytes)

/-- What becomes of an allowed SELECT, in terms of the answer and of its classification:
no name of a table is in it. -/
theorem resultOf_conclude (ht : a.statementType = .select) (r : ExecutionResult) :
    resultOf (conclude timestampMs requestId a r) =
      if r.status ≠ .ok then
        .failure (if r.status = .connectionFailure then .databaseUnavailable else .queryFailed)
      else if r.rowCount < 0 ∨ ¬ Rectangular r then .failure .internalError
      else if (classes a r).fullyAttributed then .success (maskedResult a r)
      else .failure .maskingRefused := by
  by_cases hs : r.status = .ok
  · rw [Environment.conclude_select hs ht, if_neg (not_not.mpr hs)]
    by_cases hn : r.rowCount < 0
    · obtain ⟨e, he⟩ := read_negative timestampMs requestId a hn
      rw [he, if_pos (.inl hn)]
      rfl
    · by_cases hr : Rectangular r
      · rw [if_neg (by simp [hn, hr])]
        cases hf : (classes a r).fullyAttributed with
        | true =>
          rw [read_released _ _ (Int.not_lt.mp hn) hr ht hf]
          rfl
        | false =>
          rw [read_refused _ _ (Int.not_lt.mp hn) hr ht hf]
          rfl
      · rw [read_ragged _ _ (Int.not_lt.mp hn) hr, if_pos (.inr hr)]
        rfl
  · simp only [conclude, hs, ne_eq, not_false_eq_true, if_true,
      databaseFailed_eq _ _ r.status (.inl ht)]
    rfl

/-- The policy asks of the names of a SELECT only that none is a system table's. -/
theorem allowed_blind (ha : (PolicyEngine.evaluate a).allowed = true)
    (ht : a.statementType = .select) (hc : Consistent a)
    (hnames : ∀ name ∈ names, PolicyEngine.isSystemTable name = false) :
    (PolicyEngine.evaluate { a with tables := names }).allowed = true := by
  have hclass : a.statementClass = .select := hc.trans (statementClassOf_select.mpr ht)
  obtain ⟨hstatus, hcount, ⟨-, hselect⟩ | ⟨hdml, -⟩⟩ := PolicyEngine.evaluate_allowed.mp ha
  · obtain ⟨hfeatures, -, hmixed⟩ := PolicyEngine.evaluateSelect_allowed.mp hselect
    exact PolicyEngine.evaluate_allowed.mpr ⟨hstatus, hcount, .inl ⟨hclass,
      PolicyEngine.evaluateSelect_allowed.mpr ⟨hfeatures, hnames, hmixed⟩⟩⟩
  · rw [hclass] at hdml
    cases hdml

end Blind

/-- Two requests that the analyzer tells apart by the names of their tables only. -/
structure Renamed (env env' : Environment) (sql : Bytes) (names : List Bytes) : Prop where
  select : ∃ a, env.analysis sql = .ok a ∧ env'.analysis sql = .ok { a with tables := names } ∧
    (PolicyEngine.evaluate a).allowed = true ∧ a.statementType = .select
  plain : ∀ name ∈ names, PolicyEngine.isSystemTable name = false
  executor : env'.execute sql = env.execute sql
  audit : env'.append (env'.processing sql).record = env.append (env.processing sql).record

theorem Renamed.handled {env env' : Environment} {sql : Bytes} {names : List Bytes}
    (h : Renamed env env' sql names) : env'.handled sql = env.handled sql := by
  obtain ⟨a, ha, ha', hallowed, ht⟩ := h.select
  have hallowed' := allowed_blind names hallowed ht (Environment.analysis_consistent ha) h.plain
  have hresult : (env'.processing sql).result = (env.processing sql).result := by
    rw [processing_result, processing_result, Environment.processed_allowed ha hallowed,
      Environment.processed_allowed ha' hallowed', h.executor]
    cases env.execute sql with
    | error e => rfl
    | ok r =>
      have ht' : ({ a with tables := names } : SqlAnalysis).statementType = .select := ht
      change resultOf (conclude _ _ _ r) = resultOf (conclude _ _ _ r)
      rw [resultOf_conclude _ _ ht, resultOf_conclude _ _ ht']
      rfl
  rw [Environment.handled_paired, Environment.handled_paired, hresult, h.audit]

/-- The names in a record are all those of the one analyzed statement, each plain, or none:
left out where one breaks a limit, absent where there is nothing to tell. And the client
cannot see them. -/
theorem tableMetadata_complete_or_absent (env : Environment) (sql : Bytes) :
    (∃ record reply, appends (env.events sql) = [(record, reply)] ∧
      (∀ tables, record.referencedTables = { state := .present, tables := tables } ↔
        ∃ stmt, Analyzed env sql stmt ∧ tables = tableNames stmt ∧ Auditable tables ∧
          Detailed record) ∧
      (record.referencedTables = { state := .omitted } ↔
        ∃ stmt, Analyzed env sql stmt ∧ tableNames stmt ≠ [] ∧ ¬ Auditable (tableNames stmt) ∧
          Detailed record) ∧
      (record.referencedTables = { state := .absent } ↔
        ¬ ∃ stmt, Analyzed env sql stmt ∧ tableNames stmt ≠ [] ∧ Detailed record)) ∧
    (∀ stmt : SelectStatement, tableNames (translateStatement (.select stmt)) =
        ((fromTables stmt.fromTable).map SqlAnalyzer.qualifiedName).eraseDups ∧
      ∀ lib, Submitted lib sql [.select stmt] →
        Analyzed (env.adapted lib) sql (translateStatement (.select stmt))) ∧
    ∀ env' names, Renamed env env' sql names → env'.handled sql = env.handled sql :=
  ⟨⟨_, _, Environment.appends_events env sql, present_iff env sql, omitted_iff env sql,
    absent_iff env sql⟩, fun stmt => ⟨tableNames_select stmt, fun _ h => analyzed_submitted h env⟩,
    fun _ _ h => h.handled⟩

/-- `SELECT name FROM <table>`, read by a parser that knows one table. -/
def readingFrom (table : Bytes) : Environment where
  now := 0
  requestId := 0
  parse := fun _ => .ok { success := true, statements :=
    [{ type := .select, tables := [⟨[], table⟩], projectionColumns := [ascii "name"] }] }
  execute := fun _ => .ok
    { status := .ok, columns := [{ name := ascii "name" }], rows := [[some (ascii "Ada")]],
      rowCount := 1 }
  append := fun _ => .ok .ok

theorem readingFrom_renamed :
    Renamed (readingFrom (ascii "customers")) (readingFrom (ascii "a-b")) (ascii "x")
      [ascii "a-b"] where
  select := ⟨_, rfl, rfl, by decide, rfl⟩
  plain := by decide
  executor := rfl
  audit := rfl

/-- The second name is none that a record may hold. -/
theorem tableMetadata_complete_or_absent_renamed :
    (readingFrom (ascii "a-b")).handled (ascii "x") =
      (readingFrom (ascii "customers")).handled (ascii "x") :=
  (tableMetadata_complete_or_absent (readingFrom (ascii "customers")) (ascii "x")).2.2 _ _
    readingFrom_renamed

end SqlProxy
