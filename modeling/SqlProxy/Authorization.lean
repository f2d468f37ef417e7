import SqlProxy.HyriseAdapter
import SqlProxy.Outcomes
import Mathlib.Tactic.NormNum

/-! Which statements reach the database, read off the syntax tree, and that the three
layers between the tree and the executor decide exactly that. -/
namespace SqlProxy
open ByteText Hsql HyriseAdapter ProxyService

/-- `Within ref tree`: `ref` is `tree` or occurs in it at some depth. -/
inductive Within (ref : Hsql.TableRef) : Hsql.TableRef → Prop where
  | here : Within ref ref
  | left {l r : Hsql.TableRef} (h : Within ref l) : Within ref (.tableJoin l r)
  | right {l r : Hsql.TableRef} (h : Within ref r) : Within ref (.tableJoin l r)
  | item {list : List Hsql.TableRef} {child : Hsql.TableRef} (hc : child ∈ list)
      (h : Within ref child) : Within ref (.tableCrossProduct list)

/-- The name of a table as the policy sees it. -/
def renderedName (schema name : Option Bytes) : Bytes :=
  SqlAnalyzer.qualifiedName ⟨copyOrEmpty schema, copyOrEmpty name⟩

def IsStar (e : Expr) : Prop := e.type = .star

def IsColumn (e : Expr) : Prop := e.type = .columnRef

structure AuthorizedSelect (stmt : SelectStatement) : Prop where
  noCte : stmt.withDescriptions.getD [] = []
  noSetOperation : stmt.setOperations.getD [] = []
  noSubquery : ¬ Within .tableSelect stmt.fromTable
  noSystemTable : ∀ schema name tableAlias,
    Within (.tableName schema name tableAlias) stmt.fromTable →
      PolicyEngine.isSystemTable (renderedName schema name) = false
  notMixed : ¬ ((∃ e, some e ∈ stmt.entries ∧ IsStar e) ∧ ∃ e, some e ∈ stmt.entries ∧ IsColumn e)

def PositiveInteger (e : Expr) : Prop := e.type = .literalInt ∧ 0 < e.ival

def PositiveDecimal (e : Expr) : Prop := e.type = .literalFloat ∧ e.fval.positive = true

structure AuthorizedInsert (stmt : InsertStatement) : Prop where
  fromValues : stmt.type = .values
  unqualified : copyOrEmpty stmt.schema = []
  target : stmt.tableName = some (ascii "orders")
  columns : stmt.columns = some [some (ascii "customer_id"), some (ascii "amount")]
  values : ∃ customer amount, stmt.values = some [some customer, some amount] ∧
    PositiveInteger customer ∧ (PositiveInteger amount ∨ PositiveDecimal amount)

inductive Authorized : List SQLStatement → Prop where
  | select {stmt : SelectStatement} (h : AuthorizedSelect stmt) : Authorized [.select stmt]
  | insert {stmt : InsertStatement} (h : AuthorizedInsert stmt) : Authorized [.insert stmt]

section FromTree

mutual
theorem mem_fromTables {table : SqlProxy.TableRef} {tree : Hsql.TableRef} :
    table ∈ fromTables tree ↔ ∃ schema name tableAlias,
      Within (.tableName schema name tableAlias) tree ∧
        table = ⟨copyOrEmpty schema, copyOrEmpty name⟩ := by
  cases tree with
  | null =>
    simp only [fromTables, List.not_mem_nil, false_iff]
    rintro ⟨_, _, _, h, -⟩
    cases h
  | tableSelect =>
    simp only [fromTables, List.not_mem_nil, false_iff]
    rintro ⟨_, _, _, h, -⟩
    cases h
  | tableName schema name tableAlias =>
    simp only [fromTables, List.mem_singleton]
    constructor
    · intro h
      exact ⟨schema, name, tableAlias, .here, h⟩
    · rintro ⟨_, _, _, h, ht⟩
      cases h
      exact ht
  | tableJoin left right =>
    rw [fromTables, List.mem_append, mem_fromTables, mem_fromTables]
    constructor
    · rintro (⟨s, n, a, h, ht⟩ | ⟨s, n, a, h, ht⟩)
      · exact ⟨s, n, a, .left h, ht⟩
      · exact ⟨s, n, a, .right h, ht⟩
    · rintro ⟨s, n, a, h, ht⟩
      cases h with
      | left h => exact .inl ⟨s, n, a, h, ht⟩
      | right h => exact .inr ⟨s, n, a, h, ht⟩
  | tableCrossProduct list =>
    rw [fromTables, mem_fromTablesAll]
    constructor
    · rintro ⟨child, hc, s, n, a, h, ht⟩
      exact ⟨s, n, a, .item hc h, ht⟩
    · rintro ⟨s, n, a, h, ht⟩
      cases h with
      | item hc h => exact ⟨_, hc, s, n, a, h, ht⟩
theorem mem_fromTablesAll {table : SqlProxy.TableRef} {list : List Hsql.TableRef} :
    table ∈ fromTablesAll list ↔ ∃ child ∈ list, ∃ schema name tableAlias,
      Within (.tableName schema name tableAlias) child ∧
        table = ⟨copyOrEmpty schema, copyOrEmpty name⟩ := by
  cases list with
  | nil => simp [fromTablesAll]
  | cons child list =>
    rw [fromTablesAll, List.mem_append, mem_fromTables, mem_fromTablesAll]
    simp only [List.mem_cons, exists_eq_or_imp]
end

mutual
theorem fromSubqueries_pos {tree : Hsql.TableRef} :
    0 < fromSubqueries tree ↔ Within .tableSelect tree := by
  cases tree with
  | null =>
    simp only [fromSubqueries, Nat.lt_irrefl, false_iff]
    intro h
    cases h
  | tableSelect =>
    simp only [fromSubqueries, Nat.zero_lt_one, true_iff]
    exact .here
  | tableName schema name tableAlias =>
    simp only [fromSubqueries, Nat.lt_irrefl, false_iff]
    intro h
    cases h
  | tableJoin left right =>
    rw [fromSubqueries, Nat.add_pos_iff_pos_or_pos, fromSubqueries_pos, fromSubqueries_pos]
    constructor
    · rintro (h | h)
      · exact .left h
      · exact .right h
    · intro h
      cases h with
      | left h => exact .inl h
      | right h => exact .inr h
  | tableCrossProduct list =>
    rw [fromSubqueries, fromSubqueriesAll_pos]
    constructor
    · rintro ⟨child, hc, h⟩
      exact .item hc h
    · intro h
      cases h with
      | item hc h => exact ⟨_, hc, h⟩
theorem fromSubqueriesAll_pos {list : List Hsql.TableRef} :
    0 < fromSubqueriesAll list ↔ ∃ child ∈ list, Within .tableSelect child := by
  cases list with
  | nil => simp [fromSubqueriesAll]
  | cons child list =>
    rw [fromSubqueriesAll, Nat.add_pos_iff_pos_or_pos, fromSubqueries_pos, fromSubqueriesAll_pos]
    simp only [List.mem_cons, exists_eq_or_imp]
end

end FromTree

section Notes

theorem selectNotes_nil {stmt : SelectStatement} :
    selectNotes stmt = [] ↔ ¬ Within .tableSelect stmt.fromTable ∧
      stmt.withDescriptions.getD [] = [] ∧ stmt.setOperations.getD [] = [] := by
  have hsub : List.replicate (fromSubqueries stmt.fromTable) noteFromSubquery = [] ↔
      ¬ Within .tableSelect stmt.fromTable := by
    rw [List.replicate_eq_nil_iff, ← fromSubqueries_pos]
    omega
  have hcte : (if stmt.hasCte then [noteWithCte] else []) = [] ↔
      stmt.withDescriptions.getD [] = [] := by
    unfold SelectStatement.hasCte
    cases stmt.withDescriptions.getD [] <;> simp
  have hset : (if stmt.hasSetOperation then [noteSetOperation] else []) = [] ↔
      stmt.setOperations.getD [] = [] := by
    unfold SelectStatement.hasSetOperation
    cases stmt.setOperations.getD [] <;> simp
  rw [selectNotes, List.append_eq_nil_iff, List.append_eq_nil_iff, hsub, hcte, hset, and_assoc]

theorem entryKind_star {entry : Option Expr} :
    entryKind entry = .star ↔ ∃ e, entry = some e ∧ IsStar e := by
  cases entry with
  | none => simp [entryKind]
  | some e =>
    by_cases hs : e.type = .star
    · simp [entryKind, hs, IsStar]
    · by_cases hc : e.type = .columnRef
      · simp [entryKind, hc, IsStar]
      · by_cases hn : isCountStar e <;> simp [entryKind, hs, hc, hn, IsStar]

theorem any_star {stmt : SelectStatement} :
    (stmt.entries.any fun e => entryKind e = .star) = true ↔
      ∃ e, some e ∈ stmt.entries ∧ IsStar e := by
  rw [List.any_eq_true]
  constructor
  · rintro ⟨entry, hm, hk⟩
    obtain ⟨e, rfl, hs⟩ := entryKind_star.mp (of_decide_eq_true hk)
    exact ⟨e, hm, hs⟩
  · rintro ⟨e, hm, hs⟩
    exact ⟨some e, hm, decide_eq_true (entryKind_star.mpr ⟨e, rfl, hs⟩)⟩

theorem spellings_ne_nil {stmt : SelectStatement} :
    stmt.entries.filterMap entrySpelling ≠ [] ↔
      ∃ e, some e ∈ stmt.entries ∧ IsColumn e := by
  constructor
  · intro h
    obtain ⟨spelling, hm⟩ := List.exists_mem_of_ne_nil _ h
    obtain ⟨entry, he, hs⟩ := List.mem_filterMap.mp hm
    cases entry with
    | none => simp [entrySpelling] at hs
    | some e =>
      refine ⟨e, he, ?_⟩
      by_contra hc
      simp only [IsColumn] at hc
      simp [entrySpelling, hc] at hs
  · rintro ⟨e, he, hc⟩
    simp only [IsColumn] at hc
    exact List.ne_nil_of_mem
      (List.mem_filterMap.mpr ⟨some e, he, show _ = some (columnSpelling e) by
        simp [entrySpelling, hc]⟩)

end Notes

section Decision

/-- The decision on one parsed statement, through the analyzer. -/
def decided (statements : List ParsedStatement) : PolicyDecision :=
  PolicyEngine.evaluate (SqlAnalyzer.analyzeParsed { success := true, statements := statements })

theorem decided_select {stmt : SelectStatement} :
    (decided [translateStatement (.select stmt)]).allowed = true ↔ AuthorizedSelect stmt := by
  simp only [decided, SqlAnalyzer.analyzeParsed_one, translateStatement, translateSelect_eq,
    PolicyEngine.evaluate_allowed, PolicyEngine.evaluateSelect_allowed, statementClassOf,
    true_and, reduceCtorEq, false_and, or_false, selectNotes_nil, any_star, spellings_ne_nil,
    SqlAnalyzer.mem_normalizedTables, mem_fromTables]
  constructor
  · rintro ⟨⟨hsub, hcte, hset⟩, hsys, hmix⟩
    refine ⟨hcte, hset, hsub, ?_, hmix⟩
    intro schema name tableAlias h
    exact hsys _ ⟨_, ⟨schema, name, tableAlias, h, rfl⟩, rfl⟩
  · rintro ⟨hcte, hset, hsub, hsys, hmix⟩
    refine ⟨⟨hsub, hcte, hset⟩, ?_, hmix⟩
    rintro _ ⟨_, ⟨schema, name, tableAlias, h, rfl⟩, rfl⟩
    exact hsys schema name tableAlias h

theorem qualifiedName_orders {table : SqlProxy.TableRef} :
    SqlAnalyzer.qualifiedName table = PolicyEngine.insertTargetTable ↔
      table.schema = [] ∧ table.name = ascii "orders" := by
  cases h : table.schema with
  | nil => simp [SqlAnalyzer.qualifiedName, PolicyEngine.insertTargetTable, h]
  | cons c schema =>
    simp only [SqlAnalyzer.qualifiedName, h, List.isEmpty_cons, Bool.false_eq_true, if_false,
      reduceCtorEq, false_and, iff_false]
    intro he
    have hd : dot ∈ PolicyEngine.insertTargetTable := by
      rw [← he]
      simp
    revert hd
    decide

theorem copyOrEmpty_eq {s : Option Bytes} {t : Bytes} (ht : t ≠ []) :
    copyOrEmpty s = t ↔ s = some t := by
  cases s with
  | none => simp [copyOrEmpty, ht.symm]
  | some s => simp [copyOrEmpty]

theorem valueKind_integer {value : Option Expr} :
    valueKind value = .positiveIntegerLiteral ↔ ∃ e, value = some e ∧ PositiveInteger e := by
  cases value with
  | none => simp [valueKind]
  | some e =>
    cases ht : e.type <;> simp [valueKind, classifyInsertValue, PositiveInteger, ht]
    split_ifs <;> simp

theorem valueKind_decimal {value : Option Expr} :
    valueKind value = .positiveDecimalLiteral ↔ ∃ e, value = some e ∧ PositiveDecimal e := by
  cases value with
  | none => simp [valueKind]
  | some e =>
    cases ht : e.type <;> simp [valueKind, classifyInsertValue, PositiveDecimal, ht]
    split_ifs <;> simp

theorem getD_nil_eq_cons {α : Type} {o : Option (List α)} {x : α} {l : List α} :
    o.getD [] = x :: l ↔ o = some (x :: l) := by
  cases o <;> simp

/-- What the index checks of the policy say of a mapped list. -/
theorem map_eq_pair {α β : Type} (f : α → β) (list : List α) (P Q : β → Prop) :
    ((list.map f).length = 2 ∧ (∃ a, (list.map f)[0]? = some a ∧ P a) ∧
        ∃ b, (list.map f)[1]? = some b ∧ Q b) ↔
      ∃ a b, list = [a, b] ∧ P (f a) ∧ Q (f b) := by
  constructor
  · rintro ⟨hl, ⟨a, ha, hP⟩, b, hb, hQ⟩
    match list with
    | [x, y] =>
      cases ha
      cases hb
      exact ⟨x, y, rfl, hP, hQ⟩
  · rintro ⟨a, b, rfl, hP, hQ⟩
    exact ⟨rfl, ⟨f a, rfl, hP⟩, f b, rfl, hQ⟩

theorem orderColumns {columns : Option (List (Option Bytes))} :
    (((columns.getD []).map copyOrEmpty).length = 2 ∧
        ((columns.getD []).map copyOrEmpty)[0]? = some (ascii "customer_id") ∧
        ((columns.getD []).map copyOrEmpty)[1]? = some (ascii "amount")) ↔
      columns = some [some (ascii "customer_id"), some (ascii "amount")] := by
  have hp := map_eq_pair copyOrEmpty (columns.getD []) (· = ascii "customer_id")
    (· = ascii "amount")
  have hid : ascii "customer_id" ≠ [] := by decide
  have ham : ascii "amount" ≠ [] := by decide
  simp only [exists_eq_right, copyOrEmpty_eq hid, copyOrEmpty_eq ham] at hp
  rw [hp]
  constructor
  · rintro ⟨_, _, h, rfl, rfl⟩
    exact getD_nil_eq_cons.mp h
  · rintro rfl
    exact ⟨_, _, rfl, rfl, rfl⟩

theorem orderValues {values : Option (List (Option Expr))} :
    (((values.getD []).map valueKind).length = 2 ∧
        ((values.getD []).map valueKind)[0]? = some .positiveIntegerLiteral ∧
        (((values.getD []).map valueKind)[1]? = some .positiveIntegerLiteral ∨
          ((values.getD []).map valueKind)[1]? = some .positiveDecimalLiteral)) ↔
      ∃ customer amount, values = some [some customer, some amount] ∧
        PositiveInteger customer ∧ (PositiveInteger amount ∨ PositiveDecimal amount) := by
  have hp := map_eq_pair valueKind (values.getD []) (· = .positiveIntegerLiteral)
    fun k => k = .positiveIntegerLiteral ∨ k = .positiveDecimalLiteral
  constructor
  · rintro ⟨hl, h₀, h₁⟩
    have hsecond : ∃ k, ((values.getD []).map valueKind)[1]? = some k ∧
        (k = .positiveIntegerLiteral ∨ k = .positiveDecimalLiteral) := by
      rcases h₁ with h₁ | h₁
      · exact ⟨_, h₁, .inl rfl⟩
      · exact ⟨_, h₁, .inr rfl⟩
    obtain ⟨first, second, hv, hfirst, hsec⟩ := hp.mp ⟨hl, ⟨_, h₀, rfl⟩, hsecond⟩
    obtain ⟨customer, rfl, hc⟩ := valueKind_integer.mp hfirst
    rcases hsec with hsec | hsec
    · obtain ⟨amount, rfl, ha⟩ := valueKind_integer.mp hsec
      exact ⟨customer, amount, getD_nil_eq_cons.mp hv, hc, .inl ha⟩
    · obtain ⟨amount, rfl, ha⟩ := valueKind_decimal.mp hsec
      exact ⟨customer, amount, getD_nil_eq_cons.mp hv, hc, .inr ha⟩
  · rintro ⟨customer, amount, rfl, hc, ha⟩
    refine ⟨rfl, congrArg some (valueKind_integer.mpr ⟨_, rfl, hc⟩), ?_⟩
    rcases ha with ha | ha
    · exact .inl (congrArg some (valueKind_integer.mpr ⟨_, rfl, ha⟩))
    · exact .inr (congrArg some (valueKind_decimal.mpr ⟨_, rfl, ha⟩))

theorem decided_insert {stmt : InsertStatement} :
    (decided [translateStatement (.insert stmt)]).allowed = true ↔ AuthorizedInsert stmt := by
  simp only [decided, SqlAnalyzer.analyzeParsed_one, translateStatement, translateInsert_eq,
    PolicyEngine.evaluate_allowed, PolicyEngine.evaluateDml_allowed, statementClassOf,
    true_and, reduceCtorEq, false_and, false_or, SqlAnalyzer.normalizedTables_singleton,
    PolicyEngine.targetsInsertTable, PolicyEngine.isAllowedOrderInsert, List.length_singleton,
    List.getElem?_cons_zero, decide_true, Bool.true_and, decide_eq_true_eq, Option.some.injEq,
    qualifiedName_orders, Bool.and_eq_true, Bool.or_eq_true, List.isEmpty_iff]
  have hto : ascii "orders" ≠ [] := by decide
  constructor
  · rintro ⟨⟨hs, ht⟩, ⟨⟨⟨⟨⟨⟨-, hsrc⟩, hcl⟩, hc₀⟩, hc₁⟩, hvl⟩, hv₀⟩, hv₁⟩
    have htype : stmt.type ≠ .select := by
      intro he
      simp [he] at hsrc
    simp only [htype, if_false] at hvl hv₀ hv₁
    have hvalues : stmt.type = .values := by
      cases h : stmt.type with
      | values => rfl
      | select => exact absurd h htype
    exact ⟨hvalues, hs, (copyOrEmpty_eq hto).mp ht, orderColumns.mp ⟨hcl, hc₀, hc₁⟩,
      orderValues.mp ⟨hvl, hv₀, hv₁⟩⟩
  · rintro ⟨hvalues, hs, ht, hcols, hvals⟩
    have htype : stmt.type ≠ .select := by
      rw [hvalues]
      decide
    obtain ⟨hcl, hc₀, hc₁⟩ := orderColumns.mpr hcols
    obtain ⟨hvl, hv₀, hv₁⟩ := orderValues.mpr hvals
    have hnote : (if stmt.columns.isSome = true then [] else [noteInsertWithoutColumns]) = [] := by
      simp [hcols]
    simp only [htype, if_false]
    exact ⟨⟨hs, (copyOrEmpty_eq hto).mpr ht⟩,
      ⟨⟨⟨⟨⟨⟨hnote, trivial⟩, hcl⟩, hc₀⟩, hc₁⟩, hvl⟩, hv₀⟩, hv₁⟩

/-- Every other kind of statement is denied, and so is any other number of them. -/
theorem decided_iff (stmts : List SQLStatement) :
    (decided (stmts.map translateStatement)).allowed = true ↔ Authorized stmts := by
  match stmts with
  | [] =>
    constructor
    · intro h
      simp [decided, SqlAnalyzer.analyzeParsed, PolicyEngine.evaluate] at h
    · intro h
      cases h
  | [stmt] =>
    have hclass : (decided [translateStatement stmt]).allowed = true →
        statementClassOf (translateStatement stmt).type = .select ∨
          (translateStatement stmt).type = .insert := by
      simp only [decided, SqlAnalyzer.analyzeParsed_one, PolicyEngine.evaluate_allowed,
        PolicyEngine.evaluateDml_allowed]
      rintro ⟨-, -, ⟨h, -⟩ | ⟨-, h, -⟩⟩
      · exact .inl h
      · exact .inr h
    rw [translateStatement_type] at hclass
    cases stmt with
    | select stmt =>
      constructor
      · intro h
        exact .select (decided_select.mp h)
      · intro h
        cases h with
        | select h => exact decided_select.mpr h
    | insert stmt =>
      constructor
      · intro h
        exact .insert (decided_insert.mp h)
      · intro h
        cases h with
        | insert h => exact decided_insert.mpr h
    | _ =>
      constructor
      · intro h
        simpa [statementClassOf] using hclass h
      · intro h
        cases h
  | _ :: _ :: _ =>
    constructor
    · intro h
      simp [decided, SqlAnalyzer.analyzeParsed, PolicyEngine.evaluate] at h
    · intro h
      cases h

end Decision

section Executed
variable (lib : Bytes → Except Exception SQLParserResult) (env : Environment) (sql : Bytes)

/-- The service with the adapter as its parser. -/
def Environment.adapted : Environment :=
  { env with parse := fun sql => .ok (HyriseAdapter.parse lib sql) }

/-- The statements the library makes of a text that is not blank. -/
def Submitted (stmts : List SQLStatement) : Prop :=
  SqlAnalyzer.isBlank sql = false ∧ ∃ result, lib sql = .ok result ∧ result.isValid = true ∧
    result.statements.filterMap id = stmts

variable {lib env sql}

theorem analysis_submitted {stmts : List SQLStatement} (h : Submitted lib sql stmts) :
    (env.adapted lib).analysis sql = .ok (SqlAnalyzer.analyzeParsed
      { success := true, statements := stmts.map translateStatement }) := by
  obtain ⟨hb, result, hl, hv, rfl⟩ := h
  rw [Environment.analysis_parse hb]
  simp [Environment.adapted, HyriseAdapter.parse, hl, hv, Except.map]

/-- A text without statements is never allowed. -/
theorem analysis_not_submitted (env : Environment) (h : ∀ stmts, ¬ Submitted lib sql stmts) :
    ∃ a, (env.adapted lib).analysis sql = .ok a ∧ (PolicyEngine.evaluate a).allowed = false := by
  cases hb : SqlAnalyzer.isBlank sql with
  | true =>
    refine ⟨_, Environment.analysis_blank hb, ?_⟩
    rfl
  | false =>
    rw [Environment.analysis_parse hb]
    refine ⟨_, rfl, ?_⟩
    cases hl : lib sql with
    | error e => simp [HyriseAdapter.parse, hl, SqlAnalyzer.analyzeParsed, PolicyEngine.evaluate]
    | ok result =>
      cases hv : result.isValid with
      | true => exact absurd ⟨hb, result, hl, hv, rfl⟩ (h _)
      | false =>
        simp [HyriseAdapter.parse, hl, hv, SqlAnalyzer.analyzeParsed, PolicyEngine.evaluate]

end Executed

/-- The three layers authorize what is authorized, and the service executes the text it
was given once exactly then. -/
theorem executed_iff_authorized (lib : Bytes → Except Exception SQLParserResult)
    (env : Environment) (sql : Bytes) :
    (∀ stmts, Submitted lib sql stmts →
      ∃ a, (env.adapted lib).analysis sql = .ok a ∧
        ((PolicyEngine.evaluate a).allowed = true ↔ Authorized stmts)) ∧
    ((∃ stmts, Submitted lib sql stmts ∧ Authorized stmts) →
      executions ((env.adapted lib).events sql) = [(sql, env.execute sql)]) ∧
    ((¬ ∃ stmts, Submitted lib sql stmts ∧ Authorized stmts) →
      executions ((env.adapted lib).events sql) = []) := by
  refine ⟨?_, ?_, ?_⟩
  · intro stmts hs
    exact ⟨_, analysis_submitted hs, decided_iff stmts⟩
  · rintro ⟨stmts, hs, ha⟩
    have hallowed := (decided_iff stmts).mpr ha
    unfold decided at hallowed
    rw [Environment.executions_events, analysis_submitted hs]
    simp only [hallowed, if_true]
    rfl
  · intro hno
    rw [Environment.executions_events]
    by_cases hs : ∃ stmts, Submitted lib sql stmts
    · obtain ⟨stmts, hs⟩ := hs
      have hdenied : (decided (stmts.map translateStatement)).allowed = false := by
        rw [Bool.eq_false_iff]
        intro h
        exact hno ⟨stmts, hs, (decided_iff stmts).mp h⟩
      unfold decided at hdenied
      rw [analysis_submitted hs]
      simp only [hdenied, Bool.false_eq_true, if_false]
    · obtain ⟨a, ha, hd⟩ := analysis_not_submitted env (not_exists.mp hs)
      rw [ha]
      simp only [hd, Bool.false_eq_true, if_false]

/-- `INSERT INTO orders (customer_id, amount) VALUES (7, 12.5)`. -/
def orderInsert : InsertStatement where
  tableName := some (ascii "orders")
  columns := some [some (ascii "customer_id"), some (ascii "amount")]
  values := some [some { type := .literalInt, ival := 7 },
    some { type := .literalFloat, fval := .finite (25 / 2) }]

theorem orderInsert_authorized : Authorized [.insert orderInsert] := by
  have hamount : (Double.finite (25 / 2)).positive = true := decide_eq_true (by norm_num)
  exact .insert ⟨rfl, rfl, rfl, rfl, _, _, rfl, ⟨rfl, by decide⟩, .inr ⟨rfl, hamount⟩⟩

/-- A library that reads every text as `stmt`. -/
def libraryOf (stmt : SQLStatement) : Bytes → Except Exception SQLParserResult :=
  fun _ => .ok { isValid := true, statements := [some stmt] }

theorem submitted_libraryOf (stmt : SQLStatement) (h : SqlAnalyzer.isBlank sql = false) :
    Submitted (libraryOf stmt) sql [stmt] := ⟨h, _, rfl, rfl, rfl⟩

/-- A database that answers `r`, with a repository that takes every record. -/
def answering (r : ExecutionResult) : Environment where
  now := 0
  requestId := 0
  parse := fun _ => .error .foreign
  execute := fun _ => .ok r
  append := fun _ => .ok .ok

theorem executed_orderInsert :
    executions (((answering { status := .ok, affectedRows := 1 }).adapted
        (libraryOf (.insert orderInsert))).events (ascii "x")) =
      [(ascii "x", .ok { status := .ok, affectedRows := 1 })] :=
  (executed_iff_authorized _ _ _).2.1
    ⟨_, submitted_libraryOf _ (by decide), orderInsert_authorized⟩

end SqlProxy
