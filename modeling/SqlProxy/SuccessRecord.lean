import SqlProxy.Outcomes
import SqlProxy.PostgresQueryExecutor

/-! The record of a read beside the response it is about. -/
namespace SqlProxy
open ByteText ProxyService PiiMasker PostgresQueryExecutor

namespace PiiMasker

/-- The rule that phase 2 applies to the cells of a column of class `c`. -/
def appliedRule (c : ColumnClassification) : Option PiiCategory :=
  if c.dataClass = .pii then c.piiCategory else none

theorem maskColumn_appliedRule (rows : List (List Cell)) (entry : ColumnClassification × Nat) :
    maskColumn rows entry = match appliedRule entry.1 with
      | some category => rows.map fun row => row.modify entry.2 (maskCell category)
      | none => rows := by
  unfold maskColumn appliedRule
  by_cases hc : entry.1.dataClass = .pii
  · cases hcategory : entry.1.piiCategory with
    | none => simp [hc]
    | some category => simp [hc]
  · simp [hc]

/-- What a rule makes of a cell. -/
def applyRule : Option PiiCategory → Cell → Cell
  | none, cell => cell
  | some category, cell => maskCell category cell

theorem maskAs_appliedRule (c : ColumnClassification) (cell : Cell) :
    maskAs c cell = applyRule (appliedRule c) cell := by
  unfold maskAs appliedRule
  cases c.dataClass <;> cases c.piiCategory <;> rfl

end PiiMasker

def PiiSummary.columnsOf (summary : PiiSummary) : PiiCategory → Nat
  | .email => summary.emailColumns
  | .phone => summary.phoneColumns
  | .creditCard => summary.creditCardColumns

namespace ProxyService

theorem countColumn_columnsOf (summary : PiiSummary) (c : ColumnClassification)
    (category : PiiCategory) :
    (countColumn summary c).columnsOf category =
      summary.columnsOf category + if appliedRule c = some category then 1 else 0 := by
  unfold countColumn appliedRule
  cases c.dataClass with
  | pii =>
    cases c.piiCategory with
    | none => rfl
    | some counted => cases counted <;> cases category <;> rfl
  | notClassifiedAsPii => rfl
  | unattributed => rfl

theorem foldl_countColumn (columns : List ColumnClassification) (summary : PiiSummary)
    (category : PiiCategory) :
    (columns.foldl countColumn summary).columnsOf category =
      summary.columnsOf category + (columns.map appliedRule).count (some category) := by
  induction columns generalizing summary with
  | nil => rfl
  | cons c columns ih =>
    rw [List.foldl_cons, ih, countColumn_columnsOf, List.map_cons, List.count_cons]
    simp only [beq_iff_eq]
    omega

/-- Each count is the number of columns its rule is applied to. -/
theorem summarize_columnsOf (classification : ClassificationResult) (category : PiiCategory) :
    (summarize classification).columnsOf category =
      (classification.columns.map appliedRule).count (some category) := by
  rw [summarize, foldl_countColumn]
  cases category <;> exact Nat.zero_add _

end ProxyService

/-- The details `d` are those of the response `masked`, which comes from `r` by one rule for
each column. -/
structure Describes (d : SuccessDetails) (r : ExecutionResult) (rules : List (Option PiiCategory))
    (masked : MaskedQueryResult) : Prop where
  rowCount : d.rowCount = masked.rows.length
  columnCount : d.columnCount = masked.columnNames.length
  emailColumns : d.pii.emailColumns = rules.count (some .email)
  phoneColumns : d.pii.phoneColumns = rules.count (some .phone)
  creditCardColumns : d.pii.creditCardColumns = rules.count (some .creditCard)
  oneRuleEach : rules.length = masked.columnNames.length
  applied : ∀ (i j : Nat) (row : List Cell) (rule : Option PiiCategory) (cell : Cell),
    r.rows[i]? = some row → rules[j]? = some rule → row[j]? = some cell →
    ∃ row', masked.rows[i]? = some row' ∧ row'[j]? = some (applyRule rule cell)
  untouched : ∀ (i j : Nat) (row row' : List Cell), r.rows[i]? = some row →
    masked.rows[i]? = some row' → rules[j]? = some none → row'[j]? = row[j]?

theorem getElem?_maskedRows {a : SqlAnalysis} {r : ExecutionResult} {i : Nat} {row : List Cell}
    (h : r.rows[i]? = some row) :
    (maskedRows a r)[i]? = some (maskRow (classes a r).columns row) := by
  rw [maskedRows, List.getElem?_map, h]
  rfl

theorem describes_maskedResult (a : SqlAnalysis) {r : ExecutionResult} (hr : WellShaped r) :
    Describes ⟨a.statementType, r.rowCount.toNat, r.columns.length, summarize (classes a r)⟩ r
      ((classes a r).columns.map appliedRule) (maskedResult a r) := by
  have hsummary := summarize_columnsOf (classes a r)
  refine ⟨?_, by simp [maskedResult], hsummary .email, hsummary .phone, hsummary .creditCard,
    by simp [classes, maskedResult], ?_, ?_⟩
  · simp [maskedResult, maskedRows, hr.counted]
  · intro i j row rule cell hrow hrule hcell
    rw [List.getElem?_map, Option.map_eq_some_iff] at hrule
    obtain ⟨c, hc, rfl⟩ := hrule
    refine ⟨_, getElem?_maskedRows hrow, ?_⟩
    rw [maskRow, List.getElem?_zipWith, hc, hcell, ← maskAs_appliedRule]
  · intro i j row row' hrow hrow' hrule
    rw [List.getElem?_map, Option.map_eq_some_iff] at hrule
    obtain ⟨c, hc, hnone⟩ := hrule
    have hrows : (maskedResult a r).rows[i]? = some (maskRow (classes a r).columns row) :=
      getElem?_maskedRows hrow
    rw [hrows] at hrow'
    cases hrow'
    rw [maskRow, List.getElem?_zipWith, hc]
    cases row[j]? with
    | none => rfl
    | some cell => exact congrArg some ((maskAs_appliedRule c cell).trans (by rw [hnone]; rfl))

/-- The one record of a returned read describes the rows and columns that are returned, and
counts the columns in which a rule was applied. -/
theorem success_record_describes {env : Environment} {sql : Bytes} {r : ExecutionResult}
    {masked : MaskedQueryResult} (hx : env.execute sql = .ok r)
    (hcount : r.rowCount = r.rows.length)
    (hwidth : ∀ row ∈ r.rows, row.length = r.columns.length)
    (h : env.handled sql = .ok (.success masked)) :
    ∃ a record d, env.analysis sql = .ok a ∧ appends (env.events sql) = [(record, .ok .ok)] ∧
      record.details = .success d ∧
      Describes d r ((classifier.classify a r.columns).columns.map appliedRule) masked := by
  obtain ⟨a, r', hreleased, rfl⟩ := released_of_success h
  have hsame := hreleased.executed
  rw [hx] at hsame
  cases hsame
  obtain ⟨-, happended⟩ := Environment.audited_of_success h
  have happends := Environment.appends_events env sql
  rw [happended, hreleased.processing_eq] at happends
  exact ⟨a, _, _, hreleased.analysis, happends, rfl, describes_maskedResult a ⟨hcount, hwidth⟩⟩

/-- `SELECT id, email, email` before a driver that finds two customers. -/
def twoCustomers : Bytes → Except DriverError PqxxResult := fun _ => .ok
  { columns := [(ascii "id", 23), (ascii "email", 25), (ascii "email", 25)]
    size := 2
    field := fun i j => if j = 0 then some (decimal i) else some (ascii "ada@example.org")
    affectedRows := 2 }

def twoCustomersEnvironment : Environment where
  now := 0
  requestId := 0
  parse := fun _ => .ok { success := true, statements :=
    [{ type := .select, projectionColumns := [ascii "id", ascii "email", ascii "email"] }] }
  execute := fun sql => .ok (PostgresQueryExecutor.execute twoCustomers sql)
  append := fun _ => .ok .ok

def twoCustomersMasked : MaskedQueryResult where
  columnNames := [ascii "id", ascii "email", ascii "email"]
  rows := [[some (ascii "0"), some (ascii "a***@example.org"), some (ascii "a***@example.org")],
    [some (ascii "1"), some (ascii "a***@example.org"), some (ascii "a***@example.org")]]

theorem success_record_describes_customers :
    ∃ a record d, twoCustomersEnvironment.analysis (ascii "x") = .ok a ∧
      appends (twoCustomersEnvironment.events (ascii "x")) = [(record, .ok .ok)] ∧
      record.details = .success d ∧
      Describes d (PostgresQueryExecutor.execute twoCustomers (ascii "x"))
        ((classifier.classify a (PostgresQueryExecutor.execute twoCustomers
          (ascii "x")).columns).columns.map appliedRule) twoCustomersMasked := by
  have hshape := execute_wellShaped twoCustomers (ascii "x")
  exact success_record_describes rfl hshape.counted hshape.rectangular (by decide +kernel)

end SqlProxy
