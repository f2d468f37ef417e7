import SqlProxy.FailClosed
import SqlProxy.MappingConfig

/-! How the database reads the names of a query: the columns of its FROM items, what a
column reference denotes and what a star expands to. The proxy sees only the spelling. -/
namespace SqlProxy
open ByteText Hsql HyriseAdapter DataClassifier

/-- The column names of the base tables, by schema and table name. -/
abbrev Catalog := Bytes → Bytes → List Bytes

/-- A column of a FROM item: the name it has in the query, and in its base table. -/
structure ItemColumn where
  visible : Bytes
  base : Bytes
  deriving DecidableEq

/-- A named table in FROM, known by its alias if it has one. -/
structure FromItem where
  label : Bytes
  columns : List ItemColumn
  deriving DecidableEq

/-- The column list of an alias renames the columns it reaches. -/
def renameColumns (names bases : List Bytes) : List ItemColumn :=
  bases.mapIdx fun i base => { visible := names[i]?.getD base, base := base }

def fromItem (catalog : Catalog) (schema name : Option Bytes) : Option Alias → FromItem
  | none =>
    { label := copyOrEmpty name
      columns := renameColumns [] (catalog (copyOrEmpty schema) (copyOrEmpty name)) }
  | some tableAlias =>
    { label := tableAlias.name
      columns := renameColumns (tableAlias.columns.getD [])
        (catalog (copyOrEmpty schema) (copyOrEmpty name)) }

mutual
/-- The items of a FROM tree, left to right. -/
def fromItems (catalog : Catalog) : Hsql.TableRef → List FromItem
  | .null | .tableSelect => []
  | .tableName schema name tableAlias => [fromItem catalog schema name tableAlias]
  | .tableJoin left right => fromItems catalog left ++ fromItems catalog right
  | .tableCrossProduct list => fromItemsAll catalog list
def fromItemsAll (catalog : Catalog) : List Hsql.TableRef → List FromItem
  | [] => []
  | child :: list => fromItems catalog child ++ fromItemsAll catalog list
end

/-- How the database compares identifiers. It may fold the case of ASCII letters, and
nothing else is assumed of it. -/
structure Identifiers where
  same : Bytes → Bytes → Prop
  folds : ∀ s t, same s t → SameName s t

section Resolution
variable (ids : Identifiers) (items : List FromItem) (e : Expr)

/-- `c` is a column that the reference names. -/
def Names (c : ItemColumn) : Prop :=
  ∃ item ∈ items, (∀ qualifier, e.table = some qualifier → ids.same item.label qualifier) ∧
    c ∈ item.columns ∧ ids.same c.visible (copyOrEmpty e.name)

/-- The columns a reference's cells are computed from. It denotes what it names (more than
one column where a join merges them), and else, unqualified, the row of the item it names. -/
inductive Denotes : List ItemColumn → Prop where
  | column {lineage : List ItemColumn} (hne : lineage ≠ [])
      (hnames : ∀ c ∈ lineage, Names ids items e c) : Denotes lineage
  | wholeRow {item : FromItem} (hno : ∀ c, ¬ Names ids items e c) (hq : e.table = none)
      (hi : item ∈ items) (hl : ids.same item.label (copyOrEmpty e.name)) : Denotes item.columns

/-- A star stands for the columns of every item, or of the item that qualifies it. -/
inductive Expands : List ItemColumn → Prop where
  | all (hq : e.table = none) : Expands (items.flatMap FromItem.columns)
  | ofItem {item : FromItem} {qualifier : Bytes} (hq : e.table = some qualifier)
      (hi : item ∈ items) (hl : ids.same item.label qualifier) : Expands item.columns

end Resolution

/-! Names of personal data. -/

def piiName : PiiCategory → Bytes
  | .email => ascii "email"
  | .phone => ascii "phone"
  | .creditCard => ascii "credit_card"

/-- The name of a column that holds data of a category. -/
def Holds (category : PiiCategory) (name : Bytes) : Prop := SameName name (piiName category)

instance (category : PiiCategory) (name : Bytes) : Decidable (Holds category name) :=
  inferInstanceAs (Decidable (SameName name (piiName category)))

def Sensitive (name : Bytes) : Prop := ∃ category, Holds category name

/-- The mapping knows exactly these names. -/
theorem find_eq_some {category : PiiCategory} {name : Bytes} :
    ProxyService.classifier.find name = some category ↔ Holds category name := by
  have hfind : ProxyService.classifier.find name = some category ↔
      ∃ m ∈ defaultClassificationConfig.columnMappings, m.2 = category ∧ SameName m.1 name :=
    find_ofConfig ofConfig_default
  rw [hfind]
  constructor
  · rintro ⟨m, hm, rfl, hname⟩
    simp only [defaultClassificationConfig, List.mem_cons, List.not_mem_nil, or_false] at hm
    rcases hm with rfl | rfl | rfl <;> exact hname.symm
  · intro h
    refine ⟨(piiName category, category), ?_, rfl, h.symm⟩
    cases category <;> decide

theorem Holds.of_sameName {category : PiiCategory} {s t : Bytes} (h : Holds category s)
    (hst : SameName s t) : Holds category t := hst.symm.trans h

theorem Sensitive.of_sameName {s t : Bytes} (h : Sensitive s) (hst : SameName s t) :
    Sensitive t := by
  obtain ⟨category, hc⟩ := h
  exact ⟨category, hc.of_sameName hst⟩

/-- Stripping a qualifier changes nothing of a sensitive name: it has no dot. -/
theorem Sensitive.stripQualifier {name : Bytes} (h : Sensitive name) :
    Sensitive (stripQualifier name) := by
  obtain ⟨category, hc⟩ := h
  have hdot : dot ∉ name :=
    dot_not_mem_of_find ofConfig_default (by decide) (find_eq_some.mpr hc)
  rw [DataClassifier.stripQualifier, afterLast_of_not_mem hdot]
  exact ⟨category, hc⟩

/-- The qualifier of a reference is stripped with its dot. -/
theorem stripQualifier_columnSpelling (e : Expr) :
    stripQualifier (columnSpelling e) = stripQualifier (copyOrEmpty e.name) := by
  unfold columnSpelling stripQualifier
  cases e.table with
  | none => rfl
  | some qualifier =>
    rw [List.append_assoc]
    exact afterLast_append_sep dot qualifier (copyOrEmpty e.name)

end SqlProxy
