import SqlProxy.Authorization

/-! Which tables the system-catalog rule sees. The analyzer joins schema and name by a dot
and the policy splits the text at its first dot, so an identifier with a dot in it is taken
for another pair. -/
namespace SqlProxy
open ByteText Hsql HyriseAdapter

def CatalogSchema (schema : Bytes) : Prop :=
  SameName schema (ascii "pg_catalog") ∨ SameName schema (ascii "information_schema")

instance (schema : Bytes) : Decidable (CatalogSchema schema) :=
  inferInstanceAs (Decidable (_ ∨ _))

def PgName (name : Bytes) : Prop := ascii "pg_" <+: asciiLower name

instance (name : Bytes) : Decidable (PgName name) :=
  inferInstanceAs (Decidable (_ <+: _))

/-- The tables that the rule is about. -/
def SystemTable (table : SqlProxy.TableRef) : Prop :=
  CatalogSchema table.schema ∨ PgName table.name

instance (table : SqlProxy.TableRef) : Decidable (SystemTable table) :=
  inferInstanceAs (Decidable (_ ∨ _))

/-- A named table of a FROM tree, at any depth. -/
def Leaf (tree : Hsql.TableRef) (table : SqlProxy.TableRef) : Prop :=
  ∃ schema name tableAlias, Within (.tableName schema name tableAlias) tree ∧
    table = ⟨copyOrEmpty schema, copyOrEmpty name⟩

/-- What a table is taken for once its joined text has been split at the first dot. -/
inductive TakenFor : SqlProxy.TableRef → SqlProxy.TableRef → Prop where
  | plain {name : Bytes} (h : dot ∉ name) : TakenFor ⟨[], name⟩ ⟨[], name⟩
  | dottedName {front back : Bytes} (h : dot ∉ front) :
      TakenFor ⟨[], front ++ dot :: back⟩ ⟨front, back⟩
  | qualified {schema name : Bytes} (hne : schema ≠ []) (h : dot ∉ schema) :
      TakenFor ⟨schema, name⟩ ⟨schema, name⟩
  | dottedSchema {front back name : Bytes} (h : dot ∉ front) :
      TakenFor ⟨front ++ dot :: back, name⟩ ⟨front, back ++ dot :: name⟩

theorem takenFor_total (table : SqlProxy.TableRef) : ∃ other, TakenFor table other := by
  obtain ⟨schema, name⟩ := table
  by_cases hs : dot ∈ schema
  · obtain ⟨front, back, rfl, hf⟩ := List.eq_append_cons_of_mem hs
    exact ⟨_, .dottedSchema hf⟩
  · by_cases hne : schema = []
    · subst hne
      by_cases hn : dot ∈ name
      · obtain ⟨front, back, rfl, hf⟩ := List.eq_append_cons_of_mem hn
        exact ⟨_, .dottedName hf⟩
      · exact ⟨_, .plain hn⟩
    · exact ⟨_, .qualified hne hs⟩

namespace PolicyEngine

theorem catalogSchema_iff {schema : Bytes} :
    CatalogSchema schema ↔
      asciiLower schema = ascii "pg_catalog" ∨ asciiLower schema = ascii "information_schema" := by
  have hcatalog : asciiLower (ascii "pg_catalog") = ascii "pg_catalog" := by decide
  have hinformation : asciiLower (ascii "information_schema") = ascii "information_schema" := by
    decide
  rw [CatalogSchema, SameName, SameName, hcatalog, hinformation]

theorem dot_mem_asciiLower {s : Bytes} : dot ∈ asciiLower s ↔ dot ∈ s :=
  mem_asciiLower (by decide)

theorem isSystemTable_plain {name : Bytes} (h : dot ∉ name) :
    isSystemTable name = true ↔ SystemTable ⟨[], name⟩ := by
  have hfind : find dot (asciiLower name) = none :=
    find_eq_none.mpr (mt dot_mem_asciiLower.mp h)
  have hempty : ¬ CatalogSchema [] := by decide
  simp only [isSystemTable, hfind, SystemTable, hempty, false_or]
  rw [if_neg (by decide), List.isPrefixOf_iff_prefix]
  rfl

theorem isSystemTable_split {front : Bytes} (back : Bytes) (h : dot ∉ front) :
    isSystemTable (front ++ dot :: back) = true ↔ SystemTable ⟨front, back⟩ := by
  have hlower : asciiLower (front ++ dot :: back) =
      asciiLower front ++ dot :: asciiLower back := by
    simp [asciiLower, show lowerByte dot = dot by decide]
  have hfind := find_split (asciiLower back) (mt dot_mem_asciiLower.mp h)
  simp only [isSystemTable, hlower, hfind, List.take_left, ← catalogSchema_iff, SystemTable]
  have hdrop : (asciiLower front ++ dot :: asciiLower back).drop ((asciiLower front).length + 1) =
      asciiLower back := by
    simp
  rw [hdrop]
  by_cases hc : CatalogSchema front
  · simp [hc]
  · simp only [hc, if_false, false_or, List.isPrefixOf_iff_prefix]
    rfl

/-- The rule decides on what the table is taken for. -/
theorem isSystemTable_takenFor {table other : SqlProxy.TableRef} (h : TakenFor table other) :
    isSystemTable (SqlAnalyzer.qualifiedName table) = true ↔ SystemTable other := by
  cases h with
  | plain h => exact isSystemTable_plain h
  | dottedName h => exact isSystemTable_split _ h
  | @qualified schema name hne h =>
    have hjoin : SqlAnalyzer.qualifiedName ⟨schema, name⟩ = schema ++ dot :: name := by
      simp [SqlAnalyzer.qualifiedName, hne]
    rw [hjoin]
    exact isSystemTable_split name h
  | @dottedSchema front back name h =>
    have hjoin : SqlAnalyzer.qualifiedName ⟨front ++ dot :: back, name⟩ =
        front ++ dot :: (back ++ dot :: name) := by
      simp [SqlAnalyzer.qualifiedName]
    rw [hjoin]
    exact isSystemTable_split _ h

end PolicyEngine

/-- A SELECT with a system table in its FROM tree, each of whose tables is taken for an
ordinary one, and that no other rule denies. -/
structure Overlooked (stmt : SelectStatement) : Prop where
  system : ∃ table, Leaf stmt.fromTable table ∧ SystemTable table
  taken : ∀ table, Leaf stmt.fromTable table → ∃ other, TakenFor table other ∧ ¬ SystemTable other
  noCte : stmt.withDescriptions.getD [] = []
  noSetOperation : stmt.setOperations.getD [] = []
  noSubquery : ¬ Within .tableSelect stmt.fromTable
  notMixed : ¬ ((∃ e, some e ∈ stmt.entries ∧ IsStar e) ∧ ∃ e, some e ∈ stmt.entries ∧ IsColumn e)

theorem overlooked_iff {stmt : SelectStatement} :
    Overlooked stmt ↔
      AuthorizedSelect stmt ∧ ∃ table, Leaf stmt.fromTable table ∧ SystemTable table := by
  constructor
  · intro h
    refine ⟨⟨h.noCte, h.noSetOperation, h.noSubquery, ?_, h.notMixed⟩, h.system⟩
    intro schema name tableAlias hwithin
    obtain ⟨other, htaken, hordinary⟩ := h.taken _ ⟨schema, name, tableAlias, hwithin, rfl⟩
    exact Bool.eq_false_iff.mpr (mt (PolicyEngine.isSystemTable_takenFor htaken).mp hordinary)
  · intro h
    obtain ⟨hauthorized, hsystem⟩ := h
    refine ⟨hsystem, ?_, hauthorized.noCte, hauthorized.noSetOperation, hauthorized.noSubquery,
      hauthorized.notMixed⟩
    intro table hleaf
    obtain ⟨schema, name, tableAlias, hwithin, rfl⟩ := hleaf
    obtain ⟨other, htaken⟩ := takenFor_total ⟨copyOrEmpty schema, copyOrEmpty name⟩
    have hno := hauthorized.noSystemTable schema name tableAlias hwithin
    exact ⟨other, htaken, mt (PolicyEngine.isSystemTable_takenFor htaken).mpr
      (Bool.eq_false_iff.mp hno)⟩

/-- A SELECT that names a system table anywhere in its FROM tree is denied, unless it is
overlooked. -/
theorem system_tables_denied_iff (stmt : SelectStatement) :
    (∀ table, Leaf stmt.fromTable table → SystemTable table →
      (decided [translateStatement (.select stmt)]).allowed = false) ↔ ¬ Overlooked stmt := by
  rw [overlooked_iff, ← decided_select]
  constructor
  · intro h hno
    obtain ⟨hallowed, table, hleaf, hsystem⟩ := hno
    rw [h table hleaf hsystem] at hallowed
    cases hallowed
  · intro h table hleaf hsystem
    rw [Bool.eq_false_iff]
    intro hallowed
    exact h ⟨hallowed, table, hleaf, hsystem⟩

/-- `SELECT id FROM orders NATURAL JOIN "pg_authid.copy"`. -/
def dottedSelect : SelectStatement where
  fromTable := .tableJoin (.tableName none (some (ascii "orders")) none)
    (.tableName none (some (ascii "pg_authid.copy")) none)
  selectList := some [some { type := .columnRef, name := some (ascii "id") }]

/-- The second name begins with `pg_`, and is taken for the table `copy` of a schema. -/
theorem dotted_name_allowed :
    ¬ ∀ table, Leaf dottedSelect.fromTable table → SystemTable table →
      (decided [translateStatement (.select dottedSelect)]).allowed = false := by
  intro h
  have hleaf : Leaf dottedSelect.fromTable ⟨[], ascii "pg_authid.copy"⟩ :=
    ⟨none, some (ascii "pg_authid.copy"), none, .right .here, rfl⟩
  have hdenied := h _ hleaf (by decide)
  have hallowed : (decided [translateStatement (.select dottedSelect)]).allowed = true := by
    decide +kernel
  rw [hallowed] at hdenied
  cases hdenied

section Dotless
variable {table : SqlProxy.TableRef}

theorem takenFor_self (hs : dot ∉ table.schema) (hn : table.schema = [] → dot ∉ table.name) :
    TakenFor table table := by
  obtain ⟨schema, name⟩ := table
  by_cases hne : schema = []
  · subst hne
    exact .plain (hn rfl)
  · exact .qualified hne hs

theorem dot_not_mem_catalogSchema {schema : Bytes} (h : CatalogSchema schema) :
    dot ∉ schema ∧ schema ≠ [] := by
  have hnone : dot ∉ ascii "pg_catalog" ∧ dot ∉ ascii "information_schema" := by decide
  have hempty : ¬ CatalogSchema [] := by decide
  constructor
  · intro hdot
    rw [← PolicyEngine.dot_mem_asciiLower] at hdot
    cases PolicyEngine.catalogSchema_iff.mp h with
    | inl h => exact hnone.1 (h ▸ hdot)
    | inr h => exact hnone.2 (h ▸ hdot)
  · intro he
    exact hempty (he ▸ h)

/-- A table of a catalog schema is always seen, whatever its name holds. -/
theorem isSystemTable_catalogSchema (h : CatalogSchema table.schema) :
    PolicyEngine.isSystemTable (SqlAnalyzer.qualifiedName table) = true := by
  obtain ⟨hdot, hne⟩ := dot_not_mem_catalogSchema h
  have htaken : TakenFor table table := takenFor_self hdot fun he => absurd he hne
  exact (PolicyEngine.isSystemTable_takenFor htaken).mpr (.inl h)

/-- So is every system table of a statement without a dot in an identifier. -/
theorem isSystemTable_dotless (hs : dot ∉ table.schema) (hn : dot ∉ table.name) :
    PolicyEngine.isSystemTable (SqlAnalyzer.qualifiedName table) = true ↔ SystemTable table :=
  PolicyEngine.isSystemTable_takenFor (takenFor_self hs fun _ => hn)

end Dotless
end SqlProxy
