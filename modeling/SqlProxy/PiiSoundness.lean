import SqlProxy.NameResolution

/-! When masking reaches the personal data of a result: the classifier goes by spelling,
the database by what the names denote. -/
namespace SqlProxy
open ByteText Hsql HyriseAdapter ProxyService PiiMasker DataClassifier

/-- Column `i` of a result is classified as PII, and its cells leave masked as such. -/
structure Guarded (category : PiiCategory) (a : SqlAnalysis) (r : ExecutionResult)
    (result : MaskedQueryResult) (i : Nat) : Prop where
  classified : (classes a r).columns[i]? = some (pii category)
  masked : ∀ (k : Nat) row cell, r.rows[k]? = some row → row[i]? = some cell →
    ∃ out, result.rows[k]? = some out ∧ out[i]? = some (maskCell category cell)

/-- The classification is what decides about the cells. -/
theorem guarded_iff {category : PiiCategory} {a : SqlAnalysis} {r : ExecutionResult} {i : Nat} :
    Guarded category a r (maskedResult a r) i ↔
      (classes a r).columns[i]? = some (pii category) := by
  constructor
  · exact Guarded.classified
  · intro h
    refine ⟨h, ?_⟩
    intro k row cell hrow hcell
    refine ⟨maskRow (classes a r).columns row, ?_, ?_⟩
    · simp [maskedResult, maskedRows, hrow]
    · simp [maskRow, List.getElem?_zipWith, h, hcell, maskAs, pii]

section
variable {lib : Bytes → Except Exception SQLParserResult} {env : Environment} {sql : Bytes}
  {stmt : SelectStatement} {r : ExecutionResult} {result : MaskedQueryResult}

/-- A read success of one SELECT releases what the database answered, masked. -/
theorem released_select (h : Submitted lib sql [.select stmt]) (hx : env.execute sql = .ok r)
    (hsuccess : (env.adapted lib).handled sql = .ok (.success result)) :
    Released (env.adapted lib) sql (selectAnalysis stmt) r ∧
      result = maskedResult (selectAnalysis stmt) r := by
  obtain ⟨a, r', hreleased, hresult⟩ := released_of_success hsuccess
  have ha := hreleased.analysis
  have hr := hreleased.executed
  rw [analysis_select h] at ha
  change env.execute sql = .ok r' at hr
  rw [hx] at hr
  cases ha
  cases hr
  exact ⟨hreleased, hresult⟩

theorem classOf_sensitive {name : Bytes} :
    (∃ category, classifier.classOf name = pii category) ↔ Sensitive name :=
  exists_congr fun _ => classOf_pii.trans find_eq_some

/-! Explicit lists. -/
variable {refs : List Expr}

/-- A list of references is released for as many columns as it has entries. -/
theorem width_of_released (hrefs : stmt.entries = refs.map some)
    (hcolumns : ∀ e ∈ refs, IsColumn e) (hne : refs ≠ []) (hr : r.columns ≠ [])
    (hf : (classes (selectAnalysis stmt) r).fullyAttributed = true) :
    r.columns.length = refs.length := by
  obtain ⟨e, he⟩ := List.exists_mem_of_ne_nil refs hne
  have hentry : some e ∈ stmt.entries := by
    rw [hrefs]
    exact List.mem_map_of_mem he
  have hcolumn : e.type = .columnRef := hcolumns e he
  cases (fullyAttributed_iff (by simp [hrefs]) hr).mp hf with
  | columns _ _ hw => simpa [hrefs] using hw.symm
  | stars _ hall =>
    have hstar : e.type = .star := hall e hentry
    cases hcolumn.symm.trans hstar
  | counts _ hall _ => cases hcolumn.symm.trans (hall e hentry).function

theorem classes_positional (hrefs : stmt.entries = refs.map some)
    (hcolumns : ∀ e ∈ refs, IsColumn e) (hne : refs ≠ [])
    (hwidth : r.columns.length = refs.length) :
    (classes (selectAnalysis stmt) r).columns =
      refs.map fun e => classifier.classOf (stripQualifier (copyOrEmpty e.name)) := by
  have hnull : none ∉ stmt.entries := by simp [hrefs]
  have hshape : positionalShape (selectAnalysis stmt) r.columns = true := by
    refine (positionalShape_iff hnull).mpr ⟨?_, ?_, ?_⟩
    · simpa [hrefs] using hne
    · simpa [hrefs] using hcolumns
    · simp [hrefs, hwidth]
  rw [classes, classify_positional hshape, projectionColumns_refs hrefs hcolumns, List.map_map]
  apply List.map_congr_left
  intro e _
  rw [Function.comp, stripQualifier_columnSpelling]

end

section Evasion
variable (ids : Identifiers) (items : List FromItem) (e : Expr)

/-- How personal data is read under a name that does not tell: under a column alias, or in
the row of a whole item. -/
inductive Evades (lineage : List ItemColumn) : Prop where
  | renamed {c : ItemColumn} (hc : c ∈ lineage) (hnames : Names ids items e c)
      (hs : Sensitive c.base) (hr : ¬ SameName c.visible c.base)
      (hspelt : ¬ Sensitive (stripQualifier (copyOrEmpty e.name)))
  | wholeRow {item : FromItem} {c : ItemColumn} (hi : item ∈ items) (hq : e.table = none)
      (hl : ids.same item.label (copyOrEmpty e.name)) (hrow : lineage = item.columns)
      (hc : c ∈ item.columns) (hs : Sensitive c.base)
      (hspelt : ¬ Sensitive (stripQualifier (copyOrEmpty e.name)))

/-- There is no other way. -/
theorem evades_iff {ids : Identifiers} {items : List FromItem} {e : Expr}
    {lineage : List ItemColumn} (h : Denotes ids items e lineage) :
    Evades ids items e lineage ↔
      (∃ c ∈ lineage, Sensitive c.base) ∧ ¬ Sensitive (stripQualifier (copyOrEmpty e.name)) := by
  constructor
  · intro hevades
    cases hevades with
    | renamed hc hnames hs hr hspelt => exact ⟨⟨_, hc, hs⟩, hspelt⟩
    | wholeRow hi hq hl hrow hc hs hspelt =>
      rw [hrow]
      exact ⟨⟨_, hc, hs⟩, hspelt⟩
  · rintro ⟨⟨c, hc, hs⟩, hspelt⟩
    cases h with
    | column hne hnames =>
      have hname := hnames c hc
      obtain ⟨item, hi, hq, hmem, hvisible⟩ := hname
      refine .renamed hc (hnames c hc) hs (fun hr => hspelt ?_) hspelt
      -- a column that keeps its name is spelled by that name
      have hbase : Sensitive c.visible := hs.of_sameName hr.symm
      exact (hbase.of_sameName (ids.folds _ _ hvisible)).stripQualifier
    | wholeRow hno hq hi hl => exact .wholeRow hi hq hl rfl hc hs hspelt

end Evasion

/-- Every result column computed from personal data is guarded. -/
def ExplicitSound (a : SqlAnalysis) (r : ExecutionResult) (result : MaskedQueryResult)
    (lineages : List (List ItemColumn)) : Prop :=
  ∀ (i : Nat) lineage, i < r.columns.length → lineages[i]? = some lineage →
    (∃ c ∈ lineage, Sensitive c.base) → ∃ category, Guarded category a r result i

/-- A list of column references guards its personal data exactly when no reference evades
the classifier. -/
theorem explicit_sound_iff (ids : Identifiers) (catalog : Catalog)
    (lib : Bytes → Except Exception SQLParserResult) (env : Environment) (sql : Bytes)
    (stmt : SelectStatement) (refs : List Expr) (lineages : List (List ItemColumn))
    (r : ExecutionResult) (result : MaskedQueryResult)
    (h : Submitted lib sql [.select stmt]) (hrefs : stmt.entries = refs.map some)
    (hcolumns : ∀ e ∈ refs, IsColumn e) (hne : refs ≠ [])
    (hx : env.execute sql = .ok r)
    (hlineage : List.Forall₂ (Denotes ids (fromItems catalog stmt.fromTable)) refs lineages)
    (hsuccess : (env.adapted lib).handled sql = .ok (.success result)) :
    ExplicitSound (selectAnalysis stmt) r result lineages ↔
      ∀ (i : Nat) e lineage, i < r.columns.length → refs[i]? = some e →
        lineages[i]? = some lineage →
        ¬ Evades ids (fromItems catalog stmt.fromTable) e lineage := by
  obtain ⟨hreleased, rfl⟩ := released_select h hx hsuccess
  have hguarded {i : Nat} {e : Expr} (hi : i < r.columns.length) (he : refs[i]? = some e) :
      (∃ category, Guarded category (selectAnalysis stmt) r
        (maskedResult (selectAnalysis stmt) r) i) ↔
        Sensitive (stripQualifier (copyOrEmpty e.name)) := by
    have hr : r.columns ≠ [] := List.ne_nil_of_length_pos (Nat.zero_lt_of_lt hi)
    have hwidth := width_of_released hrefs hcolumns hne hr hreleased.attributed
    simp only [guarded_iff, classes_positional hrefs hcolumns hne hwidth, List.getElem?_map, he,
      Option.map_some, Option.some.injEq]
    exact classOf_sensitive
  constructor
  · intro hsound i e lineage hi he hl hevades
    obtain ⟨hrefsBound, rfl⟩ := List.getElem?_eq_some_iff.mp he
    obtain ⟨hlineagesBound, rfl⟩ := List.getElem?_eq_some_iff.mp hl
    have hdenotes := hlineage.get hrefsBound hlineagesBound
    obtain ⟨hs, hspelt⟩ := (evades_iff hdenotes).mp hevades
    exact hspelt ((hguarded hi he).mp (hsound i _ hi hl hs))
  · intro hevades i lineage hi hl hs
    obtain ⟨hlineagesBound, rfl⟩ := List.getElem?_eq_some_iff.mp hl
    have hrefsBound : i < refs.length := hlineage.length_eq ▸ hlineagesBound
    have he := List.getElem?_eq_getElem hrefsBound
    have hdenotes := hlineage.get hrefsBound hlineagesBound
    by_contra hno
    rw [hguarded hi he] at hno
    exact hevades i _ _ hi he hl ((evades_iff hdenotes).mpr ⟨hs, hno⟩)

/-- A database that folds no case. -/
def exactIdentifiers : Identifiers := ⟨Eq, fun _ _ h => congrArg asciiLower h⟩

def customersCatalog : Catalog := fun _ name =>
  if name = ascii "customers" then [ascii "id", ascii "email"] else []

/-- `SELECT <name> FROM customers AS <tableAlias>`. -/
def customersSelect (name : Bytes) (tableAlias : Option Alias) : SelectStatement where
  fromTable := .tableName none (some (ascii "customers")) tableAlias
  selectList := some [some { type := .columnRef, name := some name }]

def renamedAlias : Alias := { name := ascii "c", columns := some [ascii "a", ascii "b"] }

/-- One customer's address under a given column name. -/
def addressResult (name : Bytes) : ExecutionResult where
  status := .ok
  columns := [{ name := name }]
  rows := [[some (ascii "ada@example.org")]]
  rowCount := 1

/-- The customer's answer to one column reference. -/
def addressEnvironment (name : Bytes) (tableAlias : Option Alias) : Environment :=
  (answering (addressResult name)).adapted (libraryOf (.select (customersSelect name tableAlias)))

theorem explicit_sound_email :
    ExplicitSound (selectAnalysis (customersSelect (ascii "email") none))
      (addressResult (ascii "email"))
      ⟨[ascii "email"], [[some (ascii "a***@example.org")]]⟩
      [[{ visible := ascii "email", base := ascii "email" }]] := by
  have hdenotes : Denotes exactIdentifiers
      (fromItems customersCatalog (customersSelect (ascii "email") none).fromTable)
      { type := .columnRef, name := some (ascii "email") }
      [{ visible := ascii "email", base := ascii "email" }] := by
    refine .column (by simp) fun c hc => ?_
    rw [List.mem_singleton.mp hc]
    exact ⟨_, List.mem_singleton.mpr rfl, by simp, by decide, rfl⟩
  refine (explicit_sound_iff exactIdentifiers customersCatalog _
    (answering (addressResult (ascii "email"))) (ascii "x") _
    [{ type := .columnRef, name := some (ascii "email") }] _ _ _
    (submitted_libraryOf _ (by decide)) rfl (by simp [IsColumn]) (by simp) rfl
    (.cons hdenotes .nil) (by decide +kernel)).mpr ?_
  intro i e lineage _ he _ hevades
  have hspelt : Sensitive (stripQualifier (ascii "email")) := ⟨.email, by decide⟩
  have hname : e.name = some (ascii "email") := by
    rw [List.mem_singleton.mp (List.mem_of_getElem? he)]
  cases hevades with
  | renamed hc hnames hs hr hno =>
    rw [hname] at hno
    exact hno hspelt
  | wholeRow hi hq hl hrow hc hs hno =>
    rw [hname] at hno
    exact hno hspelt

/-- `SELECT b FROM customers AS c(a, b)` returns the address as it stands. -/
theorem renamed_column_released :
    Denotes exactIdentifiers
      (fromItems customersCatalog (customersSelect (ascii "b") (some renamedAlias)).fromTable)
      { type := .columnRef, name := some (ascii "b") }
      [{ visible := ascii "b", base := ascii "email" }] ∧
    (addressEnvironment (ascii "b") (some renamedAlias)).handled (ascii "x") =
      .ok (.success ⟨[ascii "b"], [[some (ascii "ada@example.org")]]⟩) ∧
    ¬ ExplicitSound (selectAnalysis (customersSelect (ascii "b") (some renamedAlias)))
      (addressResult (ascii "b")) ⟨[ascii "b"], [[some (ascii "ada@example.org")]]⟩
      [[{ visible := ascii "b", base := ascii "email" }]] := by
  refine ⟨.column (by simp) fun c hc => ?_, by decide +kernel, fun hsound => ?_⟩
  · rw [List.mem_singleton.mp hc]
    exact ⟨_, List.mem_singleton.mpr rfl, by simp, by decide, rfl⟩
  · obtain ⟨category, hguarded⟩ := hsound 0 _ (by decide) rfl ⟨_, List.mem_singleton.mpr rfl, .email, rfl⟩
    have hclass : (classes (selectAnalysis (customersSelect (ascii "b") (some renamedAlias)))
        (addressResult (ascii "b"))).columns[0]? = some notPii := by
      decide +kernel
    cases hclass.symm.trans hguarded.classified

/-! Stars. -/

/-- The columns of a result are those its stars expand to, each under its visible name. -/
def Reports (ids : Identifiers) (items : List FromItem) (stars : List Expr)
    (reported : List ColumnInfo) (columns : List ItemColumn) : Prop :=
  ∃ expansions, List.Forall₂ (Expands ids items) stars expansions ∧
    columns = expansions.flatten ∧
    List.Forall₂ (fun column c => ids.same column.name c.visible) reported columns

/-- Every result column drawn from personal data is guarded by its own category. -/
def WildcardSound (a : SqlAnalysis) (r : ExecutionResult) (result : MaskedQueryResult)
    (columns : List ItemColumn) : Prop :=
  ∀ (i : Nat) c category, columns[i]? = some c → Holds category c.base →
    Guarded category a r result i

/-- A column alias gives personal data a name of another kind. -/
def Disguised (c : ItemColumn) : Prop :=
  ∃ category, Holds category c.base ∧ ¬ Holds category c.visible

/-- Stars guard their personal data exactly when no column list disguises any. -/
theorem wildcard_sound_iff (ids : Identifiers) (catalog : Catalog)
    (lib : Bytes → Except Exception SQLParserResult) (env : Environment) (sql : Bytes)
    (stmt : SelectStatement) (stars : List Expr) (columns : List ItemColumn)
    (r : ExecutionResult) (result : MaskedQueryResult)
    (h : Submitted lib sql [.select stmt]) (hstars : stmt.entries = stars.map some)
    (hall : ∀ e ∈ stars, IsStar e) (hne : stars ≠ []) (hx : env.execute sql = .ok r)
    (hreports : Reports ids (fromItems catalog stmt.fromTable) stars r.columns columns)
    (hsuccess : (env.adapted lib).handled sql = .ok (.success result)) :
    WildcardSound (selectAnalysis stmt) r result columns ↔ ∀ c ∈ columns, ¬ Disguised c := by
  obtain ⟨-, rfl⟩ := released_select h hx hsuccess
  obtain ⟨-, -, -, hnames⟩ := hreports
  have hshape : wildcardShape (selectAnalysis stmt) = true := by
    refine (wildcardShape_iff (by simp [hstars])).mpr ⟨?_, ?_⟩
    · simpa [hstars] using hne
    · simpa [hstars] using hall
  have hguarded {i : Nat} {c : ItemColumn} {category : PiiCategory} (hc : columns[i]? = some c) :
      Guarded category (selectAnalysis stmt) r (maskedResult (selectAnalysis stmt) r) i ↔
        Holds category c.visible := by
    obtain ⟨hbound, rfl⟩ := List.getElem?_eq_some_iff.mp hc
    have hcolumns : i < r.columns.length := hnames.length_eq ▸ hbound
    have hcolumn := List.getElem?_eq_getElem hcolumns
    have hname : ids.same r.columns[i].name columns[i].visible := hnames.get hcolumns hbound
    have hfold := ids.folds _ _ hname
    simp only [guarded_iff, classes, classify_wildcard hshape, List.getElem?_map, hcolumn,
      Option.map_some, Option.some.injEq]
    rw [classOf_pii, find_sameName _ hfold]
    exact find_eq_some
  constructor
  · intro hsound c hc hdisguised
    obtain ⟨category, hbase, hvisible⟩ := hdisguised
    obtain ⟨i, hi⟩ := List.mem_iff_getElem?.mp hc
    exact hvisible ((hguarded hi).mp (hsound i c category hi hbase))
  · intro hplain i c category hc hbase
    rw [hguarded hc]
    by_contra hvisible
    exact hplain c (List.mem_of_getElem? hc) ⟨category, hbase, hvisible⟩

/-- `SELECT * FROM customers AS <tableAlias>`. -/
def starSelect (tableAlias : Option Alias) : SelectStatement where
  fromTable := .tableName none (some (ascii "customers")) tableAlias
  selectList := some [some { type := .star }]

/-- One customer, under given column names. -/
def customerResult (first second : Bytes) : ExecutionResult where
  status := .ok
  columns := [{ name := first }, { name := second }]
  rows := [[some (ascii "1"), some (ascii "ada@example.org")]]
  rowCount := 1

theorem wildcard_sound_plain :
    WildcardSound (selectAnalysis (starSelect none))
      (customerResult (ascii "id") (ascii "email"))
      ⟨[ascii "id", ascii "email"], [[some (ascii "1"), some (ascii "a***@example.org")]]⟩
      [{ visible := ascii "id", base := ascii "id" },
        { visible := ascii "email", base := ascii "email" }] := by
  have hreports : Reports exactIdentifiers
      (fromItems customersCatalog (starSelect none).fromTable) [{ type := .star }]
      (customerResult (ascii "id") (ascii "email")).columns
      [{ visible := ascii "id", base := ascii "id" },
        { visible := ascii "email", base := ascii "email" }] :=
    ⟨_, .cons (.all rfl) .nil, by decide, .cons rfl (.cons rfl .nil)⟩
  refine (wildcard_sound_iff exactIdentifiers customersCatalog _
    (answering (customerResult (ascii "id") (ascii "email"))) (ascii "x") _
    [{ type := .star }] _ _ _ (submitted_libraryOf _ (by decide)) rfl (by simp [IsStar])
    (by simp) rfl hreports (by decide +kernel)).mpr ?_
  intro c hc hdisguised
  obtain ⟨category, hbase, hvisible⟩ := hdisguised
  have hsame : c.visible = c.base := by
    simp only [List.mem_cons, List.not_mem_nil, or_false] at hc
    rcases hc with rfl | rfl <;> rfl
  rw [hsame] at hvisible
  exact hvisible hbase

/-- `SELECT * FROM customers AS c(a, b)` returns the address as it stands. -/
theorem renamed_star_released :
    Reports exactIdentifiers
      (fromItems customersCatalog (starSelect (some renamedAlias)).fromTable) [{ type := .star }]
      (customerResult (ascii "a") (ascii "b")).columns
      [{ visible := ascii "a", base := ascii "id" },
        { visible := ascii "b", base := ascii "email" }] ∧
    ((answering (customerResult (ascii "a") (ascii "b"))).adapted
        (libraryOf (.select (starSelect (some renamedAlias))))).handled (ascii "x") =
      .ok (.success ⟨[ascii "a", ascii "b"],
        [[some (ascii "1"), some (ascii "ada@example.org")]]⟩) ∧
    ¬ WildcardSound (selectAnalysis (starSelect (some renamedAlias)))
      (customerResult (ascii "a") (ascii "b"))
      ⟨[ascii "a", ascii "b"], [[some (ascii "1"), some (ascii "ada@example.org")]]⟩
      [{ visible := ascii "a", base := ascii "id" },
        { visible := ascii "b", base := ascii "email" }] := by
  refine ⟨⟨_, .cons (.all rfl) .nil, by decide, .cons rfl (.cons rfl .nil)⟩,
    by decide +kernel, fun hsound => ?_⟩
  have hguarded := hsound 1 _ .email rfl rfl
  have hclass : (classes (selectAnalysis (starSelect (some renamedAlias)))
      (customerResult (ascii "a") (ascii "b"))).columns[1]? = some notPii := by
    decide +kernel
  cases hclass.symm.trans hguarded.classified

end SqlProxy
