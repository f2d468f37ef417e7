import SqlProxy.NameResolution

/-! The two ways a result column gets its source name: from the select list, by position,
or behind a star from the result itself. Both must come to one class. -/
namespace SqlProxy
open ByteText Hsql HyriseAdapter DataClassifier

/-- A column of an explicit select list. -/
structure NamedColumn where
  qualifier : Option Bytes
  source : Bytes

def NamedColumn.expr (column : NamedColumn) : Expr :=
  { type := .columnRef, table := column.qualifier, name := some column.source }

/-- The analysis of a SELECT of exactly these columns. -/
structure ExplicitProjection (columns : List NamedColumn) (analysis : SqlAnalysis) : Prop where
  ok : analysis.status = .ok
  select : analysis.statementClass = .select
  spelled : analysis.projectionColumns = columns.map fun column => columnSpelling column.expr
  noWildcard : analysis.hasWildcardProjection = false
  noComputed : analysis.hasComputedProjection = false
  noCountStar : analysis.hasSafeCountStarProjection = false

/-- The analysis of a SELECT of nothing but stars. -/
structure PureWildcard (analysis : SqlAnalysis) : Prop where
  ok : analysis.status = .ok
  select : analysis.statementClass = .select
  wildcard : analysis.hasWildcardProjection = true
  noColumns : analysis.projectionColumns = []
  noComputed : analysis.hasComputedProjection = false
  noCountStar : analysis.hasSafeCountStarProjection = false

theorem PureWildcard.shape {analysis : SqlAnalysis} (h : PureWildcard analysis) :
    wildcardShape analysis = true := by
  simp [wildcardShape, analyzable, h.ok, h.select, h.wildcard, h.noColumns, h.noComputed,
    h.noCountStar]

theorem ExplicitProjection.shape {columns : List NamedColumn} {analysis : SqlAnalysis}
    (h : ExplicitProjection columns analysis) (hne : columns ≠ [])
    {resultColumns : List ColumnInfo} (hlen : resultColumns.length = columns.length) :
    positionalShape analysis resultColumns = true := by
  simp [positionalShape, analyzable, h.ok, h.select, h.noWildcard, h.noComputed, h.noCountStar,
    h.spelled, hlen, hne]

/-- What the adapter makes of such a select list. -/
theorem explicitProjection_select {stmt : SelectStatement} {columns : List NamedColumn}
    (h : stmt.selectList = some (columns.map fun column => some column.expr))
    (hne : columns ≠ []) : ExplicitProjection columns (selectAnalysis stmt) := by
  have hrefs : stmt.entries = (columns.map NamedColumn.expr).map some := by
    simp [SelectStatement.entries, h]
  have hcolumns : ∀ e ∈ columns.map NamedColumn.expr, IsColumn e := by
    intro e he
    obtain ⟨column, -, rfl⟩ := List.mem_map.mp he
    rfl
  have hshape : positionalShape (selectAnalysis stmt) (columns.map fun _ => { name := [] }) = true := by
    refine (positionalShape_iff (by simp [hrefs])).mpr ⟨?_, ?_, ?_⟩
    · simpa [hrefs] using hne
    · simpa [hrefs] using hcolumns
    · simp [hrefs]
  simp only [positionalShape, analyzable, Bool.and_eq_true, Bool.not_eq_true',
    decide_eq_true_eq] at hshape
  obtain ⟨⟨⟨⟨⟨⟨hok, hselect⟩, hw⟩, hc⟩, hn⟩, -⟩, -⟩ := hshape
  have hspelled := projectionColumns_refs hrefs hcolumns
  rw [List.map_map] at hspelled
  exact ⟨hok, hselect, hspelled, hw, hc, hn⟩

theorem pureWildcard_select {stmt : SelectStatement} (hnull : none ∉ stmt.entries)
    (hne : stmt.entries ≠ []) (hall : ∀ e, some e ∈ stmt.entries → IsStar e) :
    PureWildcard (selectAnalysis stmt) := by
  have hshape := (wildcardShape_iff hnull).mpr ⟨hne, hall⟩
  simp only [wildcardShape, analyzable, Bool.and_eq_true, Bool.not_eq_true', decide_eq_true_eq,
    List.isEmpty_iff] at hshape
  obtain ⟨⟨⟨⟨⟨hok, hselect⟩, hw⟩, he⟩, hc⟩, hn⟩ := hshape
  exact ⟨hok, hselect, hw, he, hc, hn⟩

namespace DataClassifier

/-- Where names decide, every column is attributed. -/
theorem classify_fullyAttributed {classifier : DataClassifier} {analysis : SqlAnalysis}
    {resultColumns : List ColumnInfo}
    (h : positionalShape analysis resultColumns = true ∨ wildcardShape analysis = true) :
    (classifier.classify analysis resultColumns).fullyAttributed = true := by
  unfold classify
  split_ifs with he hs
  · rfl
  · simp only [Bool.and_eq_true, Bool.not_eq_true'] at hs
    rw [hs.1.1, hs.1.2] at h
    simp at h
  · rfl

theorem classify_wildcard_eq {classifier : DataClassifier} {analysis : SqlAnalysis}
    {resultColumns : List ColumnInfo} (h : PureWildcard analysis) :
    classifier.classify analysis resultColumns =
      { columns := resultColumns.map fun column => classifier.classOf column.name
        fullyAttributed := true } := by
  rw [← classify_wildcard h.shape, ← classify_fullyAttributed (.inr h.shape)]

/-- By position the qualifier and the name in the result play no part. -/
theorem classify_explicit_eq {classifier : DataClassifier} {analysis : SqlAnalysis}
    {columns : List NamedColumn} {resultColumns : List ColumnInfo}
    (h : ExplicitProjection columns analysis) (hne : columns ≠ [])
    (hlen : resultColumns.length = columns.length) :
    classifier.classify analysis resultColumns =
      { columns := columns.map fun column => classifier.classOf (stripQualifier column.source)
        fullyAttributed := true } := by
  have hshape := h.shape hne hlen
  have hcolumns : (columns.map fun column => classifier.classOf (stripQualifier column.source)) =
      (classifier.classify analysis resultColumns).columns := by
    rw [classify_positional hshape, h.spelled, List.map_map]
    apply List.map_congr_left
    intro column _
    rw [Function.comp, stripQualifier_columnSpelling]
    rfl
  rw [hcolumns, ← classify_fullyAttributed (.inl hshape)]

theorem stripQualifier_of_not_mem {name : Bytes} (h : dot ∉ name) : stripQualifier name = name :=
  afterLast_of_not_mem h

theorem map_classOf_source {classifier : DataClassifier} {columns : List NamedColumn}
    {starColumns : List ColumnInfo}
    (hstar : starColumns.map ColumnInfo.name = columns.map NamedColumn.source) :
    (starColumns.map fun column => classifier.classOf column.name) =
      columns.map fun column => classifier.classOf column.source := by
  have h := congrArg (List.map classifier.classOf) hstar
  rwa [List.map_map, List.map_map] at h

/-- `SELECT a, b` and `SELECT *` over columns `a`, `b` classify alike, whatever qualifies the
names and whatever the result calls its columns. Among dotted source names the list may
only tag more than the star. -/
theorem attribution_modes_agree (config : ClassificationConfig) (classifier : DataClassifier)
    (hconfig : ofConfig config = .ok classifier)
    (hkeys : ∀ m ∈ config.columnMappings, dot ∉ m.1) (columns : List NamedColumn)
    (hne : columns ≠ []) (explicit wildcard : SqlAnalysis)
    (hexplicit : ExplicitProjection columns explicit) (hwildcard : PureWildcard wildcard)
    (resultColumns starColumns : List ColumnInfo)
    (hlen : resultColumns.length = columns.length)
    (hstar : starColumns.map ColumnInfo.name = columns.map NamedColumn.source) :
    ((∀ column ∈ columns, dot ∉ column.source) →
      classifier.classify explicit resultColumns = classifier.classify wildcard starColumns) ∧
    (∀ aliased : List ColumnInfo, aliased.length = columns.length →
      classifier.classify explicit aliased = classifier.classify explicit resultColumns) ∧
    ∀ (i : Nat) (category : PiiCategory),
      (classifier.classify wildcard starColumns).columns[i]? = some (pii category) →
      (classifier.classify explicit resultColumns).columns[i]? = some (pii category) := by
  rw [classify_wildcard_eq hwildcard, classify_explicit_eq hexplicit hne hlen,
    map_classOf_source hstar]
  refine ⟨?_, ?_, ?_⟩
  · intro hdots
    congr 1
    apply List.map_congr_left
    intro column hc
    rw [stripQualifier_of_not_mem (hdots column hc)]
  · intro aliased haliased
    rw [classify_explicit_eq hexplicit hne haliased]
  · intro i category h
    rw [List.getElem?_map, Option.map_eq_some_iff] at h ⊢
    obtain ⟨column, hc, hclass⟩ := h
    refine ⟨column, hc, ?_⟩
    have hdot := dot_not_mem_of_find hconfig hkeys (classOf_pii.mp hclass)
    rw [stripQualifier_of_not_mem hdot, hclass]

/-- `SELECT c.Email, s.t.id`, and the star over the same two columns. -/
def namedColumns : List NamedColumn :=
  [⟨some (ascii "c"), ascii "Email"⟩, ⟨some (ascii "s.t"), ascii "id"⟩]

theorem attribution_modes_agree_namedColumns :
    default.classify { emailAnalysis with projectionColumns := [ascii "c.Email", ascii "s.t.id"] }
        [{ name := ascii "mail" }, { name := ascii "key" }] =
      default.classify
        { emailAnalysis with projectionColumns := [], hasWildcardProjection := true }
        [{ name := ascii "Email" }, { name := ascii "id" }] :=
  (attribution_modes_agree defaultClassificationConfig default ofConfig_default (by decide)
    namedColumns (by decide) _ _ ⟨rfl, rfl, rfl, rfl, rfl, rfl⟩ ⟨rfl, rfl, rfl, rfl, rfl, rfl⟩ _ _
    rfl rfl).1 (by decide)

end DataClassifier
end SqlProxy
