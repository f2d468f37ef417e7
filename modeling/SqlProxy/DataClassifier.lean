import SqlProxy.PortTypes
import Mathlib.Data.List.Basic
import Mathlib.Data.List.Nodup
import Mathlib.Tactic.SplitIfs

/-! `core/data_classifier.cpp`: which result columns carry PII, decided from the
analysis and the column metadata alone. -/
namespace SqlProxy
open ByteText

structure ClassificationConfig where
  columnMappings : List (Bytes × PiiCategory)

def defaultClassificationConfig : ClassificationConfig where
  columnMappings :=
    [(ascii "email", .email), (ascii "phone", .phone), (ascii "credit_card", .creditCard)]

/-- The map from lowered column names to categories; no two entries share a key. -/
structure DataClassifier where
  normalizedMappings : List (Bytes × PiiCategory)
  lowered : ∀ key ∈ normalizedMappings.map Prod.fst, asciiLower key = key
  nodup : (normalizedMappings.map Prod.fst).Nodup

namespace DataClassifier

def empty : DataClassifier := ⟨[], by simp, by simp⟩

/-- One round of the constructor's loop: `emplace`, or throw on a taken key. -/
def emplace (classifier : DataClassifier) (mapping : Bytes × PiiCategory) :
    Except Exception DataClassifier :=
  let key := asciiLower mapping.1
  if h : key ∈ classifier.normalizedMappings.map Prod.fst then
    .error (.invalidArgument
      (ascii "duplicate classification mapping after case-insensitive normalization: '" ++
        key ++ ascii "'"))
  else
    .ok
      { normalizedMappings := (key, mapping.2) :: classifier.normalizedMappings
        lowered := by
          intro k hk
          rcases List.mem_cons.mp hk with rfl | hk
          · exact asciiLower_asciiLower mapping.1
          · exact classifier.lowered k hk
        nodup := List.nodup_cons.mpr ⟨h, classifier.nodup⟩ }

def ofConfig (config : ClassificationConfig) : Except Exception DataClassifier :=
  config.columnMappings.foldlM emplace empty

/-- `DataClassifier()`. -/
def default : DataClassifier where
  normalizedMappings :=
    [(ascii "credit_card", .creditCard), (ascii "phone", .phone), (ascii "email", .email)]
  lowered := by decide
  nodup := by decide

theorem ofConfig_default : ofConfig defaultClassificationConfig = .ok default := rfl

def stripQualifier (name : Bytes) : Bytes := afterLast dot name

def pii (category : PiiCategory) : ColumnClassification :=
  { dataClass := .pii, piiCategory := some category }

def notPii : ColumnClassification :=
  { dataClass := .notClassifiedAsPii, piiCategory := none }

/-- `normalized_mappings_.find(ascii_lower(source))`. -/
def find (classifier : DataClassifier) (source : Bytes) : Option PiiCategory :=
  classifier.normalizedMappings.lookup (asciiLower source)

def analyzable (analysis : SqlAnalysis) : Bool :=
  analysis.status = .ok && analysis.statementClass = .select

def positionalShape (analysis : SqlAnalysis) (resultColumns : List ColumnInfo) : Bool :=
  analyzable analysis && !analysis.hasWildcardProjection && !analysis.hasComputedProjection
    && !analysis.hasSafeCountStarProjection && !analysis.projectionColumns.isEmpty
    && analysis.projectionColumns.length = resultColumns.length

def wildcardShape (analysis : SqlAnalysis) : Bool :=
  analyzable analysis && analysis.hasWildcardProjection && analysis.projectionColumns.isEmpty
    && !analysis.hasComputedProjection && !analysis.hasSafeCountStarProjection

def countStarOnlyShape (analysis : SqlAnalysis) : Bool :=
  analyzable analysis && analysis.hasSafeCountStarProjection && !analysis.hasWildcardProjection
    && !analysis.hasComputedProjection && !analysis.hasGroupBy
    && analysis.projectionColumns.isEmpty

/-- The class of a column attributed to the source name `source`. -/
def classOf (classifier : DataClassifier) (source : Bytes) : ColumnClassification :=
  match classifier.find source with
  | none => notPii
  | some category => pii category

/-- The body of the loop over the result columns. -/
def classAt (classifier : DataClassifier) (analysis : SqlAnalysis)
    (resultColumns : List ColumnInfo) (i : Nat) (column : ColumnInfo) : ColumnClassification :=
  if countStarOnlyShape analysis then notPii
  else classifier.classOf
    (if positionalShape analysis resultColumns then
      stripQualifier (analysis.projectionColumns[i]?.getD [])
    else column.name)

def classify (classifier : DataClassifier) (analysis : SqlAnalysis)
    (resultColumns : List ColumnInfo) : ClassificationResult :=
  if resultColumns.isEmpty then { columns := [], fullyAttributed := true }
  else if !positionalShape analysis resultColumns && !wildcardShape analysis
      && !countStarOnlyShape analysis then
    { columns := List.replicate resultColumns.length {}, fullyAttributed := false }
  else
    { columns := resultColumns.mapIdx (classifier.classAt analysis resultColumns)
      fullyAttributed := true }

theorem find_sameName (classifier : DataClassifier) {s t : Bytes} (h : SameName s t) :
    classifier.find s = classifier.find t := by
  unfold find
  rw [h]

theorem classOf_pii {classifier : DataClassifier} {source : Bytes} {category : PiiCategory} :
    classifier.classOf source = pii category ↔ classifier.find source = some category := by
  unfold classOf
  cases classifier.find source <;> simp [pii, notPii]

/-- Classes that account for a column: marked PII exactly with a category. -/
def Attributed (c : ColumnClassification) : Prop :=
  c = notPii ∨ ∃ category, c = pii category

theorem attributed_classOf (classifier : DataClassifier) (source : Bytes) :
    Attributed (classifier.classOf source) := by
  unfold classOf
  cases classifier.find source with
  | none => exact .inl rfl
  | some category => exact .inr ⟨category, rfl⟩

theorem attributed_classAt (classifier : DataClassifier) (analysis : SqlAnalysis)
    (resultColumns : List ColumnInfo) (i : Nat) (column : ColumnInfo) :
    Attributed (classifier.classAt analysis resultColumns i column) := by
  unfold classAt
  by_cases hn : countStarOnlyShape analysis
  · rw [if_pos hn]
    exact .inl rfl
  · rw [if_neg hn]
    exact attributed_classOf _ _

@[simp] theorem classify_length (classifier : DataClassifier) (analysis : SqlAnalysis)
    (resultColumns : List ColumnInfo) :
    (classifier.classify analysis resultColumns).columns.length = resultColumns.length := by
  unfold classify
  split_ifs with he
  · simp [List.isEmpty_iff.mp he]
  · simp
  · simp

/-- In a positional list the names in the result play no part. -/
theorem classify_positional {classifier : DataClassifier} {analysis : SqlAnalysis}
    {resultColumns : List ColumnInfo} (h : positionalShape analysis resultColumns = true) :
    (classifier.classify analysis resultColumns).columns =
      analysis.projectionColumns.map fun name => classifier.classOf (stripQualifier name) := by
  have hshape := h
  simp only [positionalShape, Bool.and_eq_true, Bool.not_eq_true', decide_eq_true_eq] at hshape
  obtain ⟨⟨⟨-, hcount⟩, hne⟩, hlen⟩ := hshape
  have hcounts : countStarOnlyShape analysis = false := by
    simp [countStarOnlyShape, hcount]
  have hsome : resultColumns.isEmpty = false := by
    cases resultColumns with
    | nil => simp [List.length_eq_zero_iff.mp hlen] at hne
    | cons _ _ => rfl
  simp only [classify, hsome, h, Bool.not_true, Bool.false_and, Bool.false_eq_true, if_false]
  apply List.ext_getElem
  · simp [hlen]
  · intro i h₁ h₂
    have hi : i < analysis.projectionColumns.length := by simpa using h₂
    simp [classAt, hcounts, h, hi]

/-- Behind stars the names in the result are all there is. -/
theorem classify_wildcard {classifier : DataClassifier} {analysis : SqlAnalysis}
    {resultColumns : List ColumnInfo} (h : wildcardShape analysis = true) :
    (classifier.classify analysis resultColumns).columns =
      resultColumns.map fun column => classifier.classOf column.name := by
  have hshape := h
  simp only [wildcardShape, Bool.and_eq_true] at hshape
  have hstar : analysis.hasWildcardProjection = true := hshape.1.1.1.2
  have hpositional : positionalShape analysis resultColumns = false := by
    simp [positionalShape, hstar]
  have hcounts : countStarOnlyShape analysis = false := by
    simp [countStarOnlyShape, hstar]
  have hat : classifier.classAt analysis resultColumns =
      fun _ column => classifier.classOf column.name := by
    funext i column
    simp [classAt, hcounts, hpositional]
  have hmap : resultColumns.mapIdx (classifier.classAt analysis resultColumns) =
      resultColumns.map fun column => classifier.classOf column.name := by
    rw [hat]
    apply List.ext_getElem <;> simp
  rw [← hmap]
  cases resultColumns with
  | nil => rfl
  | cons column rest => simp only [classify, hpositional, h, List.isEmpty_cons, Bool.not_false,
      Bool.not_true, Bool.and_false, Bool.false_and, Bool.false_eq_true, if_false]

/-- All or nothing: no column is attributed, or every column is. -/
theorem classify_cases (classifier : DataClassifier) (analysis : SqlAnalysis)
    (resultColumns : List ColumnInfo) :
    (resultColumns ≠ [] ∧ classifier.classify analysis resultColumns =
        { columns := List.replicate resultColumns.length {}, fullyAttributed := false }) ∨
    ((classifier.classify analysis resultColumns).fullyAttributed = true ∧
      ∀ c ∈ (classifier.classify analysis resultColumns).columns, Attributed c) := by
  unfold classify
  split_ifs with he hs
  · exact .inr ⟨rfl, by simp⟩
  · exact .inl ⟨by simpa using he, rfl⟩
  · refine .inr ⟨rfl, ?_⟩
    intro c hc
    obtain ⟨i, hi, rfl⟩ := List.mem_mapIdx.mp hc
    exact attributed_classAt _ _ _ _ _

end DataClassifier
end SqlProxy
