import SqlProxy.DataClassifier
import SqlProxy.PiiMasker
import Mathlib.Tactic.Push

/-! The checks that come before any cell is masked, each as a condition on the result and
its classification, and that the classifier meets them. -/
namespace SqlProxy
open ByteText

namespace PiiMasker

/-- Every row is as wide as the column list. -/
def Rectangular (execution : ExecutionResult) : Prop :=
  ∀ row ∈ execution.rows, row.length = execution.columns.length

instance (execution : ExecutionResult) : Decidable (Rectangular execution) :=
  inferInstanceAs (Decidable (∀ row ∈ execution.rows, row.length = execution.columns.length))

theorem any_width_eq (execution : ExecutionResult) :
    (execution.rows.any fun row => row.length ≠ execution.columns.length) =
      !decide (Rectangular execution) := by
  by_cases hr : Rectangular execution
  · rw [decide_eq_true hr, Bool.not_true]
    apply List.any_eq_false.mpr
    intro row hrow
    simp [hr row hrow]
  · rw [decide_eq_false hr, Bool.not_false]
    apply List.any_eq_true.mpr
    unfold Rectangular at hr
    push Not at hr
    obtain ⟨row, hrow, hne⟩ := hr
    exact ⟨row, hrow, by simpa using hne⟩

section Checks
variable (result : ExecutionResult) (classification : ClassificationResult)

/-- The classification or a row is not as wide as the column list. -/
def Misshapen : Prop :=
  classification.columns.length ≠ result.columns.length ∨
    ∃ row ∈ result.rows, row.length ≠ result.columns.length

instance : Decidable (Misshapen result classification) :=
  inferInstanceAs (Decidable (_ ∨ _))

def HasUnattributed : Prop := ∃ c ∈ classification.columns, c.dataClass = .unattributed

instance : Decidable (HasUnattributed classification) :=
  inferInstanceAs (Decidable (∃ c ∈ classification.columns, c.dataClass = .unattributed))

/-- PII without a category, or a category without PII. -/
def Contradictory (c : ColumnClassification) : Prop :=
  c.dataClass = .pii ∧ c.piiCategory = none ∨ c.dataClass ≠ .pii ∧ c.piiCategory ≠ none

instance (c : ColumnClassification) : Decidable (Contradictory c) :=
  inferInstanceAs (Decidable (_ ∨ _))

/-- An entry contradicts itself, or the flag contradicts the entries. -/
def Inconsistent : Prop :=
  (∃ c ∈ classification.columns, Contradictory c) ∨
    ¬ (classification.fullyAttributed = true ↔ ¬ HasUnattributed classification)

instance : Decidable (Inconsistent classification) :=
  inferInstanceAs (Decidable (_ ∨ _))

variable {result classification}

theorem hasInvalidEntry_iff {columns : List ColumnClassification} :
    hasInvalidEntry columns = true ↔ ∃ c ∈ columns, Contradictory c := by
  rw [hasInvalidEntry, List.any_eq_true]
  refine exists_congr fun c => and_congr_right fun _ => ?_
  unfold Contradictory
  cases c.dataClass <;> cases c.piiCategory <;> simp

theorem anyUnattributed_iff :
    anyUnattributed classification.columns = true ↔ HasUnattributed classification := by
  simp [anyUnattributed, HasUnattributed]

/-- The checks in the order in which they are made. -/
theorem mask_eq (result : ExecutionResult) (classification : ClassificationResult) :
    mask result classification =
      if Misshapen result classification then .failure .structuralMismatch
      else if Inconsistent classification then .failure .invalidClassification
      else if HasUnattributed classification then .failure .unattributedColumn
      else .success
        { result with rows := result.rows.map (maskRow classification.columns) } := by
  unfold mask
  by_cases hlength : classification.columns.length = result.columns.length
  · have hany := any_width_eq result
    simp only [hlength, ne_eq, not_true_eq_false, if_false] at hany ⊢
    rw [hany]
    by_cases hr : Rectangular result
    · have hshape : ¬ Misshapen result classification := by
        intro h
        cases h with
        | inl h => exact h hlength
        | inr h =>
          obtain ⟨row, hrow, hne⟩ := h
          exact hne (hr row hrow)
      have hrows : ∀ row ∈ result.rows, row.length = classification.columns.length := by
        intro row hrow
        rw [hlength]
        exact hr row hrow
      rw [foldl_maskColumn _ _ hrows]
      simp only [hr, decide_true, Bool.not_true, Bool.false_eq_true, if_false, hshape,
        hasInvalidEntry_iff, anyUnattributed_iff]
      by_cases hcontra : ∃ c ∈ classification.columns, Contradictory c
      · have hinconsistent : Inconsistent classification := .inl hcontra
        rw [if_pos hcontra, if_pos hinconsistent]
      · rw [if_neg hcontra]
        have hflag : Inconsistent classification ↔ classification.fullyAttributed =
            anyUnattributed classification.columns := by
          rw [Inconsistent, or_iff_right hcontra, ← anyUnattributed_iff]
          cases classification.fullyAttributed <;>
            cases anyUnattributed classification.columns <;> simp
        simp only [hflag]
        cases classification.fullyAttributed <;>
          cases anyUnattributed classification.columns <;> simp
    · have hshape : Misshapen result classification := by
        unfold Rectangular at hr
        push Not at hr
        exact .inr hr
      simp only [hr, decide_false, Bool.not_false, if_true, hshape]
  · have hshape : Misshapen result classification := .inl hlength
    simp only [hlength, hshape, ne_eq, not_false_eq_true, if_true]

end Checks

section Answers
variable {result : ExecutionResult} {classification : ClassificationResult}

theorem mask_structural_iff : mask result classification = .failure .structuralMismatch ↔
    Misshapen result classification := by
  rw [mask_eq]
  split_ifs <;> simp_all

theorem mask_invalid_iff : mask result classification = .failure .invalidClassification ↔
    ¬ Misshapen result classification ∧ Inconsistent classification := by
  rw [mask_eq]
  split_ifs <;> simp_all

theorem mask_unattributed_iff : mask result classification = .failure .unattributedColumn ↔
    ¬ Misshapen result classification ∧ ¬ Inconsistent classification ∧
      HasUnattributed classification := by
  rw [mask_eq]
  split_ifs <;> simp_all

theorem mask_succeeds_iff : (∃ masked, mask result classification = .success masked) ↔
    ¬ Misshapen result classification ∧ ¬ Inconsistent classification ∧
      ¬ HasUnattributed classification := by
  rw [mask_eq]
  split_ifs <;> simp_all

end Answers

end PiiMasker

namespace DataClassifier
section
variable (classifier : DataClassifier) (analysis : SqlAnalysis) (resultColumns : List ColumnInfo)

/-- Either no column is accounted for, and there is one, or every column is. -/
theorem classify_uniform :
    ((classifier.classify analysis resultColumns).fullyAttributed = false ∧
      (classifier.classify analysis resultColumns).columns ≠ [] ∧
      ∀ c ∈ (classifier.classify analysis resultColumns).columns, c = {}) ∨
    ((classifier.classify analysis resultColumns).fullyAttributed = true ∧
      ∀ c ∈ (classifier.classify analysis resultColumns).columns, Attributed c) := by
  cases classify_cases classifier analysis resultColumns with
  | inl h =>
    obtain ⟨hne, heq⟩ := h
    left
    rw [heq]
    refine ⟨rfl, ?_, fun c hc => List.eq_of_mem_replicate hc⟩
    have hpos : resultColumns.length ≠ 0 := by simpa using hne
    simp [hpos]
  | inr h => exact .inr h

variable {classifier analysis resultColumns}

theorem Attributed.pii_iff {c : ColumnClassification} (h : Attributed c) :
    c.dataClass = .pii ↔ ∃ category, c.piiCategory = some category := by
  cases h with
  | inl h => simp [h, notPii]
  | inr h =>
    obtain ⟨category, rfl⟩ := h
    simp [pii]

theorem Attributed.ne_unattributed {c : ColumnClassification} (h : Attributed c) :
    c.dataClass ≠ .unattributed := by
  cases h with
  | inl h => simp [h, notPii]
  | inr h =>
    obtain ⟨category, rfl⟩ := h
    simp [pii]

theorem classify_pii_iff {c : ColumnClassification}
    (hc : c ∈ (classifier.classify analysis resultColumns).columns) :
    c.dataClass = .pii ↔ ∃ category, c.piiCategory = some category := by
  cases classify_uniform classifier analysis resultColumns with
  | inl h => simp [h.2.2 c hc]
  | inr h => exact (h.2 c hc).pii_iff

theorem classify_flag :
    (classifier.classify analysis resultColumns).fullyAttributed = true ↔
      ∀ c ∈ (classifier.classify analysis resultColumns).columns,
        c.dataClass ≠ .unattributed := by
  cases classify_uniform classifier analysis resultColumns with
  | inl h =>
    obtain ⟨hflag, hne, hall⟩ := h
    obtain ⟨c, hc⟩ := List.exists_mem_of_ne_nil _ hne
    have hc' : c.dataClass = .unattributed := by rw [hall c hc]
    rw [hflag]
    constructor
    · intro hno
      cases hno
    · intro hno
      exact absurd hc' (hno c hc)
  | inr h =>
    obtain ⟨hflag, hall⟩ := h
    exact iff_of_true hflag fun c hc => (hall c hc).ne_unattributed

theorem classify_consistent :
    ¬ PiiMasker.Inconsistent (classifier.classify analysis resultColumns) := by
  intro h
  cases h with
  | inl h =>
    obtain ⟨c, hc, hcontra⟩ := h
    have hiff := classify_pii_iff hc
    cases hcontra with
    | inl hcontra =>
      obtain ⟨category, hcategory⟩ := hiff.mp hcontra.1
      rw [hcontra.2] at hcategory
      cases hcategory
    | inr hcontra => exact hcontra.1 (hiff.mpr (Option.ne_none_iff_exists'.mp hcontra.2))
  | inr h =>
    apply h
    rw [classify_flag, PiiMasker.HasUnattributed]
    simp

end
end DataClassifier

end SqlProxy
