import SqlProxy.PortTypes
import Mathlib.Data.List.Basic
import Mathlib.Data.List.Forall2
import Mathlib.Tactic.SplitIfs

/-! `core/pii_masker.cpp`: the three masking rules and their application to a whole
result, validated before any cell is touched. -/
namespace SqlProxy
open ByteText

inductive MaskingFailureReason where
  | unattributedColumn | structuralMismatch | invalidClassification
  deriving DecidableEq

inductive MaskingOutcome where
  | success (result : ExecutionResult)
  | failure (reason : MaskingFailureReason)
  deriving DecidableEq

namespace PiiMasker

def fullRedaction : Bytes := ascii "***"

def atSign : UInt8 := 64

/-- `atPos` is where the loop last saw an at sign. -/
def maskEmail (value : Bytes) : Bytes :=
  let atCount := value.count atSign
  let atPos := (rfind atSign value).getD 0
  if atCount ≠ 1 ∨ atPos = 0 ∨ atPos = value.length - 1 then fullRedaction
  else
    let domain := value.drop (atPos + 1)
    if value.headD 0 ≥ 128 then ascii "***@" ++ domain
    else [value.headD 0] ++ ascii "***@" ++ domain

def maskPhone (value : Bytes) : Bytes :=
  let digits := value.filter isDigit
  if digits.length < 7 then fullRedaction
  else ascii "***" ++ digits.drop (digits.length - 4)

/-- The digits of a value made of digits, spaces and hyphens only. -/
def cardDigits : Bytes → Option Bytes
  | [] => some []
  | c :: value =>
    if c = 32 ∨ c = 45 then cardDigits value
    else if !isDigit c then none
    else (cardDigits value).map (c :: ·)

def maskCreditCard (value : Bytes) : Bytes :=
  match cardDigits value with
  | none => fullRedaction
  | some digits =>
    if digits.length < 12 then fullRedaction
    else ascii "****" ++ digits.drop (digits.length - 4)

def maskValue : PiiCategory → Bytes → Bytes
  | .email, value => maskEmail value
  | .phone, value => maskPhone value
  | .creditCard, value => maskCreditCard value

/-- NULL and the empty string are left alone. -/
def maskCell (category : PiiCategory) : Cell → Cell
  | none => none
  | some value => if value.isEmpty then some value else some (maskValue category value)

def hasInvalidEntry (columns : List ColumnClassification) : Bool :=
  columns.any fun c => (c.dataClass = .pii) ≠ c.piiCategory.isSome

def anyUnattributed (columns : List ColumnClassification) : Bool :=
  columns.any fun c => c.dataClass = .unattributed

/-- Phase 2 for column `col`: its cells in every row, by index. -/
def maskColumn (rows : List (List Cell)) (entry : ColumnClassification × Nat) :
    List (List Cell) :=
  if entry.1.dataClass ≠ .pii then rows
  else match entry.1.piiCategory with
    | some category => rows.map fun row => row.modify entry.2 (maskCell category)
    | none => rows

def mask (result : ExecutionResult) (classification : ClassificationResult) :
    MaskingOutcome :=
  let columnCount := result.columns.length
  if classification.columns.length ≠ columnCount then .failure .structuralMismatch
  else if result.rows.any fun row => row.length ≠ columnCount then .failure .structuralMismatch
  else if hasInvalidEntry classification.columns then .failure .invalidClassification
  else if classification.fullyAttributed ≠ !anyUnattributed classification.columns then
    .failure .invalidClassification
  else if anyUnattributed classification.columns then .failure .unattributedColumn
  else .success
    { result with rows := classification.columns.zipIdx.foldl maskColumn result.rows }

/-! Phase 2 cell by cell. -/

/-- What happens to a cell of a column classified as `c`. -/
def maskAs (c : ColumnClassification) (cell : Cell) : Cell :=
  match c.dataClass, c.piiCategory with
  | .pii, some category => maskCell category cell
  | _, _ => cell

def maskRow (columns : List ColumnClassification) (row : List Cell) : List Cell :=
  List.zipWith maskAs columns row

theorem maskColumn_eq (rows : List (List Cell)) (entry : ColumnClassification × Nat) :
    maskColumn rows entry = rows.map fun row => row.modify entry.2 (maskAs entry.1) := by
  have hid : ∀ row : List Cell, row.modify entry.2 (fun cell => cell) = row :=
    fun row => List.modify_id entry.2 row
  unfold maskColumn maskAs
  cases hc : entry.1.dataClass <;> cases hp : entry.1.piiCategory <;> simp [hid]

theorem foldl_map_rows {ι : Type} (f : ι → List Cell → List Cell) (entries : List ι)
    (rows : List (List Cell)) :
    entries.foldl (fun rows entry => rows.map (f entry)) rows =
      rows.map fun row => entries.foldl (fun row entry => f entry row) row := by
  induction entries generalizing rows with
  | nil => simp
  | cons entry entries ih => simp [ih]

theorem modify_at_length (front row : List Cell) (cell : Cell) (f : Cell → Cell) :
    (front ++ cell :: row).modify front.length f = front ++ f cell :: row := by
  induction front with
  | nil => rfl
  | cons c front ih => simpa using ih

/-- Masking the columns from the left, with `front` already behind. -/
theorem foldl_modify (columns : List ColumnClassification) (front row : List Cell)
    (h : row.length = columns.length) :
    (columns.zipIdx front.length).foldl
        (fun row entry => row.modify entry.2 (maskAs entry.1)) (front ++ row) =
      front ++ maskRow columns row := by
  induction columns generalizing front row with
  | nil =>
    have hr : row = [] := by simpa using h
    simp [hr, maskRow]
  | cons c columns ih =>
    cases row with
    | nil => simp at h
    | cons cell row =>
      have hlen : row.length = columns.length := by simpa using h
      have hstep : (front ++ cell :: row).modify front.length (maskAs c) =
          (front ++ [maskAs c cell]) ++ row := by
        simp [modify_at_length]
      have hrest := ih (front ++ [maskAs c cell]) row hlen
      rw [List.length_append, List.length_singleton] at hrest
      rw [List.zipIdx_cons, List.foldl_cons, hstep, hrest]
      simp [maskRow]

theorem foldl_maskColumn (columns : List ColumnClassification) (rows : List (List Cell))
    (h : ∀ row ∈ rows, row.length = columns.length) :
    columns.zipIdx.foldl maskColumn rows = rows.map (maskRow columns) := by
  have hcol : maskColumn = fun rows entry =>
      rows.map fun row => row.modify entry.2 (maskAs entry.1) := by
    funext rows entry
    exact maskColumn_eq rows entry
  rw [hcol, foldl_map_rows]
  apply List.map_congr_left
  intro row hrow
  simpa using foldl_modify columns [] row (h row hrow)

end PiiMasker
end SqlProxy
