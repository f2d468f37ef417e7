import SqlProxy.HttpAgreement

/-! What the masker does with every result and every classification: when it refuses, what
it leaves alone and what it makes of a value. The classifier meets its checks. -/
namespace SqlProxy
open ByteText Json

/-! Phase 2. -/
namespace PiiMasker

/-- What becomes of a cell of a column of class `c`. -/
inductive MaskedCell (c : ColumnClassification) : Cell → Cell → Prop where
  | kept (h : c.dataClass = .notClassifiedAsPii) (cell : Cell) : MaskedCell c cell cell
  | null (h : c.dataClass = .pii) : MaskedCell c none none
  | empty (h : c.dataClass = .pii) : MaskedCell c (some []) (some [])
  | value {category : PiiCategory} {value : Bytes} (h : c.dataClass = .pii)
      (hc : c.piiCategory = some category) (hv : value ≠ []) (hm : maskValue category value ≠ []) :
      MaskedCell c (some value) (some (maskValue category value))

structure MaskedRow (columns : List ColumnClassification) (row masked : List Cell) : Prop where
  width : masked.length = row.length
  cells : ∀ (j : Nat) (c : ColumnClassification) (cell : Cell), columns[j]? = some c →
    row[j]? = some cell → ∃ cell', masked[j]? = some cell' ∧ MaskedCell c cell cell'

/-- What masking keeps, and what it does to the rows. -/
structure MaskedFrom (result : ExecutionResult) (entries : List ColumnClassification)
    (masked : ExecutionResult) : Prop where
  status : masked.status = result.status
  error : masked.error = result.error
  hasResultSet : masked.hasResultSet = result.hasResultSet
  columns : masked.columns = result.columns
  rowCount : masked.rowCount = result.rowCount
  affectedRows : masked.affectedRows = result.affectedRows
  rows : List.Forall₂ (MaskedRow entries) result.rows masked.rows

theorem maskValue_ne_nil (category : PiiCategory) (value : Bytes) :
    maskValue category value ≠ [] := by
  have hredacted : fullRedaction ≠ [] := by decide
  have hfour : ascii "****" ≠ [] := by decide
  have haddress : ascii "***@" ≠ [] := by decide
  have hthree : ascii "***" ≠ [] := by decide
  rw [maskValue_eq]
  cases releasedPart category value with
  | none => exact hredacted
  | some part =>
    cases category <;> simp [present, hfour, haddress, hthree]

/-- A class that masking has checked. -/
def Usable (c : ColumnClassification) : Prop := ¬ Contradictory c ∧ c.dataClass ≠ .unattributed

theorem maskedCell_maskAs {c : ColumnClassification} (h : Usable c) (cell : Cell) :
    MaskedCell c cell (maskAs c cell) := by
  obtain ⟨hcontra, hattributed⟩ := h
  cases hd : c.dataClass with
  | unattributed => exact absurd hd hattributed
  | notClassifiedAsPii =>
    have hsame : maskAs c cell = cell := by simp [maskAs, hd]
    rw [hsame]
    exact .kept hd cell
  | pii =>
    cases hp : c.piiCategory with
    | none => exact absurd (.inl ⟨hd, hp⟩) hcontra
    | some category =>
      have hmask : maskAs c cell = maskCell category cell := by simp [maskAs, hd, hp]
      rw [hmask]
      cases cell with
      | none => exact .null hd
      | some value =>
        cases value with
        | nil => exact .empty hd
        | cons b value => exact .value hd hp (List.cons_ne_nil b value) (maskValue_ne_nil _ _)

theorem maskedRow_maskRow {columns : List ColumnClassification} {row : List Cell}
    (hc : ∀ c ∈ columns, Usable c) (hlength : row.length = columns.length) :
    MaskedRow columns row (maskRow columns row) := by
  constructor
  · simp [maskRow, hlength]
  · intro j c cell hcolumn hcell
    refine ⟨maskAs c cell, ?_, maskedCell_maskAs (hc c (List.mem_of_getElem? hcolumn)) cell⟩
    rw [maskRow, List.getElem?_zipWith, hcolumn, hcell]

/-- What a successful masking has checked, and what it returns. -/
theorem mask_success {result masked : ExecutionResult} {classification : ClassificationResult}
    (h : mask result classification = .success masked) :
    (∀ c ∈ classification.columns, Usable c) ∧ Rectangular result ∧
      classification.columns.length = result.columns.length ∧
      masked = { result with rows := result.rows.map (maskRow classification.columns) } := by
  rw [mask_eq] at h
  split_ifs at h with hshape hinconsistent hunattributed
  cases h
  rw [Misshapen, not_or, not_not] at hshape
  rw [Inconsistent, not_or] at hinconsistent
  refine ⟨?_, ?_, hshape.1, rfl⟩
  · intro c hc
    exact ⟨fun hcontra => hinconsistent.1 ⟨c, hc, hcontra⟩, fun hno => hunattributed ⟨c, hc, hno⟩⟩
  · intro row hrow
    by_contra hne
    exact hshape.2 ⟨row, hrow, hne⟩

theorem mask_success_frame {result masked : ExecutionResult}
    {classification : ClassificationResult}
    (h : mask result classification = .success masked) :
    MaskedFrom result classification.columns masked := by
  obtain ⟨hc, hr, hlength, rfl⟩ := mask_success h
  refine ⟨rfl, rfl, rfl, rfl, rfl, rfl, ?_⟩
  rw [List.forall₂_map_right_iff, List.forall₂_same]
  intro row hrow
  apply maskedRow_maskRow hc
  rw [hlength]
  exact hr row hrow

/-- The whole of `mask`: which failure comes first, and what a success returns. -/
theorem mask_spec (result : ExecutionResult) (classification : ClassificationResult) :
    (mask result classification = .failure .structuralMismatch ↔
      Misshapen result classification) ∧
    (mask result classification = .failure .invalidClassification ↔
      ¬ Misshapen result classification ∧ Inconsistent classification) ∧
    (mask result classification = .failure .unattributedColumn ↔
      ¬ Misshapen result classification ∧ ¬ Inconsistent classification ∧
        HasUnattributed classification) ∧
    ((∃ masked, mask result classification = .success masked) ↔
      ¬ Misshapen result classification ∧ ¬ Inconsistent classification ∧
        ¬ HasUnattributed classification) ∧
    ∀ masked, mask result classification = .success masked →
      MaskedFrom result classification.columns masked :=
  ⟨mask_structural_iff, mask_invalid_iff, mask_unattributed_iff, mask_succeeds_iff,
    fun _ h => mask_success_frame h⟩

end PiiMasker

/-- Whatever the analysis, the classes of a result's own columns pass the masker's checks. -/
theorem classify_meets_masker (classifier : DataClassifier) (analysis : SqlAnalysis)
    (resultColumns : List ColumnInfo) :
    (classifier.classify analysis resultColumns).columns.length = resultColumns.length ∧
    (∀ c ∈ (classifier.classify analysis resultColumns).columns,
      c.dataClass = .pii ↔ ∃ category, c.piiCategory = some category) ∧
    ((classifier.classify analysis resultColumns).fullyAttributed = true ↔
      ∀ c ∈ (classifier.classify analysis resultColumns).columns,
        c.dataClass ≠ .unattributed) ∧
    ((∀ c ∈ (classifier.classify analysis resultColumns).columns,
        c.dataClass = .unattributed) ∨
      ∀ c ∈ (classifier.classify analysis resultColumns).columns,
        c.dataClass ≠ .unattributed) ∧
    ∀ execution : ExecutionResult, execution.columns = resultColumns →
      PiiMasker.mask execution (classifier.classify analysis resultColumns) ≠
        .failure .invalidClassification ∧
      (PiiMasker.mask execution (classifier.classify analysis resultColumns) =
        .failure .structuralMismatch ↔
          ∃ row ∈ execution.rows, row.length ≠ execution.columns.length) := by
  refine ⟨DataClassifier.classify_length _ _ _, fun c hc => DataClassifier.classify_pii_iff hc,
    DataClassifier.classify_flag, ?_, ?_⟩
  · cases DataClassifier.classify_uniform classifier analysis resultColumns with
    | inl h =>
      left
      intro c hc
      rw [h.2.2 c hc]
    | inr h => exact .inr fun c hc => (h.2 c hc).ne_unattributed
  · intro execution hcolumns
    constructor
    · intro h
      exact DataClassifier.classify_consistent (PiiMasker.mask_invalid_iff.mp h).2
    · rw [PiiMasker.mask_structural_iff, PiiMasker.Misshapen, DataClassifier.classify_length,
        hcolumns]
      simp

/-! Values that a mask leaves as they are. -/
namespace PiiMasker

/-- The full redaction; and an address whose local part is one ASCII character and `***`. -/
def AlreadyMasked : PiiCategory → Bytes → Prop
  | .email, value => value = fullRedaction ∨
    IsAddress value ∧ ∃ first : UInt8, first < 128 ∧ localPart value = first :: ascii "***"
  | .phone, value => value = fullRedaction
  | .creditCard, value => value = fullRedaction

theorem maskEmail_fixed (value : Bytes) :
    maskEmail value = value ↔ AlreadyMasked .email value := by
  have haddress : ascii "***@" = ascii "***" ++ [atSign] := by decide
  by_cases ha : IsAddress value
  · have hredacted : value ≠ fullRedaction := by
      intro he
      have hno : ¬ IsAddress fullRedaction := by decide
      exact hno (he ▸ ha)
    obtain ⟨l, d, rfl, hl, -⟩ := exists_split ha.1
    have hne : l ≠ [] := localPart_split (d := d) hl ▸ ha.2.1
    cases l with
    | nil => exact absurd rfl hne
    | cons first rest =>
      rw [AlreadyMasked, or_iff_right hredacted, and_iff_right ha, localPart_split hl,
        maskEmail_eq, releasedPart, if_pos ha, domainPart_split hl, List.cons_append,
        List.headD_cons]
      by_cases hascii : first < 128
      · have hmask : present .email (some (some first, d)) =
            first :: (ascii "***" ++ atSign :: d) := by
          simp [present, haddress]
        rw [if_pos hascii, hmask, List.cons_inj_right, List.append_cancel_right_eq]
        constructor
        · intro he
          exact ⟨first, hascii, by rw [he]⟩
        · intro he
          obtain ⟨first', -, he⟩ := he
          exact (List.cons.inj he).2.symm
      · -- the mask begins with an asterisk, the address with a byte that is not ASCII
        have hmask : present .email (some (none, d)) = 42 :: (ascii "**" ++ atSign :: d) := by
          rw [present, haddress]
          rfl
        rw [if_neg hascii, hmask]
        constructor
        · intro he
          exact absurd (by rw [← (List.cons.inj he).1]; decide) hascii
        · intro he
          obtain ⟨first', hascii', he⟩ := he
          exact absurd ((List.cons.inj he).1 ▸ hascii') hascii
  · rw [AlreadyMasked, maskEmail_eq, releasedPart, if_neg ha]
    simp only [ha, false_and, or_false, present]
    exact eq_comm

theorem digitsOf_lastFour (value : Bytes) :
    digitsOf (lastFour (digitsOf value)) = lastFour (digitsOf value) := by
  refine List.filter_eq_self.mpr fun c hc => ?_
  exact (List.mem_filter.mp (List.mem_of_mem_drop hc)).2

/-- A masked number has too few digits to be masked again. -/
theorem maskPhone_fixed (value : Bytes) :
    maskPhone value = value ↔ AlreadyMasked .phone value := by
  rw [AlreadyMasked, maskPhone_eq, releasedPart]
  split_ifs with hlong
  · have hstars : digitsOf (ascii "***") = [] := by decide
    constructor
    · intro he
      have hfour : digitsOf (present .phone (some (none, lastFour (digitsOf value)))) =
          lastFour (digitsOf value) := by
        rw [present, digitsOf, List.filter_append]
        change digitsOf (ascii "***") ++ digitsOf (lastFour (digitsOf value)) = _
        rw [hstars, digitsOf_lastFour, List.nil_append]
      have hlength : (lastFour (digitsOf value)).length = (digitsOf value).length := by
        rw [← hfour, he]
      rw [lastFour, List.length_drop] at hlength
      omega
    · intro he
      rw [he] at hlong
      exact absurd hlong (by decide)
  · exact eq_comm

/-- A masked card number has asterisks, which no card number has. -/
theorem maskCreditCard_fixed (value : Bytes) :
    maskCreditCard value = value ↔ AlreadyMasked .creditCard value := by
  rw [AlreadyMasked, maskCreditCard_eq, releasedPart]
  split_ifs with hcard
  · constructor
    · intro he
      have hstar : (42 : UInt8) ∈ value := by
        rw [← he, present]
        exact List.mem_append_left _ (by decide)
      exact absurd (hcard.1 42 hstar) (by decide)
    · intro he
      rw [he] at hcard
      exact absurd hcard (by decide)
  · exact eq_comm

/-- The fixed points of the three masks. -/
theorem maskValue_fixed (category : PiiCategory) (value : Bytes) :
    maskValue category value = value ↔ AlreadyMasked category value := by
  cases category with
  | email => exact maskEmail_fixed value
  | phone => exact maskPhone_fixed value
  | creditCard => exact maskCreditCard_fixed value

/-- `value` stands in column `j` of `row`, a PII column of category `category`. -/
structure PiiValue (columns : List ColumnClassification) (row : List Cell) (j : Nat)
    (category : PiiCategory) (value : Bytes) : Prop where
  column : columns[j]? = some (DataClassifier.pii category)
  cell : row[j]? = some (some value)
  nonempty : value ≠ []

/-- No value of a PII column is returned as it was. -/
def ValuesChange (columns : List ColumnClassification) (result masked : ExecutionResult) : Prop :=
  ∀ (i j : Nat) (row row' : List Cell) (category : PiiCategory) (value : Bytes),
    result.rows[i]? = some row → masked.rows[i]? = some row' →
    PiiValue columns row j category value → row'[j]? ≠ some (some value)

/-- The masked value stays exactly where it is its own mask. -/
theorem getElem?_maskRow {columns : List ColumnClassification} {row : List Cell} {j : Nat}
    {category : PiiCategory} {value : Bytes} (h : PiiValue columns row j category value) :
    (maskRow columns row)[j]? = some (some value) ↔ AlreadyMasked category value := by
  have hcell : maskCell category (some value) = some (maskValue category value) := by
    simp [maskCell, h.nonempty]
  have hmask : (maskRow columns row)[j]? = some (maskCell category (some value)) := by
    rw [maskRow, List.getElem?_zipWith, h.column, h.cell]
    rfl
  rw [hmask, hcell, ← maskValue_fixed, Option.some_inj, Option.some_inj]

end PiiMasker
open PiiMasker

/-- Every value of a PII column changes exactly when none of them is already masked. -/
theorem classified_values_change_iff {result masked : ExecutionResult}
    {classification : ClassificationResult}
    (h : mask result classification = .success masked) :
    ValuesChange classification.columns result masked ↔
      ∀ row ∈ result.rows, ∀ (j : Nat) (category : PiiCategory) (value : Bytes),
        PiiValue classification.columns row j category value →
        ¬ AlreadyMasked category value := by
  obtain ⟨-, -, -, rfl⟩ := mask_success h
  constructor
  · intro hchange row hrow j category value hv hfixed
    obtain ⟨i, hi⟩ := List.getElem?_of_mem hrow
    have hi' : (result.rows.map (maskRow classification.columns))[i]? =
        some (maskRow classification.columns row) := by
      rw [List.getElem?_map, hi]
      rfl
    exact hchange i j row _ category value hi hi' hv ((getElem?_maskRow hv).mpr hfixed)
  · intro hfixed i j row row' category value hi hi' hv
    rw [List.getElem?_map, hi] at hi'
    cases hi'
    rw [ne_eq, getElem?_maskRow hv]
    exact hfixed row (List.mem_of_getElem? hi) j category value hv

/-- One column of e-mail addresses. -/
def emailClasses : ClassificationResult where
  columns := [DataClassifier.pii .email]
  fullyAttributed := true

theorem classified_values_change_ada :
    ValuesChange emailClasses.columns (emailResult (ascii "ada@example.org"))
        (emailResult (ascii "a***@example.org")) ↔
      ∀ row ∈ (emailResult (ascii "ada@example.org")).rows,
        ∀ (j : Nat) (category : PiiCategory) (value : Bytes),
          PiiValue emailClasses.columns row j category value →
          ¬ AlreadyMasked category value :=
  classified_values_change_iff (by decide +kernel)

/-- `a***@example.org` is returned as it stands in the database. -/
theorem masked_address_unchanged :
    mask (emailResult (ascii "a***@example.org")) emailClasses =
        .success (emailResult (ascii "a***@example.org")) ∧
      ¬ ValuesChange emailClasses.columns (emailResult (ascii "a***@example.org"))
        (emailResult (ascii "a***@example.org")) := by
  have hne : ascii "a***@example.org" ≠ [] := by decide
  refine ⟨by decide +kernel, fun h => ?_⟩
  exact h 0 0 [some (ascii "a***@example.org")] [some (ascii "a***@example.org")] .email
    (ascii "a***@example.org") rfl rfl ⟨rfl, rfl, hne⟩ rfl

/-! Masking and UTF-8. -/

/-- No address whose bytes are UTF-8 has a domain that is not. -/
theorem cellEncodes_of_valid {c : ColumnClassification} {value : Bytes}
    (h : Utf8.Valid value) : CellEncodes c (some value) := by
  have hdomain : IsAddress value → Utf8.Valid (domainPart value) := by
    intro ha
    obtain ⟨l, d, rfl, hl, -⟩ := exists_split ha.1
    rw [domainPart_split hl]
    exact ((Utf8.valid_append_ascii (by decide)).mp h).2
  unfold CellEncodes
  split
  · trivial
  · next heq =>
    cases heq
    split
    · exact hdomain
    · trivial
    · exact h

/-- Cells that are UTF-8 stay so, and only a column name can keep the response from being
dumped. -/
theorem masked_cells_valid {result masked : ExecutionResult}
    {classification : ClassificationResult}
    (h : mask result classification = .success masked)
    (hvalid : ∀ row ∈ result.rows, ∀ value, some value ∈ row → Utf8.Valid value) :
    (∀ row ∈ masked.rows, ∀ value, some value ∈ row → Utf8.Valid value) ∧
    ∀ json : Library Exception,
      (∃ text, json.dump (Routes.readBody (ProxyService.toMaskedResult masked)) = .ok text) ↔
        ∀ column ∈ result.columns, Utf8.Valid column.name := by
  obtain ⟨-, -, -, rfl⟩ := mask_success h
  have hrows : ∀ row ∈ result.rows.map (maskRow classification.columns), ∀ value,
      some value ∈ row → Utf8.Valid value := by
    rw [List.forall_mem_map]
    intro row hrow
    rw [forall_mem_maskRow]
    intro entry hentry
    have hcell := (List.of_mem_zip hentry).2
    cases hc : entry.2 with
    | none => trivial
    | some value =>
      rw [hc] at hcell
      exact cellEncodes_of_valid (hvalid row hrow value hcell)
  refine ⟨hrows, fun json => ?_⟩
  rw [json.dump_ok, Routes.encodable_readBody, ProxyService.toMaskedResult, List.forall_mem_map]
  exact and_iff_left hrows

/-- `mü.example`. -/
def multibyteDomain : Bytes := ascii "m" ++ [195, 188] ++ ascii ".example"

/-- `élan@mü.example`. -/
def multibyteEmail : Bytes := [195, 169] ++ ascii "lan@" ++ multibyteDomain

/-- The first character is no ASCII and is dropped whole; the domain stays. -/
theorem masked_cells_valid_multibyte :
    (∀ row ∈ (emailResult (ascii "***@" ++ multibyteDomain)).rows, ∀ value, some value ∈ row →
      Utf8.Valid value) ∧
    ∀ json : Library Exception,
      (∃ text, json.dump (Routes.readBody (ProxyService.toMaskedResult
        (emailResult (ascii "***@" ++ multibyteDomain)))) = .ok text) ↔
        ∀ column ∈ (emailResult multibyteEmail).columns, Utf8.Valid column.name := by
  have hmask : mask (emailResult multibyteEmail) emailClasses =
      .success (emailResult (ascii "***@" ++ multibyteDomain)) := by
    decide +kernel
  refine masked_cells_valid hmask ?_
  intro row hrow value hvalue
  rw [List.mem_singleton.mp hrow, List.mem_singleton] at hvalue
  cases hvalue
  decide +kernel

end SqlProxy
