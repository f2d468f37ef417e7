import SqlProxy.PolicyEngine
import Mathlib.Tactic.SplitIfs

/-! `core/audit_record.cpp`: one closed record per request outcome. The constructor is
private to the factories, so a record carries what they check. -/
namespace SqlProxy
open ByteText

def RejectReason.toBytes : RejectReason → Bytes
  | .notEvaluated => ascii "NOT_EVALUATED"
  | .none => ascii "NONE"
  | .emptyInput => ascii "EMPTY_INPUT"
  | .unparseableSql => ascii "UNPARSEABLE_SQL"
  | .multipleStatements => ascii "MULTIPLE_STATEMENTS"
  | .unsupportedStatementType => ascii "UNSUPPORTED_STATEMENT_TYPE"
  | .unsupportedSqlFeature => ascii "UNSUPPORTED_SQL_FEATURE"
  | .ddlNotAllowed => ascii "DDL_NOT_ALLOWED"
  | .dmlNotAllowed => ascii "DML_NOT_ALLOWED"
  | .systemTableAccess => ascii "SYSTEM_TABLE_ACCESS"
  | .unattributableProjection => ascii "UNATTRIBUTABLE_PROJECTION"
  | .insertTargetNotAllowed => ascii "INSERT_TARGET_NOT_ALLOWED"
  | .unsupportedInsertShape => ascii "UNSUPPORTED_INSERT_SHAPE"

inductive AuditOutcome where
  | success | parsingFailure | policyRejected | databaseFailure | maskingRefused
  | internalFailure
  deriving DecidableEq

def AuditOutcome.toBytes : AuditOutcome → Bytes
  | .success => ascii "SUCCESS"
  | .parsingFailure => ascii "PARSING_FAILURE"
  | .policyRejected => ascii "POLICY_REJECTED"
  | .databaseFailure => ascii "DATABASE_FAILURE"
  | .maskingRefused => ascii "MASKING_REFUSED"
  | .internalFailure => ascii "INTERNAL_FAILURE"

inductive AuditTableState where
  | absent | present | omitted
  deriving DecidableEq

structure AuditTableMetadata where
  state : AuditTableState := .absent
  tables : List Bytes := []
  deriving DecidableEq

inductive DbFailureCategory where
  | connectionFailure | executionFailure
  deriving DecidableEq

def DbFailureCategory.toBytes : DbFailureCategory → Bytes
  | .connectionFailure => ascii "CONNECTION_FAILURE"
  | .executionFailure => ascii "EXECUTION_FAILURE"

structure PiiSummary where
  emailColumns : Nat := 0
  phoneColumns : Nat := 0
  creditCardColumns : Nat := 0
  deriving DecidableEq

structure SuccessDetails where
  statementType : StatementType
  rowCount : Nat := 0
  columnCount : Nat := 0
  pii : PiiSummary := {}
  deriving DecidableEq

structure WriteSuccessDetails where
  statementType : StatementType
  affectedRows : Nat := 0
  deriving DecidableEq

structure PolicyRejectedDetails where
  reason : RejectReason
  statementType : StatementType
  statementCount : Nat := 0
  deriving DecidableEq

structure DatabaseFailureDetails where
  category : DbFailureCategory
  statementType : StatementType
  deriving DecidableEq

structure MaskingRefusedDetails where
  statementType : StatementType
  columnCount : Nat := 0
  deriving DecidableEq

inductive Details where
  | success (details : SuccessDetails)
  | writeSuccess (details : WriteSuccessDetails)
  | parsingFailure
  | policyRejected (details : PolicyRejectedDetails)
  | databaseFailure (details : DatabaseFailureDetails)
  | maskingRefused (details : MaskingRefusedDetails)
  | internalFailure
  deriving DecidableEq

/-- What the factories let through. -/
def Details.Admissible : Details → Prop
  | .success d => d.statementType = .select
  | .writeSuccess d => d.statementType = .insert
  | .parsingFailure => True
  | .policyRejected d =>
    (d.reason ≠ .none ∧ d.reason ≠ .notEvaluated) ∧ d.reason ≠ .unparseableSql
  | .databaseFailure d => d.statementType = .select ∨ d.statementType = .insert
  | .maskingRefused d => d.statementType = .select
  | .internalFailure => True

def maxReferencedTables : Nat := 8
def maxTableNameLength : Nat := 63

def isAsciiLetter (c : UInt8) : Bool := (65 ≤ c && c ≤ 90) || (97 ≤ c && c ≤ 122)

def underscore : UInt8 := 95
def dollar : UInt8 := 36

def isValidTableName (name : Bytes) : Bool :=
  if name.isEmpty || name.length > maxTableNameLength then false
  else match name with
    | [] => false
    | first :: rest =>
      if !(isAsciiLetter first || first = underscore) then false
      else rest.all fun c => isAsciiLetter c || isDigit c || c = underscore || c = dollar

def classifyTables (names : List Bytes) : AuditTableMetadata :=
  if names.isEmpty then { state := .absent }
  else if names.length > maxReferencedTables then { state := .omitted }
  else if names.any fun name => !isValidTableName name then { state := .omitted }
  else { state := .present, tables := names }

/-- A plain unqualified identifier, of the length that the database allows. -/
structure TableName (name : Bytes) : Prop where
  length : 1 ≤ name.length ∧ name.length ≤ 63
  bytes : ∀ c ∈ name, (isAsciiLetter c || isDigit c || c = underscore || c = dollar) = true
  first : ∀ c, name.head? = some c → isDigit c = false ∧ c ≠ dollar

/-- Complete lists of such names, of a length that is recorded. -/
structure Auditable (names : List Bytes) : Prop where
  count : 1 ≤ names.length ∧ names.length ≤ 8
  plain : ∀ name ∈ names, TableName name

/-- The bytes that may come first are those of the rest without digits and `$`. -/
theorem firstByte_iff (c : UInt8) :
    (isAsciiLetter c || c = underscore) = true ↔
      (isAsciiLetter c || isDigit c || c = underscore || c = dollar) = true ∧
        isDigit c = false ∧ c ≠ dollar := by
  simp only [isAsciiLetter, isDigit, underscore, dollar, Bool.or_eq_true, Bool.and_eq_true,
    decide_eq_true_eq, Bool.and_eq_false_iff, decide_eq_false_iff_not, UInt8.le_iff_toNat_le,
    ← UInt8.toNat_inj, ne_eq]
  change (65 ≤ c.toNat ∧ c.toNat ≤ 90 ∨ 97 ≤ c.toNat ∧ c.toNat ≤ 122) ∨ c.toNat = 95 ↔
    ((((65 ≤ c.toNat ∧ c.toNat ≤ 90 ∨ 97 ≤ c.toNat ∧ c.toNat ≤ 122) ∨
      48 ≤ c.toNat ∧ c.toNat ≤ 57) ∨ c.toNat = 95) ∨ c.toNat = 36) ∧
      (¬ 48 ≤ c.toNat ∨ ¬ c.toNat ≤ 57) ∧ ¬ c.toNat = 36
  omega

theorem isValidTableName_iff {name : Bytes} : isValidTableName name = true ↔ TableName name := by
  cases name with
  | nil =>
    constructor
    · intro h
      cases h
    · rintro ⟨⟨h, -⟩, -, -⟩
      cases h
  | cons c rest =>
    have hfirst := firstByte_iff c
    have hlong : (List.isEmpty (c :: rest) || (c :: rest).length > maxTableNameLength) = true ↔
        ¬ (c :: rest).length ≤ 63 := by
      simp only [List.isEmpty_cons, Bool.false_or, decide_eq_true_eq]
      unfold maxTableNameLength
      omega
    simp only [isValidTableName]
    constructor
    · intro h
      split_ifs at h with hsize hhead
      have hhead' : (isAsciiLetter c || c = underscore) = true := by
        simpa only [Bool.not_eq_true', Bool.not_eq_false] using hhead
      obtain ⟨hbyte, hrest⟩ := hfirst.mp hhead'
      refine ⟨⟨by simp, ?_⟩, List.forall_mem_cons.mpr ⟨hbyte, List.all_eq_true.mp h⟩, ?_⟩
      · exact not_not.mp (mt hlong.mpr hsize)
      · intro d hd
        cases hd
        exact hrest
    · rintro ⟨⟨-, hlen⟩, hbytes, hhead⟩
      obtain ⟨hbyte, hrest⟩ := List.forall_mem_cons.mp hbytes
      have hhead' := hfirst.mpr ⟨hbyte, hhead c rfl⟩
      rw [if_neg (mt hlong.mp (not_not.mpr hlen)), if_neg (by simp [hhead'])]
      exact List.all_eq_true.mpr hrest

@[simp] theorem classifyTables_nil : classifyTables [] = { state := .absent } := rfl

theorem classifyTables_of_auditable {names : List Bytes} (h : Auditable names) :
    classifyTables names = { state := .present, tables := names } := by
  obtain ⟨⟨hne, hcount⟩, hplain⟩ := h
  have hall : names.any (fun name => !isValidTableName name) = false := by
    rw [List.any_eq_false]
    intro name hname
    simp [isValidTableName_iff.mpr (hplain name hname)]
  have hempty : names.isEmpty = false := by
    cases names with
    | nil => cases hne
    | cons _ _ => rfl
  have hmax : ¬ names.length > maxReferencedTables := by
    unfold maxReferencedTables
    omega
  simp [classifyTables, hempty, hmax, hall]

/-- One name too many, or one bad name, and nothing is kept. -/
theorem classifyTables_of_not_auditable {names : List Bytes} (hne : names ≠ [])
    (h : ¬ Auditable names) : classifyTables names = { state := .omitted } := by
  unfold classifyTables
  split_ifs with hempty hlong hany
  · exact absurd (List.isEmpty_iff.mp hempty) hne
  · rfl
  · rfl
  · refine absurd ⟨⟨List.length_pos_of_ne_nil hne, ?_⟩, ?_⟩ h
    · unfold maxReferencedTables at hlong
      omega
    · intro name hname
      have hvalid := mt (fun hbad => List.any_eq_true.mpr ⟨name, hname, hbad⟩) hany
      exact isValidTableName_iff.mp (by simpa using hvalid)

theorem not_auditable_nil : ¬ Auditable [] := by
  intro h
  cases h.count.1

theorem classifyTables_eq_present {names tables : List Bytes} :
    classifyTables names = { state := .present, tables := tables } ↔
      tables = names ∧ Auditable names := by
  by_cases h : Auditable names
  · rw [classifyTables_of_auditable h]
    simp [h, eq_comm]
  · by_cases hne : names = []
    · rw [hne]
      simp [not_auditable_nil]
    · rw [classifyTables_of_not_auditable hne h]
      simp [h]

theorem classifyTables_eq_omitted {names : List Bytes} :
    classifyTables names = { state := .omitted } ↔ names ≠ [] ∧ ¬ Auditable names := by
  by_cases h : Auditable names
  · rw [classifyTables_of_auditable h]
    simp [h]
  · by_cases hne : names = []
    · rw [hne]
      simp
    · rw [classifyTables_of_not_auditable hne h]
      simp [h, hne]

theorem classifyTables_eq_absent {names : List Bytes} :
    classifyTables names = { state := .absent } ↔ names = [] := by
  by_cases hne : names = []
  · rw [hne]
    simp
  · by_cases h : Auditable names
    · rw [classifyTables_of_auditable h]
      simp [hne]
    · rw [classifyTables_of_not_auditable hne h]
      simp [hne]

/-- All of the names, or none of them. -/
theorem classifyTables_cases (names : List Bytes) :
    classifyTables names = { state := .absent } ∨ classifyTables names = { state := .omitted } ∨
      classifyTables names = { state := .present, tables := names } := by
  by_cases hne : names = []
  · rw [hne]
    exact .inl rfl
  · by_cases h : Auditable names
    · exact .inr (.inr (classifyTables_of_auditable h))
    · exact .inr (.inl (classifyTables_of_not_auditable hne h))

/-- `request_id` is 64 bits wide and wraps around; times are epoch milliseconds. -/
structure AuditRecord where
  timestampMs : Int
  requestId : UInt64
  referencedTables : AuditTableMetadata
  details : Details
  classified : ∃ names, referencedTables = classifyTables names
  admissible : details.Admissible
  deriving DecidableEq

def requireSelect (type : StatementType) (factory : Bytes) :
    Except Exception (PLift (type = .select)) :=
  if h : type = .select then .ok ⟨h⟩
  else .error (.invalidArgument (factory ++
    ascii " audit records require StatementType::Select: they describe a masked result set"))

def requireInsert (type : StatementType) (factory : Bytes) :
    Except Exception (PLift (type = .insert)) :=
  if h : type = .insert then .ok ⟨h⟩
  else .error (.invalidArgument (factory ++
    ascii " audit records require StatementType::Insert: it is the only authorized write"))

def requireSelectOrInsert (type : StatementType) (factory : Bytes) :
    Except Exception (PLift (type = .select ∨ type = .insert)) :=
  if h : type = .select ∨ type = .insert then .ok ⟨h⟩
  else .error (.invalidArgument (factory ++
    ascii " audit records require StatementType::Select or StatementType::Insert"))

namespace AuditRecord

/-- The private constructor: it classifies the table list. -/
def construct (timestampMs : Int) (requestId : UInt64) (details : Details)
    (referencedTables : List Bytes) (h : details.Admissible) : AuditRecord where
  timestampMs := timestampMs
  requestId := requestId
  referencedTables := classifyTables referencedTables
  details := details
  classified := ⟨referencedTables, rfl⟩
  admissible := h

def success (timestampMs : Int) (requestId : UInt64) (details : SuccessDetails)
    (referencedTables : List Bytes) : Except Exception AuditRecord := do
  let h ← requireSelect details.statementType (ascii "success")
  pure (construct timestampMs requestId (.success details) referencedTables h.down)

def writeSuccess (timestampMs : Int) (requestId : UInt64) (details : WriteSuccessDetails)
    (referencedTables : List Bytes) : Except Exception AuditRecord := do
  let h ← requireInsert details.statementType (ascii "write_success")
  pure (construct timestampMs requestId (.writeSuccess details) referencedTables h.down)

def parsingFailure (timestampMs : Int) (requestId : UInt64) : AuditRecord :=
  construct timestampMs requestId .parsingFailure [] trivial

def policyRejected (timestampMs : Int) (requestId : UInt64) (details : PolicyRejectedDetails)
    (referencedTables : List Bytes) : Except Exception AuditRecord :=
  if h : details.reason = .none ∨ details.reason = .notEvaluated then
    .error (.invalidArgument
      (ascii "policy_rejected audit records require a real rejection reason"))
  else if h' : details.reason = .unparseableSql then
    .error (.invalidArgument
      (ascii "parser failures are audited as ParsingFailure, not as PolicyRejected"))
  else .ok (construct timestampMs requestId (.policyRejected details) referencedTables
    ⟨not_or.mp h, h'⟩)

def databaseFailure (timestampMs : Int) (requestId : UInt64) (details : DatabaseFailureDetails)
    (referencedTables : List Bytes) : Except Exception AuditRecord := do
  let h ← requireSelectOrInsert details.statementType (ascii "database_failure")
  pure (construct timestampMs requestId (.databaseFailure details) referencedTables h.down)

def maskingRefused (timestampMs : Int) (requestId : UInt64) (details : MaskingRefusedDetails)
    (referencedTables : List Bytes) : Except Exception AuditRecord := do
  let h ← requireSelect details.statementType (ascii "masking_refused")
  pure (construct timestampMs requestId (.maskingRefused details) referencedTables h.down)

def internalFailure (timestampMs : Int) (requestId : UInt64) : AuditRecord :=
  construct timestampMs requestId .internalFailure [] trivial

def outcome (record : AuditRecord) : AuditOutcome :=
  match record.details with
  | .success _ | .writeSuccess _ => .success
  | .parsingFailure => .parsingFailure
  | .policyRejected _ => .policyRejected
  | .databaseFailure _ => .databaseFailure
  | .maskingRefused _ => .maskingRefused
  | .internalFailure => .internalFailure

section Construct
variable (timestampMs : Int) (requestId : UInt64) (details : Details) (tables : List Bytes)
  (h : details.Admissible)

@[simp] theorem construct_requestId :
    (construct timestampMs requestId details tables h).requestId = requestId := rfl

@[simp] theorem construct_timestampMs :
    (construct timestampMs requestId details tables h).timestampMs = timestampMs := rfl

@[simp] theorem construct_details :
    (construct timestampMs requestId details tables h).details = details := rfl

@[simp] theorem construct_referencedTables :
    (construct timestampMs requestId details tables h).referencedTables =
      classifyTables tables := rfl

end Construct

theorem success_eq (timestampMs : Int) (requestId : UInt64) (details : SuccessDetails)
    (tables : List Bytes) (h : details.statementType = .select) :
    success timestampMs requestId details tables =
      .ok (construct timestampMs requestId (.success details) tables h) := by
  rw [success, requireSelect, dif_pos h]
  rfl

theorem writeSuccess_eq (timestampMs : Int) (requestId : UInt64) (details : WriteSuccessDetails)
    (tables : List Bytes) (h : details.statementType = .insert) :
    writeSuccess timestampMs requestId details tables =
      .ok (construct timestampMs requestId (.writeSuccess details) tables h) := by
  rw [writeSuccess, requireInsert, dif_pos h]
  rfl

theorem policyRejected_eq (timestampMs : Int) (requestId : UInt64)
    (details : PolicyRejectedDetails) (tables : List Bytes)
    (h : (Details.policyRejected details).Admissible) :
    policyRejected timestampMs requestId details tables =
      .ok (construct timestampMs requestId (.policyRejected details) tables h) := by
  obtain ⟨h₁, h₂⟩ := h
  simp [policyRejected, h₁, h₂]

theorem databaseFailure_eq (timestampMs : Int) (requestId : UInt64)
    (details : DatabaseFailureDetails) (tables : List Bytes)
    (h : details.statementType = .select ∨ details.statementType = .insert) :
    databaseFailure timestampMs requestId details tables =
      .ok (construct timestampMs requestId (.databaseFailure details) tables h) := by
  rw [databaseFailure, requireSelectOrInsert, dif_pos h]
  rfl

theorem maskingRefused_eq (timestampMs : Int) (requestId : UInt64)
    (details : MaskingRefusedDetails) (tables : List Bytes)
    (h : details.statementType = .select) :
    maskingRefused timestampMs requestId details tables =
      .ok (construct timestampMs requestId (.maskingRefused details) tables h) := by
  rw [maskingRefused, requireSelect, dif_pos h]
  rfl

end AuditRecord
end SqlProxy
