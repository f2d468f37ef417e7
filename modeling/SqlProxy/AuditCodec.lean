import SqlProxy.HttpAgreement
import SqlProxy.JsonlAudit

/-! Reading an audit line back. The fields a record has tell its outcome and its shape, and
nothing that is recorded is lost in the line. -/
namespace SqlProxy
open ByteText Json

/-! The timestamp. -/

/-- A number, and the separator behind it. -/
def readNumber (separator : UInt8) (text : Bytes) : Option (Int × Bytes) :=
  match Compact.readNatural text with
  | some (n, c :: rest) => if c = separator then some (n, rest) else none
  | _ => none

/-- Milliseconds since the epoch, from `YYYY-MM-DDTHH:MM:SS.mmmZ`. -/
def readUtcTimestamp (text : Bytes) : Option Int := do
  let (year, text) ← readNumber 45 text
  let (month, text) ← readNumber 45 text
  let (day, text) ← readNumber 84 text
  let (hour, text) ← readNumber 58 text
  let (min, text) ← readNumber 58 text
  let (sec, text) ← readNumber 46 text
  let (millis, text) ← readNumber 90 text
  if text.isEmpty then
    some (1000 * Calendar.timegm ⟨year - 1900, month - 1, day, hour, min, sec⟩ + millis)
  else none

theorem readNumber_padded {n : Int} (hn : 0 ≤ n) (width : Nat) {separator : UInt8}
    (h : isDigit separator = false) (rest : Bytes) :
    readNumber separator (padded width n ++ separator :: rest) = some (n, rest) := by
  obtain ⟨m, rfl⟩ := Int.eq_ofNat_of_zero_le hn
  have hstops : Compact.Stops (separator :: rest) := Compact.stops_cons h
  have hread := Compact.readNatural_padded width m hstops
  change readNumber separator (padded width (m : Int) ++ separator :: rest) = some ((m : Int), rest)
  rw [readNumber, hread]
  simp

theorem formatUtcTimestamp_eq (epochMs : Int) :
    formatUtcTimestamp epochMs =
      padded 4 ((Calendar.gmtime (epochMs.tdiv 1000)).year + 1900) ++ 45 ::
      (padded 2 ((Calendar.gmtime (epochMs.tdiv 1000)).mon + 1) ++ 45 ::
      (padded 2 (Calendar.gmtime (epochMs.tdiv 1000)).mday ++ 84 ::
      (padded 2 (Calendar.gmtime (epochMs.tdiv 1000)).hour ++ 58 ::
      (padded 2 (Calendar.gmtime (epochMs.tdiv 1000)).min ++ 58 ::
      (padded 2 (Calendar.gmtime (epochMs.tdiv 1000)).sec ++ 46 ::
      (padded 3 (epochMs.tmod 1000) ++ [90])))))) := by
  have hmarks : ascii "-" = [45] ∧ ascii "T" = [84] ∧ ascii ":" = [58] ∧ ascii "." = [46] ∧
      ascii "Z" = [90] := by
    decide
  obtain ⟨hhyphen, ht, hcolon, hdot, hz⟩ := hmarks
  simp only [formatUtcTimestamp, hhyphen, ht, hcolon, hdot, hz, List.append_assoc,
    List.cons_append, List.nil_append]

/-- No time since the epoch is lost in its text. -/
theorem readUtcTimestamp_format {epochMs : Int} (h : 0 ≤ epochMs) :
    readUtcTimestamp (formatUtcTimestamp epochMs) = some epochMs := by
  have hseconds : 0 ≤ epochMs.tdiv 1000 := Int.tdiv_nonneg h (by decide)
  have hmillis : 0 ≤ epochMs.tmod 1000 := Int.tmod_nonneg 1000 h
  have hbounds := Calendar.gmtime_bounds hseconds
  have hback := Calendar.timegm_gmtime (epochMs.tdiv 1000)
  rw [formatUtcTimestamp_eq]
  generalize hutc : Calendar.gmtime (epochMs.tdiv 1000) = utc at *
  obtain ⟨hyear, hmon, hmday, hhour, hmin, hsec⟩ := hbounds
  have hmarks : isDigit 45 = false ∧ isDigit 84 = false ∧ isDigit 58 = false ∧
      isDigit 46 = false ∧ isDigit 90 = false := by
    decide
  obtain ⟨hhyphen, ht, hcolon, hdot, hz⟩ := hmarks
  have hyear' : 0 ≤ utc.year + 1900 := by omega
  have hmon' : 0 ≤ utc.mon + 1 := by omega
  simp only [readUtcTimestamp, readNumber_padded hyear' 4 hhyphen, readNumber_padded hmon' 2 hhyphen,
    readNumber_padded hmday 2 ht, readNumber_padded hhour 2 hcolon,
    readNumber_padded hmin 2 hcolon, readNumber_padded hsec 2 hdot,
    readNumber_padded hmillis 3 hz, bind, Option.bind, List.isEmpty_nil, if_true,
    Int.add_sub_cancel]
  rw [hback, Int.mul_tdiv_add_tmod]

/-! The vocabularies. -/

/-- The member of `all` that is written as `text`. -/
def named {α : Type} (all : List α) (toBytes : α → Bytes) (text : Bytes) : Option α :=
  all.find? fun a => toBytes a = text

def statementTypes : List StatementType :=
  [.select, .insert, .update, .delete, .create, .alter, .drop, .unknown]

def rejectReasons : List RejectReason :=
  [.notEvaluated, .none, .emptyInput, .unparseableSql, .multipleStatements,
    .unsupportedStatementType, .unsupportedSqlFeature, .ddlNotAllowed, .dmlNotAllowed,
    .systemTableAccess, .unattributableProjection, .insertTargetNotAllowed,
    .unsupportedInsertShape]

def auditOutcomes : List AuditOutcome :=
  [.success, .parsingFailure, .policyRejected, .databaseFailure, .maskingRefused,
    .internalFailure]

def dbFailureCategories : List DbFailureCategory := [.connectionFailure, .executionFailure]

theorem named_statementType (type : StatementType) :
    named statementTypes StatementType.toBytes type.toBytes = some type := by
  cases type <;> decide

theorem named_rejectReason (reason : RejectReason) :
    named rejectReasons RejectReason.toBytes reason.toBytes = some reason := by
  cases reason <;> decide

theorem named_auditOutcome (outcome : AuditOutcome) :
    named auditOutcomes AuditOutcome.toBytes outcome.toBytes = some outcome := by
  cases outcome <;> decide

theorem named_dbFailureCategory (category : DbFailureCategory) :
    named dbFailureCategories DbFailureCategory.toBytes category.toBytes = some category := by
  cases category <;> decide

/-! The fields. -/

def envelopeKeys : List Bytes := [ascii "timestamp", ascii "request_id", ascii "outcome"]

/-- At most one key tells of the tables. -/
def tableKeys : AuditTableState → List Bytes
  | .present => [ascii "referenced_tables"]
  | .omitted => [ascii "referenced_tables_omitted"]
  | .absent => []

/-- What a record is about. A read and a write that succeed share an outcome. -/
inductive RecordShape where
  | read | write | parsingFailure | policyRejected | databaseFailure | maskingRefused
  | internalFailure
  deriving DecidableEq

def Details.shape : Details → RecordShape
  | .success _ => .read
  | .writeSuccess _ => .write
  | .parsingFailure => .parsingFailure
  | .policyRejected _ => .policyRejected
  | .databaseFailure _ => .databaseFailure
  | .maskingRefused _ => .maskingRefused
  | .internalFailure => .internalFailure

def detailKeys : RecordShape → List Bytes
  | .read => [ascii "statement_type", ascii "row_count", ascii "column_count",
    ascii "pii_email_columns", ascii "pii_phone_columns", ascii "pii_credit_card_columns"]
  | .write => [ascii "statement_type", ascii "affected_rows"]
  | .policyRejected => [ascii "reason", ascii "statement_type", ascii "statement_count"]
  | .databaseFailure => [ascii "category", ascii "statement_type"]
  | .maskingRefused => [ascii "statement_type", ascii "column_count"]
  | .parsingFailure | .internalFailure => []

def recordKeys (shape : RecordShape) (state : AuditTableState) : List Bytes :=
  envelopeKeys ++ (tableKeys state ++ detailKeys shape)

/-- Every key a detail can have. -/
def allDetailKeys : List Bytes :=
  [ascii "statement_type", ascii "row_count", ascii "column_count", ascii "pii_email_columns",
    ascii "pii_phone_columns", ascii "pii_credit_card_columns", ascii "affected_rows",
    ascii "reason", ascii "statement_count", ascii "category"]

/-- The assignments that make up a record, in the order in which they are made. -/
def recordFields (record : AuditRecord) : Fields :=
  envelopeFields record ++ (tableFields record.referencedTables ++ detailFields record.details)

theorem keys_envelopeFields (record : AuditRecord) :
    (envelopeFields record).map Prod.fst = envelopeKeys := rfl

theorem keys_tableFields (metadata : AuditTableMetadata) :
    (tableFields metadata).map Prod.fst = tableKeys metadata.state := by
  unfold tableFields
  cases metadata.state <;> rfl

theorem keys_detailFields (details : Details) :
    (detailFields details).map Prod.fst = detailKeys details.shape := by
  cases details <;> rfl

theorem keys_recordFields (record : AuditRecord) :
    (recordFields record).map Prod.fst =
      recordKeys record.details.shape record.referencedTables.state := by
  rw [recordFields, List.map_append, List.map_append, keys_envelopeFields, keys_tableFields,
    keys_detailFields]
  rfl

theorem detailKeys_subset (shape : RecordShape) : detailKeys shape ⊆ allDetailKeys := by
  cases shape <;> decide

/-- No key is assigned twice. -/
theorem nodup_recordKeys (shape : RecordShape) (state : AuditTableState) :
    (recordKeys shape state).Nodup := by
  cases shape <;> cases state <;> decide

theorem findField_recordFields (record : AuditRecord) (key : Bytes) :
    findField key (setFields (recordFields record) []) =
      (findField key (envelopeFields record)).or
        ((findField key (tableFields record.referencedTables)).or
          (findField key (detailFields record.details))) := by
  have hnodup : ((recordFields record).map Prod.fst).Nodup := by
    rw [keys_recordFields]
    exact nodup_recordKeys _ _
  rw [findField_setFields hnodup, recordFields, findField_append, findField_append]
  exact Option.or_none

theorem findField_envelope (record : AuditRecord) {key : Bytes} (h : key ∈ envelopeKeys) :
    findField key (setFields (recordFields record) []) =
      findField key (envelopeFields record) := by
  have hsome : findField key (envelopeFields record) ≠ none := by
    rw [ne_eq, findField_eq_none, keys_envelopeFields]
    exact not_not.mpr h
  rw [findField_recordFields]
  cases hfind : findField key (envelopeFields record) with
  | none => exact absurd hfind hsome
  | some value => rfl

theorem findField_detail (record : AuditRecord) {key : Bytes} (h : key ∈ allDetailKeys) :
    findField key (setFields (recordFields record) []) =
      findField key (detailFields record.details) := by
  have henvelope : ∀ key ∈ allDetailKeys, key ∉ envelopeKeys := by decide
  have htables : ∀ state, ∀ key ∈ allDetailKeys, key ∉ tableKeys state := by
    intro state
    cases state <;> decide
  have hnone : findField key (envelopeFields record) = none := by
    rw [findField_eq_none, keys_envelopeFields]
    exact henvelope key h
  have hnone' : findField key (tableFields record.referencedTables) = none := by
    rw [findField_eq_none, keys_tableFields]
    exact htables _ key h
  rw [findField_recordFields, hnone, hnone']
  rfl

theorem findField_tables (record : AuditRecord) {key : Bytes}
    (h : key = ascii "referenced_tables" ∨ key = ascii "referenced_tables_omitted") :
    findField key (setFields (recordFields record) []) =
      findField key (tableFields record.referencedTables) := by
  have hfresh : (ascii "referenced_tables" ∉ envelopeKeys ∧
      ascii "referenced_tables" ∉ allDetailKeys) ∧
      (ascii "referenced_tables_omitted" ∉ envelopeKeys ∧
      ascii "referenced_tables_omitted" ∉ allDetailKeys) := by
    decide
  have hkey : key ∉ envelopeKeys ∧ key ∉ allDetailKeys := by
    cases h with
    | inl h => exact h ▸ hfresh.1
    | inr h => exact h ▸ hfresh.2
  have hnone : findField key (envelopeFields record) = none := by
    rw [findField_eq_none, keys_envelopeFields]
    exact hkey.1
  have hnone' : findField key (detailFields record.details) = none := by
    rw [findField_eq_none, keys_detailFields]
    exact fun hmem => hkey.2 (detailKeys_subset _ hmem)
  rw [findField_recordFields, hnone, hnone', Option.none_or, Option.or_none]

/-! The decoder. -/

section Decoder
variable (fields : Fields)

def textField (key : Bytes) : Option Bytes := (findField key fields).bind decodeName

def countField (key : Bytes) : Option Nat :=
  match findField key fields with
  | some (.unsigned n) => some n
  | _ => none

def typeField : Option StatementType :=
  (textField fields (ascii "statement_type")).bind (named statementTypes StatementType.toBytes)

def decodeTables : Option AuditTableMetadata :=
  match findField (ascii "referenced_tables") fields,
      findField (ascii "referenced_tables_omitted") fields with
  | some (.array names), none => do
    let tables ← names.mapM decodeName
    pure { state := .present, tables := tables }
  | none, some (.bool true) => some { state := .omitted }
  | none, none => some { state := .absent }
  | _, _ => none

def decodeReadSuccess : Option Details := do
  let type ← typeField fields
  let rows ← countField fields (ascii "row_count")
  let columns ← countField fields (ascii "column_count")
  let emails ← countField fields (ascii "pii_email_columns")
  let phones ← countField fields (ascii "pii_phone_columns")
  let cards ← countField fields (ascii "pii_credit_card_columns")
  pure (.success ⟨type, rows, columns, ⟨emails, phones, cards⟩⟩)

/-- A success with `affected_rows` is a write. -/
def decodeDetails : AuditOutcome → Option Details
  | .success =>
    match countField fields (ascii "affected_rows") with
    | some affected => do
      let type ← typeField fields
      pure (.writeSuccess ⟨type, affected⟩)
    | none => decodeReadSuccess fields
  | .parsingFailure => some .parsingFailure
  | .policyRejected => do
    let reason ← (textField fields (ascii "reason")).bind
      (named rejectReasons RejectReason.toBytes)
    let type ← typeField fields
    let count ← countField fields (ascii "statement_count")
    pure (.policyRejected ⟨reason, type, count⟩)
  | .databaseFailure => do
    let category ← (textField fields (ascii "category")).bind
      (named dbFailureCategories DbFailureCategory.toBytes)
    let type ← typeField fields
    pure (.databaseFailure ⟨category, type⟩)
  | .maskingRefused => do
    let type ← typeField fields
    let columns ← countField fields (ascii "column_count")
    pure (.maskingRefused ⟨type, columns⟩)
  | .internalFailure => some .internalFailure

end Decoder

/-- Table names that the factories classify as `metadata`; an empty name is invalid. -/
def namesOf (metadata : AuditTableMetadata) : List Bytes :=
  match metadata.state with
  | .absent => []
  | .present => metadata.tables
  | .omitted => [[]]

instance (details : Details) : Decidable details.Admissible := by
  cases details <;> unfold Details.Admissible <;> infer_instance

/-- Nothing but a record the factories make is accepted. -/
def rebuild (timestampMs : Int) (requestId : UInt64) (metadata : AuditTableMetadata)
    (details : Details) : Option AuditRecord :=
  if hc : metadata = classifyTables (namesOf metadata) then
    if ha : details.Admissible then
      some ⟨timestampMs, requestId, metadata, details, ⟨_, hc⟩, ha⟩
    else none
  else none

def decodeRecord : Json → Option AuditRecord
  | .object fields => do
    let timestampMs ← (textField fields (ascii "timestamp")).bind readUtcTimestamp
    let requestId ← countField fields (ascii "request_id")
    let outcome ← (textField fields (ascii "outcome")).bind
      (named auditOutcomes AuditOutcome.toBytes)
    let metadata ← decodeTables fields
    let details ← decodeDetails fields outcome
    rebuild timestampMs (UInt64.ofNat requestId) metadata details
  | _ => none

/-- The record of a line. -/
def decodeLine (json : Library Exception) (line : Bytes) : Option AuditRecord :=
  (json.parse line).bind decodeRecord

theorem classifyTables_namesOf (names : List Bytes) :
    classifyTables (namesOf (classifyTables names)) = classifyTables names := by
  have hnone : classifyTables [] = { state := .absent } := by decide
  have hinvalid : classifyTables [[]] = { state := .omitted } := by decide
  rcases classifyTables_cases names with h | h | h
  · rw [h]
    exact hnone
  · rw [h]
    exact hinvalid
  · have hback : namesOf (classifyTables names) = names := by rw [h]; rfl
    rw [hback]

theorem rebuild_record (record : AuditRecord) :
    rebuild record.timestampMs record.requestId record.referencedTables record.details =
      some record := by
  obtain ⟨names, hnames⟩ := record.classified
  have hc : record.referencedTables = classifyTables (namesOf record.referencedTables) := by
    rw [hnames, classifyTables_namesOf]
  rw [rebuild, dif_pos hc, dif_pos record.admissible]

theorem decodeTables_tableFields {metadata : AuditTableMetadata}
    (h : ∃ names, metadata = classifyTables names) :
    decodeTables (tableFields metadata) = some metadata := by
  obtain ⟨names, rfl⟩ := h
  rcases classifyTables_cases names with h | h | h
  · rw [h]
    rfl
  · rw [h]
    rfl
  · have hnames : (names.map Json.string).mapM decodeName = some names :=
      mapM_decode (fun name => show decodeName (.string name) = some name from rfl) names
    rw [h]
    change ((names.map Json.string).mapM decodeName).bind _ = _
    rw [hnames]
    rfl

theorem typeField_eq {fields : Fields} {type : StatementType}
    (h : findField (ascii "statement_type") fields = some (.string type.toBytes)) :
    typeField fields = some type := by
  rw [typeField, textField, h]
  exact named_statementType type

theorem countField_eq {fields : Fields} {key : Bytes} {n : Nat}
    (h : findField key fields = some (.unsigned n)) : countField fields key = some n := by
  rw [countField, h]

theorem textField_eq {fields : Fields} {key s : Bytes}
    (h : findField key fields = some (.string s)) : textField fields key = some s := by
  rw [textField, h]
  rfl

/-- The details of a record are found among its detail fields. -/
theorem decodeDetails_detailFields (record : AuditRecord) :
    decodeDetails (detailFields record.details) record.outcome = some record.details := by
  unfold AuditRecord.outcome
  cases record.details with
  | success d =>
    have hshape : countField (detailFields (.success d)) (ascii "affected_rows") = none := rfl
    have htype : typeField (detailFields (.success d)) = some d.statementType := typeField_eq rfl
    have hrows := countField_eq (show findField (ascii "row_count") (detailFields (.success d)) =
      some (.unsigned d.rowCount) from rfl)
    have hcolumns := countField_eq (show findField (ascii "column_count")
      (detailFields (.success d)) = some (.unsigned d.columnCount) from rfl)
    have hemails := countField_eq (show findField (ascii "pii_email_columns")
      (detailFields (.success d)) = some (.unsigned d.pii.emailColumns) from rfl)
    have hphones := countField_eq (show findField (ascii "pii_phone_columns")
      (detailFields (.success d)) = some (.unsigned d.pii.phoneColumns) from rfl)
    have hcards := countField_eq (show findField (ascii "pii_credit_card_columns")
      (detailFields (.success d)) = some (.unsigned d.pii.creditCardColumns) from rfl)
    simp only [decodeDetails, hshape, decodeReadSuccess, htype, hrows, hcolumns, hemails, hphones,
      hcards, bind, Option.bind, pure]
  | writeSuccess d =>
    have htype : typeField (detailFields (.writeSuccess d)) = some d.statementType :=
      typeField_eq rfl
    have hrows := countField_eq (show findField (ascii "affected_rows")
      (detailFields (.writeSuccess d)) = some (.unsigned d.affectedRows) from rfl)
    simp only [decodeDetails, hrows, htype, bind, Option.bind, pure]
  | parsingFailure => rfl
  | policyRejected d =>
    have hreason := textField_eq (show findField (ascii "reason")
      (detailFields (.policyRejected d)) = some (.string d.reason.toBytes) from rfl)
    have htype : typeField (detailFields (.policyRejected d)) = some d.statementType :=
      typeField_eq rfl
    have hcount := countField_eq (show findField (ascii "statement_count")
      (detailFields (.policyRejected d)) = some (.unsigned d.statementCount) from rfl)
    simp only [decodeDetails, hreason, named_rejectReason, htype, hcount, bind, Option.bind, pure]
  | databaseFailure d =>
    have hcategory := textField_eq (show findField (ascii "category")
      (detailFields (.databaseFailure d)) = some (.string d.category.toBytes) from rfl)
    have htype : typeField (detailFields (.databaseFailure d)) = some d.statementType :=
      typeField_eq rfl
    simp only [decodeDetails, hcategory, named_dbFailureCategory, htype, bind, Option.bind, pure]
  | maskingRefused d =>
    have htype : typeField (detailFields (.maskingRefused d)) = some d.statementType :=
      typeField_eq rfl
    have hcolumns := countField_eq (show findField (ascii "column_count")
      (detailFields (.maskingRefused d)) = some (.unsigned d.columnCount) from rfl)
    simp only [decodeDetails, htype, hcolumns, bind, Option.bind, pure]
  | internalFailure => rfl

theorem textField_congr {fields fields' : Fields} {key : Bytes}
    (h : findField key fields = findField key fields') :
    textField fields key = textField fields' key := by
  rw [textField, textField, h]

theorem countField_congr {fields fields' : Fields} {key : Bytes}
    (h : findField key fields = findField key fields') :
    countField fields key = countField fields' key := by
  rw [countField, countField, h]

/-- The decoder of the details looks at the keys of details only. -/
theorem decodeDetails_congr {fields fields' : Fields}
    (h : ∀ key ∈ allDetailKeys, findField key fields = findField key fields')
    (outcome : AuditOutcome) : decodeDetails fields outcome = decodeDetails fields' outcome := by
  have htext (key : Bytes) (hk : key ∈ allDetailKeys) : textField fields key =
    textField fields' key := textField_congr (h key hk)
  have hcount (key : Bytes) (hk : key ∈ allDetailKeys) : countField fields key =
    countField fields' key := countField_congr (h key hk)
  have htype : typeField fields = typeField fields' := by
    rw [typeField, typeField, htext _ (by decide)]
  cases outcome with
  | success =>
    simp only [decodeDetails, decodeReadSuccess, htype, hcount (ascii "affected_rows") (by decide),
      hcount (ascii "row_count") (by decide), hcount (ascii "column_count") (by decide),
      hcount (ascii "pii_email_columns") (by decide),
      hcount (ascii "pii_phone_columns") (by decide),
      hcount (ascii "pii_credit_card_columns") (by decide)]
  | parsingFailure => rfl
  | policyRejected =>
    simp only [decodeDetails, htype, htext (ascii "reason") (by decide),
      hcount (ascii "statement_count") (by decide)]
  | databaseFailure =>
    simp only [decodeDetails, htype, htext (ascii "category") (by decide)]
  | maskingRefused =>
    simp only [decodeDetails, htype, hcount (ascii "column_count") (by decide)]
  | internalFailure => rfl

theorem decodeTables_congr {fields fields' : Fields}
    (h : findField (ascii "referenced_tables") fields =
      findField (ascii "referenced_tables") fields')
    (h' : findField (ascii "referenced_tables_omitted") fields =
      findField (ascii "referenced_tables_omitted") fields') :
    decodeTables fields = decodeTables fields' := by
  rw [decodeTables, decodeTables, h, h']

/-- Decoding gives back the record, all of it. -/
theorem decodeRecord_serialize {record : AuditRecord} (h : 0 ≤ record.timestampMs) :
    decodeRecord (serialize record) = some record := by
  have htime : textField (setFields (recordFields record) []) (ascii "timestamp") =
      some (formatUtcTimestamp record.timestampMs) := by
    rw [textField_congr (findField_envelope record (by decide))]
    exact textField_eq rfl
  have hid : countField (setFields (recordFields record) []) (ascii "request_id") =
      some record.requestId.toNat := by
    rw [countField_congr (findField_envelope record (by decide))]
    exact countField_eq rfl
  have houtcome : textField (setFields (recordFields record) []) (ascii "outcome") =
      some record.outcome.toBytes := by
    rw [textField_congr (findField_envelope record (by decide))]
    exact textField_eq rfl
  have htables : decodeTables (setFields (recordFields record) []) =
      some record.referencedTables := by
    rw [decodeTables_congr (findField_tables record (.inl rfl))
      (findField_tables record (.inr rfl))]
    exact decodeTables_tableFields record.classified
  have hdetails : decodeDetails (setFields (recordFields record) []) record.outcome =
      some record.details := by
    rw [decodeDetails_congr (fun key hkey => findField_detail record hkey)]
    exact decodeDetails_detailFields record
  change decodeRecord (.object (setFields (recordFields record) [])) = _
  simp only [decodeRecord, htime, hid, houtcome, htables, hdetails, bind, Option.bind,
    readUtcTimestamp_format h, named_auditOutcome, UInt64.ofNat_toNat, rebuild_record]

/-- The range in which a time has a year of four digits. -/
def InFourDigitYears (epochMs : Int) : Prop := 0 ≤ epochMs ∧ epochMs < 253402300800000

instance (epochMs : Int) : Decidable (InFourDigitYears epochMs) :=
  inferInstanceAs (Decidable (_ ∧ _))

theorem decodeLine_dump {json : Library Exception} {record : AuditRecord} {line : Bytes}
    (h : 0 ≤ record.timestampMs) (hline : json.dump (serialize record) = .ok line) :
    decodeLine json line = some record := by
  rw [decodeLine, json.parse_dump _ line (serialize_canonical record) hline]
  exact decodeRecord_serialize h

/-- A record is written under the keys of its shape and no others, as one printable line
that cannot fail, and the line tells the record: no two records share one. -/
theorem serialize_lossless (json : Library Exception) (record : AuditRecord)
    (h : InFourDigitYears record.timestampMs) :
    (∃ fields, serialize record = .object fields ∧ (fields.map Prod.fst).Nodup ∧
      ∀ key, key ∈ fields.map Prod.fst ↔
        key ∈ recordKeys record.details.shape record.referencedTables.state) ∧
    (∃ line, json.dump (serialize record) = .ok line ∧ Printable line ∧
      decodeLine json line = some record) ∧
    ∀ other : AuditRecord, InFourDigitYears other.timestampMs →
      json.dump (serialize other) = json.dump (serialize record) → other = record := by
  obtain ⟨line, hline, hprintable⟩ := dump_serialize json record
  refine ⟨⟨setFields (recordFields record) [], rfl, ?_, ?_⟩,
    ⟨line, hline, hprintable, decodeLine_dump h.1 hline⟩, ?_⟩
  · exact (keysSorted_setFields keysSorted_nil).nodup
  · intro key
    rw [mem_keys_setFields, keys_recordFields]
    simp
  · intro other hother hsame
    have hdecoded := decodeLine_dump hother.1 (hsame.trans hline)
    rw [decodeLine_dump h.1 hline] at hdecoded
    exact (Option.some.inj hdecoded).symm

/-- A read of one table. -/
def readRecord : AuditRecord :=
  .construct 951782400123 7 (.success ⟨.select, 2, 1, { emailColumns := 1 }⟩)
    [ascii "customers"] rfl

theorem serialize_lossless_read :
    (∃ fields, serialize readRecord = .object fields ∧ (fields.map Prod.fst).Nodup ∧
      ∀ key, key ∈ fields.map Prod.fst ↔
        key ∈ recordKeys readRecord.details.shape readRecord.referencedTables.state) ∧
    (∃ line, (Compact.library Exception.foreign).dump (serialize readRecord) = .ok line ∧
      Printable line ∧ decodeLine (Compact.library .foreign) line = some readRecord) ∧
    ∀ other : AuditRecord, InFourDigitYears other.timestampMs →
      (Compact.library Exception.foreign).dump (serialize other) =
        (Compact.library Exception.foreign).dump (serialize readRecord) → other = readRecord :=
  serialize_lossless (Compact.library .foreign) readRecord (by decide)

end SqlProxy
