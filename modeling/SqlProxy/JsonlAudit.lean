import SqlProxy.AuditRecord
import SqlProxy.Base.Calendar
import SqlProxy.Base.CompactJson
import SqlProxy.Base.Lines
import Mathlib.Data.List.Forall2

/-! `audit/jsonl_audit_repository.cpp`: a record as one line of JSON, and the file the
lines are appended to. -/
namespace SqlProxy
open ByteText Json

def formatUtcTimestamp (epochMs : Int) : Bytes :=
  let seconds := epochMs.tdiv 1000
  let millis := epochMs.tmod 1000
  let utc := Calendar.gmtime seconds
  padded 4 (utc.year + 1900) ++ ascii "-" ++ padded 2 (utc.mon + 1) ++ ascii "-" ++
    padded 2 utc.mday ++ ascii "T" ++ padded 2 utc.hour ++ ascii ":" ++ padded 2 utc.min ++
    ascii ":" ++ padded 2 utc.sec ++ ascii "." ++ padded 3 millis ++ ascii "Z"

/-- The fields every record has. -/
def envelopeFields (record : AuditRecord) : Fields :=
  [(ascii "timestamp", .string (formatUtcTimestamp record.timestampMs)),
    (ascii "request_id", .unsigned record.requestId.toNat),
    (ascii "outcome", .string record.outcome.toBytes)]

def tableFields (metadata : AuditTableMetadata) : Fields :=
  match metadata.state with
  | .present => [(ascii "referenced_tables", .array (metadata.tables.map .string))]
  | .omitted => [(ascii "referenced_tables_omitted", .bool true)]
  | .absent => []

/-- The fields of one outcome. Those that do not apply are left out, never zero or null. -/
def detailFields : Details → Fields
  | .success d =>
    [(ascii "statement_type", .string d.statementType.toBytes),
      (ascii "row_count", .unsigned d.rowCount),
      (ascii "column_count", .unsigned d.columnCount),
      (ascii "pii_email_columns", .unsigned d.pii.emailColumns),
      (ascii "pii_phone_columns", .unsigned d.pii.phoneColumns),
      (ascii "pii_credit_card_columns", .unsigned d.pii.creditCardColumns)]
  | .writeSuccess d =>
    [(ascii "statement_type", .string d.statementType.toBytes),
      (ascii "affected_rows", .unsigned d.affectedRows)]
  | .policyRejected d =>
    [(ascii "reason", .string d.reason.toBytes),
      (ascii "statement_type", .string d.statementType.toBytes),
      (ascii "statement_count", .unsigned d.statementCount)]
  | .databaseFailure d =>
    [(ascii "category", .string d.category.toBytes),
      (ascii "statement_type", .string d.statementType.toBytes)]
  | .maskingRefused d =>
    [(ascii "statement_type", .string d.statementType.toBytes),
      (ascii "column_count", .unsigned d.columnCount)]
  | .parsingFailure | .internalFailure => []

def serialize (record : AuditRecord) : Json :=
  .object (setFields (envelopeFields record ++
    (tableFields record.referencedTables ++ detailFields record.details)) [])

theorem formatUtcTimestamp_printable (epochMs : Int) :
    Printable (formatUtcTimestamp epochMs) := by
  have hhyphen : Printable (ascii "-") := by decide
  have hcolon : Printable (ascii ":") := by decide
  have hrest : Printable (ascii "T") ∧ Printable (ascii ".") ∧ Printable (ascii "Z") := by
    decide
  simp only [formatUtcTimestamp, printable_append, printable_padded, hhyphen, hcolon, hrest,
    and_self]

theorem printable_tableNameByte {c : UInt8}
    (h : (isAsciiLetter c || isDigit c || c = underscore || c = dollar) = true) :
    32 ≤ c ∧ c < 127 := by
  simp only [isAsciiLetter, isDigit, Bool.or_eq_true, Bool.and_eq_true, decide_eq_true_eq,
    UInt8.le_iff_toNat_le, ← UInt8.toNat_inj] at h
  simp only [UInt8.le_iff_toNat_le, UInt8.lt_iff_toNat_lt]
  simp [underscore, dollar] at h ⊢
  omega

theorem printable_of_isValidTableName {name : Bytes} (h : isValidTableName name = true) :
    Printable name :=
  fun c hc => printable_tableNameByte ((isValidTableName_iff.mp h).bytes c hc)

/-- A list is present only where every name in it is valid. -/
theorem classifyTables_present {names : List Bytes} (h : (classifyTables names).state = .present) :
    ∀ name ∈ (classifyTables names).tables, isValidTableName name = true := by
  obtain hc | hc | hc := classifyTables_cases names
  · rw [hc] at h
    cases h
  · rw [hc] at h
    cases h
  · have hplain := (classifyTables_eq_present.mp hc).2.plain
    rw [hc]
    intro name hname
    exact isValidTableName_iff.mpr (hplain name hname)

/-- What the schema needs of a field: nothing printed comes from outside it. -/
def Plain (field : Bytes × Json) : Prop :=
  field.2.Canonical ∧ Printable field.1 ∧ ∀ s ∈ field.2.strings, Printable s

theorem plain_string {key s : Bytes} (hk : Printable key) (hs : Printable s) :
    Plain (key, .string s) :=
  ⟨trivial, hk, by simpa [strings] using hs⟩

theorem plain_unsigned {key : Bytes} {n : Nat} (hk : Printable key) :
    Plain (key, .unsigned n) :=
  ⟨trivial, hk, by simp [strings]⟩

theorem printable_statementType (type : StatementType) : Printable type.toBytes := by
  cases type <;> decide

theorem plain_envelopeFields (record : AuditRecord) :
    ∀ field ∈ envelopeFields record, Plain field := by
  have houtcome : Printable record.outcome.toBytes := by
    cases record.outcome <;> decide
  simp only [envelopeFields, List.forall_mem_cons]
  exact ⟨plain_string (by decide) (formatUtcTimestamp_printable _), plain_unsigned (by decide),
    plain_string (by decide) houtcome, List.forall_mem_nil _⟩

theorem plain_tableFields {metadata : AuditTableMetadata}
    (h : ∃ names, metadata = classifyTables names) :
    ∀ field ∈ tableFields metadata, Plain field := by
  obtain ⟨names, rfl⟩ := h
  cases hstate : (classifyTables names).state with
  | absent => simp [tableFields, hstate]
  | present =>
    have hnames := classifyTables_present hstate
    simp only [tableFields, hstate, List.forall_mem_singleton]
    have hkey : Printable (ascii "referenced_tables") := by decide
    refine ⟨canonicalAll_iff.mpr ?_, hkey, ?_⟩
    · simp [Canonical]
    · intro s hs
      obtain ⟨item, hitem, hs⟩ := mem_stringsAll.mp hs
      obtain ⟨name, hname, rfl⟩ := List.mem_map.mp hitem
      rw [List.mem_singleton.mp hs]
      exact printable_of_isValidTableName (hnames name hname)
  | omitted =>
    simp only [tableFields, hstate, List.forall_mem_singleton]
    exact ⟨trivial, by decide, by simp [strings]⟩

theorem plain_detailFields (details : Details) :
    ∀ field ∈ detailFields details, Plain field := by
  have htype {type : StatementType} : Plain (ascii "statement_type", .string type.toBytes) :=
    plain_string (by decide) (printable_statementType type)
  cases details with
  | success d =>
    simp only [detailFields, List.forall_mem_cons]
    exact ⟨htype, plain_unsigned (by decide), plain_unsigned (by decide),
      plain_unsigned (by decide), plain_unsigned (by decide), plain_unsigned (by decide),
      List.forall_mem_nil _⟩
  | writeSuccess d =>
    simp only [detailFields, List.forall_mem_cons]
    exact ⟨htype, plain_unsigned (by decide), List.forall_mem_nil _⟩
  | policyRejected d =>
    have hreason : Printable d.reason.toBytes := by
      cases d.reason <;> decide
    simp only [detailFields, List.forall_mem_cons]
    exact ⟨plain_string (by decide) hreason, htype, plain_unsigned (by decide),
      List.forall_mem_nil _⟩
  | databaseFailure d =>
    have hcategory : Printable d.category.toBytes := by
      cases d.category <;> decide
    simp only [detailFields, List.forall_mem_cons]
    exact ⟨plain_string (by decide) hcategory, htype, List.forall_mem_nil _⟩
  | maskingRefused d =>
    simp only [detailFields, List.forall_mem_cons]
    exact ⟨htype, plain_unsigned (by decide), List.forall_mem_nil _⟩
  | parsingFailure => exact List.forall_mem_nil _
  | internalFailure => exact List.forall_mem_nil _

theorem plain_fields (record : AuditRecord) :
    ∀ field ∈ envelopeFields record ++
      (tableFields record.referencedTables ++ detailFields record.details), Plain field :=
  List.forall_mem_append.mpr ⟨plain_envelopeFields record,
    List.forall_mem_append.mpr ⟨plain_tableFields record.classified,
      plain_detailFields record.details⟩⟩

theorem serialize_canonical (record : AuditRecord) : (serialize record).Canonical :=
  canonical_setFields fun field hfield => (plain_fields record field hfield).1

theorem serialize_strings (record : AuditRecord) :
    ∀ s ∈ (serialize record).strings, Printable s := by
  intro s hs
  obtain ⟨field, hfield, hs⟩ := mem_strings_setFields hs
  obtain ⟨-, hkey, hvalue⟩ := plain_fields record field hfield
  rcases hs with rfl | hs
  · exact hkey
  · exact hvalue s hs

/-- Whatever is recorded, its line can be dumped, and is printable. -/
theorem dump_serialize (json : Library Exception) (record : AuditRecord) :
    ∃ line, json.dump (serialize record) = .ok line ∧ Printable line := by
  have hstrings := serialize_strings record
  obtain ⟨line, hline⟩ := (json.dump_ok (serialize record)).mpr fun s hs =>
    Utf8.valid_ascii (hstrings s hs).isAscii
  refine ⟨line, hline, fun c hc => ?_⟩
  obtain ⟨hlow, hhigh⟩ := json.plain _ line (serialize_canonical record) hline c hc
  rcases hhigh with hhigh | ⟨s, hs, hcs⟩
  · exact ⟨hlow, hhigh⟩
  · exact hstrings s hs c hcs

theorem newline_notin_dump {json : Library Exception} {record : AuditRecord} {line : Bytes}
    (h : json.dump (serialize record) = .ok line) : newline ∉ line := by
  obtain ⟨line', hline', hprintable⟩ := dump_serialize json record
  rw [h] at hline'
  cases hline'
  intro hnewline
  exact absurd (hprintable newline hnewline).1 (by decide)

/-- What the sink makes of one operation: how many of the bytes held for it it stores, and
whether it fails. -/
structure SinkReply where
  stored : Nat
  fails : Bool := false

/-- `std::ofstream` in append mode. Bytes wait in `pending` until the sink has them. -/
structure OFStream where
  isOpen : Bool
  failed : Bool
  pending : Bytes
  file : Bytes
  deriving DecidableEq

namespace OFStream

/-- `open` in append mode keeps what the file holds. -/
def opened (opens : Bool) (file : Bytes) : OFStream where
  isOpen := opens
  failed := !opens
  pending := []
  file := file

/-- The sink takes a first part of what is pending. -/
def store (count : Nat) (fails : Bool) (stream : OFStream) : OFStream :=
  { stream with
    failed := fails
    pending := stream.pending.drop count
    file := stream.file ++ stream.pending.take count }

/-- `operator<<`: nothing once the error state is set. -/
def insert (bytes : Bytes) (reply : SinkReply) (stream : OFStream) : OFStream :=
  if stream.failed then stream
  else store reply.stored reply.fails { stream with pending := stream.pending ++ bytes }

/-- `flush` fails, or the sink has everything. -/
def flush (reply : SinkReply) (stream : OFStream) : OFStream :=
  if stream.failed then stream
  else store (if reply.fails then reply.stored else stream.pending.length) reply.fails stream

/-- What was accepted, stored or not. -/
def accepted (stream : OFStream) : Bytes := stream.file ++ stream.pending

end OFStream

/-- The sink's replies during one append. -/
structure AppendReplies where
  line : SinkReply
  newline : SinkReply
  flush : SinkReply

namespace JsonlAuditRepository

def append (json : Library Exception) (record : AuditRecord) (sink : AppendReplies)
    (stream : OFStream) : AuditAppendResult × OFStream :=
  match json.dump (serialize record) with
  | .error _ => (.writeFailure, stream)
  | .ok line =>
    if !stream.isOpen then (.openFailure, stream)
    else
      let stream := (stream.insert line sink.line).insert [newline] sink.newline
      let stream := stream.flush sink.flush
      if stream.failed then (.writeFailure, stream) else (.ok, stream)

/-- Appends made one after another: the lock lets no two overlap. -/
def appendAll (json : Library Exception) :
    List (AuditRecord × AppendReplies) → OFStream → List AuditAppendResult × OFStream
  | [], stream => ([], stream)
  | (record, sink) :: rest, stream =>
    let (result, stream) := append json record sink stream
    let (results, stream) := appendAll json rest stream
    (result :: results, stream)

end JsonlAuditRepository

namespace OFStream
variable {bytes : Bytes} {reply : SinkReply} {stream : OFStream}

theorem accepted_store (count : Nat) (fails : Bool) (stream : OFStream) :
    (stream.store count fails).accepted = stream.accepted := by
  simp [accepted, store, List.append_assoc]

/-- An operation that leaves the stream good found it good, and what it was given is
accepted. -/
theorem insert_good (h : (stream.insert bytes reply).failed = false) :
    stream.failed = false ∧ (stream.insert bytes reply).accepted = stream.accepted ++ bytes := by
  cases hf : stream.failed with
  | true =>
    rw [insert, if_pos hf, hf] at h
    cases h
  | false =>
    rw [insert, if_neg (by simp [hf]), accepted_store]
    exact ⟨rfl, by simp [accepted, List.append_assoc]⟩

/-- After a flush that leaves the stream good nothing is pending. -/
theorem flush_good (h : (stream.flush reply).failed = false) :
    stream.failed = false ∧ (stream.flush reply).pending = [] ∧
      (stream.flush reply).file = stream.accepted := by
  cases hf : stream.failed with
  | true =>
    rw [flush, if_pos hf, hf] at h
    cases h
  | false =>
    rw [flush, if_neg (by simp [hf])] at h ⊢
    have hfails : reply.fails = false := h
    simp [store, accepted, hfails]

end OFStream

namespace JsonlAuditRepository
variable {json : Library Exception} {record : AuditRecord} {sink : AppendReplies}
  {stream : OFStream}

/-- An append that answers `Ok` has stored the record's line, newline included. -/
theorem append_ok {line : Bytes} (hline : json.dump (serialize record) = .ok line)
    (hpending : stream.pending = []) (h : (append json record sink stream).1 = .ok) :
    (append json record sink stream).2.pending = [] ∧
      (append json record sink stream).2.file = stream.file ++ (line ++ [newline]) := by
  simp only [append, hline] at h ⊢
  split_ifs at h ⊢ with hclosed hfailed
  obtain ⟨hgood, hempty, hstored⟩ := OFStream.flush_good (Bool.eq_false_iff.mpr hfailed)
  obtain ⟨hgood, hnewline⟩ := OFStream.insert_good hgood
  obtain ⟨-, hinserted⟩ := OFStream.insert_good hgood
  refine ⟨hempty, ?_⟩
  rw [hstored, hnewline, hinserted]
  simp [OFStream.accepted, hpending]

/-- Appends that all answer `Ok` add the lines of their records and nothing else. -/
theorem appendAll_ok {appends : List (AuditRecord × AppendReplies)} {lines : List Bytes}
    (hlines : List.Forall₂ (fun entry line => json.dump (serialize entry.1) = .ok line)
      appends lines)
    (hpending : stream.pending = [])
    (h : ∀ result ∈ (appendAll json appends stream).1, result = .ok) :
    (appendAll json appends stream).2.file = stream.file ++ Lines.unlines lines := by
  induction hlines generalizing stream with
  | nil => simp [appendAll, Lines.unlines]
  | cons hline _ ih =>
    obtain ⟨hresult, hresults⟩ := List.forall_mem_cons.mp h
    obtain ⟨hpending', hfile⟩ := append_ok hline hpending hresult
    rw [appendAll]
    change (appendAll json _ (append json _ _ stream).2).2.file = _
    rw [ih hpending' hresults, hfile, List.append_assoc]
    rfl

end JsonlAuditRepository

/-- The file keeps its content and ends in one line for each record, in order. -/
def OneLinePerRecord (json : Library Exception) (content : Bytes) (records : List AuditRecord)
    (file : Bytes) : Prop :=
  ∃ lines, List.Forall₂ (fun record line => json.dump (serialize record) = .ok line)
      records lines ∧ content <+: file ∧ lines <:+ Lines.linesOf file

theorem exists_lines (json : Library Exception) (appends : List (AuditRecord × AppendReplies)) :
    ∃ lines, List.Forall₂ (fun entry line => json.dump (serialize entry.1) = .ok line)
      appends lines ∧ ∀ line ∈ lines, newline ∉ line := by
  induction appends with
  | nil => exact ⟨[], .nil, List.forall_mem_nil _⟩
  | cons entry appends ih =>
    obtain ⟨line, hline, -⟩ := dump_serialize json entry.1
    obtain ⟨lines, hlines, hnewline⟩ := ih
    exact ⟨line :: lines, .cons hline hlines,
      List.forall_mem_cons.mpr ⟨newline_notin_dump hline, hnewline⟩⟩

theorem lines_unique {json : Library Exception} {records : List AuditRecord}
    {lines lines' : List Bytes}
    (h : List.Forall₂ (fun record line => json.dump (serialize record) = .ok line)
      records lines)
    (h' : List.Forall₂ (fun record line => json.dump (serialize record) = .ok line)
      records lines') : lines = lines' := by
  induction h generalizing lines' with
  | nil => cases h'; rfl
  | cons hline _ ih =>
    cases h' with
    | cons hline' hrest =>
      rw [hline] at hline'
      cases hline'
      rw [ih hrest]

/-- When every append answers `Ok`, the file ends in one line for each record exactly when
nothing was appended or the repository was opened on a file without a torn last line. A
torn line is glued to the first record. -/
theorem one_line_per_record_iff (json : Library Exception) (opens : Bool) (content : Bytes)
    (appends : List (AuditRecord × AppendReplies))
    (h : ∀ result ∈
      (JsonlAuditRepository.appendAll json appends (OFStream.opened opens content)).1,
      result = .ok) :
    OneLinePerRecord json content (appends.map Prod.fst)
        (JsonlAuditRepository.appendAll json appends (OFStream.opened opens content)).2.file ↔
      appends = [] ∨ Lines.Complete content := by
  obtain ⟨lines, hlines, hnewline⟩ := exists_lines json appends
  have hpending : (OFStream.opened opens content).pending = [] := rfl
  have hfile := JsonlAuditRepository.appendAll_ok hlines hpending h
  have hnil : lines = [] ↔ appends = [] := by
    rw [← List.length_eq_zero_iff, ← List.length_eq_zero_iff, hlines.length_eq]
  have hrecords : List.Forall₂ (fun record line => json.dump (serialize record) = .ok line)
      (appends.map Prod.fst) lines := List.forall₂_map_left_iff.mpr hlines
  rw [hfile, ← hnil, ← Lines.lines_added_iff hnewline]
  constructor
  · rintro ⟨lines', hlines', -, hlast⟩
    rwa [← lines_unique hrecords hlines'] at hlast
  · intro hlast
    exact ⟨lines, hrecords, List.prefix_append _ _, hlast⟩

/-- Two records, and a sink that takes some of the second one before the flush. -/
def twoAppends : List (AuditRecord × AppendReplies) :=
  [(AuditRecord.internalFailure 0 1,
      { line := { stored := 0 }, newline := { stored := 0 }, flush := { stored := 0 } }),
    (AuditRecord.parsingFailure 1767225600000 2,
      { line := { stored := 20 }, newline := { stored := 1 }, flush := { stored := 0 } })]

/-- Lines of earlier processes, one of them torn and closed by hand. -/
def earlierLines : Bytes :=
  ascii "\x7b\"outcome\":\"SUCC" ++ [newline] ++ ascii "\x7b\x7d" ++ [newline]

theorem one_line_per_record_later :
    OneLinePerRecord (Compact.library .foreign) earlierLines (twoAppends.map Prod.fst)
        (JsonlAuditRepository.appendAll (Compact.library .foreign) twoAppends
          (OFStream.opened true earlierLines)).2.file ↔
      twoAppends = [] ∨ Lines.Complete earlierLines :=
  one_line_per_record_iff (Compact.library .foreign) true earlierLines twoAppends
    (by decide +kernel)

/-- One record, and a sink that takes what it is given at the flush. -/
def oneAppend : List (AuditRecord × AppendReplies) :=
  [(AuditRecord.internalFailure 0 1,
    { line := { stored := 0 }, newline := { stored := 0 }, flush := { stored := 0 } })]

/-- A line an earlier process has not finished. -/
def tornLine : Bytes := ascii "\x7b\"outcome\":\"SUCC"

/-- The append answers `Ok` and its record is on no line of its own. -/
theorem torn_line_glued :
    (∀ result ∈ (JsonlAuditRepository.appendAll (Compact.library .foreign) oneAppend
      (OFStream.opened true tornLine)).1, result = .ok) ∧
    ¬ OneLinePerRecord (Compact.library .foreign) tornLine (oneAppend.map Prod.fst)
      (JsonlAuditRepository.appendAll (Compact.library .foreign) oneAppend
        (OFStream.opened true tornLine)).2.file := by
  refine ⟨by decide +kernel, ?_⟩
  rintro ⟨lines, hlines, -, hlast⟩
  obtain ⟨line, hline⟩ : ∃ line, (Compact.library Exception.foreign).dump
      (serialize (AuditRecord.internalFailure 0 1)) = .ok line ∧
      ¬ [line] <:+ Lines.linesOf (JsonlAuditRepository.appendAll
        (Compact.library .foreign) oneAppend (OFStream.opened true tornLine)).2.file :=
    ⟨Compact.render (serialize (AuditRecord.internalFailure 0 1)), by decide +kernel,
      by decide +kernel⟩
  have hunique := lines_unique hlines (.cons hline.1 .nil)
  rw [hunique] at hlast
  exact hline.2 hlast

end SqlProxy
