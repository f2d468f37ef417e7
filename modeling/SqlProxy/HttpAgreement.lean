import SqlProxy.Base.CompactJson
import SqlProxy.FailClosed
import SqlProxy.Noninterference
import SqlProxy.Routes

/-! The HTTP answer beside the audit trail. The record of a read is appended before its
body is dumped, so the two agree exactly where the body can be dumped. -/
namespace SqlProxy
open ByteText Json Routes ProxyService PiiMasker

/-! What a client reads back from a body. -/

def decodeName : Json → Option Bytes
  | .string s => some s
  | _ => none

def decodeCell : Json → Option Cell
  | .null => some none
  | .string s => some (some s)
  | _ => none

def decodeRow : Json → Option (List Cell)
  | .array cells => cells.mapM decodeCell
  | _ => none

/-- The columns and rows of a read, and its `row_count`. -/
def decodeRead : Json → Option (MaskedQueryResult × Nat)
  | .object fields =>
    match findField (ascii "columns") fields, findField (ascii "rows") fields,
        findField (ascii "row_count") fields with
    | some (.array names), some (.array rows), some (.unsigned count) => do
      let names ← names.mapM decodeName
      let rows ← rows.mapM decodeRow
      pure (⟨names, rows⟩, count)
    | _, _, _ => none
  | _ => none

theorem mapM_decode {α : Type} {encode : α → Json} {decode : Json → Option α}
    (h : ∀ x, decode (encode x) = some x) (xs : List α) :
    (xs.map encode).mapM decode = some xs := by
  induction xs with
  | nil => rfl
  | cons x xs ih =>
    rw [List.map_cons, List.mapM_cons, h, ih]
    rfl

theorem decodeRow_rowJson (row : List Cell) : decodeRow (rowJson row) = some row := by
  refine mapM_decode (fun cell => ?_) row
  cases cell <;> rfl

theorem decodeRead_readBody (masked : MaskedQueryResult) :
    decodeRead (readBody masked) = some (masked, masked.rows.length) := by
  have hnames : (masked.columnNames.map Json.string).mapM decodeName =
      some masked.columnNames :=
    mapM_decode (fun name => show decodeName (.string name) = some name from rfl) _
  have hrows : (masked.rows.map rowJson).mapM decodeRow = some masked.rows :=
    mapM_decode decodeRow_rowJson _
  have hfind : decodeRead (readBody masked) =
      ((masked.columnNames.map Json.string).mapM decodeName).bind fun names =>
        ((masked.rows.map rowJson).mapM decodeRow).bind fun rows =>
          some (⟨names, rows⟩, masked.rows.length) := by
    rw [readBody_eq]
    rfl
  rw [hfind, hnames, hrows]
  rfl

/-! The agreement. -/
section Agreement
variable (json : Library Exception) (env : Environment) (request : Request)

/-- A 400 error that neither the database nor the audit trail hears of. -/
def TurnedAway : Prop :=
  ∃ response failure, answered json env request = .ok response ∧ response.status = 400 ∧
    response.contentType = ascii "application/json" ∧
    json.parse response.body = some (errorBody failure) ∧
    executions (calls json env request) = [] ∧ appends (calls json env request) = []

/-- One JSON response, 200 exactly for an audited success, from which a read is read
back as it was masked. -/
def Delivered (sql : Bytes) : Prop :=
  ∃ response body, answered json env request = .ok response ∧
    response.contentType = ascii "application/json" ∧ json.parse response.body = some body ∧
    (response.status = 200 ↔
      ∃ record, (record, .ok .ok) ∈ appends (calls json env request) ∧
        record.outcome = .success) ∧
    ∀ masked, env.handled sql = .ok (.success masked) →
      decodeRead body = some (masked, masked.rows.length)

def Agrees : Prop :=
  ((∀ sql, ¬ Carries json request sql) → TurnedAway json env request) ∧
    ∀ sql, Carries json request sql → Delivered json env request sql

/-- The request carries a SELECT that is released for `r`, and the success is recorded. -/
structure AuditedRead (a : SqlAnalysis) (r : ExecutionResult) : Prop where
  released : ∃ sql, Carries json request sql ∧ Released env sql a r
  audited : ∃ record, AuditRecord.success env.now env.requestId
      ⟨a.statementType, r.rowCount.toNat, r.columns.length, summarize (classes a r)⟩
      a.tables = .ok record ∧ env.append record = .ok .ok

end Agreement

/-- What of a cell must be UTF-8: all of it where it is not masked, and of an e-mail
address the domain, which its mask keeps. -/
def CellEncodes (c : ColumnClassification) : Cell → Prop
  | none => True
  | some value =>
    match c.dataClass, c.piiCategory with
    | .pii, some .email => IsAddress value → Utf8.Valid (domainPart value)
    | .pii, some _ => True
    | _, _ => Utf8.Valid value

/-- The names and cells of a result whose masked form is all UTF-8. -/
def Encodes (a : SqlAnalysis) (r : ExecutionResult) : Prop :=
  (∀ column ∈ r.columns, Utf8.Valid column.name) ∧
    ∀ row ∈ r.rows, ∀ entry ∈ (classes a r).columns.zip row, CellEncodes entry.1 entry.2

theorem valid_lastFour (value : Bytes) : Utf8.Valid (lastFour (digitsOf value)) := by
  refine Utf8.valid_ascii fun c hc => ?_
  have hdigit := (List.mem_filter.mp (List.mem_of_mem_drop hc)).2
  simp only [isDigit, Bool.and_eq_true, decide_eq_true_eq] at hdigit
  exact UInt8.lt_of_le_of_lt hdigit.2 (by decide)

/-- What a mask adds to a released part is ASCII. -/
theorem valid_present (category : PiiCategory) {first : Option UInt8} {tail : Bytes}
    (h : ∀ c ∈ first, c < 0x80) :
    Utf8.Valid (present category (some (first, tail))) ↔ Utf8.Valid tail := by
  have hthree : IsAscii (ascii "***") := by decide
  have hfour : IsAscii (ascii "****") := by decide
  have haddress : IsAscii (ascii "***@") := by decide
  cases category with
  | email =>
    have hfirst : IsAscii first.toList := fun c hc => h c (Option.mem_toList.mp hc)
    rw [present, List.append_assoc, Utf8.valid_ascii_append hfirst,
      Utf8.valid_ascii_append haddress]
  | phone => exact Utf8.valid_ascii_append hthree
  | creditCard => exact Utf8.valid_ascii_append hfour

/-- A masked number is ASCII, and a masked address is as valid as its domain. -/
theorem valid_maskValue (category : PiiCategory) (value : Bytes) :
    Utf8.Valid (maskValue category value) ↔
      (category = .email → IsAddress value → Utf8.Valid (domainPart value)) := by
  have hredacted (category : PiiCategory) : Utf8.Valid (present category none) := by
    cases category <;> decide
  have hdigits (category : PiiCategory) :
      Utf8.Valid (present category (some (none, lastFour (digitsOf value)))) := by
    rw [valid_present category (by simp)]
    exact valid_lastFour value
  rw [maskValue_eq]
  cases category with
  | email =>
    by_cases ha : IsAddress value
    · have hfirst : ∀ c ∈ (if value.headD 0 < 128 then some (value.headD 0) else none),
          c < 0x80 := by
        intro c hc
        split_ifs at hc with hlt
        · cases hc
          exact hlt
        · cases hc
      rw [releasedPart, if_pos ha, valid_present .email hfirst]
      simp [ha]
    · rw [releasedPart, if_neg ha]
      simp [ha, hredacted]
  | phone =>
    simp only [releasedPart, reduceCtorEq, false_imp_iff, iff_true]
    split_ifs
    · exact hdigits .phone
    · exact hredacted .phone
  | creditCard =>
    simp only [releasedPart, reduceCtorEq, false_imp_iff, iff_true]
    split_ifs
    · exact hdigits .creditCard
    · exact hredacted .creditCard

theorem valid_maskAs (c : ColumnClassification) (cell : Cell) :
    (∀ value, maskAs c cell = some value → Utf8.Valid value) ↔ CellEncodes c cell := by
  cases cell with
  | none =>
    have hnull : maskAs c none = none := by
      unfold maskAs
      split <;> rfl
    simp [hnull, CellEncodes]
  | some value =>
    have hempty : IsAddress [] ↔ False := by simp [IsAddress]
    cases hc : c.dataClass with
    | pii =>
      cases hp : c.piiCategory with
      | none => simp [maskAs, CellEncodes, hc, hp]
      | some category =>
        have hmask : maskAs c (some value) = maskCell category (some value) := by
          simp [maskAs, hc, hp]
        rw [hmask]
        cases value with
        | nil => cases category <;> simp [CellEncodes, hc, hp, maskCell, hempty, Utf8.valid_nil]
        | cons b value =>
          cases category <;>
            simp [CellEncodes, hc, hp, maskCell, valid_maskValue]
    | notClassifiedAsPii => simp [maskAs, CellEncodes, hc]
    | unattributed => simp [maskAs, CellEncodes, hc]

section
variable {json : Library Exception} {env : Environment} {request : Request} {sql : Bytes}
  {a : SqlAnalysis} {r : ExecutionResult}

theorem forall_mem_maskRow {columns : List ColumnClassification} {row : List Cell} :
    (∀ value, some value ∈ maskRow columns row → Utf8.Valid value) ↔
      ∀ entry ∈ columns.zip row, CellEncodes entry.1 entry.2 := by
  have hrow : maskRow columns row = (columns.zip row).map fun entry => maskAs entry.1 entry.2 :=
    (List.map_uncurry_zip_eq_zipWith ..).symm
  rw [hrow]
  constructor
  · intro h entry hentry
    rw [← valid_maskAs]
    intro value hvalue
    exact h value (List.mem_map.mpr ⟨entry, hentry, hvalue⟩)
  · intro h value hvalue
    obtain ⟨entry, hentry, heq⟩ := List.mem_map.mp hvalue
    exact (valid_maskAs entry.1 entry.2).mpr (h entry hentry) value heq

theorem encodable_read_iff :
    (readBody (maskedResult a r)).Encodable ↔ Encodes a r := by
  rw [encodable_readBody, Encodes, maskedResult]
  refine and_congr List.forall_mem_map ?_
  rw [maskedRows, List.forall_mem_map]
  exact forall₂_congr fun row _ => forall_mem_maskRow

/-- The statement of a request is determined. -/
theorem carries_unique {sql sql' : Bytes} (h : Carries json request sql)
    (h' : Carries json request sql') : sql = sql' := by
  have heq := (checkRequest_ok.mpr h).symm.trans (checkRequest_ok.mpr h')
  exact Except.ok.inj heq

theorem responseFor_status (failure : ServiceFailure) : (responseFor failure).status ≠ 200 := by
  cases failure <;> decide

/-- The service succeeds exactly when a success has been recorded. -/
theorem succeeded_iff {result : ServiceResult} (h : env.handled sql = .ok result) :
    result.succeeded = true ↔
      ∃ record, (record, .ok .ok) ∈ appends (env.events sql) ∧ record.outcome = .success := by
  have hout := (Environment.processing_outcome env sql).corresponds
  have hpaired := (Environment.handled_paired env sql).symm.trans h
  have hsuccess : (env.processing sql).result.succeeded = true ↔
      (env.processing sql).record.outcome = .success := by
    generalize (env.processing sql).result = made at hout
    unfold AuditRecord.outcome
    generalize (env.processing sql).record.details = details at hout
    cases hout <;> simp [ServiceResult.succeeded]
  rw [Environment.appends_events]
  cases hpaired
  by_cases happ : env.append (env.processing sql).record = .ok .ok
  · simp [happ, hsuccess]
  · have hno : (Except.ok AuditAppendResult.ok : Except Exception AuditAppendResult) ≠
        env.append (env.processing sql).record := fun he => happ he.symm
    have hfailed : (ServiceResult.failure .internalError).succeeded = false := rfl
    by_cases hs : (env.processing sql).result.succeeded = true
    · simp [happ, hno, hs, hfailed]
    · simp [happ, hno, hs]

/-- A read is returned only after its audit. -/
theorem auditedRead_of_success {masked : MaskedQueryResult} (hc : Carries json request sql)
    (h : env.handled sql = .ok (.success masked)) :
    ∃ a r, AuditedRead json env request a r ∧ masked = maskedResult a r := by
  obtain ⟨a, r, hreleased, hmasked⟩ := released_of_success h
  obtain ⟨-, happ⟩ := Environment.audited_of_success h
  rw [hreleased.processing_eq] at happ
  exact ⟨a, r, ⟨⟨sql, hc, hreleased⟩, _,
    AuditRecord.success_eq _ _ ⟨a.statementType, _, _, _⟩ _ hreleased.select, happ⟩, hmasked⟩

theorem success_of_auditedRead (hc : Carries json request sql)
    (h : AuditedRead json env request a r) :
    env.handled sql = .ok (.success (maskedResult a r)) := by
  obtain ⟨sql', hc', hreleased⟩ := h.released
  obtain rfl := carries_unique hc hc'
  obtain ⟨record, hrecord, happ⟩ := h.audited
  have hmade := hreleased.processing_eq
  rw [AuditRecord.success_eq _ _ ⟨a.statementType, _, _, _⟩ _ hreleased.select] at hrecord
  cases hrecord
  rw [Environment.handled_of_append (by rw [hmade]; exact happ), hmade]

theorem turnedAway (h : ∀ sql, ¬ Carries json request sql) : TurnedAway json env request := by
  cases hcheck : checkRequest json request with
  | ok sql => exact absurd (checkRequest_ok.mp hcheck) (h sql)
  | error failure =>
    obtain ⟨hstatus, hencodable⟩ := checkRequest_error hcheck
    obtain ⟨hanswered, hcalls⟩ := answered_rejected env hcheck
    obtain ⟨text, hsend, hparse⟩ := sendJson_encodable json failure.status
      (canonical_errorBody failure) hencodable
    refine ⟨_, failure, hanswered.trans hsend, hstatus, rfl, hparse, ?_, ?_⟩
    · rw [hcalls]
      rfl
    · rw [hcalls]
      rfl

/-- What is encodable is delivered. -/
theorem delivered_of_encodable {result : ServiceResult} (hc : Carries json request sql)
    (hresult : env.handled sql = .ok result)
    (h : ∀ masked, result = .success masked → (readBody masked).Encodable) :
    Delivered json env request sql := by
  have hanswered := answered_carried env hc
  rw [hresult] at hanswered
  have haudit := succeeded_iff hresult
  rw [← calls_carried hc] at haudit
  unfold Delivered
  rw [hresult, ← haudit]
  cases result with
  | success masked =>
    obtain ⟨text, hsend, hparse⟩ := sendJson_encodable json 200
      (canonical_readBody masked) (h masked rfl)
    refine ⟨_, _, hanswered.trans hsend, rfl, hparse, by simp [ServiceResult.succeeded], ?_⟩
    rintro _ ⟨rfl⟩
    exact decodeRead_readBody masked
  | writeSuccess written =>
    obtain ⟨text, hsend, hparse⟩ := sendJson_encodable json 200
      (canonical_writeBody written) (encodable_writeBody written)
    refine ⟨_, _, hanswered.trans hsend, rfl, hparse, by simp [ServiceResult.succeeded], ?_⟩
    intro masked hno
    cases hno
  | failure failure =>
    obtain ⟨text, hsend, hparse⟩ := sendJson_encodable json (responseFor failure).status
      (canonical_errorBody _) (encodable_responseFor failure)
    refine ⟨_, _, hanswered.trans hsend, rfl, hparse, ?_, ?_⟩
    · simp [ServiceResult.succeeded, responseFor_status failure]
    · intro masked hno
      cases hno

end

/-- The answer agrees with the audit trail exactly unless an audited read has a name or an
unmasked text that is not UTF-8. -/
theorem agrees_iff (json : Library Exception) (env : Environment) (request : Request) :
    Agrees json env request ↔
      ∀ a r, AuditedRead json env request a r → Encodes a r := by
  constructor
  · rintro ⟨-, hdelivered⟩ a r hread
    obtain ⟨sql, hc, -⟩ := hread.released
    obtain ⟨response, -, hanswered, -⟩ := hdelivered sql hc
    rw [answered_carried env hc, success_of_auditedRead hc hread] at hanswered
    rw [← encodable_read_iff]
    by_contra hno
    obtain ⟨e, he⟩ := sendJson_throws json 200 hno
    cases hanswered.symm.trans he
  · intro h
    refine ⟨turnedAway, fun sql hc => ?_⟩
    have hhandled := Environment.handled_eq env sql
    refine delivered_of_encodable hc hhandled fun masked hmasked => ?_
    rw [hmasked] at hhandled
    obtain ⟨a, r, hread, rfl⟩ := auditedRead_of_success hc hhandled
    exact encodable_read_iff.mpr (h a r hread)

/-- A name in Latin-1, as a database may hold it. -/
def latinResult : ExecutionResult := { nameResult with rows := [[some [0x52, 0x65, 0x6E, 0xE9]]] }

def latinEnvironment : Environment :=
  (answering latinResult).adapted (libraryOf (.select nameSelect))

def nameRequest : Request where
  contentType := ascii "application/json"
  body := ascii "\x7b\"sql\":\"SELECT name FROM customers\"\x7d"

/-- The success is recorded, and the handler throws. -/
theorem latin_name_throws :
    ¬ Agrees (Compact.library .foreign) latinEnvironment nameRequest ∧
      answered (Compact.library .foreign) latinEnvironment nameRequest = .error .foreign ∧
      ∃ record, (record, .ok .ok) ∈ appends (calls (Compact.library .foreign)
        latinEnvironment nameRequest) ∧ record.outcome = .success := by
  have hc : Carries (Compact.library Exception.foreign) nameRequest
      (ascii "SELECT name FROM customers") := checkRequest_ok.mp (by decide +kernel)
  have hanswered : answered (Compact.library .foreign) latinEnvironment nameRequest =
      .error .foreign := by
    decide +kernel
  have hhandled : ∃ result, latinEnvironment.handled (ascii "SELECT name FROM customers") =
      .ok result ∧ result.succeeded = true :=
    ⟨.success ⟨[ascii "name"], latinResult.rows⟩, by decide +kernel, rfl⟩
  refine ⟨fun ⟨_, hdelivered⟩ => ?_, hanswered, ?_⟩
  · obtain ⟨response, -, hresponse, -⟩ := hdelivered _ hc
    cases hanswered.symm.trans hresponse
  · obtain ⟨result, hresult, hsucceeded⟩ := hhandled
    rw [calls_carried hc]
    exact (succeeded_iff hresult).mp hsucceeded

end SqlProxy
