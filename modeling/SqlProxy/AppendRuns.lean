import SqlProxy.JsonlAudit
import Mathlib.Logic.Function.Basic
import Mathlib.Logic.Relation

/-! Any number of callers of one `JsonlAuditRepository`, and a sink that may fail at every
operation: what the file holds at each point of a run. -/
namespace SqlProxy
open ByteText Json

namespace OFStream

/-- The file is `base` and a first part of `given`, and the rest of `given` is pending. -/
def Holds (stream : OFStream) (base given : Bytes) : Prop :=
  ∃ torn, stream.file = base ++ torn ∧ torn ++ stream.pending = given

variable {stream : OFStream} {base given : Bytes}

theorem holds_store (h : stream.Holds base given) (count : Nat) (fails : Bool) :
    (stream.store count fails).Holds base given := by
  obtain ⟨torn, hfile, hgiven⟩ := h
  refine ⟨torn ++ stream.pending.take count, ?_, ?_⟩
  · simp [store, hfile]
  · simp [store, hgiven]

theorem insert_of_failed (h : stream.failed = true) (bytes : Bytes) (reply : SinkReply) :
    stream.insert bytes reply = stream := by
  rw [insert, if_pos h]

theorem flush_of_failed (h : stream.failed = true) (reply : SinkReply) :
    stream.flush reply = stream := by
  rw [flush, if_pos h]

/-- Whether it fails or not, an insertion adds to what is given and loses nothing. -/
theorem holds_insert (hgood : stream.failed = false) (h : stream.Holds base given)
    (bytes : Bytes) (reply : SinkReply) :
    (stream.insert bytes reply).Holds base (given ++ bytes) := by
  obtain ⟨torn, hfile, hgiven⟩ := h
  have hmore : ({ stream with pending := stream.pending ++ bytes } : OFStream).Holds base
      (given ++ bytes) := by
    refine ⟨torn, hfile, ?_⟩
    rw [← hgiven, List.append_assoc]
  rw [insert, if_neg (by simp [hgood])]
  exact holds_store hmore _ _

theorem holds_flush (hgood : stream.failed = false) (h : stream.Holds base given)
    (reply : SinkReply) : (stream.flush reply).Holds base given := by
  rw [flush, if_neg (by simp [hgood])]
  exact holds_store h _ _

theorem Holds.settled (h : stream.Holds base given) (hpending : stream.pending = []) :
    stream.file = base ++ given := by
  obtain ⟨torn, hfile, hgiven⟩ := h
  rw [hpending, List.append_nil] at hgiven
  rw [hfile, hgiven]

@[simp] theorem insert_isOpen (stream : OFStream) (bytes : Bytes) (reply : SinkReply) :
    (stream.insert bytes reply).isOpen = stream.isOpen := by
  unfold insert store
  split <;> rfl

@[simp] theorem flush_isOpen (stream : OFStream) (reply : SinkReply) :
    (stream.flush reply).isOpen = stream.isOpen := by
  unfold flush store
  split <;> rfl

end OFStream

namespace JsonlAuditRepository

/-- How far the holder of the lock has come. -/
inductive Stage where
  | locked | wroteLine | wroteNewline | flushed
  deriving DecidableEq

/-- The one append that holds the lock. -/
structure Critical (ι : Type) where
  caller : ι
  record : AuditRecord
  line : Bytes
  stage : Stage

/-- What of the line has been handed to the stream. -/
def Critical.given {ι : Type} (c : Critical ι) : Bytes :=
  match c.stage with
  | .locked => []
  | .wroteLine => c.line
  | .wroteNewline | .flushed => c.line ++ [newline]

/-- A repository with the callers that wait for its lock, each with its line, and what the
appends have returned so far, in order. -/
structure Repository (ι : Type) where
  stream : OFStream
  waiting : ι → Option (AuditRecord × Bytes) := fun _ => none
  inside : Option (Critical ι) := none
  returned : List (ι × AuditRecord × AuditAppendResult) := []

section Steps
variable {ι : Type} [DecidableEq ι] (json : Library Exception)

def Repository.leave (s : Repository ι) (c : Critical ι) (result : AuditAppendResult) :
    Repository ι :=
  { s with inside := none, returned := s.returned ++ [(c.caller, c.record, result)] }

/-- One step of one caller: it serializes outside the lock, and each operation on the stream
is a step of its own. -/
inductive AppendStep : Repository ι → Repository ι → Prop where
  | serialize {s : Repository ι} (i : ι) (record : AuditRecord) {line : Bytes}
      (hline : json.dump (serialize record) = .ok line) (hidle : s.waiting i = none) :
      AppendStep s { s with waiting := Function.update s.waiting i (some (record, line)) }
  | serializeThrows {s : Repository ι} (i : ι) (record : AuditRecord) {e : Exception}
      (hline : json.dump (serialize record) = .error e) (hidle : s.waiting i = none) :
      AppendStep s { s with returned := s.returned ++ [(i, record, .writeFailure)] }
  | lock {s : Repository ι} (i : ι) {record : AuditRecord} {line : Bytes}
      (hwaiting : s.waiting i = some (record, line)) (hfree : s.inside = none) :
      AppendStep s { s with
        waiting := Function.update s.waiting i none
        inside := some ⟨i, record, line, .locked⟩ }
  | refuse {s : Repository ι} {c : Critical ι} (hc : s.inside = some c)
      (hstage : c.stage = .locked) (hclosed : s.stream.isOpen = false) :
      AppendStep s (s.leave c .openFailure)
  | writeLine {s : Repository ι} {c : Critical ι} (hc : s.inside = some c)
      (hstage : c.stage = .locked) (hopen : s.stream.isOpen = true) (reply : SinkReply) :
      AppendStep s { s with
        stream := s.stream.insert c.line reply
        inside := some { c with stage := .wroteLine } }
  | writeNewline {s : Repository ι} {c : Critical ι} (hc : s.inside = some c)
      (hstage : c.stage = .wroteLine) (reply : SinkReply) :
      AppendStep s { s with
        stream := s.stream.insert [newline] reply
        inside := some { c with stage := .wroteNewline } }
  | flush {s : Repository ι} {c : Critical ι} (hc : s.inside = some c)
      (hstage : c.stage = .wroteNewline) (reply : SinkReply) :
      AppendStep s { s with
        stream := s.stream.flush reply
        inside := some { c with stage := .flushed } }
  | unlock {s : Repository ι} {c : Critical ι} (hc : s.inside = some c)
      (hstage : c.stage = .flushed) :
      AppendStep s (s.leave c (if s.stream.failed then .writeFailure else .ok))

def AppendSteps : Repository ι → Repository ι → Prop := Relation.ReflTransGen (AppendStep json)

end Steps

def okRecords {ι : Type} (returned : List (ι × AuditRecord × AuditAppendResult)) :
    List AuditRecord :=
  returned.filterMap fun e => if e.2.2 = .ok then some e.2.1 else none

/-- The records whose appends have answered `Ok`, in order. -/
def Repository.acknowledged {ι : Type} (s : Repository ι) : List AuditRecord :=
  okRecords s.returned

section Torn
variable {ι : Type} (json : Library Exception)

/-- An append of `record` has failed, or is under way and has begun to write. -/
def Repository.Unfinished (s : Repository ι) (record : AuditRecord) : Prop :=
  (∃ i, (i, record, .writeFailure) ∈ s.returned) ∨
    ∃ c, s.inside = some c ∧ c.record = record ∧ c.stage ≠ .locked

/-- What stands behind the acknowledged lines: nothing, or a first part of one line. -/
def TornLine (s : Repository ι) (torn : Bytes) : Prop :=
  torn = [] ∨ ∃ record line, json.dump (serialize record) = .ok line ∧
    torn <+: line ++ [newline] ∧ s.Unfinished record

/-- The file is the initial content, the lines of the acknowledged appends in order, and what
is torn. -/
def FileKept (content : Bytes) (s : Repository ι) : Prop :=
  ∃ lines torn,
    List.Forall₂ (fun record line => json.dump (serialize record) = .ok line)
      s.acknowledged lines ∧
    s.stream.file = content ++ Lines.unlines lines ++ torn ∧
    Lines.linesOf s.stream.file = Lines.linesOf content ++ lines ++ Lines.linesOf torn ∧
    TornLine json s torn

/-- While the stream is good it holds what the append under way has given it, and once it has
failed nothing more reaches the file. -/
inductive Written (s : Repository ι) (base : Bytes) : Prop where
  | good (hf : s.stream.failed = false)
      (h : s.stream.Holds base ((s.inside.map Critical.given).getD []))
      (hflushed : ∀ c, s.inside = some c → c.stage = .flushed → s.stream.pending = [])
  | failed (hf : s.stream.failed = true) {torn : Bytes} (hfile : s.stream.file = base ++ torn)
      (h : TornLine json s torn)

structure Invariant (content : Bytes) (s : Repository ι) : Prop where
  waiting : ∀ i record line, s.waiting i = some (record, line) →
    json.dump (serialize record) = .ok line
  inside : ∀ c, s.inside = some c → json.dump (serialize c.record) = .ok c.line
  file : ∃ lines, List.Forall₂ (fun record line => json.dump (serialize record) = .ok line)
    s.acknowledged lines ∧ Written json s (content ++ Lines.unlines lines)
  closed : s.stream.isOpen = false → s.stream.failed = true
  failures : ∀ e ∈ s.returned, e.2.2 ≠ .ok → s.stream.failed = true
  order : s.returned.Pairwise fun e f => e.2.2 ≠ .ok → f.2.2 ≠ .ok

end Torn

theorem Critical.given_prefix {ι : Type} (c : Critical ι) :
    c.given <+: c.line ++ [newline] := by
  cases hstage : c.stage with
  | locked => simp [given, hstage]
  | wroteLine => simp [given, hstage]
  | wroteNewline => simp [given, hstage]
  | flushed => simp [given, hstage]

theorem okRecords_append {ι : Type} (returned : List (ι × AuditRecord × AuditAppendResult))
    (i : ι) (record : AuditRecord) (result : AuditAppendResult) :
    okRecords (returned ++ [(i, record, result)]) =
      okRecords returned ++ (if result = .ok then [record] else []) := by
  rw [okRecords, List.filterMap_append]
  by_cases h : result = .ok <;> simp [okRecords, h]

theorem serialize_not_thrown (json : Library Exception) (record : AuditRecord)
    {e : Exception} : json.dump (serialize record) ≠ .error e := by
  obtain ⟨line, hline, -⟩ := dump_serialize json record
  simp [hline]

theorem newline_notin_lines {json : Library Exception} {records : List AuditRecord}
    {lines : List Bytes}
    (h : List.Forall₂ (fun record line => json.dump (serialize record) = .ok line)
      records lines) : ∀ line ∈ lines, newline ∉ line := by
  induction h with
  | nil => exact List.forall_mem_nil _
  | cons hline _ ih => exact List.forall_mem_cons.mpr ⟨newline_notin_dump hline, ih⟩

section Writing
variable {ι : Type} {json : Library Exception} {s : Repository ι} {base : Bytes}

/-- While an append writes, good or not, the stream holds what it has given. -/
theorem written_of_holds {c : Critical ι} (hc : s.inside = some c) (hstage : c.stage ≠ .locked)
    (hline : json.dump (serialize c.record) = .ok c.line) (h : s.stream.Holds base c.given)
    (hflushed : c.stage = .flushed → s.stream.failed = false → s.stream.pending = []) :
    Written json s base := by
  cases hf : s.stream.failed with
  | false =>
    refine .good hf ?_ ?_
    · rw [hc]
      exact h
    · intro c' hc' hstage'
      cases hc.symm.trans hc'
      exact hflushed hstage' hf
  | true =>
    obtain ⟨torn, hfile, hgiven⟩ := h
    have htorn : torn <+: c.given := ⟨s.stream.pending, hgiven⟩
    exact .failed hf hfile (.inr ⟨c.record, c.line, hline, htorn.trans c.given_prefix,
      .inr ⟨c, hc, rfl, hstage⟩⟩)

/-- The invariant holds of a repository that has just been opened. -/
theorem invariant_opened (json : Library Exception) (opens : Bool) (content : Bytes) :
    Invariant json content ({ stream := .opened opens content } : Repository ι) where
  waiting i record line h := by cases h
  inside c h := by cases h
  file := by
    have hfile : content = content ++ Lines.unlines [] ++ [] := by simp [Lines.unlines]
    refine ⟨[], .nil, ?_⟩
    cases opens with
    | true => exact .good rfl ⟨[], hfile, rfl⟩ fun c hc => by cases hc
    | false => exact .failed rfl hfile (.inl rfl)
  closed h := by simpa [OFStream.opened] using h
  failures e he := by cases he
  order := .nil

theorem Written.torn (h : Written json s base)
    (hinside : ∀ c, s.inside = some c → json.dump (serialize c.record) = .ok c.line) :
    ∃ torn, s.stream.file = base ++ torn ∧ TornLine json s torn := by
  cases h with
  | @failed _ torn hfile htorn => exact ⟨torn, hfile, htorn⟩
  | good _ hholds =>
    obtain ⟨torn, hfile, hgiven⟩ := hholds
    refine ⟨torn, hfile, ?_⟩
    by_cases htorn : torn = []
    · exact .inl htorn
    · cases hc : s.inside with
      | none => simp [hc, htorn] at hgiven
      | some c =>
        rw [hc] at hgiven
        have hprefix : torn <+: c.given := ⟨s.stream.pending, hgiven⟩
        refine .inr ⟨c.record, c.line, hinside c hc, hprefix.trans c.given_prefix,
          .inr ⟨c, hc, rfl, fun hlocked => htorn ?_⟩⟩
        simpa [Critical.given, hlocked] using hprefix

end Writing

section Failed
variable {ι : Type} [DecidableEq ι] {json : Library Exception} {s s' : Repository ι}

/-- A failed stream is never written again. -/
theorem AppendStep.stream_of_failed (h : AppendStep json s s') (hf : s.stream.failed = true) :
    s'.stream = s.stream := by
  cases h with
  | writeLine _ _ _ reply => exact OFStream.insert_of_failed hf _ reply
  | writeNewline _ _ reply => exact OFStream.insert_of_failed hf _ reply
  | flush _ _ reply => exact OFStream.flush_of_failed hf reply
  | _ => rfl

theorem AppendStep.isOpen (h : AppendStep json s s') :
    s'.stream.isOpen = s.stream.isOpen := by
  cases h with
  | writeLine _ _ _ reply => exact OFStream.insert_isOpen _ _ reply
  | writeNewline _ _ reply => exact OFStream.insert_isOpen _ _ reply
  | flush _ _ reply => exact OFStream.flush_isOpen _ reply
  | _ => rfl

theorem AppendStep.acknowledged_of_failed (h : AppendStep json s s')
    (hf : s.stream.failed = true) : s'.acknowledged = s.acknowledged := by
  cases h with
  | serializeThrows =>
    exact (okRecords_append _ _ _ _).trans (List.append_nil _)
  | refuse => exact (okRecords_append _ _ _ _).trans (List.append_nil _)
  | unlock =>
    rw [if_pos hf]
    exact (okRecords_append _ _ _ _).trans (List.append_nil _)
  | _ => rfl

/-- An append that has begun to write on a failed stream stays one, or fails. -/
theorem AppendStep.unfinished_of_failed (h : AppendStep json s s')
    (hf : s.stream.failed = true) {record : AuditRecord} (hr : s.Unfinished record) :
    s'.Unfinished record := by
  obtain ⟨i, hi⟩ | ⟨c, hc, hrecord, hstage⟩ := hr
  · left
    cases h with
    | serializeThrows => exact ⟨i, List.mem_append_left _ hi⟩
    | refuse => exact ⟨i, List.mem_append_left _ hi⟩
    | unlock => exact ⟨i, List.mem_append_left _ hi⟩
    | _ => exact ⟨i, hi⟩
  · cases h with
    | serialize => exact .inr ⟨c, hc, hrecord, hstage⟩
    | serializeThrows => exact .inr ⟨c, hc, hrecord, hstage⟩
    | lock _ _ hfree =>
      rw [hfree] at hc
      cases hc
    | refuse hc' hlocked =>
      cases hc.symm.trans hc'
      exact absurd hlocked hstage
    | writeLine hc' hlocked =>
      cases hc.symm.trans hc'
      exact absurd hlocked hstage
    | writeNewline hc' =>
      cases hc.symm.trans hc'
      exact .inr ⟨_, rfl, hrecord, by simp⟩
    | flush hc' =>
      cases hc.symm.trans hc'
      exact .inr ⟨_, rfl, hrecord, by simp⟩
    | unlock hc' =>
      cases hc.symm.trans hc'
      refine .inl ⟨c.caller, List.mem_append_right _ ?_⟩
      rw [if_pos hf, hrecord]
      exact List.mem_singleton_self _

end Failed

section Runs
variable {ι : Type} [DecidableEq ι] {json : Library Exception} {s s' : Repository ι}
  {content : Bytes}

/-- A step on a good stream: what has been given stays held, and what is acknowledged is in
the file. -/
theorem Invariant.file_good (h : Invariant json content s) (hstep : AppendStep json s s')
    (hf : s.stream.failed = false) :
    ∃ lines, List.Forall₂ (fun record line => json.dump (serialize record) = .ok line)
      s'.acknowledged lines ∧ Written json s' (content ++ Lines.unlines lines) := by
  obtain ⟨lines, hlines, hwritten⟩ := h.file
  cases hwritten with
  | failed hbad => simp [hf] at hbad
  | good _ hholds hpending =>
    cases hstep with
    | serialize => exact ⟨lines, hlines, .good hf hholds hpending⟩
    | serializeThrows i record hthrows =>
      exact absurd hthrows (serialize_not_thrown json record)
    | lock _ _ hfree =>
      refine ⟨lines, hlines, .good hf ?_ ?_⟩
      · rw [hfree] at hholds
        exact hholds
      · intro c hc hflushed
        cases hc
        cases hflushed
    | refuse hc _ hclosed =>
      have hbad := h.closed hclosed
      simp [hf] at hbad
    | writeLine hc hstage hopen reply =>
      have hline := h.inside _ hc
      rw [hc] at hholds
      refine ⟨lines, hlines, written_of_holds rfl (by simp) hline ?_ (by simp)⟩
      have hheld := OFStream.holds_insert hf hholds
      simpa [Critical.given, hstage] using hheld _ reply
    | writeNewline hc hstage reply =>
      have hline := h.inside _ hc
      rw [hc] at hholds
      refine ⟨lines, hlines, written_of_holds rfl (by simp) hline ?_ (by simp)⟩
      have hheld := OFStream.holds_insert hf hholds [newline] reply
      simpa [Critical.given, hstage] using hheld
    | flush hc hstage reply =>
      have hline := h.inside _ hc
      rw [hc] at hholds
      refine ⟨lines, hlines, written_of_holds rfl (by simp) hline ?_ ?_⟩
      · have hheld := OFStream.holds_flush hf hholds reply
        simpa [Critical.given, hstage] using hheld
      · intro _ hgood
        exact (OFStream.flush_good hgood).2.1
    | @unlock c hc hstage =>
      rw [hc] at hholds
      have hempty := hpending _ hc hstage
      have hfile := hholds.settled hempty
      refine ⟨lines ++ [c.line], ?_, .good hf ⟨[], ?_, hempty⟩ ?_⟩
      · have hok : (s.leave c .ok).acknowledged = s.acknowledged ++ [c.record] :=
          okRecords_append _ _ _ _
        simp only [hf, Bool.false_eq_true, if_false, hok]
        exact List.rel_append hlines (.cons (h.inside c hc) .nil)
      · change s.stream.file = _
        rw [hfile]
        simp [Critical.given, hstage, Lines.unlines]
      · intro c' hc'
        cases hc'

/-- A step on a failed stream: the file stays as it is, and so does what is acknowledged. -/
theorem Invariant.file_failed (h : Invariant json content s) (hstep : AppendStep json s s')
    (hf : s.stream.failed = true) :
    ∃ lines, List.Forall₂ (fun record line => json.dump (serialize record) = .ok line)
      s'.acknowledged lines ∧ Written json s' (content ++ Lines.unlines lines) := by
  obtain ⟨lines, hlines, hwritten⟩ := h.file
  cases hwritten with
  | good hgood => simp [hf] at hgood
  | @failed _ torn hfile htorn =>
    have hstream := hstep.stream_of_failed hf
    have hfile' : s'.stream.file = content ++ Lines.unlines lines ++ torn := by
      rw [hstream, hfile]
    refine ⟨lines, ?_, .failed ?_ hfile' ?_⟩
    · rw [hstep.acknowledged_of_failed hf]
      exact hlines
    · rw [hstream, hf]
    · obtain rfl | ⟨record, line, hline, hprefix, hrecord⟩ := htorn
      · exact .inl rfl
      · exact .inr ⟨record, line, hline, hprefix, hstep.unfinished_of_failed hf hrecord⟩

/-- An append that returns on this step fails exactly when the stream has. -/
theorem Invariant.returned_step (h : Invariant json content s) (hstep : AppendStep json s s') :
    s'.returned = s.returned ∨ ∃ i record result,
      s'.returned = s.returned ++ [(i, record, result)] ∧
        (result ≠ .ok ↔ s.stream.failed = true) := by
  cases hstep with
  | serializeThrows i record hthrows =>
    exact absurd hthrows (serialize_not_thrown json record)
  | @refuse c _ _ hclosed =>
    exact .inr ⟨c.caller, c.record, _, rfl, by simp [h.closed hclosed]⟩
  | @unlock c => exact .inr ⟨c.caller, c.record, _, rfl, by simp⟩
  | _ => exact .inl rfl

theorem Invariant.step (h : Invariant json content s) (hstep : AppendStep json s s') :
    Invariant json content s' where
  waiting i record line hi := by
    cases hstep with
    | @serialize j record' line' hline =>
      by_cases hij : i = j
      · subst i
        simp only [Function.update_self, Option.some.injEq, Prod.mk.injEq] at hi
        obtain ⟨rfl, rfl⟩ := hi
        exact hline
      · exact h.waiting i record line (by simpa [hij] using hi)
    | lock j =>
      by_cases hij : i = j
      · subst i
        simp at hi
      · exact h.waiting i record line (by simpa [hij] using hi)
    | _ => exact h.waiting i record line hi
  inside c hc := by
    cases hstep with
    | serialize => exact h.inside c hc
    | serializeThrows => exact h.inside c hc
    | lock _ hwaiting =>
      cases hc
      exact h.waiting _ _ _ hwaiting
    | refuse => cases hc
    | unlock => cases hc
    | writeLine hc' =>
      have hline := h.inside _ hc'
      cases hc
      exact hline
    | writeNewline hc' =>
      have hline := h.inside _ hc'
      cases hc
      exact hline
    | flush hc' =>
      have hline := h.inside _ hc'
      cases hc
      exact hline
  file := by
    cases hf : s.stream.failed with
    | false => exact h.file_good hstep hf
    | true => exact h.file_failed hstep hf
  closed hclosed := by
    rw [hstep.isOpen] at hclosed
    have hf := h.closed hclosed
    rw [hstep.stream_of_failed hf, hf]
  failures e he hresult := by
    have hf : s.stream.failed = true := by
      obtain hsame | ⟨i, record, result, hreturned, hfailed⟩ := h.returned_step hstep
      · exact h.failures e (hsame ▸ he) hresult
      · rw [hreturned, List.mem_append, List.mem_singleton] at he
        obtain he | rfl := he
        · exact h.failures e he hresult
        · exact hfailed.mp hresult
    rw [hstep.stream_of_failed hf, hf]
  order := by
    obtain hsame | ⟨i, record, result, hreturned, hfailed⟩ := h.returned_step hstep
    · rw [hsame]
      exact h.order
    · rw [hreturned, List.pairwise_append]
      refine ⟨h.order, List.pairwise_singleton _ _, fun e he f hf hresult => ?_⟩
      rw [List.mem_singleton.mp hf]
      exact hfailed.mpr (h.failures e he hresult)

theorem Invariant.run (h : Invariant json content s) (hrun : AppendSteps json s s') :
    Invariant json content s' := by
  induction hrun with
  | refl => exact h
  | tail _ hstep ih => exact ih.step hstep

/-- Once the stream has failed, no run adds to the file or to what is acknowledged. -/
theorem AppendSteps.of_failed (hrun : AppendSteps json s s') (hf : s.stream.failed = true) :
    s'.stream = s.stream ∧ s'.acknowledged = s.acknowledged := by
  induction hrun with
  | refl => exact ⟨rfl, rfl⟩
  | tail _ hstep ih =>
    obtain ⟨hstream, hacknowledged⟩ := ih
    have hfailed := (congrArg OFStream.failed hstream).trans hf
    exact ⟨(hstep.stream_of_failed hfailed).trans hstream,
      (hstep.acknowledged_of_failed hfailed).trans hacknowledged⟩

end Runs

section Sequential
variable {ι : Type} {json : Library Exception} {start : OFStream}

theorem appendAll_append (appends : List (AuditRecord × AppendReplies)) (record : AuditRecord)
    (sink : AppendReplies) (start : OFStream) :
    appendAll json (appends ++ [(record, sink)]) start =
      ((appendAll json appends start).1 ++
          [(append json record sink (appendAll json appends start).2).1],
        (append json record sink (appendAll json appends start).2).2) := by
  induction appends generalizing start with
  | nil => rfl
  | cons entry appends ih => simp [appendAll, ih]

/-- What the holder of the lock has made of the stream it found. -/
def Critical.Wrote (c : Critical ι) (found now : OFStream) : Prop :=
  match c.stage with
  | .locked => now = found
  | .wroteLine => found.isOpen = true ∧ ∃ reply, now = found.insert c.line reply
  | .wroteNewline => found.isOpen = true ∧ ∃ reply reply',
      now = (found.insert c.line reply).insert [newline] reply'
  | .flushed => found.isOpen = true ∧ ∃ reply reply' reply'',
      now = ((found.insert c.line reply).insert [newline] reply').flush reply''

/-- The appends that have returned, made one after another, lead to what the one under way
found. -/
def Sequential (json : Library Exception) (start : OFStream) (s : Repository ι) : Prop :=
  ∃ appends found, appends.map Prod.fst = s.returned.map (fun e => e.2.1) ∧
    appendAll json appends start = (s.returned.map (fun e => e.2.2), found) ∧
    match s.inside with
    | none => s.stream = found
    | some c => c.Wrote found s.stream

/-- An append that returns is the last of the sequence. -/
theorem sequential_leave {s : Repository ι} {appends : List (AuditRecord × AppendReplies)}
    {found : OFStream} {c : Critical ι} {result : AuditAppendResult} (sink : AppendReplies)
    (hrecords : appends.map Prod.fst = s.returned.map (fun e => e.2.1))
    (hall : appendAll json appends start = (s.returned.map (fun e => e.2.2), found))
    (happend : append json c.record sink found = (result, s.stream)) :
    Sequential json start (s.leave c result) := by
  refine ⟨appends ++ [(c.record, sink)], s.stream, ?_, ?_, rfl⟩
  · simp [Repository.leave, hrecords]
  · rw [appendAll_append, hall, happend]
    simp [Repository.leave]

theorem Sequential.step [DecidableEq ι] {content : Bytes} {s s' : Repository ι}
    (h : Sequential json start s) (hinv : Invariant json content s)
    (hstep : AppendStep json s s') : Sequential json start s' := by
  obtain ⟨appends, found, hrecords, hall, hnow⟩ := h
  cases hstep with
  | serialize => exact ⟨appends, found, hrecords, hall, hnow⟩
  | serializeThrows i record hthrows => exact absurd hthrows (serialize_not_thrown json record)
  | lock _ _ hfree =>
    rw [hfree] at hnow
    exact ⟨appends, found, hrecords, hall, hnow⟩
  | refuse hc hstage hclosed =>
    have hline := hinv.inside _ hc
    simp only [hc, Critical.Wrote, hstage] at hnow
    rw [hnow] at hclosed
    refine sequential_leave ⟨⟨0, false⟩, ⟨0, false⟩, ⟨0, false⟩⟩ hrecords hall ?_
    simp [append, hline, hclosed, hnow]
  | writeLine hc hstage hopen reply =>
    simp only [hc, Critical.Wrote, hstage] at hnow
    rw [hnow] at hopen
    refine ⟨appends, found, hrecords, hall, hopen, reply, ?_⟩
    rw [hnow]
  | writeNewline hc hstage reply' =>
    simp only [hc, Critical.Wrote, hstage] at hnow
    obtain ⟨hopen, reply, hnow⟩ := hnow
    refine ⟨appends, found, hrecords, hall, hopen, reply, reply', ?_⟩
    rw [hnow]
  | flush hc hstage reply'' =>
    simp only [hc, Critical.Wrote, hstage] at hnow
    obtain ⟨hopen, reply, reply', hnow⟩ := hnow
    refine ⟨appends, found, hrecords, hall, hopen, reply, reply', reply'', ?_⟩
    rw [hnow]
  | unlock hc hstage =>
    have hline := hinv.inside _ hc
    simp only [hc, Critical.Wrote, hstage] at hnow
    obtain ⟨hopen, reply, reply', reply'', hnow⟩ := hnow
    refine sequential_leave ⟨reply, reply', reply''⟩ hrecords hall ?_
    simp only [append, hline, hopen, hnow, Bool.not_true, Bool.false_eq_true, if_false]
    split_ifs <;> rfl

theorem sequential_run [DecidableEq ι] {content : Bytes} {opens : Bool} {s : Repository ι}
    (hrun : AppendSteps json { stream := .opened opens content } s) :
    Sequential json (.opened opens content) s := by
  induction hrun with
  | refl => exact ⟨[], _, rfl, rfl, rfl⟩
  | tail hrun hstep ih => exact ih.step ((invariant_opened json opens content).run hrun) hstep

/-- The lock makes one sequence of the appends: between two of them, the answers and the
stream are those of the sequence. -/
theorem appends_sequential [DecidableEq ι] {content : Bytes} {opens : Bool}
    {s : Repository ι} (hrun : AppendSteps json { stream := .opened opens content } s)
    (hfree : s.inside = none) :
    ∃ appends, appends.map Prod.fst = s.returned.map (fun e => e.2.1) ∧
      appendAll json appends (.opened opens content) =
        (s.returned.map (fun e => e.2.2), s.stream) := by
  obtain ⟨appends, found, hrecords, hall, hnow⟩ := sequential_run hrun
  rw [hfree] at hnow
  rw [← hnow] at hall
  exact ⟨appends, hrecords, hall⟩

/-- A repository after one whole append of caller `i`. -/
def Repository.appended (json : Library Exception) (i : ι) (record : AuditRecord)
    (sink : AppendReplies) (s : Repository ι) : Repository ι :=
  let (result, stream) := append json record sink s.stream
  { s with stream := stream, returned := s.returned ++ [(i, record, result)] }

/-- And each of the sequence can be made: a free repository takes an append from its first
step to its last. -/
theorem append_run [DecidableEq ι] (s : Repository ι) {i : ι} (hidle : s.waiting i = none)
    (hfree : s.inside = none) (record : AuditRecord) (sink : AppendReplies) :
    AppendSteps json s (s.appended json i record sink) := by
  obtain ⟨line, hline, -⟩ := dump_serialize json record
  obtain ⟨stream, waiting, inside, returned⟩ := s
  cases hfree
  have hwaiting : Function.update (Function.update waiting i (some (record, line))) i none =
      waiting := by
    rw [Function.update_idem, ← hidle, Function.update_eq_self]
  have hlocked : AppendSteps json ⟨stream, waiting, none, returned⟩
      ⟨stream, waiting, some ⟨i, record, line, .locked⟩, returned⟩ := by
    have hlock : AppendStep json
        ⟨stream, Function.update waiting i (some (record, line)), none, returned⟩
        ⟨stream, Function.update (Function.update waiting i (some (record, line))) i none,
          some ⟨i, record, line, .locked⟩, returned⟩ :=
      .lock i (Function.update_self i _ _) rfl
    rw [hwaiting] at hlock
    exact .tail (.single (.serialize i record hline hidle)) hlock
  cases hopen : stream.isOpen with
  | false =>
    have hrefuse := hlocked.tail (.refuse rfl rfl hopen)
    simp only [Repository.appended, append, hline, hopen, Bool.not_false, if_true]
    exact hrefuse
  | true =>
    have hwrite := hlocked.tail (.writeLine rfl rfl hopen sink.line)
    have hnewline := hwrite.tail (.writeNewline rfl rfl sink.newline)
    have hflush := hnewline.tail (.flush rfl rfl sink.flush)
    have hunlock := hflush.tail (.unlock rfl rfl)
    simp only [Repository.appended, append, hline, hopen, Bool.not_true, Bool.false_eq_true,
      if_false]
    split_ifs with hfailed
    · simp only [Repository.leave, hfailed, if_true] at hunlock
      exact hunlock
    · simp only [Repository.leave, hfailed, Bool.false_eq_true, if_false] at hunlock
      exact hunlock

end Sequential
/-- Nothing an append does, failing or not, harms the line of one that has answered `Ok`:
the file is what it was, these lines in order, and a first part of at most one more. After a
failure no append answers `Ok`, and the file is not written again. -/
theorem acknowledged_lines_kept {ι : Type} [DecidableEq ι] (json : Library Exception)
    (opens : Bool) (content : Bytes) (hcontent : Lines.Complete content) {s : Repository ι}
    (hrun : AppendSteps json { stream := .opened opens content } s) :
    FileKept json content s ∧
    s.returned.Pairwise (fun e f => e.2.2 ≠ .ok → f.2.2 ≠ .ok) ∧
    (s.stream.failed = true → ∀ s', AppendSteps json s s' →
      s'.acknowledged = s.acknowledged ∧ s'.stream.file = s.stream.file) := by
  have hinv : Invariant json content s := (invariant_opened json opens content).run hrun
  obtain ⟨lines, hlines, hwritten⟩ := hinv.file
  obtain ⟨torn, hfile, htorn⟩ := hwritten.torn hinv.inside
  have hcomplete : Lines.Complete (content ++ Lines.unlines lines) :=
    Lines.complete_append hcontent (Lines.complete_unlines lines)
  refine ⟨⟨lines, torn, hlines, hfile, ?_, htorn⟩, hinv.order, fun hf s' hrest => ?_⟩
  · rw [hfile, Lines.linesOf_append torn hcomplete, Lines.linesOf_append _ hcontent,
      Lines.linesOf_unlines (newline_notin_lines hlines)]
  · obtain ⟨hstream, hacknowledged⟩ := hrest.of_failed hf
    exact ⟨hacknowledged, congrArg OFStream.file hstream⟩

/-- A sink that takes what it is given at the flush. -/
def firstAppend : Repository (Fin 2) :=
  let whole : SinkReply := { stored := 0 }
  let read := AuditRecord.construct 0 1 (.success ⟨.select, 2, 1, {}⟩) [ascii "customers"] rfl
  Repository.appended (Compact.library .foreign) 0 read ⟨whole, whole, whole⟩
    { stream := .opened true [] }

/-- Then another caller, and a sink that is full after nine bytes. -/
def secondAppend : Repository (Fin 2) :=
  let whole : SinkReply := { stored := 0 }
  let full : SinkReply := { stored := 9, fails := true }
  firstAppend.appended (Compact.library .foreign) 1 (.internalFailure 0 2) ⟨whole, whole, full⟩

example : secondAppend.returned.map (fun e => e.2.2) = [.ok, .writeFailure] ∧
    secondAppend.stream.file.length = firstAppend.stream.file.length + 9 := by decide +kernel

theorem secondAppend_run : AppendSteps (Compact.library .foreign)
    { stream := .opened true [] } secondAppend := by
  have hfirst : AppendSteps (Compact.library .foreign) { stream := .opened true [] }
      firstAppend := by
    unfold firstAppend
    exact append_run _ rfl rfl _ _
  have hsecond : AppendSteps (Compact.library .foreign) firstAppend secondAppend := by
    unfold secondAppend
    exact append_run _ rfl rfl _ _
  exact hfirst.trans hsecond

theorem acknowledged_lines_kept_two :
    FileKept (Compact.library .foreign) [] secondAppend ∧
    secondAppend.returned.Pairwise (fun e f => e.2.2 ≠ .ok → f.2.2 ≠ .ok) ∧
    (secondAppend.stream.failed = true →
      ∀ s', AppendSteps (Compact.library .foreign) secondAppend s' →
        s'.acknowledged = secondAppend.acknowledged ∧
          s'.stream.file = secondAppend.stream.file) :=
  acknowledged_lines_kept (Compact.library .foreign) true [] (.inl rfl) secondAppend_run

end JsonlAuditRepository
end SqlProxy
