import SqlProxy.AuditCodec
import SqlProxy.AuditTrail
import SqlProxy.Base.JsonPrefix

/-! Reading the audit file back, whatever the sink and the clients have done to it. -/
namespace SqlProxy
open ByteText CallProgram Json Monitor

/-- The records that an auditor reads from a file. What is no record is passed over. -/
def recover (json : Library Exception) (file : Bytes) : List AuditRecord :=
  (Lines.linesOf file).filterMap (decodeLine json)

section Recover
variable {json : Library Exception} {record : AuditRecord} {line torn : Bytes}

theorem recover_append {front : Bytes} (h : Lines.Complete front) (back : Bytes) :
    recover json (front ++ back) = recover json front ++ recover json back := by
  rw [recover, Lines.linesOf_append back h, List.filterMap_append]
  rfl

theorem recover_unlines {records : List AuditRecord} {lines : List Bytes}
    (h : List.Forall₂ (fun record line => json.dump (serialize record) = .ok line) records lines)
    (htime : ∀ record ∈ records, 0 ≤ record.timestampMs) :
    recover json (Lines.unlines lines) = records := by
  rw [recover, Lines.linesOf_unlines (JsonlAuditRepository.newline_notin_lines h)]
  induction h with
  | nil => rfl
  | cons hline _ ih =>
    obtain ⟨hfirst, hrest⟩ := List.forall_mem_cons.mp htime
    rw [List.filterMap_cons, decodeLine_dump hfirst hline, ih hrest]

/-- A torn line reads as its record, if only the newline is missing, and as nothing else. -/
theorem recover_torn (hjson : json.SelfDelimiting) (htime : 0 ≤ record.timestampMs)
    (hline : json.dump (serialize record) = .ok line) (htorn : torn <+: line ++ [newline]) :
    recover json torn = [] ∨ recover json torn = [record] := by
  have hdecode := decodeLine_dump htime hline
  have hnewline := newline_notin_dump hline
  by_cases hwhole : torn = line ++ [newline]
  · right
    rw [hwhole, recover, Lines.linesOf_line hnewline []]
    simp [Lines.linesOf, hdecode]
  · have hfront : torn <+: line := (List.prefix_concat_iff.mp htorn).resolve_left hwhole
    by_cases hempty : torn = []
    · left
      rw [hempty]
      rfl
    · have honly : Lines.linesOf torn = [torn] :=
        Lines.linesOf_unterminated (fun hmem => hnewline (hfront.subset hmem)) hempty
      by_cases hsame : torn = line
      · right
        rw [recover, honly, hsame]
        simp [hdecode]
      · left
        have hnone : json.parse torn = none :=
          hjson _ line torn (serialize_canonical record) hline hfront hsame
        rw [recover, honly]
        simp [decodeLine, hnone]

end Recover

namespace Deployment

/-- What holds of the records of every client holds of those that were given. -/
theorem forall_given {δ ι : Type} [DecidableEq ι] {w : Wiring δ} {init : Stack δ} {s : Server ι δ}
    {served : List (ServedRequest ι)} {es : List ServiceEvent} {P : AuditRecord → Prop}
    (hhistory : History (Answers w) (serve w.json) init s served es)
    (h : ∀ i, ∀ e ∈ appends (s.clients i).events, P e.1) :
    ∀ e ∈ appends (served.flatMap Served.events ++ es), P e.1 := by
  intro e he
  obtain ⟨i, hi⟩ := hhistory.exists_client (mem_appends.mp he)
  exact h i e (mem_appends.mpr hi)

/-- Whatever has happened to the file, it reads back as the records of the requests that were
acknowledged, and at most the first of those that were lost. -/
theorem audit_recovered {δ ι : Type} [DecidableEq ι] (w : Wiring δ)
    (hjson : w.json.SelfDelimiting) (opens : Bool) (content : Bytes)
    (hcontent : Lines.Complete content) (data : δ) (s : Server ι δ)
    (h : Reachable w (.opened opens content data) s)
    (htime : ∀ i, ∀ e ∈ appends (s.clients i).events, 0 ≤ e.1.timestampMs) :
    ∃ served es records lost,
      History (Answers w) (serve w.json) (.opened opens content data) s served es ∧
      Audited w content s (served.flatMap Served.events ++ es) records lost ∧
      (recover w.json s.state.audit.file = recover w.json content ++ records ∨
        ∃ e ∈ lost.head?,
          recover w.json s.state.audit.file = recover w.json content ++ records ++ [e.1]) := by
  obtain ⟨served, es, records, lost, hhistory, htrail⟩ := trail_of_reachable h
  obtain ⟨lines, torn, hlines, hfile, htorn⟩ := htrail.file
  refine ⟨served, es, records, lost, hhistory, htrail.audited hcontent hhistory, ?_⟩
  have hgiven := forall_given (P := fun record => 0 ≤ record.timestampMs) hhistory htime
  rw [htrail.appended, List.forall_mem_append, List.forall_mem_map] at hgiven
  obtain ⟨hrecorded, hlost⟩ := hgiven
  have hcomplete : Lines.Complete (content ++ Lines.unlines lines) :=
    Lines.complete_append hcontent (Lines.complete_unlines lines)
  have hrecords := recover_unlines hlines hrecorded
  rw [hfile, recover_append hcomplete, recover_append hcontent, hrecords]
  obtain rfl | ⟨e, he, line, hline, hfront⟩ := htorn
  · left
    exact List.append_nil _
  · have htorn := recover_torn hjson (hlost e (List.mem_of_mem_head? he)) hline hfront
    cases htorn with
    | inl hnone =>
      left
      rw [hnone, List.append_nil]
    | inr hone =>
      right
      exact ⟨e, he, by rw [hone]⟩

theorem audit_recovered_orders :
    ∃ s, InTurn fullSink s ∧ ∃ served es records lost,
      History (Answers shop) (serve shop.json) (.opened true [] 0) s served es ∧
      Audited shop [] s (served.flatMap Served.events ++ es) records lost ∧
      (recover shop.json s.state.audit.file = recover shop.json [] ++ records ∨
        ∃ e ∈ lost.head?,
          recover shop.json s.state.audit.file = recover shop.json [] ++ records ++ [e.1]) := by
  obtain ⟨s, hs⟩ := exists_inTurn fullSink
  have htime : ∀ i, ∀ e ∈ appends (s.clients i).events, 0 ≤ e.1.timestampMs := by
    intro i e he
    obtain ⟨rest, hholds⟩ := hs.holds
    by_cases hfirst : i = 0
    · rw [hfirst, hs.waits] at he
      simp only [Client.events, List.flatMap_singleton, Option.elim_some, List.append_nil,
        Environment.appends_events, List.mem_singleton] at he
      rw [he, (Environment.processing_outcome _ _).timestampMs]
      exact Int.le_refl 0
    · by_cases hsecond : i = 1
      · rw [hsecond, hholds] at he
        cases he
      · rw [hs.others i hfirst hsecond] at he
        cases he
  exact ⟨s, hs, audit_recovered shop (Compact.selfDelimiting _) true [] (.inl rfl) 0 s
    hs.reachable htime⟩

end Deployment
end SqlProxy
