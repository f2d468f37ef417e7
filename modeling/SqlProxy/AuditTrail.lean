import SqlProxy.ServedRequests

/-! The audit file of a deployed service, under any number of clients and with a sink that may
fail at every operation. -/
namespace SqlProxy
open ByteText CallProgram Json Monitor Routes

namespace OFStream
variable {stream : OFStream} {base given : Bytes}

/-- A stream that has failed takes nothing more. -/
theorem holds_insert_any (h : stream.Holds base given) (bytes : Bytes) (reply : SinkReply) :
    (stream.insert bytes reply).Holds base (if stream.failed then given else given ++ bytes) := by
  cases hf : stream.failed with
  | true =>
    rw [insert_of_failed hf]
    exact h
  | false => exact holds_insert hf h bytes reply

theorem holds_flush_any (h : stream.Holds base given) (reply : SinkReply) :
    (stream.flush reply).Holds base given := by
  cases hf : stream.failed with
  | true =>
    rw [flush_of_failed hf]
    exact h
  | false => exact holds_flush hf h reply

end OFStream

namespace JsonlAuditRepository
variable {json : Library Exception} {record : AuditRecord} {line : Bytes} {sink : AppendReplies}
  {stream : OFStream}

/-- Whatever becomes of an append, the file grows by a first part of the record's line. -/
theorem append_grows (sink : AppendReplies) (hline : json.dump (serialize record) = .ok line)
    (hpending : stream.pending = []) :
    ∃ torn, (append json record sink stream).2.file = stream.file ++ torn ∧
      torn <+: line ++ [newline] := by
  have hnone : ∃ torn, stream.file = stream.file ++ torn ∧ torn <+: line ++ [newline] :=
    ⟨[], (List.append_nil _).symm, List.nil_prefix⟩
  have hholds : stream.Holds stream.file [] := ⟨[], (List.append_nil _).symm, hpending⟩
  have hflushed := OFStream.holds_flush_any (OFStream.holds_insert_any
    (OFStream.holds_insert_any hholds line sink.line) [newline] sink.newline) sink.flush
  obtain ⟨torn, hfile, hgiven⟩ := hflushed
  have hprefix : torn <+: line ++ [newline] := by
    refine List.IsPrefix.trans ⟨_, hgiven⟩ ?_
    split_ifs with hinserted hf hf
    · exact List.nil_prefix
    · exact List.prefix_append _ _
    · have hgood := (OFStream.insert_good (Bool.eq_false_iff.mpr hinserted)).1
      rw [hf] at hgood
      cases hgood
    · exact List.prefix_refl _
  simp only [append, hline]
  split_ifs
  · exact hnone
  · exact ⟨torn, hfile, hprefix⟩
  · exact ⟨torn, hfile, hprefix⟩

/-- An append that does not answer `Ok` leaves a stream that has failed. -/
theorem append_failed (hclosed : stream.isOpen = false → stream.failed = true)
    (h : (append json record sink stream).1 ≠ .ok) :
    (append json record sink stream).2.failed = true := by
  obtain ⟨line, hline, -⟩ := dump_serialize json record
  simp only [append, hline] at h ⊢
  split_ifs at h ⊢ with hopen hfailed
  · exact hclosed (by simpa using hopen)
  · exact hfailed
  · exact absurd rfl h

theorem append_good (h : (append json record sink stream).1 = .ok) :
    stream.failed = false ∧ (append json record sink stream).2.failed = false := by
  obtain ⟨line, hline, -⟩ := dump_serialize json record
  simp only [append, hline] at h ⊢
  split_ifs at h ⊢ with hopen hfailed
  have hgood := Bool.eq_false_iff.mpr hfailed
  obtain ⟨hnewline, -⟩ := OFStream.flush_good hgood
  exact ⟨(OFStream.insert_good (OFStream.insert_good hnewline).1).1, hgood⟩

theorem append_isOpen : (append json record sink stream).2.isOpen = stream.isOpen := by
  obtain ⟨line, hline, -⟩ := dump_serialize json record
  simp only [append, hline]
  split_ifs
  · rfl
  · simp
  · simp

/-- On a stream that has failed an append changes nothing, and does not answer `Ok`. -/
theorem append_of_failed (json : Library Exception) (record : AuditRecord) (sink : AppendReplies)
    (hf : stream.failed = true) :
    (append json record sink stream).1 ≠ .ok ∧ (append json record sink stream).2 = stream := by
  obtain ⟨line, hline, -⟩ := dump_serialize json record
  have hsame : ((stream.insert line sink.line).insert [newline] sink.newline).flush sink.flush =
      stream := by
    rw [OFStream.insert_of_failed hf, OFStream.insert_of_failed hf, OFStream.flush_of_failed hf]
  have hopen : AuditAppendResult.openFailure ≠ .ok := by simp
  have hwrite : AuditAppendResult.writeFailure ≠ .ok := by simp
  simp only [append, hline, hsame, hf, if_true]
  split_ifs
  · exact ⟨hopen, rfl⟩
  · exact ⟨hwrite, rfl⟩

end JsonlAuditRepository

namespace Deployment
variable {δ : Type} {w : Wiring δ} {content : Bytes} {s s' : Stack δ} {es fs : List ServiceEvent}

/-- The records that were given to the repository and not acknowledged. -/
abbrev Lost := List (AuditRecord × Except Exception AuditAppendResult)

/-- What stands behind the acknowledged lines: nothing, or a first part of the line of the first
record that was lost. -/
def Remains (json : Library Exception) (lost : Lost) (torn : Bytes) : Prop :=
  torn = [] ∨ ∃ e ∈ lost.head?, ∃ line, json.dump (serialize e.1) = .ok line ∧
    torn <+: line ++ [newline]

/-- What the appends among `es` have made of the file: first come the records that were
acknowledged, each on a line of its own. -/
structure Trail (json : Library Exception) (content : Bytes) (stream : OFStream)
    (es : List ServiceEvent) (records : List AuditRecord) (lost : Lost) : Prop where
  appended : appends es = records.map (fun record => (record, .ok .ok)) ++ lost
  refused : ∀ e ∈ lost, e.2 ≠ .ok .ok
  file : ∃ lines torn,
    List.Forall₂ (fun record line => json.dump (serialize record) = .ok line) records lines ∧
    stream.file = content ++ Lines.unlines lines ++ torn ∧ Remains json lost torn
  good : stream.failed = false → lost = [] ∧ stream.pending = []
  closed : stream.isOpen = false → stream.failed = true

/-- The records among `es` that were acknowledged. -/
def acknowledged (es : List ServiceEvent) : List AuditRecord :=
  (appends es).filterMap fun
    | (record, .ok .ok) => some record
    | _ => none

@[simp] theorem acknowledged_append (es fs : List ServiceEvent) :
    acknowledged (es ++ fs) = acknowledged es ++ acknowledged fs := by
  simp [acknowledged]

theorem acknowledged_flatMap {β : Type} (l : List β) (f : β → List ServiceEvent) :
    acknowledged (l.flatMap f) = l.flatMap fun x => acknowledged (f x) := by
  rw [acknowledged, appends, List.filterMap_flatMap, List.filterMap_flatMap]
  rfl

theorem Trail.acknowledged_eq {json : Library Exception} {stream : OFStream}
    {records : List AuditRecord} {lost : Lost} (h : Trail json content stream es records lost) :
    acknowledged es = records := by
  have hrecords (records : List AuditRecord) :
      (records.map fun record => (record, (.ok .ok : Except Exception AuditAppendResult))).filterMap
        (fun | (record, .ok .ok) => some record | _ => none) = records := by
    induction records with
    | nil => rfl
    | cons record records ih => exact congrArg (List.cons record) ih
  have hlost : (lost.filterMap fun | (record, .ok .ok) => some record | _ => none) = [] := by
    refine List.filterMap_eq_nil_iff.mpr fun e he => ?_
    have hrefused := h.refused e he
    obtain ⟨record, reply⟩ := e
    split
    · next heq =>
      cases heq
      exact absurd rfl hrefused
    · rfl
  rw [acknowledged, h.appended, List.filterMap_append, hrecords, hlost, List.append_nil]

theorem trail_opened (json : Library Exception) (opens : Bool) (content : Bytes) :
    Trail json content (.opened opens content) [] [] [] where
  appended := rfl
  refused := List.forall_mem_nil _
  file := ⟨[], [], .nil, by simp [OFStream.opened, Lines.unlines], .inl rfl⟩
  good _ := ⟨rfl, rfl⟩
  closed h := by simpa [OFStream.opened] using h

theorem Remains.append {json : Library Exception} {lost : Lost} {torn : Bytes}
    (h : Remains json lost torn) (more : Lost) : Remains json (lost ++ more) torn := by
  obtain h | ⟨e, he, h⟩ := h
  · exact .inl h
  · refine .inr ⟨e, ?_, h⟩
    rw [List.head?_append, Option.mem_def.mp he]
    rfl

theorem remains_nil {json : Library Exception} {torn : Bytes} :
    Remains json [] torn ↔ torn = [] := by
  simp [Remains]

section Append
open JsonlAuditRepository
variable {json : Library Exception} {stream : OFStream} {records : List AuditRecord} {lost : Lost}

/-- One append more. -/
theorem Trail.snoc (h : Trail json content stream es records lost) (record : AuditRecord)
    (sink : AppendReplies) :
    ∃ records' lost', Trail json content (append json record sink stream).2
      (es ++ [⟨.append record, .ok (append json record sink stream).1⟩]) records' lost' := by
  obtain ⟨line, hline, -⟩ := dump_serialize json record
  obtain ⟨lines, torn, hlines, hfile, htorn⟩ := h.file
  cases hf : stream.failed with
  | true =>
    obtain ⟨hresult, hsame⟩ := append_of_failed json record sink hf
    refine ⟨records, lost ++ [(record, .ok (append json record sink stream).1)], ?_, ?_, ?_, ?_, ?_⟩
    · rw [appends_append, h.appended, List.append_assoc]
      rfl
    · refine List.forall_mem_append.mpr ⟨h.refused, List.forall_mem_singleton.mpr ?_⟩
      exact fun hok => hresult (Except.ok.inj hok)
    · rw [hsame]
      exact ⟨lines, torn, hlines, hfile, htorn.append _⟩
    · rw [hsame]
      intro hgood
      rw [hf] at hgood
      cases hgood
    · rw [hsame]
      exact h.closed
  | false =>
    obtain ⟨rfl, hpending⟩ := h.good hf
    rw [remains_nil] at htorn
    subst htorn
    rw [List.append_nil] at hfile
    by_cases hresult : (append json record sink stream).1 = .ok
    · obtain ⟨hempty, hgrown⟩ := append_ok hline hpending hresult
      obtain ⟨-, hgood⟩ := append_good hresult
      refine ⟨records ++ [record], [], ?_, List.forall_mem_nil _, ?_, fun _ => ⟨rfl, hempty⟩, ?_⟩
      · rw [appends_append, h.appended, hresult]
        simp [appends]
      · refine ⟨lines ++ [line], [], List.rel_append hlines (.cons hline .nil), ?_, .inl rfl⟩
        rw [hgrown, hfile]
        simp [Lines.unlines]
      · rw [append_isOpen]
        intro hclosed
        rw [h.closed hclosed] at hf
        cases hf
    · have hfailed := append_failed h.closed hresult
      obtain ⟨torn, hgrown, hprefix⟩ := append_grows sink hline hpending
      refine ⟨records, [(record, .ok (append json record sink stream).1)], ?_, ?_, ?_, ?_, ?_⟩
      · rw [appends_append, h.appended, List.append_nil]
        rfl
      · exact List.forall_mem_singleton.mpr fun hok => hresult (Except.ok.inj hok)
      · refine ⟨lines, torn, hlines, ?_, .inr ⟨_, rfl, line, hline, hprefix⟩⟩
        rw [hgrown, hfile]
      · intro hgood
        rw [hfailed] at hgood
        cases hgood
      · exact fun _ => hfailed

end Append

/-- The trail of a run, whatever else is called in between. -/
theorem Trail.run {records : List AuditRecord} {lost : Lost}
    (h : Trail w.json content s.audit es records lost) (hrun : Run (Answers w) s fs s') :
    ∃ records' lost', Trail w.json content s'.audit (es ++ fs) records' lost' := by
  induction hrun generalizing es records lost with
  | nil s =>
    rw [List.append_nil]
    exact ⟨records, lost, h⟩
  | @cons s s₁ s₂ c r fs hc _ ih =>
    have hone : ∃ records' lost',
        Trail w.json content s₁.audit (es ++ [⟨c, r⟩]) records' lost' := by
      cases hc with
      | append record sink => exact h.snoc record sink
      | _ => exact ⟨records, lost, { h with appended := by simpa [appends] using h.appended }⟩
    obtain ⟨records', lost', hone⟩ := hone
    obtain ⟨records'', lost'', hrest⟩ := ih hone
    rw [List.append_assoc] at hrest
    exact ⟨records'', lost'', hrest⟩

/-- The trail of all that has been called since the start. -/
theorem trail_of_run {opens : Bool} {data : δ}
    (hrun : Run (Answers w) (.opened opens content data) es s) :
    ∃ records lost, Trail w.json content s.audit es records lost :=
  (trail_opened w.json opens content).run hrun

/-- What has reached the repository and what it has made of it, in any state of a server. -/
theorem trail_of_reachable {ι : Type} [DecidableEq ι] {opens : Bool} {data : δ} {s : Server ι δ}
    (h : Reachable w (.opened opens content data) s) :
    ∃ served es records lost,
      History (Answers w) (serve w.json) (.opened opens content data) s served es ∧
      Trail w.json content s.state.audit (served.flatMap Served.events ++ es) records lost := by
  obtain ⟨served, es, hhistory, -⟩ := history_of_reachable (serve_sectioned w) h
  obtain ⟨records, lost, htrail⟩ := trail_of_run hhistory.run
  exact ⟨served, es, records, lost, hhistory, htrail⟩

/-- The records of one client that were acknowledged are among all of these, in its order. -/
theorem Trail.client {ι : Type} [DecidableEq ι] {init : Stack δ} {s : Server ι δ}
    {served : List (ServedRequest ι)} {records : List AuditRecord} {lost : Lost}
    (h : Trail w.json content s.state.audit (served.flatMap Served.events ++ es) records lost)
    (hhistory : History (Answers w) (serve w.json) init s served es) (i : ι) :
    ((s.clients i).completed.flatMap fun done => acknowledged done.events).Sublist records := by
  have hall := h.acknowledged_eq
  rw [acknowledged_append, acknowledged_flatMap] at hall
  have hfront : (served.flatMap fun e => acknowledged e.events).Sublist records := by
    rw [← hall]
    exact List.sublist_append_left _ _
  exact (hhistory.sublist rfl i).trans hfront

/-- The audit trail of the calls `es` of a server. The records given to the repository are numbered
from one without a gap. Those that were acknowledged come first, and the file is what it was, a
line for each of them, and at most a first part of the next one. Each client finds those of its
own there in its own order, among them a success for each time it was answered 200. -/
structure Audited {ι : Type} (w : Wiring δ) (content : Bytes) (s : Server ι δ)
    (es : List ServiceEvent) (records : List AuditRecord) (lost : Lost) : Prop where
  given : appends es = records.map (fun record => (record, .ok .ok)) ++ lost
  refused : ∀ e ∈ lost, e.2 ≠ .ok .ok
  numbered : recordIds es = List.iterate (· + 1) 1 (recordIds es).length
  file : ∃ lines torn,
    List.Forall₂ (fun record line => w.json.dump (serialize record) = .ok line) records lines ∧
    s.state.audit.file = content ++ Lines.unlines lines ++ torn ∧
    Lines.linesOf s.state.audit.file = Lines.linesOf content ++ lines ++ Lines.linesOf torn ∧
    Remains w.json lost torn
  clients : ∀ i,
    ((s.clients i).completed.flatMap fun done => acknowledged done.events).Sublist records
  successes : ∀ i, ∀ done ∈ (s.clients i).completed, ∀ request response,
    done.job = .query request → done.result = .ok response → response.status = 200 →
    ∃ record, acknowledged done.events = [record] ∧ record.outcome = .success

theorem Trail.audited {ι : Type} [DecidableEq ι] {opens : Bool} {data : δ} {s : Server ι δ}
    {served : List (ServedRequest ι)} {records : List AuditRecord} {lost : Lost}
    (h : Trail w.json content s.state.audit (served.flatMap Served.events ++ es) records lost)
    (hcontent : Lines.Complete content)
    (hhistory : History (Answers w) (serve w.json) (.opened opens content data) s served es) :
    Audited w content s (served.flatMap Served.events ++ es) records lost where
  given := h.appended
  refused := h.refused
  numbered := recordIds_history (numbers_answers w) (serve_callsHandle w) hhistory
  file := by
    obtain ⟨lines, torn, hlines, hfile, htorn⟩ := h.file
    have hcomplete : Lines.Complete (content ++ Lines.unlines lines) :=
      Lines.complete_append hcontent (Lines.complete_unlines lines)
    refine ⟨lines, torn, hlines, hfile, ?_, htorn⟩
    rw [hfile, Lines.linesOf_append torn hcomplete, Lines.linesOf_append _ hcontent,
      Lines.linesOf_unlines (JsonlAuditRepository.newline_notin_lines hlines)]
  clients := h.client hhistory
  successes := by
    intro i done hdone request response hjob hresult hstatus
    obtain ⟨s₁, s₂, hwhole, hmade⟩ := hhistory.completed_run hdone
    rw [hjob, hresult] at hwhole
    obtain ⟨env, sql, a, r, record, result, hevents, -, hsucceeded, -⟩ :=
      success_of_ok hwhole (granted_of_run hmade) hstatus
    refine ⟨record, ?_, hsucceeded.success⟩
    rw [acknowledged, ← hevents, hsucceeded.appended]
    rfl

/-- In every state that a server reaches, the file tells of the records that its requests have
given to the repository, in the order in which these were served. -/
theorem audit_trail {ι : Type} [DecidableEq ι] (w : Wiring δ) (opens : Bool) (content : Bytes)
    (hcontent : Lines.Complete content) (data : δ) (s : Server ι δ)
    (h : Reachable w (.opened opens content data) s) :
    ∃ served es records lost,
      History (Answers w) (serve w.json) (.opened opens content data) s served es ∧
      Audited w content s (served.flatMap Served.events ++ es) records lost := by
  obtain ⟨served, es, records, lost, hhistory, htrail⟩ := trail_of_reachable h
  exact ⟨served, es, records, lost, hhistory, htrail.audited hcontent hhistory⟩

theorem audit_trail_orders :
    ∃ s, InTurn wholeSink s ∧ ∃ served es records lost,
      History (Answers shop) (serve shop.json) (.opened true [] 0) s served es ∧
      Audited shop [] s (served.flatMap Served.events ++ es) records lost := by
  obtain ⟨s, hs⟩ := exists_inTurn wholeSink
  exact ⟨s, hs, audit_trail shop true [] (.inl rfl) 0 s hs.reachable⟩

/-- An answer that is no acknowledgement of a record. -/
def Refused : (c : Call) → Except Exception c.Reply → Prop
  | .append _, r => r ≠ .ok .ok
  | _, _ => True

/-- A failed stream is left as it is by every call, and acknowledges nothing. -/
theorem refused_of_failed {c : Call} {r : Except Exception c.Reply} (hf : s.audit.failed = true)
    (h : Answers w s c r s') : Refused c r ∧ s'.audit = s.audit := by
  cases h with
  | append record sink =>
    obtain ⟨hresult, hsame⟩ := JsonlAuditRepository.append_of_failed w.json record sink hf
    exact ⟨fun hok => hresult (Except.ok.inj hok), hsame⟩
  | _ => exact ⟨trivial, rfl⟩

/-- Once a record was lost, no query that is sent later is answered 200, whoever sends it, and
the file stays as it is. -/
theorem refuses_after_loss {ι : Type} [DecidableEq ι] (w : Wiring δ) (opens : Bool)
    (content : Bytes) (data : δ) (s s' : Server ι δ)
    (h : Reachable w (.opened opens content data) s)
    (hlost : ∃ i, ∃ done ∈ (s.clients i).completed, ∃ e ∈ appends done.events, e.2 ≠ .ok .ok)
    (hsteps : Steps mutexUse (Answers w) (serve w.json) s s') :
    s'.state.audit = s.state.audit ∧
      ∀ i, (s.clients i).running = none →
        ∃ new, (s'.clients i).completed = (s.clients i).completed ++ new ∧
          ∀ done ∈ new, ∀ request response, done.job = .query request →
            done.result = .ok response → response.status ≠ 200 := by
  obtain ⟨served, es, records, lost, hhistory, htrail⟩ := trail_of_reachable h
  have hfailed : s.state.audit.failed = true := by
    obtain ⟨i, done, hdone, ⟨record, reply⟩, he, hrefused⟩ := hlost
    by_contra hgood
    obtain ⟨rfl, -⟩ := htrail.good (Bool.eq_false_iff.mpr hgood)
    have hmem : (record, reply) ∈ appends (served.flatMap Served.events ++ es) :=
      mem_appends.mpr (List.mem_append_left _ (hhistory.mem_events hdone (mem_appends.mp he)))
    rw [htrail.appended, List.append_nil] at hmem
    obtain ⟨_, -, heq⟩ := List.mem_map.mp hmem
    exact hrefused (congrArg Prod.snd heq).symm
  have hkept : ∀ state c r state', state.audit = s.state.audit → Answers w state c r state' →
      state'.audit = s.state.audit := by
    intro state c r state' hstate hanswer
    have hf : state.audit.failed = true := by rw [hstate, hfailed]
    exact (refused_of_failed hf hanswer).2.trans hstate
  have hrefused : ∀ state c r state', state.audit = s.state.audit → Answers w state c r state' →
      Granted c r ∧ Refused c r := by
    intro state c r state' hstate hanswer
    have hf : state.audit.failed = true := by rw [hstate, hfailed]
    exact ⟨granted_of_answers w hanswer, (refused_of_failed hf hanswer).1⟩
  refine ⟨Steps.invariant (I := fun state => state.audit = s.state.audit) hkept rfl hsteps, ?_⟩
  intro i hi
  have hsince :=
    Steps.since (Q := fun c r => Granted c r ∧ Refused c r) hkept hrefused rfl hi hsteps
  obtain ⟨new, hnew, hall⟩ := hsince.completed
  refine ⟨new, hnew, fun done hdone request response hjob hresult hstatus => ?_⟩
  obtain ⟨hwhole, hanswers⟩ := hall done hdone
  rw [hjob, hresult] at hwhole
  obtain ⟨env, sql, a, r, record, result, hevents, -, hsucceeded, -⟩ :=
    success_of_ok hwhole (fun e he => (hanswers e he).1) hstatus
  have hmem : (record, .ok .ok) ∈ appends done.events := by
    rw [← hevents, hsucceeded.appended]
    exact List.mem_singleton_self _
  exact (hanswers _ (mem_appends.mp hmem)).2 rfl

theorem fullSink_fails (record : AuditRecord) :
    (JsonlAuditRepository.append shop.json record fullSink (.opened true [])).1 ≠ .ok := by
  obtain ⟨line, hline, -⟩ := dump_serialize shop.json record
  simp [JsonlAuditRepository.append, hline, OFStream.opened, OFStream.insert, OFStream.flush,
    OFStream.store, fullSink]

theorem refuses_after_loss_orders :
    ∃ s, InTurn fullSink s ∧
      ∀ s', Steps mutexUse (Answers shop) (serve shop.json) s s' →
        s'.state.audit = s.state.audit ∧
          ∀ i, (s.clients i).running = none →
            ∃ new, (s'.clients i).completed = (s.clients i).completed ++ new ∧
              ∀ done ∈ new, ∀ request response, done.job = .query request →
                done.result = .ok response → response.status ≠ 200 := by
  obtain ⟨s, hs⟩ := exists_inTurn fullSink
  obtain ⟨record, hevents⟩ := order_events 1 (.opened true []) fullSink
  have happended : (record, .ok (JsonlAuditRepository.append shop.json record fullSink
      (.opened true [])).1) ∈
        appends ((orderEnvironment 1 (.opened true []) fullSink).events orderText) := by
    rw [hevents, mem_appends]
    simp
  have hlost : ∃ i, ∃ done ∈ (s.clients i).completed, ∃ e ∈ appends done.events,
      e.2 ≠ .ok .ok := by
    have hcompleted : (s.clients 0).completed = [_] := congrArg Client.completed hs.waits
    refine ⟨0, _, hcompleted ▸ List.mem_singleton_self _, _, happended, ?_⟩
    exact fun hok => fullSink_fails record (Except.ok.inj hok)
  refine ⟨s, hs, fun s' hsteps => ?_⟩
  exact refuses_after_loss shop true [] 0 s s' hs.reachable hlost hsteps

end Deployment
end SqlProxy
