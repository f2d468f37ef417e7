import SqlProxy.Authorization

/-! Which select lists a result is released for. The adapter reports four facts about a
list, and the classifier accepts exactly the lists of one kind of entry. -/
namespace SqlProxy
open ByteText Hsql HyriseAdapter ProxyService PiiMasker DataClassifier

/-- `COUNT(*)`, plain. -/
structure IsCountStar (e : Expr) : Prop where
  function : e.type = .functionRef
  named : SameName (copyOrEmpty e.name) (ascii "count")
  notDistinct : e.distinct = false
  notWindowed : e.windowDescription = false
  star : ∃ argument, e.exprList = some [some argument] ∧ IsStar argument

/-- The select lists whose result may leave, for a result of `width` columns. -/
inductive Releasable (stmt : SelectStatement) (width : Nat) : Prop where
  | columns (hne : stmt.entries ≠ []) (hall : ∀ e, some e ∈ stmt.entries → IsColumn e)
      (hw : stmt.entries.length = width)
  | stars (hne : stmt.entries ≠ []) (hall : ∀ e, some e ∈ stmt.entries → IsStar e)
  | counts (hne : stmt.entries ≠ []) (hall : ∀ e, some e ∈ stmt.entries → IsCountStar e)
      (hg : stmt.groupBy = false)

/-- The analysis of one SELECT. -/
def selectAnalysis (stmt : SelectStatement) : SqlAnalysis :=
  SqlAnalyzer.analyzeParsed { success := true, statements := [translateStatement (.select stmt)] }

theorem selectAnalysis_eq (stmt : SelectStatement) :
    selectAnalysis stmt =
      { status := .ok
        statementCount := 1
        statementType := .select
        statementClass := .select
        tables := SqlAnalyzer.normalizedTables (fromTables stmt.fromTable)
        projectionColumns := stmt.entries.filterMap entrySpelling
        hasWildcardProjection := stmt.entries.any fun e => entryKind e = .star
        hasComputedProjection := stmt.entries.any fun e => entryKind e = .computed
        hasSafeCountStarProjection := stmt.entries.any fun e => entryKind e = .countStar
        hasGroupBy := stmt.groupBy
        unsupportedFeatures := selectNotes stmt } := by
  rw [selectAnalysis, SqlAnalyzer.analyzeParsed_one]
  simp only [translateStatement, translateSelect_eq, statementClassOf]

section Kinds
variable {stmt : SelectStatement}

theorem isCountStar_iff {e : Expr} : isCountStar e = true ↔ IsCountStar e := by
  have hcount : asciiLower (ascii "count") = ascii "count" := by decide
  unfold isCountStar
  constructor
  · intro h
    split_ifs at h with ht hn hd
    · simp only [Bool.or_eq_true, not_or, Bool.not_eq_true] at hd
      simp only [ne_eq, not_not] at ht hn
      split at h
      · next argument he =>
        exact ⟨ht, hn.trans hcount.symm, hd.1, hd.2, argument, he, by simpa [IsStar] using h⟩
      · cases h
  · rintro ⟨ht, hn, hd, hw, argument, he, hs⟩
    have hl : asciiLower (copyOrEmpty e.name) = ascii "count" := Eq.trans hn hcount
    simp only [ht, hl, hd, hw, he, ne_eq, not_true_eq_false, Bool.or_self, Bool.false_eq_true,
      if_false]
    simpa [IsStar] using hs

theorem kind_star {e : Expr} : entryKind (some e) = .star ↔ IsStar e := by
  rw [entryKind_star]
  simp

theorem kind_column {e : Expr} : entryKind (some e) = .column ↔ IsColumn e := by
  rw [← entrySpelling_isSome]
  by_cases hc : e.type = .columnRef <;> simp [entrySpelling, IsColumn, hc]

theorem kind_countStar {e : Expr} : entryKind (some e) = .countStar ↔ IsCountStar e := by
  rw [← isCountStar_iff]
  by_cases hs : e.type = .star
  · simp [entryKind, isCountStar, hs]
  · by_cases hc : e.type = .columnRef
    · simp [entryKind, isCountStar, hc]
    · by_cases hn : isCountStar e <;> simp [entryKind, hs, hc, hn]

theorem kind_ne_nothing {entry : Option Expr} (h : entry ≠ none) : entryKind entry ≠ .nothing := by
  cases entry with
  | none => exact absurd rfl h
  | some e =>
    simp only [entryKind]
    split_ifs <;> decide

/-- Some entry of the list is of kind `k`. -/
def has (stmt : SelectStatement) (k : EntryKind) : Bool :=
  stmt.entries.any fun e => entryKind e = k

theorem has_iff {k : EntryKind} :
    has stmt k = true ↔ ∃ entry ∈ stmt.entries, entryKind entry = k := by
  simp [has, List.any_eq_true]

/-- A list of one kind, told from the flags: that kind occurs and no other does. -/
theorem all_kind {k : EntryKind} (hnull : none ∉ stmt.entries) :
    (stmt.entries ≠ [] ∧ ∀ entry ∈ stmt.entries, entryKind entry = k) ↔
      has stmt k = true ∧ ∀ k', k' ≠ k → k' ≠ .nothing → has stmt k' = false := by
  constructor
  · rintro ⟨hne, hall⟩
    obtain ⟨entry, he⟩ := List.exists_mem_of_ne_nil _ hne
    refine ⟨has_iff.mpr ⟨entry, he, hall entry he⟩, ?_⟩
    intro k' hk' _
    rw [Bool.eq_false_iff]
    intro h
    obtain ⟨other, ho, hk⟩ := has_iff.mp h
    exact hk' (hk.symm.trans (hall other ho))
  · rintro ⟨hk, hothers⟩
    obtain ⟨entry, he, -⟩ := has_iff.mp hk
    refine ⟨List.ne_nil_of_mem he, ?_⟩
    intro other ho
    by_contra hne
    have hno : other ≠ none := by
      rintro rfl
      exact hnull ho
    have hf := hothers _ hne (kind_ne_nothing hno)
    rw [has_iff.mpr ⟨other, ho, rfl⟩] at hf
    cases hf

theorem spellings_isEmpty :
    (stmt.entries.filterMap entrySpelling).isEmpty = !has stmt .column := by
  rw [Bool.eq_iff_iff, Bool.not_eq_true', List.isEmpty_iff, List.filterMap_eq_nil_iff,
    Bool.eq_false_iff, ne_eq, has_iff]
  constructor
  · rintro h ⟨entry, he, hk⟩
    have hs := entrySpelling_isSome entry |>.mpr hk
    rw [h entry he] at hs
    cases hs
  · intro h entry he
    by_contra hs
    exact h ⟨entry, he, (entrySpelling_isSome entry).mp (Option.isSome_iff_ne_none.mpr hs)⟩

theorem spellings_length (h : ∀ entry ∈ stmt.entries, entryKind entry = .column) :
    (stmt.entries.filterMap entrySpelling).length = stmt.entries.length := by
  rw [List.filterMap_length_eq_length]
  intro entry he
  exact (entrySpelling_isSome entry).mpr (h entry he)

/-- A list of references is reported as it is spelled. -/
theorem projectionColumns_refs {refs : List Expr} (hrefs : stmt.entries = refs.map some)
    (hcolumns : ∀ e ∈ refs, IsColumn e) :
    (selectAnalysis stmt).projectionColumns = refs.map columnSpelling := by
  rw [selectAnalysis_eq]
  change stmt.entries.filterMap entrySpelling = _
  rw [hrefs, List.filterMap_map, ← List.filterMap_eq_map]
  apply List.filterMap_congr
  intro e he
  have hc : e.type = .columnRef := hcolumns e he
  simp [entrySpelling, hc]

theorem forall_entries {k : EntryKind} {P : Expr → Prop} (hnull : none ∉ stmt.entries)
    (hP : ∀ e, entryKind (some e) = k ↔ P e) :
    (∀ entry ∈ stmt.entries, entryKind entry = k) ↔ ∀ e, some e ∈ stmt.entries → P e := by
  constructor
  · intro h e he
    exact (hP e).mp (h _ he)
  · intro h entry he
    cases entry with
    | none => exact absurd he hnull
    | some e => exact (hP e).mpr (h e he)

end Kinds

section Shapes
variable {stmt : SelectStatement} {columns : List ColumnInfo}

theorem positionalShape_iff (hnull : none ∉ stmt.entries) :
    positionalShape (selectAnalysis stmt) columns = true ↔
      stmt.entries ≠ [] ∧ (∀ e, some e ∈ stmt.entries → IsColumn e) ∧
        stmt.entries.length = columns.length := by
  have hkinds := forall_entries hnull fun e => kind_column (e := e)
  have hall := all_kind (k := .column) hnull
  rw [hkinds] at hall
  have hflags : positionalShape (selectAnalysis stmt) columns =
      (!has stmt .star && !has stmt .computed && !has stmt .countStar && has stmt .column
        && (stmt.entries.filterMap entrySpelling).length = columns.length) := by
    simp only [positionalShape, analyzable, selectAnalysis_eq, spellings_isEmpty, Bool.not_not]
    rfl
  rw [hflags]
  simp only [Bool.and_eq_true, Bool.not_eq_true', decide_eq_true_eq]
  constructor
  · rintro ⟨⟨⟨⟨hs, hc⟩, hn⟩, hcol⟩, hlen⟩
    have hothers : ∀ k', k' ≠ .column → k' ≠ .nothing → has stmt k' = false := by
      intro k' hk hk'
      cases k' <;> simp_all
    obtain ⟨hne, hcols⟩ := hall.mpr ⟨hcol, hothers⟩
    refine ⟨hne, hcols, ?_⟩
    rw [← hlen, spellings_length (hkinds.mpr hcols)]
  · rintro ⟨hne, hcols, hlen⟩
    obtain ⟨hcol, hothers⟩ := hall.mp ⟨hne, hcols⟩
    refine ⟨⟨⟨⟨?_, ?_⟩, ?_⟩, hcol⟩, ?_⟩
    · exact hothers _ (by decide) (by decide)
    · exact hothers _ (by decide) (by decide)
    · exact hothers _ (by decide) (by decide)
    · rw [spellings_length (hkinds.mpr hcols), hlen]

theorem wildcardShape_iff (hnull : none ∉ stmt.entries) :
    wildcardShape (selectAnalysis stmt) = true ↔
      stmt.entries ≠ [] ∧ ∀ e, some e ∈ stmt.entries → IsStar e := by
  rw [← forall_entries hnull fun e => kind_star, all_kind hnull]
  have hflags : wildcardShape (selectAnalysis stmt) =
      (has stmt .star && !has stmt .column && !has stmt .computed && !has stmt .countStar) := by
    simp only [wildcardShape, analyzable, selectAnalysis_eq, spellings_isEmpty]
    rfl
  rw [hflags]
  simp only [Bool.and_eq_true, Bool.not_eq_true']
  constructor
  · rintro ⟨⟨⟨hs, hcol⟩, hc⟩, hn⟩
    refine ⟨hs, ?_⟩
    intro k' hk hk'
    cases k' <;> simp_all
  · rintro ⟨hs, hothers⟩
    refine ⟨⟨⟨hs, ?_⟩, ?_⟩, ?_⟩
    · exact hothers _ (by decide) (by decide)
    · exact hothers _ (by decide) (by decide)
    · exact hothers _ (by decide) (by decide)

theorem countStarOnlyShape_iff (hnull : none ∉ stmt.entries) :
    countStarOnlyShape (selectAnalysis stmt) = true ↔
      stmt.entries ≠ [] ∧ (∀ e, some e ∈ stmt.entries → IsCountStar e) ∧
        stmt.groupBy = false := by
  rw [← forall_entries hnull fun e => kind_countStar, ← and_assoc, all_kind hnull]
  have hflags : countStarOnlyShape (selectAnalysis stmt) =
      (has stmt .countStar && !has stmt .star && !has stmt .computed && !stmt.groupBy
        && !has stmt .column) := by
    simp only [countStarOnlyShape, analyzable, selectAnalysis_eq, spellings_isEmpty]
    rfl
  rw [hflags]
  simp only [Bool.and_eq_true, Bool.not_eq_true']
  constructor
  · rintro ⟨⟨⟨⟨hn, hs⟩, hc⟩, hg⟩, hcol⟩
    refine ⟨⟨hn, ?_⟩, hg⟩
    intro k' hk hk'
    cases k' <;> simp_all
  · rintro ⟨⟨hn, hothers⟩, hg⟩
    refine ⟨⟨⟨⟨hn, ?_⟩, ?_⟩, hg⟩, ?_⟩
    · exact hothers _ (by decide) (by decide)
    · exact hothers _ (by decide) (by decide)
    · exact hothers _ (by decide) (by decide)

/-- The classifier attributes a result exactly when its select list is of one kind. -/
theorem fullyAttributed_iff (hnull : none ∉ stmt.entries) (hne : columns ≠ []) :
    (classifier.classify (selectAnalysis stmt) columns).fullyAttributed = true ↔
      Releasable stmt columns.length := by
  have hshapes : (classifier.classify (selectAnalysis stmt) columns).fullyAttributed =
      (positionalShape (selectAnalysis stmt) columns || wildcardShape (selectAnalysis stmt)
        || countStarOnlyShape (selectAnalysis stmt)) := by
    have he : columns.isEmpty = false := by simpa using hne
    unfold classify
    simp only [he, Bool.false_eq_true, if_false]
    cases positionalShape (selectAnalysis stmt) columns <;>
      cases wildcardShape (selectAnalysis stmt) <;>
      cases countStarOnlyShape (selectAnalysis stmt) <;> rfl
  rw [hshapes, Bool.or_eq_true, Bool.or_eq_true, positionalShape_iff hnull,
    wildcardShape_iff hnull, countStarOnlyShape_iff hnull]
  constructor
  · rintro ((⟨hl, hall, hw⟩ | ⟨hl, hall⟩) | ⟨hl, hall, hg⟩)
    · exact .columns hl hall hw
    · exact .stars hl hall
    · exact .counts hl hall hg
  · intro h
    cases h with
    | columns hl hall hw => exact .inl (.inl ⟨hl, hall, hw⟩)
    | stars hl hall => exact .inl (.inr ⟨hl, hall⟩)
    | counts hl hall hg => exact .inr ⟨hl, hall, hg⟩

end Shapes

section Read
variable {lib : Bytes → Except Exception SQLParserResult} {env : Environment} {sql : Bytes}
  {stmt : SelectStatement} {r : ExecutionResult}

theorem analysis_select (h : Submitted lib sql [.select stmt]) :
    (env.adapted lib).analysis sql = .ok (selectAnalysis stmt) := by
  rw [analysis_submitted h, selectAnalysis, List.map_singleton]

theorem statementType_select : (selectAnalysis stmt).statementType = .select := by
  rw [selectAnalysis_eq]

/-- The read path of an allowed SELECT that the database has answered. -/
theorem processed_read (h : Submitted lib sql [.select stmt])
    (ha : (decided [translateStatement (.select stmt)]).allowed = true)
    (hx : env.execute sql = .ok r) (hs : r.status = .ok) :
    (env.adapted lib).processed sql =
      ProxyService.read env.now env.requestId (selectAnalysis stmt) r :=
  Environment.processed_select (analysis_select h) ha hx hs statementType_select

end Read

/-- A result leaves exactly for the releasable select lists; for every other list the
request is refused, and a failure carries no cell. -/
theorem released_iff_releasable (lib : Bytes → Except Exception SQLParserResult)
    (env : Environment) (sql : Bytes) (stmt : SelectStatement) (r : ExecutionResult)
    (h : Submitted lib sql [.select stmt]) (hnull : none ∉ stmt.entries)
    (ha : (decided [translateStatement (.select stmt)]).allowed = true)
    (hx : env.execute sql = .ok r) (hs : r.status = .ok) (hne : r.columns ≠ [])
    (hn : 0 ≤ r.rowCount) (hr : Rectangular r) (happ : ∀ record, env.append record = .ok .ok) :
    ((∃ result, (env.adapted lib).handled sql = .ok (.success result)) ↔
      Releasable stmt r.columns.length) ∧
    (¬ Releasable stmt r.columns.length →
      (env.adapted lib).handled sql = .ok (.failure .maskingRefused)) := by
  have hread := processed_read h ha hx hs
  have hhandled : (env.adapted lib).handled sql =
      .ok ((env.adapted lib).processing sql).result :=
    Environment.handled_of_append (happ _)
  have hiff := fullyAttributed_iff hnull hne
  cases hf : (classes (selectAnalysis stmt) r).fullyAttributed with
  | true =>
    rw [read_released _ _ hn hr statementType_select hf] at hread
    rw [hhandled, Environment.processing_of_ok hread]
    have hrel := hiff.mp hf
    exact ⟨⟨fun _ => hrel, fun _ => ⟨_, rfl⟩⟩, fun hno => absurd hrel hno⟩
  | false =>
    rw [read_refused _ _ hn hr statementType_select hf] at hread
    rw [hhandled, Environment.processing_of_ok hread]
    have hrel : ¬ Releasable stmt r.columns.length := by
      intro hrel
      have := hiff.mpr hrel
      unfold classes at hf
      rw [hf] at this
      cases this
    refine ⟨⟨?_, fun hyes => absurd hyes hrel⟩, fun _ => rfl⟩
    rintro ⟨result, hres⟩
    simp at hres

/-- `SELECT name FROM customers`. -/
def nameSelect : SelectStatement where
  fromTable := .tableName none (some (ascii "customers")) none
  selectList := some [some { type := .columnRef, name := some (ascii "name") }]

def nameResult : ExecutionResult where
  status := .ok
  columns := [{ name := ascii "name" }]
  rows := [[some (ascii "Ada")]]
  rowCount := 1

theorem nameSelect_releasable : Releasable nameSelect 1 := by
  refine .columns (by decide) ?_ rfl
  intro e he
  obtain rfl : e = { type := .columnRef, name := some (ascii "name") } := by
    simpa [nameSelect, SelectStatement.entries] using he
  rfl

theorem released_nameSelect :
    ∃ result, ((answering nameResult).adapted (libraryOf (.select nameSelect))).handled
      (ascii "x") = .ok (.success result) :=
  (released_iff_releasable _ (answering nameResult) (ascii "x") nameSelect nameResult
    (submitted_libraryOf _ (by decide)) (by simp [nameSelect, SelectStatement.entries])
    (by decide) rfl rfl (by decide) (by decide) (by decide) (fun _ => rfl)).1.mpr
    nameSelect_releasable

end SqlProxy
