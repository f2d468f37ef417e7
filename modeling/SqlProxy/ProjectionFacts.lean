import SqlProxy.FailClosed

/-! What the adapter reports of a select list, and what it should: the columns, a star, the
one count that reads no column, and anything else. A count over the star of one table is
taken for that count. -/
namespace SqlProxy
open ByteText Hsql HyriseAdapter

/-- A plain count of the star of `table`, or of the bare star. -/
structure CountsStarOf (table : Option Bytes) (e : Expr) : Prop where
  function : e.type = .functionRef
  named : SameName (copyOrEmpty e.name) (ascii "count")
  notDistinct : e.distinct = false
  notWindowed : e.windowDescription = false
  star : ∃ argument, e.exprList = some [some argument] ∧ IsStar argument ∧ argument.table = table

def IsCanonicalCountStar (e : Expr) : Prop := CountsStarOf none e

/-- `COUNT(t.*)`. -/
def IsQualifiedCount (e : Expr) : Prop := ∃ table, CountsStarOf (some table) e

/-- Anything else. -/
structure IsComputed (e : Expr) : Prop where
  notStar : ¬ IsStar e
  notColumn : ¬ IsColumn e
  notCount : ¬ IsCanonicalCountStar e

instance (e : Expr) : Decidable (IsColumn e) := inferInstanceAs (Decidable (_ = _))

/-- `qualifier.name`, or `name`. -/
def spelled (e : Expr) : Bytes :=
  match e.table with
  | some qualifier => qualifier ++ dot :: copyOrEmpty e.name
  | none => copyOrEmpty e.name

/-- The four facts say what the list holds. -/
structure ExactFacts (list : List Expr) (out : ParsedStatement) : Prop where
  columns : out.projectionColumns = (list.filter fun e => IsColumn e).map spelled
  wildcard : out.hasWildcardProjection = true ↔ ∃ e ∈ list, IsStar e
  count : out.hasSafeCountStarProjection = true ↔ ∃ e ∈ list, IsCanonicalCountStar e
  computed : out.hasComputedProjection = true ↔ ∃ e ∈ list, IsComputed e

/-- The report on a list without null entries. -/
def projectionFacts (list : List Expr) : ParsedStatement :=
  classifyProjection (some (list.map some)) {}

theorem projectionFacts_eq (list : List Expr) :
    projectionFacts list =
      { projectionColumns := (list.map some).filterMap entrySpelling
        hasWildcardProjection := (list.map some).any fun e => entryKind e = .star
        hasComputedProjection := (list.map some).any fun e => entryKind e = .computed
        hasSafeCountStarProjection := (list.map some).any fun e => entryKind e = .countStar } := by
  simp only [projectionFacts, classifyProjection, foldl_classifyEntry, List.nil_append,
    Bool.false_or]

/-- A translated SELECT carries the same four facts. -/
theorem exactFacts_translateSelect {stmt : SelectStatement} {list : List Expr}
    (h : stmt.selectList = some (list.map some)) :
    ExactFacts list (translateSelect stmt {}) ↔ ExactFacts list (projectionFacts list) := by
  have hentries : stmt.entries = list.map some := by simp [SelectStatement.entries, h]
  rw [translateSelect_eq, projectionFacts_eq, hentries]
  constructor
  · rintro ⟨hcolumns, hwildcard, hcount, hcomputed⟩
    exact ⟨hcolumns, hwildcard, hcount, hcomputed⟩
  · rintro ⟨hcolumns, hwildcard, hcount, hcomputed⟩
    exact ⟨hcolumns, hwildcard, hcount, hcomputed⟩

/-- The adapter does not look at the table of the star. -/
theorem isCountStar_split {e : Expr} :
    IsCountStar e ↔ IsCanonicalCountStar e ∨ IsQualifiedCount e := by
  constructor
  · rintro ⟨hf, hn, hd, hw, argument, hl, hs⟩
    cases ht : argument.table with
    | none => exact .inl ⟨hf, hn, hd, hw, argument, hl, hs, ht⟩
    | some table => exact .inr ⟨table, hf, hn, hd, hw, argument, hl, hs, ht⟩
  · intro h
    obtain ⟨hf, hn, hd, hw, argument, hl, hs, -⟩ | ⟨table, hf, hn, hd, hw, argument, hl, hs, -⟩ := h
    · exact ⟨hf, hn, hd, hw, argument, hl, hs⟩
    · exact ⟨hf, hn, hd, hw, argument, hl, hs⟩

theorem CountsStarOf.table_eq {e : Expr} {s t : Option Bytes} (hs : CountsStarOf s e)
    (ht : CountsStarOf t e) : s = t := by
  obtain ⟨argument, hl, -, rfl⟩ := hs.star
  obtain ⟨argument', hl', -, rfl⟩ := ht.star
  have hargument : argument = argument' := by simpa using hl.symm.trans hl'
  rw [hargument]

/-- It is anything else, and should be reported so. -/
theorem IsQualifiedCount.computed {e : Expr} (h : IsQualifiedCount e) : IsComputed e := by
  obtain ⟨table, h⟩ := h
  refine ⟨?_, ?_, ?_⟩
  · intro hs
    cases h.function.symm.trans hs
  · intro hc
    cases h.function.symm.trans hc
  · intro hcount
    cases hcount.table_eq h

theorem kind_computed {e : Expr} :
    entryKind (some e) = .computed ↔ IsComputed e ∧ ¬ IsQualifiedCount e := by
  have hnothing : entryKind (some e) ≠ .nothing := kind_ne_nothing (by simp)
  have hsplit := isCountStar_split (e := e)
  constructor
  · intro h
    have hs : ¬ IsStar e := by
      intro hs
      rw [kind_star.mpr hs] at h
      cases h
    have hc : ¬ IsColumn e := by
      intro hc
      rw [kind_column.mpr hc] at h
      cases h
    have hn : ¬ IsCountStar e := by
      intro hn
      rw [kind_countStar.mpr hn] at h
      cases h
    rw [hsplit, not_or] at hn
    exact ⟨⟨hs, hc, hn.1⟩, hn.2⟩
  · rintro ⟨⟨hs, hc, hn⟩, hq⟩
    cases hk : entryKind (some e) with
    | nothing => exact absurd hk hnothing
    | star => exact absurd (kind_star.mp hk) hs
    | column => exact absurd (kind_column.mp hk) hc
    | countStar =>
      have hcount := hsplit.mp (kind_countStar.mp hk)
      exact absurd hcount (not_or.mpr ⟨hn, hq⟩)
    | computed => rfl

theorem any_kind {list : List Expr} {k : EntryKind} {P : Expr → Prop}
    (hP : ∀ e, entryKind (some e) = k ↔ P e) :
    ((list.map some).any fun e => entryKind e = k) = true ↔ ∃ e ∈ list, P e := by
  simp [List.any_eq_true, hP]

theorem columnSpelling_eq (e : Expr) : columnSpelling e = spelled e := by
  unfold columnSpelling spelled
  cases e.table with
  | none => rfl
  | some qualifier => simp

/-- The names are always right: in order, and of exactly the references. -/
theorem filterMap_entrySpelling (list : List Expr) :
    (list.map some).filterMap entrySpelling = (list.filter fun e => IsColumn e).map spelled := by
  induction list with
  | nil => rfl
  | cons e list ih =>
    have hspelling := columnSpelling_eq e
    by_cases hc : e.type = .columnRef
    · simp [entrySpelling, IsColumn, hc, ih, hspelling]
    · simp [entrySpelling, IsColumn, hc, ih]

section Exact
variable {list : List Expr}

theorem facts_columns :
    (projectionFacts list).projectionColumns = (list.filter fun e => IsColumn e).map spelled := by
  rw [projectionFacts_eq, ← filterMap_entrySpelling]

theorem facts_wildcard :
    (projectionFacts list).hasWildcardProjection = true ↔ ∃ e ∈ list, IsStar e := by
  rw [projectionFacts_eq]
  exact any_kind fun e => kind_star

theorem facts_count :
    (projectionFacts list).hasSafeCountStarProjection = true ↔
      (∃ e ∈ list, IsCanonicalCountStar e) ∨ ∃ e ∈ list, IsQualifiedCount e := by
  rw [projectionFacts_eq]
  have h : ((list.map some).any fun e => entryKind e = .countStar) = true ↔
      ∃ e ∈ list, IsCanonicalCountStar e ∨ IsQualifiedCount e :=
    any_kind fun e => kind_countStar.trans isCountStar_split
  rw [h]
  simp only [and_or_left, exists_or]

theorem facts_computed :
    (projectionFacts list).hasComputedProjection = true ↔
      ∃ e ∈ list, IsComputed e ∧ ¬ IsQualifiedCount e := by
  rw [projectionFacts_eq]
  exact any_kind fun e => kind_computed

end Exact

/-- A count over the star of a table among the entries is reported as the canonical count,
and not as computed. This shows unless a canonical count and another computed entry stand
beside it; nothing else can make the facts inexact. -/
theorem exactFacts_iff (list : List Expr) :
    ExactFacts list (projectionFacts list) ↔
      ((∃ e ∈ list, IsQualifiedCount e) →
        (∃ e ∈ list, IsCanonicalCountStar e) ∧ ∃ e ∈ list, IsComputed e ∧ ¬ IsQualifiedCount e) := by
  constructor
  · rintro hexact ⟨e, he, hq⟩
    constructor
    · exact hexact.count.mp (facts_count.mpr (.inr ⟨e, he, hq⟩))
    · exact facts_computed.mp (hexact.computed.mpr ⟨e, he, hq.computed⟩)
  · intro h
    refine ⟨facts_columns, facts_wildcard, ?_, ?_⟩
    · rw [facts_count]
      exact or_iff_left_of_imp fun hq => (h hq).1
    · rw [facts_computed]
      constructor
      · rintro ⟨e, he, hc, -⟩
        exact ⟨e, he, hc⟩
      · rintro ⟨e, he, hc⟩
        by_cases hq : IsQualifiedCount e
        · exact (h ⟨e, he, hq⟩).2
        · exact ⟨e, he, hc, hq⟩

/-- `COUNT(t.*)`, as the parser hands it over. -/
def countOfTable : Expr where
  type := .functionRef
  name := some (ascii "count")
  exprList := some [some { type := .star, table := some (ascii "t") }]

theorem countOfTable_qualified : IsQualifiedCount countOfTable :=
  ⟨ascii "t", rfl, by decide, rfl, rfl, _, rfl, rfl, rfl⟩

theorem not_exactFacts_countOfTable : ¬ ExactFacts [countOfTable] (projectionFacts [countOfTable]) := by
  intro h
  have hcomputed := h.computed.mpr ⟨countOfTable, by simp, countOfTable_qualified.computed⟩
  revert hcomputed
  decide

end SqlProxy
