import SqlProxy.DataClassifier
import Mathlib.Data.List.Perm.Basic

/-! The mapping configuration. The constructor folds the entries into a map and throws on
the first taken key; what it builds depends neither on the order of the entries nor on the
case of their keys. -/
namespace SqlProxy
open ByteText

/-- Two entries at different positions name one column. -/
def ClassificationConfig.Collides (config : ClassificationConfig) : Prop :=
  ∃ (i j : Nat) (m m' : Bytes × PiiCategory), i ≠ j ∧ config.columnMappings[i]? = some m ∧
    config.columnMappings[j]? = some m' ∧ SameName m.1 m'.1

/-- The same entries in some order, their keys in some case. -/
def ClassificationConfig.Rearranged (config config' : ClassificationConfig) : Prop :=
  ∃ l, config.columnMappings.Perm l ∧
    l.Forall₂ (fun m m' => SameName m.1 m'.1 ∧ m.2 = m'.2) config'.columnMappings

namespace DataClassifier

/-- The source name that decides the class of result column `i`, where one does. -/
def attributedName (analysis : SqlAnalysis) (resultColumns : List ColumnInfo) (i : Nat) :
    Option Bytes :=
  if positionalShape analysis resultColumns then
    analysis.projectionColumns[i]?.map stripQualifier
  else if wildcardShape analysis then resultColumns[i]?.map ColumnInfo.name
  else none

/-- What `emplace` puts into the map. -/
def lowerEntry (mapping : Bytes × PiiCategory) : Bytes × PiiCategory :=
  (asciiLower mapping.1, mapping.2)

theorem lowerEntry_eq {m m' : Bytes × PiiCategory} :
    lowerEntry m = lowerEntry m' ↔ SameName m.1 m'.1 ∧ m.2 = m'.2 := by
  rw [lowerEntry, lowerEntry, Prod.mk.injEq]
  rfl

theorem emplace_cases (classifier : DataClassifier) (mapping : Bytes × PiiCategory) :
    (asciiLower mapping.1 ∈ classifier.normalizedMappings.map Prod.fst ∧
      ∃ e, classifier.emplace mapping = .error e) ∨
    (asciiLower mapping.1 ∉ classifier.normalizedMappings.map Prod.fst ∧
      ∃ next, classifier.emplace mapping = .ok next ∧
        next.normalizedMappings = lowerEntry mapping :: classifier.normalizedMappings) := by
  by_cases h : asciiLower mapping.1 ∈ classifier.normalizedMappings.map Prod.fst
  · refine .inl ⟨h, ?_⟩
    rw [emplace, dif_pos h]
    exact ⟨_, rfl⟩
  · refine .inr ⟨h, ?_⟩
    rw [emplace, dif_neg h]
    exact ⟨_, rfl, rfl⟩

/-- The map behind the loop: every entry is in it, the last one first. -/
def entriesAfter (mappings : List (Bytes × PiiCategory)) (classifier : DataClassifier) :
    List (Bytes × PiiCategory) :=
  (mappings.map lowerEntry).reverse ++ classifier.normalizedMappings

theorem foldlM_emplace_ok {mappings : List (Bytes × PiiCategory)} {classifier result : DataClassifier}
    (h : mappings.foldlM emplace classifier = .ok result) :
    result.normalizedMappings = entriesAfter mappings classifier := by
  induction mappings generalizing classifier with
  | nil =>
    cases h
    rfl
  | cons mapping mappings ih =>
    rw [List.foldlM_cons] at h
    obtain ⟨-, e, he⟩ | ⟨-, next, hn, hentries⟩ := emplace_cases classifier mapping
    · rw [he] at h
      cases h
    · rw [hn] at h
      rw [ih h, entriesAfter, hentries]
      simp [entriesAfter]

theorem foldlM_emplace_of_nodup (mappings : List (Bytes × PiiCategory)) (classifier : DataClassifier)
    (h : ((entriesAfter mappings classifier).map Prod.fst).Nodup) :
    ∃ result, mappings.foldlM emplace classifier = .ok result := by
  induction mappings generalizing classifier with
  | nil => exact ⟨classifier, rfl⟩
  | cons mapping mappings ih =>
    have hentries : entriesAfter (mapping :: mappings) classifier =
        (mappings.map lowerEntry).reverse ++ lowerEntry mapping :: classifier.normalizedMappings := by
      simp [entriesAfter]
    rw [hentries] at h
    rw [List.foldlM_cons]
    obtain ⟨hmem, -⟩ | ⟨-, next, hn, hnext⟩ := emplace_cases classifier mapping
    · rw [List.map_append, List.map_cons] at h
      exact absurd hmem (List.nodup_cons.mp (List.nodup_append.mp h).2.1).1
    · rw [hn]
      apply ih next
      rwa [entriesAfter, hnext]

section Config
variable {config : ClassificationConfig}

/-- The lowered keys of a configuration. -/
def keys (config : ClassificationConfig) : List Bytes :=
  config.columnMappings.map fun m => asciiLower m.1

theorem keys_nodup_iff : (keys config).Nodup ↔ ¬ config.Collides := by
  rw [List.Nodup, List.pairwise_iff_getElem]
  constructor
  · rintro h ⟨i, j, m, m', hij, hm, hm', hname⟩
    obtain ⟨hi, rfl⟩ := List.getElem?_eq_some_iff.mp hm
    obtain ⟨hj, rfl⟩ := List.getElem?_eq_some_iff.mp hm'
    have hi' : i < (keys config).length := by simpa [keys] using hi
    have hj' : j < (keys config).length := by simpa [keys] using hj
    rcases Nat.lt_or_gt_of_ne hij with hlt | hlt
    · exact h i j hi' hj' hlt (by simpa [keys, SameName] using hname)
    · exact h j i hj' hi' hlt (by simpa [keys, SameName] using hname.symm)
  · intro h i j hi hj hij heq
    have hi' : i < config.columnMappings.length := by simpa [keys] using hi
    have hj' : j < config.columnMappings.length := by simpa [keys] using hj
    apply h
    refine ⟨i, j, _, _, by omega, List.getElem?_eq_getElem hi', List.getElem?_eq_getElem hj', ?_⟩
    simpa [keys, SameName] using heq

theorem entriesAfter_empty :
    entriesAfter config.columnMappings empty = (config.columnMappings.map lowerEntry).reverse := by
  simp [entriesAfter, empty]

theorem keys_eq : (config.columnMappings.map lowerEntry).map Prod.fst = keys config := by
  simp [keys, lowerEntry]

theorem ofConfig_ok {classifier : DataClassifier} (h : ofConfig config = .ok classifier) :
    classifier.normalizedMappings = (config.columnMappings.map lowerEntry).reverse := by
  rw [foldlM_emplace_ok h, entriesAfter_empty]

theorem exists_ofConfig_iff : (∃ classifier, ofConfig config = .ok classifier) ↔ (keys config).Nodup := by
  constructor
  · rintro ⟨classifier, h⟩
    have hnodup := classifier.nodup
    rw [ofConfig_ok h, List.map_reverse, List.nodup_reverse, keys_eq] at hnodup
    exact hnodup
  · intro h
    apply foldlM_emplace_of_nodup
    rw [entriesAfter_empty, List.map_reverse, List.nodup_reverse, keys_eq]
    exact h

/-- The constructor throws exactly on a collision. -/
theorem ofConfig_error_iff : (∃ e, ofConfig config = .error e) ↔ config.Collides := by
  rw [← not_iff_not, ← keys_nodup_iff, ← exists_ofConfig_iff]
  cases ofConfig config with
  | error e => simp
  | ok classifier => simp

theorem find_ofConfig_mem {classifier : DataClassifier} (h : ofConfig config = .ok classifier)
    {name : Bytes} {category : PiiCategory} :
    classifier.find name = some category ↔
      (asciiLower name, category) ∈ config.columnMappings.map lowerEntry := by
  rw [← List.mem_reverse, ← ofConfig_ok h]
  exact ⟨mem_of_lookup, lookup_of_mem classifier.nodup⟩

/-- A name is found under the key of the entry that spells it, up to case. -/
theorem find_ofConfig {classifier : DataClassifier} (h : ofConfig config = .ok classifier)
    {name : Bytes} {category : PiiCategory} :
    classifier.find name = some category ↔
      ∃ m ∈ config.columnMappings, m.2 = category ∧ SameName m.1 name := by
  rw [find_ofConfig_mem h, List.mem_map]
  constructor
  · rintro ⟨m, hm, he⟩
    obtain ⟨hname, rfl⟩ := Prod.mk.inj he
    exact ⟨m, hm, rfl, hname⟩
  · rintro ⟨m, hm, rfl, hname⟩
    exact ⟨m, hm, Prod.ext hname rfl⟩

/-- Under keys without dots no dotted name is found, so only the name alone can be. -/
theorem dot_not_mem_of_find {classifier : DataClassifier}
    (hconfig : ofConfig config = .ok classifier) (hkeys : ∀ m ∈ config.columnMappings, dot ∉ m.1)
    {name : Bytes} {category : PiiCategory} (h : classifier.find name = some category) :
    dot ∉ name := by
  obtain ⟨m, hm, -, hname⟩ := (find_ofConfig hconfig).mp h
  have hdot : dot ∉ asciiLower m.1 := by
    rw [mem_asciiLower (by decide)]
    exact hkeys m hm
  rw [show asciiLower m.1 = asciiLower name from hname, mem_asciiLower (by decide)] at hdot
  exact hdot

end Config

theorem map_lowerEntry_recased {l l' : List (Bytes × PiiCategory)}
    (h : l.Forall₂ (fun m m' => SameName m.1 m'.1 ∧ m.2 = m'.2) l') :
    l.map lowerEntry = l'.map lowerEntry := by
  induction h with
  | nil => rfl
  | cons hm _ ih => rw [List.map_cons, List.map_cons, lowerEntry_eq.mpr hm, ih]

section Rearranged
variable {config config' : ClassificationConfig} (h : config.Rearranged config')
include h

theorem perm_of_rearranged :
    (config.columnMappings.map lowerEntry).Perm (config'.columnMappings.map lowerEntry) := by
  obtain ⟨l, hperm, hcase⟩ := h
  rw [← map_lowerEntry_recased hcase]
  exact hperm.map lowerEntry

theorem collides_of_rearranged : config.Collides ↔ config'.Collides := by
  have hkeys : (keys config).Perm (keys config') := by
    rw [← keys_eq, ← keys_eq]
    exact (perm_of_rearranged h).map Prod.fst
  rw [← not_iff_not, ← keys_nodup_iff, ← keys_nodup_iff]
  exact hkeys.nodup_iff

theorem find_of_rearranged {classifier classifier' : DataClassifier}
    (hc : ofConfig config = .ok classifier) (hc' : ofConfig config' = .ok classifier')
    (name : Bytes) : classifier.find name = classifier'.find name := by
  apply Option.ext
  intro category
  rw [find_ofConfig_mem hc, find_ofConfig_mem hc', (perm_of_rearranged h).mem_iff]

end Rearranged

/-- The map is only ever looked up. -/
theorem classify_congr {classifier classifier' : DataClassifier}
    (h : ∀ name, classifier.find name = classifier'.find name) (analysis : SqlAnalysis)
    (resultColumns : List ColumnInfo) :
    classifier.classify analysis resultColumns = classifier'.classify analysis resultColumns := by
  have hof : classifier.classOf = classifier'.classOf := by
    funext name
    rw [classOf, classOf, h]
  have hat : classifier.classAt analysis resultColumns =
      classifier'.classAt analysis resultColumns := by
    funext i column
    rw [classAt, classAt, hof]
  rw [classify, classify, hat]

theorem classify_attributed {classifier : DataClassifier} {analysis : SqlAnalysis}
    {resultColumns : List ColumnInfo} {i : Nat} {name : Bytes}
    (h : attributedName analysis resultColumns i = some name) :
    (classifier.classify analysis resultColumns).columns[i]? = some (classifier.classOf name) := by
  by_cases hp : positionalShape analysis resultColumns = true
  · rw [attributedName, if_pos hp, Option.map_eq_some_iff] at h
    obtain ⟨spelling, hs, rfl⟩ := h
    rw [classify_positional hp, List.getElem?_map, hs]
    rfl
  · by_cases hw : wildcardShape analysis = true
    · rw [attributedName, if_neg hp, if_pos hw, Option.map_eq_some_iff] at h
      obtain ⟨column, hc, rfl⟩ := h
      rw [classify_wildcard hw, List.getElem?_map, hc]
      rfl
    · rw [attributedName, if_neg hp, if_neg hw] at h
      cases h

/-- Order and case of the configuration do not matter. It is rejected exactly for a name
that two entries spell, and otherwise a column is PII as the entry of its name says. -/
theorem mapping_order_independent (config : ClassificationConfig) :
    ((∃ e, ofConfig config = .error e) ↔ config.Collides) ∧
    (∀ classifier, ofConfig config = .ok classifier →
      ∀ analysis resultColumns i name, attributedName analysis resultColumns i = some name →
      ∀ category, (classifier.classify analysis resultColumns).columns[i]? = some (pii category) ↔
        ∃ m ∈ config.columnMappings, m.2 = category ∧ SameName m.1 name) ∧
    ∀ config', config.Rearranged config' →
      ((∃ e, ofConfig config = .error e) ∧ ∃ e, ofConfig config' = .error e) ∨
      ∃ classifier classifier', ofConfig config = .ok classifier ∧
        ofConfig config' = .ok classifier' ∧ ∀ analysis resultColumns,
          classifier.classify analysis resultColumns =
            classifier'.classify analysis resultColumns := by
  refine ⟨ofConfig_error_iff, ?_, ?_⟩
  · intro classifier hc analysis resultColumns i name hname category
    rw [classify_attributed hname, Option.some.injEq, classOf_pii, find_ofConfig hc]
  · intro config' h
    have herror : (∃ e, ofConfig config = .error e) ↔ ∃ e, ofConfig config' = .error e := by
      rw [ofConfig_error_iff, ofConfig_error_iff, collides_of_rearranged h]
    cases hc : ofConfig config with
    | error e =>
      exact .inl ⟨⟨e, rfl⟩, herror.mp ⟨e, hc⟩⟩
    | ok classifier =>
      cases hc' : ofConfig config' with
      | error e =>
        obtain ⟨e', he⟩ := herror.mpr ⟨e, hc'⟩
        rw [hc] at he
        cases he
      | ok classifier' =>
        exact .inr ⟨classifier, classifier', rfl, rfl,
          classify_congr (find_of_rearranged h hc hc')⟩

/-- The default mapping the other way round and in capitals. -/
def shoutedConfig : ClassificationConfig where
  columnMappings :=
    [(ascii "CREDIT_CARD", .creditCard), (ascii "EMAIL", .email), (ascii "PHONE", .phone)]

theorem shoutedConfig_rearranged : defaultClassificationConfig.Rearranged shoutedConfig := by
  refine ⟨[(ascii "credit_card", .creditCard), (ascii "email", .email), (ascii "phone", .phone)],
    by decide, ?_⟩
  refine .cons (by decide) (.cons (by decide) (.cons (by decide) .nil))

/-- `SELECT c.Email`. -/
def emailAnalysis : SqlAnalysis where
  status := .ok
  statementType := .select
  statementClass := .select
  projectionColumns := [ascii "c.Email"]

theorem mapping_order_independent_shouted :
    (default.classify emailAnalysis [{ name := ascii "mail" }]).columns[0]? = some (pii .email) ∧
    ∃ classifier, ofConfig shoutedConfig = .ok classifier ∧ ∀ analysis resultColumns,
      default.classify analysis resultColumns = classifier.classify analysis resultColumns := by
  obtain ⟨-, htagged, hrearranged⟩ := mapping_order_independent defaultClassificationConfig
  constructor
  · apply (htagged default ofConfig_default emailAnalysis _ 0 (ascii "Email") (by decide) .email).mpr
    exact ⟨(ascii "email", .email), by decide, rfl, by decide⟩
  · have h := hrearranged shoutedConfig shoutedConfig_rearranged
    rw [ofConfig_default] at h
    simpa using h

end DataClassifier
end SqlProxy
