import SqlProxy.Base.Utf8

/-! JSON values, and what is expected of a library that reads and writes them. -/

/-- Objects are kept in key order. `number` is any number that is no natural number, by
its literal. -/
inductive Json where
  | null
  | bool (b : Bool)
  | unsigned (n : Nat)
  | number (literal : ByteText.Bytes)
  | string (s : ByteText.Bytes)
  | array (items : List Json)
  | object (fields : List (ByteText.Bytes × Json))

namespace Json
open ByteText

abbrev Fields := List (Bytes × Json)

/-- `fields[key] = value`. -/
def setField (key : Bytes) (value : Json) : Fields → Fields
  | [] => [(key, value)]
  | field :: fields =>
    if key < field.1 then (key, value) :: field :: fields
    else if key = field.1 then (key, value) :: fields
    else field :: setField key value fields

/-- Fields set one after another. -/
def setFields (new fields : Fields) : Fields :=
  new.foldl (fun acc field => setField field.1 field.2 acc) fields

def findField (key : Bytes) (fields : Fields) : Option Json := fields.lookup key

def keepFields (keep : Bytes → Bool) (fields : Fields) : Fields :=
  fields.filter fun field => keep field.1

/-- An object less the fields of some keys. -/
def without (keys : List Bytes) : Json → Json
  | .object fields => .object (keepFields (fun key => !keys.contains key) fields)
  | value => value

def KeysSorted (fields : Fields) : Prop := (fields.map Prod.fst).Pairwise (· < ·)

mutual
/-- Every string of a value, keys included. -/
def strings : Json → List Bytes
  | .string s => [s]
  | .array items => stringsAll items
  | .object fields => stringsFields fields
  | _ => []
def stringsAll : List Json → List Bytes
  | [] => []
  | item :: items => strings item ++ stringsAll items
def stringsFields : List (Bytes × Json) → List Bytes
  | [] => []
  | (key, value) :: fields => key :: (strings value ++ stringsFields fields)
end

mutual
/-- The values a program builds: every object with its keys in order, no raw number. -/
def Canonical : Json → Prop
  | .number _ => False
  | .array items => CanonicalAll items
  | .object fields => KeysSorted fields ∧ CanonicalFields fields
  | _ => True
def CanonicalAll : List Json → Prop
  | [] => True
  | item :: items => Canonical item ∧ CanonicalAll items
def CanonicalFields : List (Bytes × Json) → Prop
  | [] => True
  | (_, value) :: fields => Canonical value ∧ CanonicalFields fields
end

/-- A value whose strings are all UTF-8. -/
def Encodable (j : Json) : Prop := ∀ s ∈ j.strings, Utf8.Valid s

instance (j : Json) : Decidable j.Encodable :=
  inferInstanceAs (Decidable (∀ s ∈ j.strings, Utf8.Valid s))

theorem mem_stringsAll {items : List Json} {s : Bytes} :
    s ∈ stringsAll items ↔ ∃ item ∈ items, s ∈ item.strings := by
  induction items with
  | nil => simp [stringsAll]
  | cons item items ih => simp [stringsAll, ih]

theorem mem_stringsFields {fields : Fields} {s : Bytes} :
    s ∈ stringsFields fields ↔ ∃ field ∈ fields, s = field.1 ∨ s ∈ field.2.strings := by
  induction fields with
  | nil => simp [stringsFields]
  | cons field fields ih => simp [stringsFields, ih, or_assoc]

theorem canonicalAll_iff {items : List Json} :
    CanonicalAll items ↔ ∀ item ∈ items, item.Canonical := by
  induction items with
  | nil => simp [CanonicalAll]
  | cons item items ih => simp [CanonicalAll, ih]

theorem canonicalFields_iff {fields : Fields} :
    CanonicalFields fields ↔ ∀ field ∈ fields, field.2.Canonical := by
  induction fields with
  | nil => simp [CanonicalFields]
  | cons field fields ih => simp [CanonicalFields, ih]

section SetField
variable {key : Bytes} {value : Json} {fields : Fields}

theorem mem_setField {field : Bytes × Json} (h : field ∈ setField key value fields) :
    field = (key, value) ∨ field ∈ fields := by
  induction fields with
  | nil => exact .inl (List.mem_singleton.mp h)
  | cons f fields ih =>
    unfold setField at h
    split_ifs at h
    · rcases List.mem_cons.mp h with h | h
      · exact .inl h
      · exact .inr h
    · rcases List.mem_cons.mp h with h | h
      · exact .inl h
      · exact .inr (List.mem_cons_of_mem f h)
    · rcases List.mem_cons.mp h with h | h
      · exact .inr (h ▸ List.mem_cons_self)
      · rcases ih h with h | h
        · exact .inl h
        · exact .inr (List.mem_cons_of_mem f h)

/-- A key beyond all others goes to the end. -/
theorem setField_last (h : ∀ field ∈ fields, field.1 < key) :
    setField key value fields = fields ++ [(key, value)] := by
  induction fields with
  | nil => rfl
  | cons f fields ih =>
    have hf : f.1 < key := h f List.mem_cons_self
    have hlt : ¬ key < f.1 := List.lt_asymm hf
    have hne : key ≠ f.1 := by
      intro he
      rw [he] at hf
      exact List.lt_irrefl _ hf
    rw [setField, if_neg hlt, if_neg hne, ih fun g hg => h g (List.mem_cons_of_mem f hg)]
    rfl

theorem findField_cons (sought : Bytes) (field : Bytes × Json) (fields : Fields) :
    findField sought (field :: fields) =
      if sought = field.1 then some field.2 else findField sought fields := by
  unfold findField
  rw [List.lookup_cons]
  by_cases h : sought = field.1
  · simp [h]
  · simp [h, beq_eq_false_iff_ne.mpr h]

/-- Setting a field changes what is found under its key and nothing else. -/
theorem findField_setField (sought : Bytes) :
    findField sought (setField key value fields) =
      if sought = key then some value else findField sought fields := by
  induction fields with
  | nil => exact findField_cons sought (key, value) []
  | cons f fields ih =>
    unfold setField
    by_cases hlt : key < f.1
    · rw [if_pos hlt, findField_cons]
    · rw [if_neg hlt]
      by_cases heq : key = f.1
      · rw [if_pos heq, findField_cons, findField_cons, ← heq]
        by_cases hs : sought = key <;> simp [hs]
      · rw [if_neg heq, findField_cons, findField_cons, ih]
        by_cases hs : sought = key
        · simp [hs, heq]
        · simp [hs]

theorem mem_keys_setField {sought : Bytes} :
    sought ∈ (setField key value fields).map Prod.fst ↔
      sought = key ∨ sought ∈ fields.map Prod.fst := by
  induction fields with
  | nil => simp [setField]
  | cons f fields ih =>
    rw [setField]
    split_ifs with hlt heq
    · simp
    · simp [heq]
    · simp [ih, or_left_comm]

theorem keysSorted_nil : KeysSorted [] := List.Pairwise.nil

theorem keysSorted_setField (h : KeysSorted fields) :
    KeysSorted (setField key value fields) := by
  induction fields with
  | nil => exact List.pairwise_singleton _ _
  | cons f fields ih =>
    obtain ⟨hf, hrest⟩ := List.pairwise_cons.mp h
    rw [setField]
    split_ifs with hlt heq
    · refine List.pairwise_cons.mpr ⟨fun k hk => ?_, h⟩
      rcases List.mem_cons.mp hk with rfl | hk
      · exact hlt
      · exact List.lt_trans hlt (hf k hk)
    · rw [← heq] at hf
      exact List.pairwise_cons.mpr ⟨hf, hrest⟩
    · refine List.pairwise_cons.mpr ⟨fun k hk => ?_, ih hrest⟩
      obtain ⟨field, hfield, rfl⟩ := List.mem_map.mp hk
      rcases mem_setField hfield with rfl | hold
      · exact Std.lt_of_le_of_ne (List.not_lt.mp hlt) (Ne.symm heq)
      · exact hf field.1 (List.mem_map_of_mem hold)

theorem KeysSorted.nodup (h : KeysSorted fields) : (fields.map Prod.fst).Nodup := by
  refine List.Pairwise.imp ?_ h
  intro key key' hlt he
  exact List.lt_irrefl key' (he ▸ hlt)

theorem keysSorted_setFields {new : Fields} (h : KeysSorted fields) :
    KeysSorted (setFields new fields) := by
  induction new generalizing fields with
  | nil => exact h
  | cons f new ih => exact ih (keysSorted_setField h)

theorem mem_setFields {new : Fields} {field : Bytes × Json}
    (h : field ∈ setFields new fields) : field ∈ new ∨ field ∈ fields := by
  induction new generalizing fields with
  | nil => exact .inr h
  | cons f new ih =>
    rcases ih h with h | h
    · exact .inl (List.mem_cons_of_mem f h)
    · rcases mem_setField h with rfl | h
      · exact .inl List.mem_cons_self
      · exact .inr h

theorem findField_eq_none {sought : Bytes} :
    findField sought fields = none ↔ sought ∉ fields.map Prod.fst := by
  induction fields with
  | nil => simp [findField]
  | cons f fields ih =>
    rw [findField_cons, List.map_cons, List.mem_cons, not_or, ← ih]
    by_cases h : sought = f.1 <;> simp [h]

theorem findField_append (sought : Bytes) (front back : Fields) :
    findField sought (front ++ back) =
      (findField sought front).or (findField sought back) := by
  induction front with
  | nil => rfl
  | cons f front ih =>
    rw [List.cons_append, findField_cons, findField_cons, ih]
    by_cases h : sought = f.1 <;> simp [h]

/-- Fields with keys of their own are all found again. -/
theorem findField_setFields {new : Fields} (hnew : (new.map Prod.fst).Nodup) (sought : Bytes) :
    findField sought (setFields new fields) =
      (findField sought new).or (findField sought fields) := by
  induction new generalizing fields with
  | nil => rfl
  | cons f new ih =>
    obtain ⟨hf, hrest⟩ := List.nodup_cons.mp hnew
    change findField sought (setFields new (setField f.1 f.2 fields)) = _
    rw [ih hrest, findField_setField, findField_cons]
    by_cases h : sought = f.1
    · rw [if_pos h, if_pos h, h, findField_eq_none.mpr hf]
      rfl
    · rw [if_neg h, if_neg h]

theorem mem_keys_setFields {new : Fields} {sought : Bytes} :
    sought ∈ (setFields new fields).map Prod.fst ↔
      sought ∈ new.map Prod.fst ∨ sought ∈ fields.map Prod.fst := by
  induction new generalizing fields with
  | nil => simp [setFields]
  | cons f new ih =>
    change sought ∈ (setFields new (setField f.1 f.2 fields)).map Prod.fst ↔ _
    rw [ih, mem_keys_setField, List.map_cons, List.mem_cons]
    tauto

theorem canonical_setFields {new : Fields} (h : ∀ field ∈ new, field.2.Canonical) :
    (object (setFields new [])).Canonical := by
  refine ⟨keysSorted_setFields keysSorted_nil, canonicalFields_iff.mpr fun field hfield => ?_⟩
  exact h field ((mem_setFields hfield).resolve_right List.not_mem_nil)

theorem mem_strings_setFields {new : Fields} {s : Bytes}
    (h : s ∈ (object (setFields new [])).strings) :
    ∃ field ∈ new, s = field.1 ∨ s ∈ field.2.strings := by
  obtain ⟨field, hfield, hs⟩ := mem_stringsFields.mp h
  exact ⟨field, (mem_setFields hfield).resolve_right List.not_mem_nil, hs⟩

/-- Reading sorted fields in order gives them back. -/
theorem setFields_sorted (front : Fields) (h : KeysSorted (front ++ fields)) :
    setFields fields front = front ++ fields := by
  unfold setFields
  induction fields generalizing front with
  | nil => simp
  | cons f fields ih =>
    have hlast : ∀ field ∈ front, field.1 < f.1 := by
      intro field hfield
      unfold KeysSorted at h
      rw [List.map_append, List.pairwise_append] at h
      exact h.2.2 field.1 (List.mem_map_of_mem hfield) f.1 (by simp)
    rw [List.foldl_cons, setField_last hlast, ih]
    · simp
    · simpa using h

/-- A key before all others goes to the front. -/
theorem setField_first (h : ∀ field ∈ fields, key < field.1) :
    setField key value fields = (key, value) :: fields := by
  cases fields with
  | nil => rfl
  | cons f fields => rw [setField, if_pos (h f List.mem_cons_self)]

section KeepFields
variable {keep : Bytes → Bool}

theorem keepFields_cons (field : Bytes × Json) (fields : Fields) :
    keepFields keep (field :: fields) =
      if keep field.1 = true then field :: keepFields keep fields else keepFields keep fields :=
  List.filter_cons

theorem keepFields_append (front back : Fields) :
    keepFields keep (front ++ back) = keepFields keep front ++ keepFields keep back :=
  List.filter_append _ _

theorem keepFields_setField_dropped (hkey : keep key = false) :
    keepFields keep (setField key value fields) = keepFields keep fields := by
  induction fields with
  | nil => simp [setField, keepFields_cons, hkey]
  | cons f fields ih =>
    rw [setField]
    split_ifs with hlt heq
    · rw [keepFields_cons, if_neg (by simp [hkey])]
    · rw [keepFields_cons, keepFields_cons, ← heq, if_neg (by simp [hkey]),
        if_neg (by simp [hkey])]
    · rw [keepFields_cons, keepFields_cons, ih]

theorem keepFields_setField_kept (hkey : keep key = true) (h : KeysSorted fields) :
    keepFields keep (setField key value fields) =
      setField key value (keepFields keep fields) := by
  induction fields with
  | nil => simp [setField, hkey, keepFields]
  | cons f fields ih =>
    obtain ⟨hf, hrest⟩ := List.pairwise_cons.mp h
    rw [setField]
    split_ifs with hlt heq
    · have hfirst : ∀ field ∈ keepFields keep (f :: fields), key < field.1 := by
        intro field hm
        obtain rfl | hm := List.mem_cons.mp (List.mem_filter.mp hm).1
        · exact hlt
        · exact List.lt_trans hlt (hf field.1 (List.mem_map_of_mem hm))
      rw [setField_first hfirst, keepFields_cons, if_pos hkey]
    · have hsame : keep f.1 = true := by rwa [← heq]
      rw [keepFields_cons, if_pos hkey, keepFields_cons, if_pos hsame, setField, if_neg hlt,
        if_pos heq]
    · rw [keepFields_cons, keepFields_cons, ih hrest]
      by_cases hkept : keep f.1 = true
      · rw [if_pos hkept, if_pos hkept, setField, if_neg hlt, if_neg heq]
      · rw [if_neg hkept, if_neg hkept]

/-- Keys can be dropped before the fields are set. -/
theorem keepFields_setFields {new : Fields} (h : KeysSorted fields) :
    keepFields keep (setFields new fields) =
      setFields (keepFields keep new) (keepFields keep fields) := by
  induction new generalizing fields with
  | nil => rfl
  | cons f new ih =>
    change keepFields keep (setFields new (setField f.1 f.2 fields)) = _
    rw [ih (keysSorted_setField h), keepFields_cons]
    by_cases hkey : keep f.1 = true
    · rw [if_pos hkey, keepFields_setField_kept hkey h]
      rfl
    · rw [if_neg hkey, keepFields_setField_dropped (Bool.eq_false_iff.mpr hkey)]

end KeepFields
end SetField

/-- A library that parses and dumps. `dump` gives the most compact text: nothing stands in
it but printable ASCII and what it copies from strings, and no control character. -/
structure Library (ε : Type) where
  parse : Bytes → Option Json
  dump : Json → Except ε Bytes
  dump_ok : ∀ j, (∃ text, dump j = .ok text) ↔ j.Encodable
  parse_dump : ∀ j text, j.Canonical → dump j = .ok text → parse text = some j
  plain : ∀ j text, j.Canonical → dump j = .ok text →
    ∀ c ∈ text, 32 ≤ c ∧ (c < 127 ∨ ∃ s ∈ j.strings, c ∈ s)

end Json
