import SqlProxy.Base.CompactJson

/-! What the reader of compact JSON has read of a text stays read when the text goes on. So no
first part of an object, short of all of it, is a JSON text. -/
namespace Json.Compact
open ByteText
variable {text rest : Bytes}

theorem readEscape_append {b : UInt8} (h : readEscape text = some (b, rest)) (more : Bytes) :
    readEscape (text ++ more) = some (b, rest ++ more) := by
  have hu : unescape 117 = none := by decide
  unfold readEscape at h
  split at h
  · cases h
  · next letter =>
    obtain ⟨x, hx, hsame⟩ := Option.map_eq_some_iff.mp h
    cases hsame
    have hletter : letter ≠ 117 := by
      rintro rfl
      rw [hu] at hx
      cases hx
    cases more with
    | nil => simp [readEscape, hx]
    | cons c more => simp [readEscape, hletter, hx]
  · next letter tail hne =>
    obtain ⟨c, tail, rfl⟩ := List.exists_cons_of_ne_nil (show tail ≠ [] from fun h => hne h)
    split_ifs at h with hletter
    · split at h
      · next h' l tail heq =>
        obtain ⟨x, hx, hsame⟩ := Option.map_eq_some_iff.mp h
        cases hsame
        rw [heq, hletter]
        simp [readEscape, hx]
      · cases h
    · obtain ⟨x, hx, hsame⟩ := Option.map_eq_some_iff.mp h
      cases hsame
      simp [readEscape, hletter, hx]

theorem readByte_append {b : UInt8} (h : readByte text = some (b, rest)) (more : Bytes) :
    readByte (text ++ more) = some (b, rest ++ more) := by
  cases text with
  | nil => cases h
  | cons c text =>
    simp only [readByte, List.cons_append] at h ⊢
    split_ifs at h ⊢ with hslash hplain
    · exact readEscape_append h more
    · cases h
      rfl

theorem readString_append {fuel fuel' : Nat} (hfuel : fuel ≤ fuel') {state : Utf8.State} {s : Bytes}
    (h : readString fuel state text = some (s, rest)) (more : Bytes) :
    readString fuel' state (text ++ more) = some (s, rest ++ more) := by
  induction fuel generalizing fuel' state text s with
  | zero => cases h
  | succ fuel ih =>
    obtain ⟨fuel', rfl⟩ := Nat.exists_eq_succ_of_ne_zero (show fuel' ≠ 0 by omega)
    cases text with
    | nil => cases h
    | cons c text =>
      simp only [readString, List.cons_append] at h ⊢
      split_ifs at h ⊢ with hquote hstart
      · cases h
        rfl
      · obtain ⟨⟨b, text'⟩, hbyte, h⟩ := Option.bind_eq_some_iff.mp h
        obtain ⟨⟨s', rest'⟩, hstring, h⟩ := Option.bind_eq_some_iff.mp h
        cases h
        have hbyte' := readByte_append hbyte more
        have hstring' := ih (Nat.le_of_succ_le_succ hfuel) hstring
        rw [List.cons_append] at hbyte'
        rw [hbyte']
        simp [hstring']

theorem readText_append {s : Bytes} (h : readText text = some (s, rest)) (more : Bytes) :
    readText (text ++ more) = some (s, rest ++ more) :=
  readString_append (by simp) h more

/-- A number ends where the text goes on with something else. -/
theorem readNatural_append {n : Nat} (h : readNatural text = some (n, rest)) (hrest : rest ≠ [])
    (more : Bytes) : readNatural (text ++ more) = some (n, rest ++ more) := by
  have hle : (text.takeWhile isDigit).length ≤ text.length := (List.takeWhile_sublist _).length_le
  simp only [readNatural] at h
  split_ifs at h with hempty
  cases h
  have hne : (text.takeWhile isDigit).length ≠ text.length := by
    intro heq
    rw [heq, List.drop_length] at hrest
    exact hrest rfl
  simp only [readNatural, List.takeWhile_append, if_neg hne, if_neg hempty,
    List.drop_append_of_le_length hle]

theorem readWord_word (rest : Bytes) :
    ∀ word ∈ words, readWord (word.1 ++ rest) = some (word.2, rest) := by
  simp only [words, List.forall_mem_cons]
  exact ⟨rfl, rfl, rfl, List.forall_mem_nil _⟩

theorem readWord_append {j : Json} (h : readWord text = some (j, rest)) (more : Bytes) :
    readWord (text ++ more) = some (j, rest ++ more) := by
  obtain ⟨word, hword, h⟩ := List.exists_of_findSome?_eq_some h
  split_ifs at h with hfront
  cases h
  obtain ⟨tail, rfl⟩ := List.isPrefixOf_iff_prefix.mp hfront
  rw [List.append_assoc, readWord_word _ word hword, List.drop_left]

/-- What four readers with `fuel` have read, they read with `fuel'` of a longer text. A value is
sure to be whole where something stands behind it, or where it is an object. -/
structure Stable (more : Bytes) (fuel fuel' : Nat) : Prop where
  value : ∀ {text j rest}, readValue fuel text = some (j, rest) →
    rest ≠ [] ∨ text.head? = some 123 → readValue fuel' (text ++ more) = some (j, rest ++ more)
  items : ∀ {text items rest}, readItems fuel text = some (items, rest) →
    readItems fuel' (text ++ more) = some (items, rest ++ more)
  field : ∀ {text field rest}, readField fuel text = some (field, rest) → rest ≠ [] →
    readField fuel' (text ++ more) = some (field, rest ++ more)
  fields : ∀ {text fields rest}, readFields fuel text = some (fields, rest) →
    readFields fuel' (text ++ more) = some (fields, rest ++ more)

section Step
variable {more : Bytes} {fuel fuel' : Nat}

theorem readItems_ne_nil {items : List Json} (h : readItems fuel text = some (items, rest)) :
    text ≠ [] := by
  rintro rfl
  cases fuel <;> cases h

theorem readFields_ne_nil {fields : Fields} (h : readFields fuel text = some (fields, rest)) :
    text ≠ [] := by
  rintro rfl
  cases fuel <;> cases h

theorem Stable.items_succ (h : Stable more fuel fuel') {items : List Json}
    (hread : readItems (fuel + 1) text = some (items, rest)) :
    readItems (fuel' + 1) (text ++ more) = some (items, rest ++ more) := by
  cases text with
  | nil => cases hread
  | cons c text =>
    simp only [readItems, List.cons_append] at hread ⊢
    split_ifs at hread ⊢
    · cases hread
      rfl
    · obtain ⟨⟨item, text'⟩, hitem, hread⟩ := Option.bind_eq_some_iff.mp hread
      obtain ⟨⟨items', rest'⟩, hitems, hread⟩ := Option.bind_eq_some_iff.mp hread
      cases hread
      rw [h.value hitem (.inl (readItems_ne_nil hitems))]
      change ((readItems fuel' (text' ++ more)).bind _) = _
      rw [h.items hitems]
      rfl

theorem Stable.fields_succ (h : Stable more fuel fuel') {fields : Fields}
    (hread : readFields (fuel + 1) text = some (fields, rest)) :
    readFields (fuel' + 1) (text ++ more) = some (fields, rest ++ more) := by
  cases text with
  | nil => cases hread
  | cons c text =>
    simp only [readFields, List.cons_append] at hread ⊢
    split_ifs at hread ⊢
    · cases hread
      rfl
    · obtain ⟨⟨field, text'⟩, hfield, hread⟩ := Option.bind_eq_some_iff.mp hread
      obtain ⟨⟨fields', rest'⟩, hfields, hread⟩ := Option.bind_eq_some_iff.mp hread
      cases hread
      rw [h.field hfield (readFields_ne_nil hfields)]
      change ((readFields fuel' (text' ++ more)).bind _) = _
      rw [h.fields hfields]
      rfl

theorem Stable.field_succ (h : Stable more fuel fuel') {field : Bytes × Json}
    (hread : readField (fuel + 1) text = some (field, rest)) (hrest : rest ≠ []) :
    readField (fuel' + 1) (text ++ more) = some (field, rest ++ more) := by
  cases text with
  | nil => cases hread
  | cons c text =>
    simp only [readField, List.cons_append] at hread ⊢
    split_ifs at hread ⊢
    · obtain ⟨⟨key, text'⟩, hkey, hread⟩ := Option.bind_eq_some_iff.mp hread
      rw [readText_append hkey more]
      cases text' with
      | nil => cases hread
      | cons colon text' =>
        simp only [List.head?_cons, List.drop_one, List.tail_cons] at hread
        split_ifs at hread with hcolon
        obtain ⟨⟨value, rest'⟩, hvalue, hread⟩ := Option.bind_eq_some_iff.mp hread
        cases hread
        have hvalue' := h.value hvalue (.inl hrest)
        simp [hcolon, hvalue']

theorem Stable.value_succ (h : Stable more fuel fuel') {j : Json}
    (hread : readValue (fuel + 1) text = some (j, rest))
    (hwhole : rest ≠ [] ∨ text.head? = some 123) :
    readValue (fuel' + 1) (text ++ more) = some (j, rest ++ more) := by
  cases text with
  | nil => cases hread
  | cons c text =>
    rw [List.cons_append]
    by_cases hquote : c = 34
    · simp only [readValue, if_pos hquote] at hread ⊢
      obtain ⟨⟨s, rest'⟩, hs, hread⟩ := Option.bind_eq_some_iff.mp hread
      cases hread
      rw [readText_append hs more]
      rfl
    by_cases harray : c = 91
    · simp only [readValue, if_neg hquote, if_pos harray] at hread ⊢
      cases text with
      | nil =>
        obtain ⟨_, hitem, -⟩ := Option.bind_eq_some_iff.mp hread
        cases fuel <;> cases hitem
      | cons d text =>
        simp only [List.head?_cons, List.drop_one, List.tail_cons, List.cons_append] at hread ⊢
        split_ifs at hread ⊢
        · cases hread
          rfl
        · obtain ⟨⟨item, text'⟩, hitem, hread⟩ := Option.bind_eq_some_iff.mp hread
          obtain ⟨⟨items, rest'⟩, hitems, hread⟩ := Option.bind_eq_some_iff.mp hread
          cases hread
          have hitem' := h.value hitem (.inl (readItems_ne_nil hitems))
          have hitems' := h.items hitems
          rw [List.cons_append] at hitem'
          simp [hitem', hitems']
    by_cases hobject : c = 123
    · simp only [readValue, if_neg hquote, if_neg harray, if_pos hobject] at hread ⊢
      cases text with
      | nil =>
        obtain ⟨_, hfield, -⟩ := Option.bind_eq_some_iff.mp hread
        cases fuel <;> cases hfield
      | cons d text =>
        simp only [List.head?_cons, List.drop_one, List.tail_cons, List.cons_append] at hread ⊢
        split_ifs at hread ⊢
        · cases hread
          rfl
        · obtain ⟨⟨field, text'⟩, hfield, hread⟩ := Option.bind_eq_some_iff.mp hread
          obtain ⟨⟨fields, rest'⟩, hfields, hread⟩ := Option.bind_eq_some_iff.mp hread
          cases hread
          have hfield' := h.field hfield (readFields_ne_nil hfields)
          have hfields' := h.fields hfields
          rw [List.cons_append] at hfield'
          simp [hfield', hfields']
    have hrest : rest ≠ [] := by
      cases hwhole with
      | inl hrest => exact hrest
      | inr hc => exact absurd (Option.some.inj hc) hobject
    simp only [readValue, if_neg hquote, if_neg harray, if_neg hobject] at hread ⊢
    split_ifs at hread ⊢
    · obtain ⟨⟨n, rest'⟩, hn, hread⟩ := Option.map_eq_some_iff.mp hread
      cases hread
      have hn' := readNatural_append hn hrest more
      rw [List.cons_append] at hn'
      rw [hn']
      rfl
    · exact readWord_append hread more

theorem stable (more : Bytes) {fuel fuel' : Nat} (hfuel : fuel ≤ fuel') :
    Stable more fuel fuel' := by
  induction fuel generalizing fuel' with
  | zero => exact ⟨nofun, nofun, nofun, nofun⟩
  | succ fuel ih =>
    obtain ⟨fuel', rfl⟩ := Nat.exists_eq_succ_of_ne_zero (show fuel' ≠ 0 by omega)
    have h := ih (Nat.le_of_succ_le_succ hfuel)
    exact ⟨h.value_succ, h.items_succ, h.field_succ, h.fields_succ⟩

end Step

theorem parse_eq_some {j : Json} :
    parse text = some j ↔ readValue (text.length + 1) text = some (j, []) := by
  unfold parse
  constructor
  · intro h
    split at h
    · next hread =>
      cases h
      exact hread
    · cases h
  · intro h
    rw [h]

/-- A JSON text that starts like an object ends where the object ends. -/
theorem parse_prefix {more : Bytes} {j j' : Json} (hobject : text.head? = some 123)
    (h : parse text = some j) (h' : parse (text ++ more) = some j') : more = [] := by
  have hfuel : text.length + 1 ≤ (text ++ more).length + 1 := by simp
  have hlonger := (stable more hfuel).value (parse_eq_some.mp h) (.inr hobject)
  rw [parse_eq_some.mp h'] at hlonger
  cases more with
  | nil => rfl
  | cons c more => cases hlonger

theorem render_object (fields : Fields) : (render (.object fields)).head? = some 123 := by
  cases fields with
  | nil => rfl
  | cons field fields => rfl

/-- No first part of an object's text is a JSON text, short of all of it. -/
theorem parse_torn {j : Json} {torn : Bytes} (h : parse text = some j)
    (hobject : text.head? = some 123) (htorn : torn <+: text) (hne : torn ≠ text) :
    parse torn = none := by
  obtain ⟨more, rfl⟩ := htorn
  cases torn with
  | nil => rfl
  | cons c torn =>
    cases hparse : parse (c :: torn) with
    | none => rfl
    | some j' =>
      have hhead : (c :: torn).head? = some 123 := hobject
      have hnil := parse_prefix hhead hparse h
      rw [hnil, List.append_nil] at hne
      exact absurd rfl hne

end Json.Compact

namespace Json
open ByteText
variable {ε : Type}

/-- The text of an object tells where it ends: no first part of it is a JSON text. -/
def Library.SelfDelimiting (lib : Library ε) : Prop :=
  ∀ (fields : Fields) (text torn : Bytes), (Json.object fields).Canonical →
    lib.dump (.object fields) = .ok text → torn <+: text → torn ≠ text → lib.parse torn = none

theorem Compact.selfDelimiting (e : ε) : (Compact.library e).SelfDelimiting := by
  intro fields text torn hcanonical hdump htorn hne
  have hparse := (Compact.library e).parse_dump _ text hcanonical hdump
  obtain ⟨-, rfl⟩ := Compact.dump_eq_ok.mp hdump
  exact Compact.parse_torn hparse (Compact.render_object fields) htorn hne

end Json
