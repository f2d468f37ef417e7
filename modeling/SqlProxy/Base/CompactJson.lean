import SqlProxy.Base.Json

/-! A library of compact JSON: no blanks, strings escaped only where they must be, and a
reader of exactly these texts. -/
namespace Json.Compact
open ByteText

def hexDigit (n : UInt8) : UInt8 := if n < 10 then 48 + n else 87 + n

def unhex (c : UInt8) : Option UInt8 :=
  if 48 ≤ c ∧ c ≤ 57 then some (c - 48)
  else if 97 ≤ c ∧ c ≤ 102 then some (c - 87)
  else none

/-- The byte with the digits `h` and `l`, when it is ASCII. -/
def unhexByte (h l : UInt8) : Option UInt8 := do
  let high ← unhex h
  let low ← unhex l
  if high < 8 then some (16 * high + low) else none

/-- Bytes with a short escape, and the letter of it. -/
def shortEscapes : List (UInt8 × UInt8) :=
  [(34, 34), (92, 92), (8, 98), (9, 116), (10, 110), (12, 102), (13, 114)]

def escapeByte (c : UInt8) : Bytes :=
  match shortEscapes.lookup c with
  | some letter => [92, letter]
  | none => if c < 32 then [92, 117, 48, 48, hexDigit (c / 16), hexDigit (c % 16)] else [c]

def quote (s : Bytes) : Bytes := 34 :: (s.flatMap escapeByte ++ [34])

mutual
def render : Json → Bytes
  | .null => ascii "null"
  | .bool true => ascii "true"
  | .bool false => ascii "false"
  | .unsigned n => decimal n
  | .number literal => literal
  | .string s => quote s
  | .array [] => ascii "[]"
  | .array (item :: items) => 91 :: (render item ++ renderItems items)
  | .object [] => ascii "\x7b\x7d"
  | .object ((key, value) :: fields) =>
    123 :: (quote key ++ 58 :: (render value ++ renderFields fields))
def renderItems : List Json → Bytes
  | [] => [93]
  | item :: items => 44 :: (render item ++ renderItems items)
def renderFields : List (Bytes × Json) → Bytes
  | [] => [125]
  | (key, value) :: fields => 44 :: (quote key ++ 58 :: (render value ++ renderFields fields))
end

def unescape (letter : UInt8) : Option UInt8 :=
  (shortEscapes.find? fun entry => entry.2 = letter).map Prod.fst

/-- What follows a backslash. -/
def readEscape : Bytes → Option (UInt8 × Bytes)
  | [] => none
  | [letter] => (unescape letter).map (·, [])
  | letter :: rest =>
    if letter = 117 then
      match rest with
      | 48 :: 48 :: h :: l :: rest => (unhexByte h l).map (·, rest)
      | _ => none
    else (unescape letter).map (·, rest)

/-- One byte of a string, escaped or plain. -/
def readByte : Bytes → Option (UInt8 × Bytes)
  | [] => none
  | c :: rest =>
    if c = 92 then readEscape rest
    else if c < 32 ∨ c = 34 then none
    else some (c, rest)

theorem unhexByte_hexDigit : ∀ n : Fin 32,
    unhexByte (hexDigit (UInt8.ofNat n / 16)) (hexDigit (UInt8.ofNat n % 16)) =
      some (UInt8.ofNat n) := by
  decide

theorem unescape_letter : ∀ entry ∈ shortEscapes,
    entry.2 ≠ 117 ∧ unescape entry.2 = some entry.1 := by
  have hall : (shortEscapes.all fun entry =>
      entry.2 ≠ 117 ∧ unescape entry.2 = some entry.1) = true := by
    decide
  exact fun entry h => of_decide_eq_true (List.all_eq_true.mp hall entry h)

theorem readByte_escape (c : UInt8) (rest : Bytes) :
    readByte (escapeByte c ++ rest) = some (c, rest) := by
  unfold escapeByte
  cases h : shortEscapes.lookup c with
  | some letter =>
    obtain ⟨hne, hun⟩ := unescape_letter _ (mem_of_lookup h)
    cases rest <;> simp [readByte, readEscape, hne, hun]
  | none =>
    by_cases hc : c < 32
    · have hn := unhexByte_hexDigit ⟨c.toNat, by simpa [UInt8.lt_iff_toNat_lt] using hc⟩
      simp only [UInt8.ofNat_toNat] at hn
      simp [hc, readByte, readEscape, hn]
    · have hnot := List.lookup_eq_none_iff.mp h
      have hquote : c ≠ 34 := by simpa using hnot (34, 34) (by decide)
      have hslash : c ≠ 92 := by simpa using hnot (92, 92) (by decide)
      simp [hc, readByte, hquote, hslash]

/-- No escaped byte looks like the closing quote. -/
theorem escapeByte_head (c : UInt8) : ∃ d tail, escapeByte c = d :: tail ∧ d ≠ 34 := by
  unfold escapeByte
  cases h : shortEscapes.lookup c with
  | some letter => exact ⟨92, [letter], rfl, by decide⟩
  | none =>
    by_cases hc : c < 32
    · exact ⟨92, _, if_pos hc, by decide⟩
    · have hquote : c ≠ 34 := by
        simpa using List.lookup_eq_none_iff.mp h (34, 34) (by decide)
      exact ⟨c, [], if_neg hc, hquote⟩

/-- The rest of a string whose opening quote has been read. -/
def readString : Nat → Utf8.State → Bytes → Option (Bytes × Bytes)
  | 0, _, _ => none
  | _ + 1, _, [] => none
  | fuel + 1, state, c :: text =>
    if c = 34 then if state = .start then some ([], text) else none
    else do
      let (b, rest) ← readByte (c :: text)
      let (s, rest) ← readString fuel (Utf8.step state b) rest
      pure (b :: s, rest)

theorem readString_quote (s rest : Bytes) (state : Utf8.State)
    (hs : Utf8.run state s = .start) (fuel : Nat) (hf : s.length < fuel) :
    readString fuel state (s.flatMap escapeByte ++ 34 :: rest) = some (s, rest) := by
  induction s generalizing state fuel with
  | nil =>
    cases fuel with
    | zero => simp at hf
    | succ fuel =>
      have hstart : state = .start := hs
      simp [readString, hstart]
  | cons c s ih =>
    cases fuel with
    | zero => simp at hf
    | succ fuel =>
      obtain ⟨d, tail, hd, hquote⟩ := escapeByte_head c
      have hbyte := readByte_escape c (s.flatMap escapeByte ++ 34 :: rest)
      have hrest := ih (Utf8.step state c) hs fuel (by simpa using hf)
      rw [List.flatMap_cons, List.append_assoc]
      rw [hd, List.cons_append] at hbyte ⊢
      rw [readString, if_neg hquote, hbyte]
      simp [hrest]

/-- A string after its opening quote. -/
def readText (text : Bytes) : Option (Bytes × Bytes) := readString text.length .start text

theorem length_le_escaped (s : Bytes) : s.length ≤ (s.flatMap escapeByte).length := by
  induction s with
  | nil => simp
  | cons c s ih =>
    obtain ⟨d, tail, hd, -⟩ := escapeByte_head c
    rw [List.flatMap_cons, List.length_append, hd, List.length_cons, List.length_cons]
    omega

theorem readText_quote (s rest : Bytes) (h : Utf8.Valid s) :
    readText (s.flatMap escapeByte ++ 34 :: rest) = some (s, rest) := by
  apply readString_quote s rest .start h
  have hle := length_le_escaped s
  rw [List.length_append, List.length_cons]
  omega

def readNatural (text : Bytes) : Option (Nat × Bytes) :=
  let digits := text.takeWhile isDigit
  if digits.isEmpty then none
  else
    let characters := digits.map fun c => Char.ofNat c.toNat
    some (Nat.ofDigitChars 10 characters 0, text.drop digits.length)

/-- The text after a number does not go on with a digit. -/
def Stops (text : Bytes) : Prop := ∀ c, text.head? = some c → isDigit c = false

theorem takeWhile_stops {digits rest : Bytes} (hd : ∀ c ∈ digits, isDigit c = true)
    (h : Stops rest) : (digits ++ rest).takeWhile isDigit = digits := by
  rw [List.takeWhile_append_of_pos hd]
  cases rest with
  | nil => simp
  | cons c rest => simp [h c rfl]

theorem characters_decimal (n : Nat) :
    (decimal n).map (fun c => Char.ofNat c.toNat) = Nat.toDigits 10 n := by
  rw [decimal, List.map_map]
  conv_rhs => rw [← List.map_id (Nat.toDigits 10 n)]
  apply List.map_congr_left
  intro c hc
  have hdigit := toNat_of_isDigit (Nat.isDigit_of_mem_toDigits (by omega) (by omega) hc)
  have hnat : c.toUInt8.toNat = c.toNat := by
    change c.toNat % 256 = c.toNat
    omega
  simp [hnat]

theorem readNatural_decimal (n : Nat) {rest : Bytes} (h : Stops rest) :
    readNatural (decimal n ++ rest) = some (n, rest) := by
  have htake := takeWhile_stops (fun c hc => isDigit_decimal (n := n) hc) h
  have hne : (decimal n).isEmpty = false := by simpa using decimal_ne_nil n
  simp only [readNatural, htake, hne, Bool.false_eq_true, if_false, characters_decimal,
    Nat.ofDigitChars_ten_toDigits, List.drop_left]

/-- Leading zeros change no number. -/
theorem readNatural_padded (width n : Nat) {rest : Bytes} (h : Stops rest) :
    readNatural (padded width n ++ rest) = some (n, rest) := by
  have hzero : Char.ofNat zero.toNat = '0' := by decide
  have hpadded : padded width n =
      List.replicate (width - (decimal n).length) zero ++ decimal n := by
    have hneg : ¬ (n : Int) < 0 := by omega
    rw [padded, if_neg hneg, Int.natAbs_natCast]
  have hdigits : ∀ c ∈ padded width n, isDigit c = true := by
    rw [hpadded]
    intro c hc
    cases List.mem_append.mp hc with
    | inl hc =>
      rw [List.eq_of_mem_replicate hc]
      decide
    | inr hc => exact isDigit_decimal hc
  have hne : (padded width n).isEmpty = false := by
    rw [hpadded]
    simp [decimal_ne_nil n]
  have hvalue (k : Nat) (digits : List Char) :
      Nat.ofDigitChars 10 (List.replicate k '0' ++ digits) 0 = Nat.ofDigitChars 10 digits 0 := by
    induction k with
    | zero => rfl
    | succ k ih => exact ih
  simp only [readNatural, takeWhile_stops hdigits h, hne, Bool.false_eq_true, if_false,
    List.drop_left]
  rw [hpadded, List.map_append, List.map_replicate, hzero, hvalue, characters_decimal,
    Nat.ofDigitChars_ten_toDigits]

def words : List (Bytes × Json) :=
  [(ascii "null", .null), (ascii "true", .bool true), (ascii "false", .bool false)]

def readWord (text : Bytes) : Option (Json × Bytes) :=
  words.findSome? fun word =>
    if word.1.isPrefixOf text then some (word.2, text.drop word.1.length) else none

def ofFields (fields : Fields) : Json :=
  .object (setFields fields [])

mutual
def readValue : Nat → Bytes → Option (Json × Bytes)
  | 0, _ => none
  | _ + 1, [] => none
  | fuel + 1, c :: text =>
    if c = 34 then do
      let (s, rest) ← readText text
      pure (.string s, rest)
    else if c = 91 then
      if text.head? = some 93 then some (.array [], text.drop 1)
      else do
        let (item, rest) ← readValue fuel text
        let (items, rest) ← readItems fuel rest
        pure (.array (item :: items), rest)
    else if c = 123 then
      if text.head? = some 125 then some (.object [], text.drop 1)
      else do
        let (field, rest) ← readField fuel text
        let (fields, rest) ← readFields fuel rest
        pure (ofFields (field :: fields), rest)
    else if isDigit c then (readNatural (c :: text)).map fun (n, rest) => (.unsigned n, rest)
    else readWord (c :: text)
def readItems : Nat → Bytes → Option (List Json × Bytes)
  | 0, _ => none
  | _ + 1, [] => none
  | fuel + 1, c :: text =>
    if c = 93 then some ([], text)
    else if c = 44 then do
      let (item, rest) ← readValue fuel text
      let (items, rest) ← readItems fuel rest
      pure (item :: items, rest)
    else none
def readField : Nat → Bytes → Option ((Bytes × Json) × Bytes)
  | 0, _ => none
  | _ + 1, [] => none
  | fuel + 1, c :: text =>
    if c = 34 then do
      let (key, rest) ← readText text
      if rest.head? = some 58 then do
        let (value, rest) ← readValue fuel (rest.drop 1)
        pure ((key, value), rest)
      else none
    else none
def readFields : Nat → Bytes → Option (List (Bytes × Json) × Bytes)
  | 0, _ => none
  | _ + 1, [] => none
  | fuel + 1, c :: text =>
    if c = 125 then some ([], text)
    else if c = 44 then do
      let (field, rest) ← readField fuel text
      let (fields, rest) ← readFields fuel rest
      pure (field :: fields, rest)
    else none
end

def parse (text : Bytes) : Option Json :=
  match readValue (text.length + 1) text with
  | some (j, []) => some j
  | _ => none

/-- What follows a value inside an array or an object never goes on with a digit. -/
theorem stops_cons {c : UInt8} {rest : Bytes} (h : isDigit c = false) : Stops (c :: rest) := by
  intro d hd
  cases hd
  exact h

theorem stops_renderItems (items : List Json) (rest : Bytes) :
    Stops (renderItems items ++ rest) := by
  cases items with
  | nil => exact stops_cons (by decide)
  | cons item items => exact stops_cons (by decide)

theorem stops_renderFields (fields : Fields) (rest : Bytes) :
    Stops (renderFields fields ++ rest) := by
  cases fields with
  | nil => exact stops_cons (by decide)
  | cons field fields => exact stops_cons (by decide)

/-- A value never looks like the end of an array. -/
theorem render_head {j : Json} (h : j.Canonical) : ∃ c tail, render j = c :: tail ∧ c ≠ 93 := by
  cases j with
  | null => exact ⟨110, _, rfl, by decide⟩
  | bool b => cases b with
    | true => exact ⟨116, _, rfl, by decide⟩
    | false => exact ⟨102, _, rfl, by decide⟩
  | unsigned n =>
    obtain ⟨c, tail, hd⟩ := List.exists_cons_of_ne_nil (decimal_ne_nil n)
    refine ⟨c, tail, hd, ?_⟩
    rintro rfl
    have hdigit := isDigit_decimal (n := n) (b := 93) (by rw [hd]; exact List.mem_cons_self)
    revert hdigit
    decide
  | number literal => exact absurd h id
  | string s => exact ⟨34, _, rfl, by decide⟩
  | array items => cases items with
    | nil => exact ⟨91, _, rfl, by decide⟩
    | cons item items => exact ⟨91, _, rfl, by decide⟩
  | object fields => cases fields with
    | nil => exact ⟨123, _, rfl, by decide⟩
    | cons field fields => exact ⟨123, _, rfl, by decide⟩

theorem readField_render {key : Bytes} {value : Json} {fuel : Nat} {rest : Bytes}
    (hk : Utf8.Valid key) (hv : readValue fuel (render value ++ rest) = some (value, rest)) :
    readField (fuel + 1) (quote key ++ 58 :: (render value ++ rest)) =
      some ((key, value), rest) := by
  have hkey := readText_quote key (58 :: (render value ++ rest)) hk
  simp [quote, readField, hkey, hv]

mutual
/-- The reader gives back what was rendered, given as much fuel as there is text. -/
theorem readValue_render (j : Json) (hc : j.Canonical) (he : j.Encodable) (fuel : Nat)
    (rest : Bytes) (hs : Stops rest) (hf : (render j).length ≤ fuel) :
    readValue fuel (render j ++ rest) = some (j, rest) := by
  cases fuel with
  | zero =>
    obtain ⟨c, tail, hd, -⟩ := render_head hc
    simp [hd] at hf
  | succ fuel =>
    cases j with
    | null => rfl
    | bool b => cases b <;> rfl
    | unsigned n =>
      obtain ⟨c, tail, hd⟩ := List.exists_cons_of_ne_nil (decimal_ne_nil n)
      have hdigit := isDigit_decimal (n := n) (b := c) (by rw [hd]; exact List.mem_cons_self)
      have hne : c ≠ 34 ∧ c ≠ 91 ∧ c ≠ 123 := by
        refine ⟨?_, ?_, ?_⟩ <;> (rintro rfl; revert hdigit; decide)
      have hread := readNatural_decimal n hs
      rw [hd, List.cons_append] at hread
      simp [render, hd, readValue, hne, hdigit, hread]
    | number literal => exact absurd hc id
    | string s =>
      have hvalid : Utf8.Valid s := he s (by simp [strings])
      simp [render, quote, readValue, readText_quote s rest hvalid]
    | array items => cases items with
      | nil => rfl
      | cons item items =>
        have hf' : (render item).length + (renderItems items).length ≤ fuel := by
          simpa [render] using hf
        have hitem := readValue_render item hc.1 (fun s h => he s (by simp [strings, stringsAll, h]))
          fuel (renderItems items ++ rest) (stops_renderItems items rest) (by omega)
        have hitems := readItems_render items hc.2
          (fun s h => he s (by simp [strings, stringsAll, h])) fuel rest (by omega)
        obtain ⟨c, tail, hd, hne⟩ := render_head hc.1
        simp only [render, List.cons_append, List.append_assoc, readValue]
        rw [hd, List.cons_append] at hitem ⊢
        simp [hne, hitem, hitems]
    | object fields => match fields with
      | [] => rfl
      | (key, value) :: fields =>
        have hf' : (quote key).length + (render value).length + (renderFields fields).length <
            fuel := by
          simp [render] at hf
          omega
        obtain ⟨fuel, rfl⟩ : ∃ k, fuel = k + 1 := ⟨fuel - 1, by omega⟩
        have hvalue := readValue_render value hc.2.1
          (fun s h => he s (by simp [strings, stringsFields, h])) fuel
          (renderFields fields ++ rest) (stops_renderFields fields rest) (by omega)
        have hfields := readFields_render fields hc.2.2
          (fun s h => he s (by simp [strings, stringsFields, h])) (fuel + 1) rest (by omega)
        have hfield := readField_render (he key (by simp [strings, stringsFields])) hvalue
        have hsorted : setFields ((key, value) :: fields) [] = [] ++ (key, value) :: fields :=
          setFields_sorted [] hc.1
        simp only [render, List.cons_append, List.append_assoc, readValue]
        rw [quote, List.cons_append] at hfield ⊢
        generalize List.flatMap escapeByte key ++ [34] ++
          58 :: (render value ++ (renderFields fields ++ rest)) = text at hfield ⊢
        rw [List.nil_append] at hsorted
        simp [hfield, hfields, ofFields, hsorted]
theorem readItems_render (items : List Json) (hc : CanonicalAll items)
    (he : ∀ s ∈ stringsAll items, Utf8.Valid s) (fuel : Nat) (rest : Bytes)
    (hf : (renderItems items).length ≤ fuel) :
    readItems fuel (renderItems items ++ rest) = some (items, rest) := by
  cases fuel with
  | zero => cases items <;> simp [renderItems] at hf
  | succ fuel =>
    cases items with
    | nil => rfl
    | cons item items =>
      have hf' : (render item).length + (renderItems items).length ≤ fuel := by
        simpa [renderItems] using hf
      have hitem := readValue_render item hc.1 (fun s h => he s (by simp [stringsAll, h])) fuel
        (renderItems items ++ rest) (stops_renderItems items rest) (by omega)
      have hitems := readItems_render items hc.2 (fun s h => he s (by simp [stringsAll, h])) fuel
        rest (by omega)
      simp [renderItems, readItems, hitem, hitems]
theorem readFields_render (fields : Fields) (hc : CanonicalFields fields)
    (he : ∀ s ∈ stringsFields fields, Utf8.Valid s) (fuel : Nat) (rest : Bytes)
    (hf : (renderFields fields).length ≤ fuel) :
    readFields fuel (renderFields fields ++ rest) = some (fields, rest) := by
  cases fuel with
  | zero => cases fields <;> simp [renderFields] at hf
  | succ fuel =>
    match fields with
    | [] => rfl
    | (key, value) :: fields =>
      have hf' : (quote key).length + (render value).length + (renderFields fields).length <
          fuel := by
        simp [renderFields] at hf
        omega
      obtain ⟨fuel, rfl⟩ : ∃ k, fuel = k + 1 := ⟨fuel - 1, by omega⟩
      have hvalue := readValue_render value hc.1
        (fun s h => he s (by simp [stringsFields, h])) fuel
        (renderFields fields ++ rest) (stops_renderFields fields rest) (by omega)
      have hfields := readFields_render fields hc.2
        (fun s h => he s (by simp [stringsFields, h])) (fuel + 1) rest (by omega)
      have hfield := readField_render (he key (by simp [stringsFields])) hvalue
      simp [renderFields, readFields, hfield, hfields]
end

theorem parse_render {j : Json} (hc : j.Canonical) (he : j.Encodable) :
    parse (render j) = some j := by
  have hread := readValue_render j hc he ((render j).length + 1) [] (by simp [Stops]) (by omega)
  rw [List.append_nil] at hread
  rw [parse, hread]

/-! What stands in a rendered text. -/

def Copied (strings : List Bytes) (c : UInt8) : Prop :=
  32 ≤ c ∧ (c < 127 ∨ ∃ s ∈ strings, c ∈ s)

theorem Copied.mono {strings strings' : List Bytes} {c : UInt8} (h : Copied strings c)
    (hsub : ∀ s ∈ strings, s ∈ strings') : Copied strings' c := by
  obtain ⟨hle, hlt | ⟨s, hs, hc⟩⟩ := h
  · exact ⟨hle, .inl hlt⟩
  · exact ⟨hle, .inr ⟨s, hsub s hs, hc⟩⟩

theorem printable_letters : Printable (shortEscapes.map Prod.snd) := by decide

theorem printable_hexDigit : ∀ n : Fin 32,
    (32 ≤ hexDigit (UInt8.ofNat n / 16) ∧ hexDigit (UInt8.ofNat n / 16) < 127) ∧
    (32 ≤ hexDigit (UInt8.ofNat n % 16) ∧ hexDigit (UInt8.ofNat n % 16) < 127) := by
  decide

theorem copied_escapeByte {b c : UInt8} (hc : c ∈ escapeByte b) :
    32 ≤ c ∧ (c < 127 ∨ c = b) := by
  unfold escapeByte at hc
  cases h : shortEscapes.lookup b with
  | some letter =>
    have hletter := printable_letters letter (List.mem_map_of_mem (mem_of_lookup h))
    simp only [h, List.mem_cons, List.not_mem_nil, or_false] at hc
    rcases hc with rfl | rfl
    · exact ⟨by decide, .inl (by decide)⟩
    · exact ⟨hletter.1, .inl hletter.2⟩
  | none =>
    by_cases hb : b < 32
    · obtain ⟨hhigh, hlow⟩ :=
        printable_hexDigit ⟨b.toNat, by simpa [UInt8.lt_iff_toNat_lt] using hb⟩
      simp only [UInt8.ofNat_toNat] at hhigh hlow
      simp only [h, hb, if_true, List.mem_cons, List.not_mem_nil, or_false] at hc
      rcases hc with rfl | rfl | rfl | rfl | rfl | rfl
      · exact ⟨by decide, .inl (by decide)⟩
      · exact ⟨by decide, .inl (by decide)⟩
      · exact ⟨by decide, .inl (by decide)⟩
      · exact ⟨by decide, .inl (by decide)⟩
      · exact ⟨hhigh.1, .inl hhigh.2⟩
      · exact ⟨hlow.1, .inl hlow.2⟩
    · simp only [h, hb, if_false, List.mem_singleton] at hc
      exact ⟨hc ▸ UInt8.not_lt.mp hb, .inr hc⟩

theorem copied_quote {s : Bytes} {c : UInt8} (hc : c ∈ quote s) : Copied [s] c := by
  simp only [quote, List.mem_cons, List.mem_append, List.mem_flatMap, List.not_mem_nil,
    or_false] at hc
  rcases hc with rfl | ⟨b, hb, hc⟩ | rfl
  · exact ⟨by decide, .inl (by decide)⟩
  · obtain ⟨hle, hlt | rfl⟩ := copied_escapeByte hc
    · exact ⟨hle, .inl hlt⟩
    · exact ⟨hle, .inr ⟨s, List.mem_singleton_self s, hb⟩⟩
  · exact ⟨by decide, .inl (by decide)⟩

theorem copied_of_printable {strings : List Bytes} {c : UInt8} (h : 32 ≤ c ∧ c < 127) :
    Copied strings c := ⟨h.1, .inl h.2⟩

theorem copied_ascii {strings : List Bytes} {text : Bytes} (h : Printable text)
    {c : UInt8} (hc : c ∈ text) : Copied strings c := copied_of_printable (h c hc)

mutual
theorem copied_render (j : Json) (hj : j.Canonical) :
    ∀ c ∈ render j, Copied j.strings c := by
  intro c hc
  cases j with
  | null => exact copied_ascii (by decide) hc
  | bool b => cases b with
    | true => exact copied_ascii (by decide) hc
    | false => exact copied_ascii (by decide) hc
  | unsigned n => exact copied_ascii (printable_decimal n) hc
  | number literal => exact absurd hj id
  | string s => exact copied_quote hc
  | array items => cases items with
    | nil => exact copied_ascii (by decide) hc
    | cons item items =>
      simp only [render, List.mem_cons, List.mem_append] at hc
      rcases hc with rfl | hc | hc
      · exact copied_of_printable (by decide)
      · exact (copied_render item hj.1 c hc).mono fun s hs => by simp [strings, stringsAll, hs]
      · exact (copied_renderItems items hj.2 c hc).mono fun s hs => by
          simp [strings, stringsAll, hs]
  | object fields => match fields with
    | [] => exact copied_ascii (by decide) hc
    | (key, value) :: fields =>
      simp only [render, List.mem_cons, List.mem_append] at hc
      rcases hc with rfl | hc | rfl | hc | hc
      · exact copied_of_printable (by decide)
      · exact (copied_quote hc).mono fun s hs => by
          rw [List.mem_singleton.mp hs]
          exact List.mem_cons_self
      · exact copied_of_printable (by decide)
      · exact (copied_render value hj.2.1 c hc).mono fun s hs => by
          simp [strings, stringsFields, hs]
      · exact (copied_renderFields fields hj.2.2 c hc).mono fun s hs => by
          simp [strings, stringsFields, hs]
theorem copied_renderItems (items : List Json) (hj : CanonicalAll items) :
    ∀ c ∈ renderItems items, Copied (stringsAll items) c := by
  intro c hc
  cases items with
  | nil => exact copied_ascii (by decide) hc
  | cons item items =>
    simp only [renderItems, List.mem_cons, List.mem_append] at hc
    rcases hc with rfl | hc | hc
    · exact copied_of_printable (by decide)
    · exact (copied_render item hj.1 c hc).mono fun s hs => by simp [stringsAll, hs]
    · exact (copied_renderItems items hj.2 c hc).mono fun s hs => by simp [stringsAll, hs]
theorem copied_renderFields (fields : Fields) (hj : CanonicalFields fields) :
    ∀ c ∈ renderFields fields, Copied (stringsFields fields) c := by
  intro c hc
  match fields with
  | [] => exact copied_ascii (by decide) hc
  | (key, value) :: fields =>
    simp only [renderFields, List.mem_cons, List.mem_append] at hc
    rcases hc with rfl | hc | rfl | hc | hc
    · exact copied_of_printable (by decide)
    · exact (copied_quote hc).mono fun s hs => by
        rw [List.mem_singleton.mp hs]
        exact List.mem_cons_self
    · exact copied_of_printable (by decide)
    · exact (copied_render value hj.1 c hc).mono fun s hs => by simp [stringsFields, hs]
    · exact (copied_renderFields fields hj.2 c hc).mono fun s hs => by simp [stringsFields, hs]
end

/-- Dumping throws `e` on a string that is not UTF-8. -/
def dump {ε : Type} (e : ε) (j : Json) : Except ε Bytes :=
  if j.Encodable then .ok (render j) else .error e

theorem dump_eq_ok {ε : Type} {e : ε} {j : Json} {text : Bytes} :
    dump e j = .ok text ↔ j.Encodable ∧ render j = text := by
  unfold dump
  split_ifs with h <;> simp [h]

def library {ε : Type} (e : ε) : Library ε where
  parse := parse
  dump := dump e
  dump_ok := by
    intro j
    simp [dump_eq_ok]
  parse_dump := by
    intro j text hc hd
    obtain ⟨he, rfl⟩ := dump_eq_ok.mp hd
    exact parse_render hc he
  plain := by
    intro j text hc hd
    obtain ⟨-, rfl⟩ := dump_eq_ok.mp hd
    exact copied_render j hc

end Json.Compact
