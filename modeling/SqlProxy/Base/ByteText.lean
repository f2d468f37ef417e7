import Mathlib.Data.List.Basic
import Mathlib.Data.List.Infix
import Mathlib.Tactic.SplitIfs

/-! Byte strings with the ASCII operations of a locale-independent C++ program.
Text is a list of bytes: nothing here assumes an encoding. -/
namespace ByteText

abbrev Bytes := List UInt8

/-- The bytes of a literal. Every literal passed here is ASCII. -/
def ascii (s : String) : Bytes := s.toList.map Char.toUInt8

def lowerByte (c : UInt8) : UInt8 :=
  if 65 ≤ c ∧ c ≤ 90 then c - 65 + 97 else c

def asciiLower (s : Bytes) : Bytes := s.map lowerByte

def isDigit (c : UInt8) : Bool := 48 ≤ c && c ≤ 57

/-- The decimal digits of a natural number. -/
def decimal (n : Nat) : Bytes := (Nat.toDigits 10 n).map Char.toUInt8

def dot : UInt8 := 46
def newline : UInt8 := 10
def zero : UInt8 := 48
def minus : UInt8 := 45

/-- `printf` of an integer by `%0<width>d`. -/
def padded (width : Nat) (n : Int) : Bytes :=
  if n < 0 then
    minus :: (List.replicate (width - 1 - (decimal n.natAbs).length) zero ++ decimal n.natAbs)
  else List.replicate (width - (decimal n.natAbs).length) zero ++ decimal n.natAbs

/-- Printable ASCII. -/
def Printable (s : Bytes) : Prop := ∀ c ∈ s, 32 ≤ c ∧ c < 127

instance (s : Bytes) : Decidable (Printable s) :=
  List.decidableBAll (fun c => 32 ≤ c ∧ c < 127) s

def IsAscii (s : Bytes) : Prop := ∀ c ∈ s, c < 128

instance (s : Bytes) : Decidable (IsAscii s) := List.decidableBAll (fun c => c < 128) s

theorem lowerByte_idem (c : UInt8) : lowerByte (lowerByte c) = lowerByte c := by
  unfold lowerByte
  split
  · next h =>
    have hc : c.toNat < 91 := by have := UInt8.le_iff_toNat_le.mp h.2; simp at this; omega
    have hc' : 65 ≤ c.toNat := by simpa using UInt8.le_iff_toNat_le.mp h.1
    rw [if_neg]
    intro hup
    have := UInt8.le_iff_toNat_le.mp hup.2
    simp [UInt8.toNat_add, UInt8.toNat_sub] at this
    omega
  · rfl

@[simp] theorem asciiLower_asciiLower (s : Bytes) :
    asciiLower (asciiLower s) = asciiLower s := by
  simp [asciiLower, lowerByte_idem]

@[simp] theorem asciiLower_nil : asciiLower [] = [] := rfl

/-- Only upper-case letters change, so no other byte comes or goes. -/
theorem mem_asciiLower {b : UInt8} {s : Bytes} (hb : b < 65) : b ∈ asciiLower s ↔ b ∈ s := by
  have hlower (c : UInt8) : lowerByte c = b ↔ c = b := by
    unfold lowerByte
    split_ifs with hc
    · have hb' := UInt8.lt_iff_toNat_lt.mp hb
      have hlow := UInt8.le_iff_toNat_le.mp hc.1
      have hhigh := UInt8.le_iff_toNat_le.mp hc.2
      simp only [← UInt8.toNat_inj, UInt8.toNat_add, UInt8.toNat_sub]
      change b.toNat < 65 at hb'
      change 65 ≤ c.toNat at hlow
      change c.toNat ≤ 90 at hhigh
      change ((256 - 65 + c.toNat) % 256 + 97) % 256 = b.toNat ↔ c.toNat = b.toNat
      omega
    · rfl
  simp [asciiLower, hlower]

theorem decimal_ne_nil (n : Nat) : decimal n ≠ [] := by
  simp [decimal, Nat.toDigits_ne_nil]

theorem toNat_of_isDigit {c : Char} (h : c.isDigit = true) :
    48 ≤ c.toNat ∧ c.toNat ≤ 57 := by
  simp only [Char.isDigit, Bool.and_eq_true, decide_eq_true_eq, ge_iff_le,
    UInt32.le_iff_toNat_le] at h
  exact h

theorem isDigit_decimal {n : Nat} {b : UInt8} (h : b ∈ decimal n) : isDigit b = true := by
  obtain ⟨c, hc, rfl⟩ := List.mem_map.mp h
  have hdigit := toNat_of_isDigit (Nat.isDigit_of_mem_toDigits (by omega) (by omega) hc)
  have hnat : c.toUInt8.toNat = c.toNat := by
    change c.toNat % 256 = c.toNat
    omega
  simp only [isDigit, Bool.and_eq_true, decide_eq_true_eq, UInt8.le_iff_toNat_le, hnat]
  exact hdigit

theorem Printable.isAscii {s : Bytes} (h : Printable s) : IsAscii s :=
  fun c hc => UInt8.lt_trans (h c hc).2 (by decide)

theorem printable_append {s t : Bytes} : Printable (s ++ t) ↔ Printable s ∧ Printable t :=
  List.forall_mem_append

theorem printable_cons {c : UInt8} {s : Bytes} :
    Printable (c :: s) ↔ (32 ≤ c ∧ c < 127) ∧ Printable s :=
  List.forall_mem_cons

theorem printable_decimal (n : Nat) : Printable (decimal n) := by
  intro c hc
  have hdigit := isDigit_decimal hc
  simp only [isDigit, Bool.and_eq_true, decide_eq_true_eq, UInt8.le_iff_toNat_le] at hdigit
  rw [UInt8.le_iff_toNat_le, UInt8.lt_iff_toNat_lt]
  change 32 ≤ c.toNat ∧ c.toNat < 127
  change 48 ≤ c.toNat ∧ c.toNat ≤ 57 at hdigit
  omega

theorem printable_padded (width : Nat) (n : Int) : Printable (padded width n) := by
  have hzeros (k : Nat) : Printable (List.replicate k zero) := by
    intro c hc
    rw [List.eq_of_mem_replicate hc]
    decide
  have hdigits := printable_decimal n.natAbs
  unfold padded
  split_ifs
  · exact printable_cons.mpr ⟨by decide, printable_append.mpr ⟨hzeros _, hdigits⟩⟩
  · exact printable_append.mpr ⟨hzeros _, hdigits⟩

theorem mem_of_lookup {α β : Type} [BEq α] [LawfulBEq α] {l : List (α × β)} {a : α} {b : β}
    (h : l.lookup a = some b) : (a, b) ∈ l := by
  obtain ⟨front, back, rfl, -⟩ := List.lookup_eq_some_iff.mp h
  simp

/-- Where no key occurs twice, an entry is found under its key. -/
theorem lookup_of_mem {α β : Type} [BEq α] [LawfulBEq α] {l : List (α × β)} {a : α} {b : β}
    (hnodup : (l.map Prod.fst).Nodup) (h : (a, b) ∈ l) : l.lookup a = some b := by
  obtain ⟨front, back, rfl⟩ := List.append_of_mem h
  rw [List.map_append, List.map_cons, List.nodup_append] at hnodup
  refine List.lookup_eq_some_iff.mpr ⟨front, back, rfl, ?_⟩
  intro p hp
  have hne : p.1 ≠ a := hnodup.2.2 p.1 (List.mem_map_of_mem hp) a (by simp)
  simpa using Ne.symm hne

/-- Equality up to ASCII case. -/
def SameName (s t : Bytes) : Prop := asciiLower s = asciiLower t

instance (s t : Bytes) : Decidable (SameName s t) := inferInstanceAs (Decidable (_ = _))

theorem SameName.refl (s : Bytes) : SameName s s := rfl

theorem SameName.symm {s t : Bytes} (h : SameName s t) : SameName t s := Eq.symm h

theorem SameName.trans {s t u : Bytes} (h : SameName s t) (k : SameName t u) : SameName s u :=
  Eq.trans h k

/-- `std::string::find` of one byte. -/
def find (b : UInt8) (s : Bytes) : Option Nat := s.findIdx? (· == b)

theorem find_eq_none {b : UInt8} {s : Bytes} : find b s = none ↔ b ∉ s := by
  rw [find, List.findIdx?_eq_none_iff]
  simp only [beq_eq_false_iff_ne]
  constructor
  · intro h hb
    exact h b hb rfl
  · intro h c hc he
    exact h (he ▸ hc)

/-- The first `b` is the one that no `b` stands before. -/
theorem find_split {b : UInt8} {l : Bytes} (d : Bytes) (h : b ∉ l) :
    find b (l ++ b :: d) = some l.length := by
  have hl : l.findIdx? (· == b) = none := find_eq_none.mpr h
  rw [find, List.findIdx?_append, hl]
  simp [List.findIdx?_cons]

/-- `std::string::rfind` of one byte. -/
def rfind (b : UInt8) : Bytes → Option Nat
  | [] => none
  | c :: s =>
    match rfind b s with
    | some i => some (i + 1)
    | none => if c = b then some 0 else none

/-- What follows the last `b`, and the whole text where there is none. -/
def afterLast (b : UInt8) (s : Bytes) : Bytes :=
  match rfind b s with
  | some i => s.drop (i + 1)
  | none => s

theorem rfind_eq_none {b : UInt8} {s : Bytes} : rfind b s = none ↔ b ∉ s := by
  induction s with
  | nil => simp [rfind]
  | cons c s ih =>
    cases h : rfind b s with
    | some i => simp [rfind, h, ← ih]
    | none =>
      have hs : b ∉ s := ih.mp h
      by_cases hc : c = b
      · simp [rfind, h, hc]
      · simp [rfind, h, hc, hs, Ne.symm hc]

theorem afterLast_of_not_mem {b : UInt8} {s : Bytes} (h : b ∉ s) : afterLast b s = s := by
  simp [afterLast, rfind_eq_none.mpr h]

theorem afterLast_cons (b c : UInt8) (s : Bytes) :
    afterLast b (c :: s) = if b ∈ s then afterLast b s else if c = b then s else c :: s := by
  cases h : rfind b s with
  | some i =>
    have hs : b ∈ s := by
      by_contra hn
      simp [rfind_eq_none.mpr hn] at h
    simp [afterLast, rfind, h, hs]
  | none =>
    have hs : b ∉ s := rfind_eq_none.mp h
    by_cases hc : c = b <;> simp [afterLast, rfind, h, hs, hc]

/-- A prefix that ends in the separator is dropped whatever it holds. -/
theorem afterLast_append_sep (b : UInt8) (q n : Bytes) :
    afterLast b (q ++ b :: n) = afterLast b n := by
  induction q with
  | nil =>
    rw [List.nil_append, afterLast_cons]
    by_cases h : b ∈ n
    · simp [h]
    · simp [h, afterLast_of_not_mem h]
  | cons c q ih =>
    rw [List.cons_append, afterLast_cons, if_pos (by simp), ih]

end ByteText
