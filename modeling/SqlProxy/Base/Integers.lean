import SqlProxy.Base.FixedWidth
import Mathlib.Data.List.TakeWhile

/-! Integers as text in base ten: `std::to_string` and `std::from_chars`. -/
namespace ByteText

/-- `std::to_string`. -/
def integer (n : Int) : Bytes :=
  if n < 0 then minus :: decimal n.natAbs else decimal n.natAbs

def digitValue (c : UInt8) : Nat := c.toNat - 48

/-- What digits mean together, the most significant first. -/
def numeral (text : Bytes) : Nat := text.foldl (fun n c => 10 * n + digitValue c) 0

inductive CharsError where
  | invalidArgument | resultOutOfRange
  deriving DecidableEq

/-- What `std::from_chars` says: the value it stores, and the text behind the number. -/
structure FromChars where
  parsed : Except CharsError Int
  rest : Bytes

/-- `std::from_chars` into an integer type from `low` to `high`. It takes a minus sign, but no
plus sign and no blank. -/
def fromChars (low high : Int) (text : Bytes) : FromChars :=
  let negative := text.head? = some minus
  let body := if negative then text.drop 1 else text
  let digits := body.takeWhile isDigit
  if digits = [] then ⟨.error .invalidArgument, text⟩
  else
    let n : Int := if negative then -numeral digits else numeral digits
    if low ≤ n ∧ n ≤ high then ⟨.ok n, body.drop digits.length⟩
    else ⟨.error .resultOutOfRange, body.drop digits.length⟩

/-- A decimal numeral for `n`, with any number of leading zeros. -/
def IsNumeral (text : Bytes) (n : Nat) : Prop :=
  ∃ zeros, text = List.replicate zeros zero ++ decimal n

section Numerals
variable {text : Bytes} {n : Nat}

theorem numeral_snoc (text : Bytes) (c : UInt8) :
    numeral (text ++ [c]) = 10 * numeral text + digitValue c := by
  simp [numeral]

theorem digitValue_digit {d : Nat} (h : d < 10) : digitValue (digit d) = d := by
  rw [digitValue, digit_toNat h]
  omega

theorem digitValue_lt {c : UInt8} (h : isDigit c = true) : digitValue c < 10 := by
  simp only [isDigit, Bool.and_eq_true, decide_eq_true_eq, UInt8.le_iff_toNat_le] at h
  change 48 ≤ c.toNat ∧ c.toNat ≤ 57 at h
  unfold digitValue
  omega

theorem digit_digitValue {c : UInt8} (h : isDigit c = true) : digit (digitValue c) = c := by
  rw [← UInt8.toNat_inj, digit_toNat (digitValue_lt h)]
  simp only [isDigit, Bool.and_eq_true, decide_eq_true_eq, UInt8.le_iff_toNat_le] at h
  change 48 ≤ c.toNat ∧ c.toNat ≤ 57 at h
  unfold digitValue
  omega

theorem numeral_zeros (zeros : Nat) : numeral (List.replicate zeros zero) = 0 := by
  induction zeros with
  | zero => rfl
  | succ zeros ih => rw [List.replicate_succ', numeral_snoc, ih]; rfl

/-- The numeral of a number means that number. -/
theorem numeral_of_isNumeral (h : IsNumeral text n) : numeral text = n := by
  obtain ⟨zeros, rfl⟩ := h
  induction n using Nat.strongRecOn with
  | ind n ih =>
    rw [decimal_eq_if]
    split_ifs with hn
    · rw [numeral_snoc, numeral_zeros, digitValue_digit hn]
      omega
    · have hfront := ih (n / 10) (by omega)
      rw [← List.append_assoc, numeral_snoc, hfront, digitValue_digit (Nat.mod_lt n (by omega))]
      omega

/-- Any digits are the numeral of what they mean. -/
theorem isNumeral_numeral (hne : text ≠ []) (h : ∀ c ∈ text, isDigit c = true) :
    IsNumeral text (numeral text) := by
  induction text using List.reverseRecOn with
  | nil => exact absurd rfl hne
  | append_singleton text c ih =>
    have hc := h c (List.mem_append_right text (List.mem_singleton_self c))
    have hvalue := digitValue_lt hc
    have htext : ∀ d ∈ text, isDigit d = true := fun d hd => h d (List.mem_append_left _ hd)
    rw [numeral_snoc]
    by_cases hempty : text = []
    · subst hempty
      refine ⟨0, ?_⟩
      rw [decimal_eq_if, if_pos (by simpa [numeral] using hvalue)]
      simp [numeral, digit_digitValue hc]
    · obtain ⟨zeros, hzeros⟩ := ih hempty htext
      by_cases hzero : numeral text = 0
      · -- only zeros so far, so the last digit is the whole number
        refine ⟨zeros + 1, ?_⟩
        rw [hzero] at hzeros ⊢
        rw [decimal_eq_if, if_pos (by omega), hzeros, List.replicate_succ']
        simp only [Nat.mul_zero, Nat.zero_add, digit_digitValue hc]
        rfl
      · refine ⟨zeros, ?_⟩
        have hdiv : (10 * numeral text + digitValue c) / 10 = numeral text := by omega
        have hmod : (10 * numeral text + digitValue c) % 10 = digitValue c := by omega
        rw [decimal_eq_if, if_neg (by omega), hdiv, hmod, digit_digitValue hc, ← List.append_assoc,
          ← hzeros]

theorem isDigit_of_isNumeral (h : IsNumeral text n) : ∀ c ∈ text, isDigit c = true := by
  obtain ⟨zeros, rfl⟩ := h
  intro c hc
  cases List.mem_append.mp hc with
  | inl hc =>
    rw [List.eq_of_mem_replicate hc]
    decide
  | inr hc => exact isDigit_decimal hc

theorem IsNumeral.ne_nil (h : IsNumeral text n) : text ≠ [] := by
  obtain ⟨zeros, rfl⟩ := h
  simp [decimal_ne_nil n]

end Numerals

section FromChars
variable {low high n : Int} {text : Bytes}

/-- A text that is a number to its end, and a positive one, is a numeral and nothing else. -/
theorem fromChars_positive (hpos : 0 < n) :
    (fromChars low high text).parsed = .ok n ∧ (fromChars low high text).rest = [] ↔
      (low ≤ n ∧ n ≤ high) ∧ IsNumeral text n.toNat := by
  unfold fromChars
  constructor
  · rintro ⟨hparsed, hrest⟩
    by_cases hneg : text.head? = some minus
    · simp only [hneg, if_true] at hparsed
      split_ifs at hparsed
      cases hparsed
      omega
    · simp only [hneg, if_false] at hparsed hrest
      split_ifs at hparsed hrest with hdigits hrange
      cases hparsed
      have hall : text.takeWhile isDigit = text := by
        have hlength := List.drop_eq_nil_iff.mp hrest
        exact (List.takeWhile_prefix isDigit).eq_of_length_le hlength
      rw [hall] at hdigits hrange hpos ⊢
      refine ⟨hrange, ?_⟩
      rw [Int.toNat_natCast]
      exact isNumeral_numeral hdigits (List.takeWhile_eq_self_iff.mp hall)
  · rintro ⟨hrange, hnumeral⟩
    have hall := isDigit_of_isNumeral hnumeral
    have hneg : text.head? ≠ some minus := by
      intro hhead
      have hminus := hall minus (List.mem_of_head? hhead)
      revert hminus
      decide
    have hvalue : ((numeral text : Nat) : Int) = n := by
      rw [numeral_of_isNumeral hnumeral]
      omega
    simp only [hneg, if_false, List.takeWhile_eq_self_iff.mpr hall, hnumeral.ne_nil, hvalue, hrange,
      and_self, if_true, List.drop_length]

end FromChars
end ByteText
