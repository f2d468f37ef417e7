import SqlProxy.Base.ByteText
import Mathlib.Algebra.Group.Int.Defs
import Mathlib.Algebra.Group.Nat.Defs
import Mathlib.Data.List.Forall2

/-! Numbers in a fixed number of digits, and texts of such numbers with marks between them.
As long as every number fits its width, the texts sort as the numbers do. -/
namespace ByteText

/-- Behind fronts of one length the order is decided late, if at all. -/
theorem append_lt_append_iff {α : Type} [LT α] {a b s t : List α} (h : a.length = b.length) :
    a ++ s < b ++ t ↔ a < b ∨ a = b ∧ s < t := by
  induction a generalizing b with
  | nil =>
    obtain rfl := List.length_eq_zero_iff.mp h.symm
    simp
  | cons x a ih =>
    cases b with
    | nil => cases h
    | cons y b =>
      have hlen : a.length = b.length := by simpa using h
      simp only [List.cons_append, List.cons_lt_cons_iff, ih hlen, List.cons.injEq]
      grind

def digit (d : Nat) : UInt8 := UInt8.ofNat (48 + d)

/-- The last `width` decimal digits of a number. -/
def digits : Nat → Nat → Bytes
  | 0, _ => []
  | width + 1, n => digits width (n / 10) ++ [digit (n % 10)]

@[simp] theorem digits_length (width n : Nat) : (digits width n).length = width := by
  induction width generalizing n with
  | zero => rfl
  | succ width ih => simp [digits, ih]

theorem digit_toNat {d : Nat} (h : d < 10) : (digit d).toNat = 48 + d := by
  change (48 + d) % 256 = 48 + d
  omega

theorem digit_lt_iff {c d : Nat} (hc : c < 10) (hd : d < 10) : digit c < digit d ↔ c < d := by
  rw [UInt8.lt_iff_toNat_lt, digit_toNat hc, digit_toNat hd]
  omega

theorem isDigit_digit {d : Nat} (h : d < 10) : isDigit (digit d) = true := by
  simp only [isDigit, Bool.and_eq_true, decide_eq_true_eq, UInt8.le_iff_toNat_le, digit_toNat h]
  change 48 ≤ 48 + d ∧ 48 + d ≤ 57
  omega

theorem isDigit_of_mem_digits {width n : Nat} {c : UInt8} (h : c ∈ digits width n) :
    isDigit c = true := by
  induction width generalizing n with
  | zero => cases h
  | succ width ih =>
    rw [digits, List.mem_append, List.mem_singleton] at h
    cases h with
    | inl h => exact ih h
    | inr h =>
      rw [h]
      exact isDigit_digit (Nat.mod_lt n (by omega))

theorem digits_inj {width m n : Nat} (hm : m < 10 ^ width) (hn : n < 10 ^ width)
    (h : digits width m = digits width n) : m = n := by
  induction width generalizing m n with
  | zero => omega
  | succ width ih =>
    rw [Nat.pow_succ] at hm hn
    obtain ⟨hfront, hlast⟩ := List.append_inj h (by simp)
    have hdiv := ih (by omega) (by omega) hfront
    have hmod := congrArg UInt8.toNat (List.singleton_inj.mp hlast)
    rw [digit_toNat (by omega), digit_toNat (by omega)] at hmod
    omega

theorem digits_lt_iff {width m n : Nat} (hm : m < 10 ^ width) (hn : n < 10 ^ width) :
    digits width m < digits width n ↔ m < n := by
  induction width generalizing m n with
  | zero =>
    have hzero : m = 0 ∧ n = 0 := by omega
    rw [hzero.1, hzero.2]
    simp [digits]
  | succ width ih =>
    rw [Nat.pow_succ] at hm hn
    have hm' : m / 10 < 10 ^ width := by omega
    have hn' : n / 10 < 10 ^ width := by omega
    have hfront : digits width (m / 10) = digits width (n / 10) ↔ m / 10 = n / 10 := by
      constructor
      · exact digits_inj hm' hn'
      · intro h
        rw [h]
    have hlast : [digit (m % 10)] < [digit (n % 10)] ↔ m % 10 < n % 10 := by
      rw [List.cons_lt_cons_iff, digit_lt_iff (by omega) (by omega)]
      simp
    rw [digits, digits, append_lt_append_iff (by simp), ih hm' hn', hfront, hlast]
    omega

theorem digits_zero (width : Nat) : digits width 0 = List.replicate width zero := by
  induction width with
  | zero => rfl
  | succ width ih => rw [digits, Nat.zero_div, ih, List.replicate_succ']; rfl

theorem decimal_eq_if (n : Nat) :
    decimal n = if n < 10 then [digit n] else decimal (n / 10) ++ [digit (n % 10)] := by
  have hdigit : ∀ d < 10, (Nat.digitChar d).toUInt8 = digit d := by decide
  rw [decimal, Nat.toDigits_eq_if (by omega)]
  split_ifs with h
  · rw [List.map_singleton, hdigit n h]
  · rw [List.map_append, List.map_singleton, hdigit _ (Nat.mod_lt n (by omega)), decimal]

/-- Padding brings a number that fits to its width exactly. -/
theorem replicate_append_decimal {width n : Nat} (h : n < 10 ^ (width + 1)) :
    List.replicate (width + 1 - (decimal n).length) zero ++ decimal n = digits (width + 1) n := by
  induction width generalizing n with
  | zero =>
    have hn : n < 10 := by simpa using h
    rw [decimal_eq_if, if_pos hn, digits, Nat.mod_eq_of_lt hn]
    rfl
  | succ width ih =>
    rw [decimal_eq_if, digits]
    by_cases hn : n < 10
    · rw [if_pos hn, Nat.div_eq_of_lt hn, Nat.mod_eq_of_lt hn, digits_zero]
      rfl
    · have hdiv : n / 10 < 10 ^ (width + 1) := by
        rw [Nat.pow_succ] at h
        omega
      rw [if_neg hn, ← ih hdiv, ← List.append_assoc, List.length_append, List.length_singleton,
        Nat.add_sub_add_right]

theorem padded_eq_digits {width : Nat} {n : Int} (h₀ : 0 ≤ n) (h : n < 10 ^ (width + 1)) :
    padded (width + 1) n = digits (width + 1) n.toNat := by
  obtain ⟨m, rfl⟩ := Int.eq_ofNat_of_zero_le h₀
  have hm : m < 10 ^ (width + 1) := by exact_mod_cast h
  have hpositive : ¬ ((m : Int) < 0) := by omega
  rw [padded, if_neg hpositive, Int.natAbs_natCast, Int.toNat_natCast]
  exact replicate_append_decimal hm

/-! Texts of several numbers. A layout has the width of each, and the mark behind it. -/

abbrev Layout := List (Nat × UInt8)

def fieldsText : Layout → List Int → Bytes
  | (width, mark) :: layout, n :: ns => digits width n.toNat ++ mark :: fieldsText layout ns
  | _, _ => []

/-- Every number is there and fits its width. -/
def Fits (layout : Layout) (ns : List Int) : Prop :=
  layout.Forall₂ (fun field n => 0 ≤ n ∧ n < 10 ^ field.1) ns

theorem toNat_lt_pow {n : Int} {width : Nat} (h : 0 ≤ n ∧ n < 10 ^ width) :
    n.toNat < 10 ^ width := by
  have hcast : (n.toNat : Int) < ((10 ^ width : Nat) : Int) := by
    rw [Int.toNat_of_nonneg h.1]
    exact_mod_cast h.2
  exact Int.ofNat_lt.mp hcast

theorem fieldsText_inj {layout : Layout} {ms ns : List Int} (hm : Fits layout ms)
    (hn : Fits layout ns) (h : fieldsText layout ms = fieldsText layout ns) : ms = ns := by
  induction hm generalizing ns with
  | nil =>
    cases hn
    rfl
  | @cons field m layout ms hfit _ ih =>
    cases hn with
    | @cons _ n _ ns hfit' hn =>
      obtain ⟨hfront, hrest⟩ := List.append_inj h (by simp)
      have hhead := digits_inj (toNat_lt_pow hfit) (toNat_lt_pow hfit') hfront
      have hhead' : m = n := by omega
      rw [hhead', ih hn (List.cons.inj hrest).2]

/-- The texts sort as the lists of their numbers do. -/
theorem fieldsText_lt_iff {layout : Layout} {ms ns : List Int} (hm : Fits layout ms)
    (hn : Fits layout ns) : fieldsText layout ms < fieldsText layout ns ↔ ms < ns := by
  induction hm generalizing ns with
  | nil =>
    cases hn
    simp [fieldsText]
  | @cons field m layout ms hfit _ ih =>
    cases hn with
    | @cons _ n _ ns hfit' hn =>
      have hm' := toNat_lt_pow hfit
      have hn' := toNat_lt_pow hfit'
      have hlt : m.toNat < n.toNat ↔ m < n := by omega
      have heq : digits field.1 m.toNat = digits field.1 n.toNat ↔ m = n := by
        constructor
        · intro h
          have := digits_inj hm' hn' h
          omega
        · intro h
          rw [h]
      rw [fieldsText, fieldsText, append_lt_append_iff (by simp), digits_lt_iff hm' hn', hlt, heq,
        List.cons_lt_cons_iff, List.cons_lt_cons_iff, ih hn]
      simp

/-- A text against a sample: a digit where the sample has one, else the same byte. -/
def HasShape (sample text : Bytes) : Prop :=
  sample.Forall₂ (fun s c => if isDigit s then isDigit c = true else c = s) text

theorem HasShape.length {sample text : Bytes} (h : HasShape sample text) :
    text.length = sample.length := (List.Forall₂.length_eq h).symm

/-- What a layout looks like, with zeros for the digits. -/
def sampleOf (layout : Layout) : Bytes :=
  layout.flatMap fun field => List.replicate field.1 zero ++ [field.2]

theorem hasShape_digits {text : Bytes} (h : ∀ c ∈ text, isDigit c = true) :
    HasShape (List.replicate text.length zero) text := by
  induction text with
  | nil => exact .nil
  | cons c text ih =>
    refine .cons ?_ (ih fun d hd => h d (List.mem_cons_of_mem c hd))
    rw [if_pos (by decide)]
    exact h c List.mem_cons_self

theorem hasShape_fieldsText {layout : Layout} {ns : List Int} (h : Fits layout ns) :
    HasShape (sampleOf layout) (fieldsText layout ns) := by
  induction h with
  | nil => exact .nil
  | @cons field n layout ns _ _ ih =>
    have hdigits := hasShape_digits fun c (hc : c ∈ digits field.1 n.toNat) => isDigit_of_mem_digits hc
    rw [digits_length] at hdigits
    rw [fieldsText, sampleOf, List.flatMap_cons, List.append_assoc]
    refine List.rel_append hdigits (.cons ?_ ih)
    by_cases hmark : isDigit field.2 = true
    · rw [if_pos hmark, hmark]
    · rw [if_neg hmark]

end ByteText
