import SqlProxy.Base.ByteText
import Mathlib.Tactic.SplitIfs

/-! Well-formed UTF-8, read a byte at a time. -/
namespace Utf8
open ByteText

/-- Where a reader stands: between two characters, inside one whose next byte lies in a
range and is followed by `more` continuation bytes, or past an error. -/
inductive State where
  | start
  | inside (low high : UInt8) (more : Nat)
  | bad
  deriving DecidableEq

def first (b : UInt8) : State :=
  if b < 0x80 then .start
  else if b < 0xC2 then .bad
  else if b < 0xE0 then .inside 0x80 0xBF 0
  else if b = 0xE0 then .inside 0xA0 0xBF 1
  else if b = 0xED then .inside 0x80 0x9F 1
  else if b < 0xF0 then .inside 0x80 0xBF 1
  else if b = 0xF0 then .inside 0x90 0xBF 2
  else if b < 0xF4 then .inside 0x80 0xBF 2
  else if b = 0xF4 then .inside 0x80 0x8F 2
  else .bad

def continued : Nat → State
  | 0 => .start
  | more + 1 => .inside 0x80 0xBF more

def step : State → UInt8 → State
  | .start, b => first b
  | .inside low high more, b => if low ≤ b ∧ b ≤ high then continued more else .bad
  | .bad, _ => .bad

def run (s : State) (text : Bytes) : State := text.foldl step s

def Valid (text : Bytes) : Prop := run .start text = .start

instance (text : Bytes) : Decidable (Valid text) := inferInstanceAs (Decidable (_ = _))

@[simp] theorem run_nil (s : State) : run s [] = s := rfl

@[simp] theorem run_cons (s : State) (b : UInt8) (text : Bytes) :
    run s (b :: text) = run (step s b) text := rfl

theorem run_append (s : State) (a b : Bytes) : run s (a ++ b) = run (run s a) b :=
  List.foldl_append

theorem run_bad (text : Bytes) : run .bad text = .bad := by
  induction text with
  | nil => rfl
  | cons b text ih => exact ih

theorem valid_nil : Valid [] := rfl

theorem step_start_ascii {b : UInt8} (h : b < 0x80) : step .start b = .start := by
  simp [step, first, h]

/-- The states a reader can be in. Inside a character no ASCII byte is accepted. -/
def State.Proper : State → Prop
  | .inside low _ _ => 0x80 ≤ low
  | _ => True

theorem proper_step (s : State) (hs : s.Proper) (b : UInt8) : (step s b).Proper := by
  cases s with
  | start =>
    simp only [step, first]
    split_ifs <;> simp [State.Proper]
  | inside low high more =>
    simp only [step]
    split_ifs
    · cases more <;> simp [continued, State.Proper]
    · trivial
  | bad => trivial

theorem proper_run (s : State) (hs : s.Proper) (text : Bytes) : (run s text).Proper := by
  induction text generalizing s with
  | nil => exact hs
  | cons b text ih => exact ih (step s b) (proper_step s hs b)

/-- An ASCII byte can only stand between two characters. -/
theorem step_ascii {s : State} (hs : s.Proper) {b : UInt8} (h : b < 0x80) :
    step s b = .start ∧ s = .start ∨ step s b = .bad := by
  cases s with
  | start => exact .inl ⟨step_start_ascii h, rfl⟩
  | inside low high more =>
    right
    have hlow : ¬ low ≤ b := by
      intro hle
      have h₁ := UInt8.le_iff_toNat_le.mp (show (0x80 : UInt8) ≤ low from hs)
      have h₂ := UInt8.le_iff_toNat_le.mp hle
      have h₃ := UInt8.lt_iff_toNat_lt.mp h
      omega
    simp [step, hlow]
  | bad => exact .inr rfl

/-- A text splits at any ASCII byte into two valid texts. -/
theorem valid_append_ascii {a : Bytes} {b : UInt8} {text : Bytes} (h : b < 0x80) :
    Valid (a ++ b :: text) ↔ Valid a ∧ Valid text := by
  unfold Valid
  rw [run_append, run_cons]
  rcases step_ascii (proper_run .start trivial a) h with ⟨hstep, hstart⟩ | hbad
  · rw [hstep, hstart]
    simp
  · rw [hbad, run_bad]
    constructor
    · intro hno
      cases hno
    · rintro ⟨ha, -⟩
      rw [ha, step_start_ascii h] at hbad
      cases hbad

theorem valid_cons_ascii {b : UInt8} {text : Bytes} (h : b < 0x80) :
    Valid (b :: text) ↔ Valid text := by
  have hsplit : Valid ([] ++ b :: text) ↔ Valid [] ∧ Valid text := valid_append_ascii h
  rwa [List.nil_append, and_iff_right valid_nil] at hsplit

theorem valid_ascii_append {a text : Bytes} (h : IsAscii a) :
    Valid (a ++ text) ↔ Valid text := by
  induction a with
  | nil => rfl
  | cons b a ih =>
    rw [List.cons_append, valid_cons_ascii (h b List.mem_cons_self)]
    exact ih fun c hc => h c (List.mem_cons_of_mem b hc)

theorem valid_ascii {text : Bytes} (h : IsAscii text) : Valid text := by
  have happend : Valid (text ++ []) ↔ Valid [] := valid_ascii_append h
  rw [List.append_nil] at happend
  exact happend.mpr valid_nil

example : Valid [0xC3, 0xA9] ∧ ¬ Valid [0xE9] := by decide

end Utf8
