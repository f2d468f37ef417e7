import SqlProxy.Base.ByteText

/-! Text files read line by line. A last line without its newline still counts. -/
namespace Lines
open ByteText

/-- The lines of a text, without their newlines. -/
def linesOf : Bytes → List Bytes
  | [] => []
  | c :: text =>
    if c = newline then [] :: linesOf text
    else match linesOf text with
      | [] => [[c]]
      | line :: lines => (c :: line) :: lines

/-- A text whose last line is terminated. -/
def Complete (text : Bytes) : Prop := text = [] ∨ text.getLast? = some newline

instance (text : Bytes) : Decidable (Complete text) :=
  inferInstanceAs (Decidable (_ ∨ _))

/-- Each line with its newline. -/
def unlines (lines : List Bytes) : Bytes := lines.flatMap fun line => line ++ [newline]

theorem complete_cons {c : UInt8} {text : Bytes} (h : Complete (c :: text)) :
    Complete text ∧ (c = newline ∨ text ≠ []) := by
  cases text with
  | nil =>
    refine ⟨.inl rfl, .inl ?_⟩
    rcases h with h | h
    · cases h
    · simpa using h
  | cons d text =>
    refine ⟨.inr ?_, .inr (by simp)⟩
    rcases h with h | h
    · cases h
    · simpa [List.getLast?_cons_cons] using h

theorem complete_append {a b : Bytes} (ha : Complete a) (hb : Complete b) :
    Complete (a ++ b) := by
  rcases hb with rfl | hb
  · rwa [List.append_nil]
  · right
    rw [List.getLast?_append, hb]
    rfl

theorem complete_unlines (lines : List Bytes) : Complete (unlines lines) := by
  induction lines with
  | nil => exact .inl rfl
  | cons line lines ih =>
    have hline : Complete (line ++ [newline]) := .inr (by simp)
    exact complete_append hline ih

theorem linesOf_ne_nil {text : Bytes} (h : text ≠ []) : linesOf text ≠ [] := by
  cases text with
  | nil => exact absurd rfl h
  | cons c text =>
    unfold linesOf
    by_cases hc : c = newline
    · simp [hc]
    · cases hl : linesOf text <;> simp [hc]

/-- A complete text ends its last line, so what follows starts a line of its own. -/
theorem linesOf_append {a : Bytes} (b : Bytes) (h : Complete a) :
    linesOf (a ++ b) = linesOf a ++ linesOf b := by
  induction a with
  | nil => rfl
  | cons c a ih =>
    obtain ⟨ha, hc⟩ := complete_cons h
    rw [List.cons_append, linesOf, linesOf, ih ha]
    by_cases hn : c = newline
    · rw [if_pos hn, if_pos hn]
      rfl
    · have hne : linesOf a ≠ [] := linesOf_ne_nil (hc.resolve_left hn)
      rw [if_neg hn, if_neg hn]
      cases hl : linesOf a with
      | nil => exact absurd hl hne
      | cons line lines => rfl

theorem linesOf_line {line : Bytes} (h : newline ∉ line) (text : Bytes) :
    linesOf (line ++ newline :: text) = line :: linesOf text := by
  induction line with
  | nil => rw [List.nil_append, linesOf, if_pos rfl]
  | cons c line ih =>
    have hc : c ≠ newline := fun he => h (by simp [he])
    have hrest : newline ∉ line := fun hm => h (List.mem_cons_of_mem c hm)
    rw [List.cons_append, linesOf, if_neg hc, ih hrest]

theorem linesOf_unlines {lines : List Bytes} (h : ∀ line ∈ lines, newline ∉ line) :
    linesOf (unlines lines) = lines := by
  induction lines with
  | nil => rfl
  | cons line lines ih =>
    have hline := linesOf_line (h line List.mem_cons_self) (unlines lines)
    have hrest := ih fun l hl => h l (List.mem_cons_of_mem line hl)
    rw [unlines, List.flatMap_cons, List.append_assoc]
    change linesOf (line ++ newline :: unlines lines) = _
    rw [hline, hrest]

/-- An unterminated line is the only line of its text. -/
theorem linesOf_unterminated {line : Bytes} (h : newline ∉ line) (hne : line ≠ []) :
    linesOf line = [line] := by
  induction line with
  | nil => exact absurd rfl hne
  | cons c line ih =>
    have hc : c ≠ newline := fun he => h (by simp [he])
    have hrest : newline ∉ line := fun hm => h (List.mem_cons_of_mem c hm)
    rw [linesOf, if_neg hc]
    cases line with
    | nil => rfl
    | cons d line => rw [ih hrest (List.cons_ne_nil d line)]

/-- Every text is a complete one and an unterminated rest. -/
theorem exists_torn (text : Bytes) :
    ∃ front torn, text = front ++ torn ∧ Complete front ∧ newline ∉ torn := by
  induction text with
  | nil => exact ⟨[], [], rfl, .inl rfl, by simp⟩
  | cons c text ih =>
    obtain ⟨front, torn, rfl, hf, ht⟩ := ih
    by_cases hc : c = newline
    · refine ⟨c :: front, torn, rfl, ?_, ht⟩
      exact complete_append (a := [c]) (.inr (by simp [hc])) hf
    · rcases hf with rfl | hf
      · exact ⟨[], c :: torn, rfl, .inl rfl, by simp [ht, Ne.symm hc]⟩
      · refine ⟨c :: front, torn, rfl, .inr ?_, ht⟩
        cases front with
        | nil => simp at hf
        | cons d front => simpa [List.getLast?_cons_cons] using hf

/-- New lines stand as the last lines of a file exactly when there are none, or the file
they are added to is complete: otherwise the first is glued to the torn line. -/
theorem lines_added_iff {text : Bytes} {lines : List Bytes} (h : ∀ line ∈ lines, newline ∉ line) :
    lines <:+ linesOf (text ++ unlines lines) ↔ lines = [] ∨ Complete text := by
  constructor
  · rintro ⟨earlier, he⟩
    cases lines with
    | nil => exact .inl rfl
    | cons line lines =>
      obtain ⟨front, torn, rfl, hf, ht⟩ := exists_torn text
      right
      have hglued : newline ∉ torn ++ line := by
        rw [List.mem_append]
        rintro (hm | hm)
        · exact ht hm
        · exact h line List.mem_cons_self hm
      have hlines : linesOf (front ++ torn ++ unlines (line :: lines)) =
          linesOf front ++ (torn ++ line) :: lines := by
        have hsplit : front ++ torn ++ unlines (line :: lines) =
            front ++ ((torn ++ line) ++ newline :: unlines lines) := by
          simp [unlines]
        rw [hsplit, linesOf_append _ hf, linesOf_line hglued,
          linesOf_unlines fun l hl => h l (List.mem_cons_of_mem line hl)]
      rw [hlines] at he
      have hlast := List.append_inj_right' he.symm rfl
      have htorn : torn = [] := by
        have hlen := congrArg List.length (List.cons.inj hlast).1
        rw [List.length_append] at hlen
        exact List.length_eq_zero_iff.mp (by omega)
      rw [htorn, List.append_nil]
      exact hf
  · rintro (rfl | hc)
    · exact List.nil_suffix
    · exact ⟨linesOf text, by rw [linesOf_append _ hc, linesOf_unlines h]⟩

end Lines
