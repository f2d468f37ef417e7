import SqlProxy.Outcomes
import Mathlib.Data.List.TakeWhile

/-! What a masked response says of the values behind it: for each category the part of a
value that its mask shows, and that nothing else of a PII cell reaches the client. -/
namespace SqlProxy
open ByteText ProxyService PiiMasker

/-! The masks, as functions of the part they show. -/
namespace PiiMasker

def localPart (value : Bytes) : Bytes := value.takeWhile (· ≠ atSign)

def domainPart (value : Bytes) : Bytes := (value.dropWhile (· ≠ atSign)).drop 1

/-- Exactly one at sign, between two non-empty parts. -/
def IsAddress (value : Bytes) : Prop :=
  value.count atSign = 1 ∧ localPart value ≠ [] ∧ domainPart value ≠ []

instance (value : Bytes) : Decidable (IsAddress value) :=
  inferInstanceAs (Decidable (_ ∧ _ ∧ _))

def lastFour (digits : Bytes) : Bytes := digits.drop (digits.length - 4)

def digitsOf (value : Bytes) : Bytes := value.filter isDigit

/-- Digits, spaces and hyphens only. -/
def IsCardText (value : Bytes) : Prop := ∀ c ∈ value, isDigit c = true ∨ c = 32 ∨ c = 45

instance (value : Bytes) : Decidable (IsCardText value) :=
  List.decidableBAll (fun c => isDigit c = true ∨ c = 32 ∨ c = 45) value

/-- A card number has at least 12 digits. -/
def IsCard (value : Bytes) : Prop := IsCardText value ∧ 12 ≤ (digitsOf value).length

instance (value : Bytes) : Decidable (IsCard value) :=
  inferInstanceAs (Decidable (_ ∧ _))

/-- The part of a value that may be released: nothing, or an optional first byte and a
tail. -/
def releasedPart : PiiCategory → Bytes → Option (Option UInt8 × Bytes)
  | .email, value =>
    if IsAddress value then
      some (if value.headD 0 < 128 then some (value.headD 0) else none, domainPart value)
    else none
  | .phone, value =>
    if 7 ≤ (digitsOf value).length then some (none, lastFour (digitsOf value)) else none
  | .creditCard, value => if IsCard value then some (none, lastFour (digitsOf value)) else none

/-- How a released part is written. -/
def present (category : PiiCategory) : Option (Option UInt8 × Bytes) → Bytes
  | none => fullRedaction
  | some (first, tail) =>
    match category with
    | .email => first.toList ++ ascii "***@" ++ tail
    | .phone => ascii "***" ++ tail
    | .creditCard => ascii "****" ++ tail

theorem exists_split {value : Bytes} (h : value.count atSign = 1) :
    ∃ l d, value = l ++ atSign :: d ∧ atSign ∉ l ∧ atSign ∉ d := by
  induction value with
  | nil => simp at h
  | cons c value ih =>
    by_cases hc : c = atSign
    · subst hc
      refine ⟨[], value, rfl, by simp, ?_⟩
      apply List.count_eq_zero.mp
      simpa using h
    · have hv : value.count atSign = 1 := by simpa [hc] using h
      obtain ⟨l, d, rfl, hl, hd⟩ := ih hv
      exact ⟨c :: l, d, rfl, by simp [hl, Ne.symm hc], hd⟩

section Split
variable {l d : Bytes} (hl : atSign ∉ l)
include hl

theorem localPart_split : localPart (l ++ atSign :: d) = l := by
  induction l with
  | nil => simp [localPart]
  | cons c l ih =>
    have hc : c ≠ atSign := fun he => hl (by simp [he])
    have hrest : atSign ∉ l := fun hm => hl (List.mem_cons_of_mem c hm)
    simpa [localPart, hc] using ih hrest

theorem domainPart_split : domainPart (l ++ atSign :: d) = d := by
  induction l with
  | nil => simp [domainPart]
  | cons c l ih =>
    have hc : c ≠ atSign := fun he => hl (by simp [he])
    have hrest : atSign ∉ l := fun hm => hl (List.mem_cons_of_mem c hm)
    simpa [domainPart, hc] using ih hrest

end Split

theorem rfind_split {b : UInt8} (l : Bytes) {d : Bytes} (h : b ∉ d) :
    rfind b (l ++ b :: d) = some l.length := by
  induction l with
  | nil => simp [rfind, rfind_eq_none.mpr h]
  | cons c l ih => simp [rfind, ih]

theorem maskEmail_eq (value : Bytes) :
    maskEmail value = present .email (releasedPart .email value) := by
  by_cases hcount : value.count atSign = 1
  · obtain ⟨l, d, rfl, hl, hd⟩ := exists_split hcount
    have hlast : l.length = (l ++ atSign :: d).length - 1 ↔ d = [] := by
      rw [← List.length_eq_zero_iff, List.length_append, List.length_cons]
      omega
    have hdrop : (l ++ atSign :: d).drop (l.length + 1) = d := by simp
    simp only [maskEmail, releasedPart, IsAddress, hcount, rfind_split l hd, Option.getD_some,
      List.length_eq_zero_iff, hlast, hdrop, localPart_split hl, domainPart_split hl, ne_eq,
      not_true_eq_false, false_or, true_and, ge_iff_le]
    by_cases hne : l = [] ∨ d = []
    · have hno : ¬ (¬ l = [] ∧ ¬ d = []) := by tauto
      rw [if_pos hne, if_neg hno]
      rfl
    · have hyes : ¬ l = [] ∧ ¬ d = [] := not_or.mp hne
      rw [if_neg hne, if_pos hyes]
      by_cases hascii : 128 ≤ (l ++ atSign :: d).headD 0
      · rw [if_pos hascii, if_neg (UInt8.not_lt.mpr hascii)]
        rfl
      · rw [if_neg hascii, if_pos (UInt8.not_le.mp hascii)]
        rfl
  · have ha : ¬ IsAddress value := fun h => hcount h.1
    simp [maskEmail, releasedPart, hcount, ha, present]

theorem maskPhone_eq (value : Bytes) :
    maskPhone value = present .phone (releasedPart .phone value) := by
  unfold maskPhone releasedPart
  by_cases h : 7 ≤ (digitsOf value).length
  · have hlt : ¬ (value.filter isDigit).length < 7 := Nat.not_lt.mpr h
    simp only [hlt, if_false, h, if_true]
    rfl
  · have hlt : (value.filter isDigit).length < 7 := Nat.not_le.mp h
    simp only [hlt, if_true, h, if_false]
    rfl

theorem isCardText_cons {c : UInt8} {value : Bytes} :
    IsCardText (c :: value) ↔ (isDigit c = true ∨ c = 32 ∨ c = 45) ∧ IsCardText value :=
  List.forall_mem_cons

theorem cardDigits_eq (value : Bytes) :
    cardDigits value =
      if IsCardText value then some (digitsOf value) else none := by
  induction value with
  | nil => rfl
  | cons c value ih =>
    have hspace : isDigit 32 = false := by decide
    have hhyphen : isDigit 45 = false := by decide
    by_cases hsep : c = 32 ∨ c = 45
    · have hnd : isDigit c = false := by
        rcases hsep with rfl | rfl
        · exact hspace
        · exact hhyphen
      have hd : digitsOf (c :: value) = digitsOf value := by simp [digitsOf, hnd]
      simp only [cardDigits, hsep, if_true, ih, hd, isCardText_cons, or_true, true_and]
    · cases hdig : isDigit c with
      | false =>
        have hno : ¬ IsCardText (c :: value) := by
          intro h
          rcases h c List.mem_cons_self with h | h
          · rw [hdig] at h
            cases h
          · exact hsep h
        rw [if_neg hno]
        simp [cardDigits, hsep, hdig]
      | true =>
        have hd : digitsOf (c :: value) = c :: digitsOf value := by simp [digitsOf, hdig]
        simp only [cardDigits, hsep, if_false, hdig, Bool.not_true, Bool.false_eq_true, ih, hd,
          isCardText_cons, true_or, true_and]
        split_ifs <;> rfl

theorem maskCreditCard_eq (value : Bytes) :
    maskCreditCard value = present .creditCard (releasedPart .creditCard value) := by
  unfold maskCreditCard releasedPart
  rw [cardDigits_eq]
  by_cases hall : IsCardText value
  · rw [if_pos hall]
    by_cases h : 12 ≤ (digitsOf value).length
    · have hlt : ¬ (digitsOf value).length < 12 := Nat.not_lt.mpr h
      have hcard : IsCard value := ⟨hall, h⟩
      simp only [hlt, if_false, hcard, if_true]
      rfl
    · have hlt : (digitsOf value).length < 12 := Nat.not_le.mp h
      have hcard : ¬ IsCard value := fun hc => h hc.2
      simp only [hlt, if_true, hcard, if_false]
      rfl
  · have hcard : ¬ IsCard value := fun hc => hall hc.1
    rw [if_neg hall]
    simp only [hcard, if_false]
    rfl

/-- A mask is a function of the released part. -/
theorem maskValue_eq (category : PiiCategory) (value : Bytes) :
    maskValue category value = present category (releasedPart category value) := by
  cases category with
  | email => exact maskEmail_eq value
  | phone => exact maskPhone_eq value
  | creditCard => exact maskCreditCard_eq value

/-- Two cells of a PII column that a client may not tell apart. -/
def CellAgree (category : PiiCategory) : Cell → Cell → Prop
  | none, none => True
  | some v, some w =>
    (v = [] ↔ w = []) ∧ (v ≠ [] → releasedPart category v = releasedPart category w)
  | _, _ => False

/-- The same for a column of class `c`; a cell outside the PII columns is public. -/
def AgreeAs (c : ColumnClassification) (x y : Cell) : Prop :=
  match c.dataClass, c.piiCategory with
  | .pii, some category => CellAgree category x y
  | _, _ => x = y

theorem maskCell_congr {category : PiiCategory} {x y : Cell} (h : CellAgree category x y) :
    maskCell category x = maskCell category y := by
  cases x with
  | none => cases y with
    | none => rfl
    | some w => exact absurd h id
  | some v => cases y with
    | none => exact absurd h id
    | some w =>
      obtain ⟨he, hp⟩ := h
      by_cases hv : v = []
      · have hw : w = [] := he.mp hv
        rw [hv, hw]
      · have hw : w ≠ [] := fun hw => hv (he.mpr hw)
        simp only [maskCell, List.isEmpty_iff, hv, hw, if_false, maskValue_eq, hp hv]

theorem maskAs_congr {c : ColumnClassification} {x y : Cell} (h : AgreeAs c x y) :
    maskAs c x = maskAs c y := by
  obtain ⟨dataClass, piiCategory⟩ := c
  cases dataClass with
  | pii => cases piiCategory with
    | some category => exact maskCell_congr h
    | none => exact h
  | notClassifiedAsPii => exact h
  | unattributed => exact h

/-- Rows of one width whose cells agree column by column. -/
structure RowAgree (columns : List ColumnClassification) (row row' : List Cell) : Prop where
  width : row.length = row'.length
  cells : ∀ (i : Nat) (c : ColumnClassification) (x y : Cell), columns[i]? = some c →
    row[i]? = some x → row'[i]? = some y → AgreeAs c x y

theorem maskRow_congr {columns : List ColumnClassification} {row row' : List Cell}
    (h : RowAgree columns row row') : maskRow columns row = maskRow columns row' := by
  apply List.ext_getElem?
  intro i
  unfold maskRow
  rw [List.getElem?_zipWith, List.getElem?_zipWith]
  cases hc : columns[i]? with
  | none => rfl
  | some c =>
    cases hx : row[i]? with
    | none =>
      have hy : row'[i]? = none := by
        rw [List.getElem?_eq_none_iff] at hx ⊢
        rw [← h.width]
        exact hx
      rw [hy]
    | some x =>
      have hi : i < row'.length := by
        rw [← h.width]
        exact (List.getElem?_eq_some_iff.mp hx).1
      have hy : row'[i]? = some row'[i] := List.getElem?_eq_getElem hi
      rw [hy]
      exact congrArg some (maskAs_congr (h.cells i c x _ hc hx hy))

/-- Two results that a client may not tell apart, under the column classes `cs`. Their
error texts are free. -/
structure Agree (cs : List ColumnClassification) (r r' : ExecutionResult) : Prop where
  status : r.status = r'.status
  columns : r.columns = r'.columns
  rowCount : r.rowCount = r'.rowCount
  affectedRows : r.affectedRows = r'.affectedRows
  rows : List.Forall₂ (RowAgree cs) r.rows r'.rows

theorem all_width_iff {cs : List ColumnClassification} {rows rows' : List (List Cell)}
    (h : List.Forall₂ (RowAgree cs) rows rows') (n : Nat) :
    (∀ row ∈ rows, row.length = n) ↔ ∀ row ∈ rows', row.length = n := by
  induction h with
  | nil => rfl
  | cons hrow _ ih =>
    rw [List.forall_mem_cons, List.forall_mem_cons, ih, hrow.width]

theorem map_maskRow_congr {cs : List ColumnClassification} {rows rows' : List (List Cell)}
    (h : List.Forall₂ (RowAgree cs) rows rows') :
    rows.map (maskRow cs) = rows'.map (maskRow cs) := by
  induction h with
  | nil => rfl
  | cons hrow _ ih => rw [List.map_cons, List.map_cons, maskRow_congr hrow, ih]

theorem Agree.rectangular {cs : List ColumnClassification} {r r' : ExecutionResult}
    (h : Agree cs r r') : Rectangular r ↔ Rectangular r' := by
  unfold Rectangular
  rw [← h.columns]
  exact all_width_iff h.rows _

end PiiMasker
namespace ProxyService
variable {analysis : SqlAnalysis} {r r' : ExecutionResult} (timestampMs : Int)
  (requestId : UInt64)

/-- The service goes on in the same way after two results that agree: the same result and
the same record. -/
theorem conclude_congr (h : Agree (classes analysis r).columns r r') :
    conclude timestampMs requestId analysis r = conclude timestampMs requestId analysis r' := by
  have hread : read timestampMs requestId analysis r = read timestampMs requestId analysis r' := by
    have hmask := map_maskRow_congr h.rows
    unfold classes at hmask
    rw [h.columns] at hmask
    have hm := mask_classify classifier analysis r
    rw [h.columns] at hm
    simp only [h.rectangular, hmask] at hm
    unfold read
    simp only [h.columns, h.rowCount, hm, mask_classify classifier analysis r']
    congr 1
    funext rowCount
    by_cases hr : Rectangular r'
    · cases hf : (classifier.classify analysis r'.columns).fullyAttributed <;> simp [hr, toMaskedResult]
    · simp [hr]
  have hwrote : wrote timestampMs requestId analysis r = wrote timestampMs requestId analysis r' := by
    simp only [wrote, h.affectedRows]
  simp only [conclude, h.status, hread, hwrote]

end ProxyService

/-- The same parser, clock and repository, over an executor that answers `r`. -/
def Environment.answered (env : Environment) (r : ExecutionResult) : Environment :=
  { env with execute := fun _ => .ok r }

theorem processing_congr (env : Environment) (sql : Bytes) {r r' : ExecutionResult}
    (h : ∀ a, env.analysis sql = .ok a → Agree (classes a r).columns r r') :
    (env.answered r).processing sql = (env.answered r').processing sql := by
  have hprocessed : (env.answered r).processed sql = (env.answered r').processed sql := by
    cases ha : env.analysis sql with
    | error e =>
      have hsame (s : ExecutionResult) : (env.answered s).analysis sql = .error e := ha
      rw [Environment.processed_error (hsame r), Environment.processed_error (hsame r')]
    | ok a =>
      have hsame (s : ExecutionResult) : (env.answered s).analysis sql = .ok a := ha
      cases hd : (PolicyEngine.evaluate a).allowed with
      | false =>
        rw [Environment.processed_denied (hsame r) hd, Environment.processed_denied (hsame r') hd]
        rfl
      | true =>
        rw [Environment.processed_allowed (hsame r) hd,
          Environment.processed_allowed (hsame r') hd]
        exact conclude_congr env.now env.requestId (h a ha)
  rw [Environment.processing, Environment.processing, hprocessed]
  rfl

/-- A client cannot tell results apart that agree on the released parts of their PII. -/
theorem handled_noninterference (env : Environment) (sql : Bytes) (r r' : ExecutionResult)
    (h : ∀ a, env.analysis sql = .ok a → Agree (classes a r).columns r r') :
    (env.answered r).handled sql = (env.answered r').handled sql := by
  have hp := processing_congr env sql h
  rw [Environment.handled_eq, Environment.handled_eq, Environment.appended,
    Environment.appended, hp]
  rfl

def emailResult (address : Bytes) : ExecutionResult where
  status := .ok
  columns := [{ name := ascii "email" }]
  rows := [[some address]]
  rowCount := 1

theorem emailResult_agree {v w : Bytes} (h : CellAgree .email (some v) (some w)) :
    Agree [DataClassifier.pii .email] (emailResult v) (emailResult w) := by
  refine ⟨rfl, rfl, rfl, rfl, .cons ⟨rfl, ?_⟩ .nil⟩
  intro i c x y hc hx hy
  cases i with
  | zero =>
    cases hc
    cases hx
    cases hy
    exact h
  | succ i => simp at hc

theorem handled_noninterference_email :
    (emailEnvironment.answered (emailResult (ascii "ada@example.org"))).handled (ascii "x") =
      (emailEnvironment.answered (emailResult (ascii "alan.turing@example.org"))).handled
        (ascii "x") := by
  have hagree : ∀ a, emailEnvironment.analysis (ascii "x") = .ok a →
      Agree (classes a (emailResult (ascii "ada@example.org"))).columns
        (emailResult (ascii "ada@example.org"))
        (emailResult (ascii "alan.turing@example.org")) := by
    intro a ha
    cases ha
    exact emailResult_agree ⟨by decide, fun _ => by decide⟩
  exact handled_noninterference emailEnvironment (ascii "x") _ _ hagree

end SqlProxy
