import SqlProxy.AuditCodec
import SqlProxy.Base.CivilDate
import SqlProxy.Base.FixedWidth

/-! The timestamp of an audit line, as text that people read and that consumers sort by. -/
namespace SqlProxy
open ByteText Calendar

/-- `YYYY-MM-DDTHH:MM:SS.mmmZ`. -/
def timestampLayout : Layout :=
  [(4, 45), (2, 45), (2, 84), (2, 58), (2, 58), (2, 46), (3, 90)]

/-- Read as a date and a time of day in UTC, the text says `epochMs`. -/
def ReadsAs (text : Bytes) (epochMs : Int) : Prop :=
  ∃ instant : Instant, Fits timestampLayout instant.fields ∧
    text = fieldsText timestampLayout instant.fields ∧ instant.epochMs = epochMs

/-- A text says one instant. -/
theorem ReadsAs.unique {text : Bytes} {ms ms' : Int} (h : ReadsAs text ms)
    (h' : ReadsAs text ms') : ms = ms' := by
  obtain ⟨i, hfits, htext, rfl⟩ := h
  obtain ⟨j, hfits', htext', rfl⟩ := h'
  exact Instant.epochMs_eq_of_fields (fieldsText_inj hfits hfits' (htext.symm.trans htext'))

section Format
variable {epochMs : Int} (h : InFourDigitYears epochMs)
include h

theorem fits_timestamp : Fits timestampLayout (Instant.ofEpochMs epochMs).fields := by
  obtain ⟨h₀, h₁⟩ := h
  have hyear := civil_year (show 0 ≤ epochMs / 86400000 by omega) (by omega)
  have hbounds := civil_bounds (epochMs / 86400000)
  rw [Instant.fields, Instant.date_ofEpochMs h₀]
  generalize Instant.ofEpochMs epochMs = instant
  obtain ⟨days, hour, minute, second, milli⟩ := instant
  refine .cons ?_ (.cons ?_ (.cons ?_ (.cons ?_ (.cons ?_ (.cons ?_ (.cons ?_ .nil)))))) <;>
    simp only <;> omega

theorem gmtime_instant :
    gmtime (epochMs.tdiv 1000) =
      { year := (Instant.ofEpochMs epochMs).date.year - 1900
        mon := (Instant.ofEpochMs epochMs).date.month - 1
        mday := (Instant.ofEpochMs epochMs).date.day
        hour := (Instant.ofEpochMs epochMs).hour.val
        min := (Instant.ofEpochMs epochMs).minute.val
        sec := (Instant.ofEpochMs epochMs).second.val } := by
  have h₀ := h.1
  have hday : epochMs.tdiv 1000 / 86400 = epochMs / 86400000 := by
    rw [Int.tdiv_eq_ediv_of_nonneg h₀]
    omega
  rw [gmtime_eq, hday, Instant.date_ofEpochMs h₀, Int.tdiv_eq_ediv_of_nonneg h₀, Tm.mk.injEq]
  simp only [Instant.ofEpochMs, true_and]
  omega

/-- Every field is as wide as the layout says, so the text is laid out. -/
theorem formatUtcTimestamp_fields :
    formatUtcTimestamp epochMs = fieldsText timestampLayout (Instant.ofEpochMs epochMs).fields := by
  have hfits := fits_timestamp h
  have hmilli : epochMs.tmod 1000 = (Instant.ofEpochMs epochMs).milli.val := by
    have h₀ := h.1
    rw [Int.tmod_eq_emod_of_nonneg h₀]
    simp only [Instant.ofEpochMs]
    omega
  rw [formatUtcTimestamp_eq, gmtime_instant h, hmilli]
  generalize Instant.ofEpochMs epochMs = instant at *
  simp only [Fits, timestampLayout, Instant.fields, List.forall₂_cons] at hfits
  obtain ⟨hyear, hmonth, hday, hhour, hminute, hsecond, hmilli, -⟩ := hfits
  rw [Int.sub_add_cancel, Int.sub_add_cancel, padded_eq_digits hyear.1 hyear.2,
    padded_eq_digits hmonth.1 hmonth.2, padded_eq_digits hday.1 hday.2,
    padded_eq_digits hhour.1 hhour.2, padded_eq_digits hminute.1 hminute.2,
    padded_eq_digits hsecond.1 hsecond.2, padded_eq_digits hmilli.1 hmilli.2]
  rfl

end Format

/-- From the epoch to the year 9999 a timestamp has one shape, says the instant it was made
from and no other, and sorts where that instant belongs. -/
theorem formatUtcTimestamp_sorts (epochMs : Int) (h : InFourDigitYears epochMs) :
    (formatUtcTimestamp epochMs).length = 24 ∧
    HasShape (ascii "0000-00-00T00:00:00.000Z") (formatUtcTimestamp epochMs) ∧
    (∀ ms, ReadsAs (formatUtcTimestamp epochMs) ms ↔ ms = epochMs) ∧
    readUtcTimestamp (formatUtcTimestamp epochMs) = some epochMs ∧
    ∀ other, InFourDigitYears other →
      (epochMs < other ↔ formatUtcTimestamp epochMs < formatUtcTimestamp other) := by
  have hfits := fits_timestamp h
  have hback := Instant.epochMs_ofEpochMs h.1
  have hreads : ReadsAs (formatUtcTimestamp epochMs) epochMs :=
    ⟨_, hfits, formatUtcTimestamp_fields h, hback⟩
  have hsample : sampleOf timestampLayout = ascii "0000-00-00T00:00:00.000Z" := by decide
  have hshape := hasShape_fieldsText hfits
  rw [hsample, ← formatUtcTimestamp_fields h] at hshape
  refine ⟨hshape.length, hshape, ?_, readUtcTimestamp_format h.1, ?_⟩
  · intro ms
    constructor
    · intro hms
      exact hms.unique hreads
    · intro hms
      rw [hms]
      exact hreads
  · intro other hother
    rw [formatUtcTimestamp_fields h, formatUtcTimestamp_fields hother,
      fieldsText_lt_iff hfits (fits_timestamp hother), Instant.fields_lt_iff, hback,
      Instant.epochMs_ofEpochMs hother.1]

/-- The last millisecond of a leap day. -/
theorem formatUtcTimestamp_sorts_leapDay :
    readUtcTimestamp (formatUtcTimestamp 951868799999) = some 951868799999 ∧
      formatUtcTimestamp 951868799999 < formatUtcTimestamp 951868800000 := by
  obtain ⟨-, -, -, hread, hsorts⟩ := formatUtcTimestamp_sorts 951868799999 (by decide)
  exact ⟨hread, (hsorts 951868800000 (by decide)).mp (by decide)⟩

end SqlProxy
