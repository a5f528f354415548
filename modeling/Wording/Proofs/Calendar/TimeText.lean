import Wording.Proofs.Calendar.Stamp
import Wording.Proofs.Number.Rounding
import Wording.Proofs.Number.Value

/-! # Time texts of quantities of seconds

The text of an instant is a stamp, so it has one form, is read back as the instant to the millisecond, and of two
instants the earlier one has the text that comes first. A quantity that is an integer, whole or binary, is its own
instant: nothing is rounded away from it, since a binary number that is an integer has no microseconds
(`ofBinary_of_integer`).

What is left is to come from the seconds of an instant to its date and time of day and back; that is `toDays_ofDays` for
the days, and division for the seconds of the last one.
-/

set_option autoImplicit false

namespace Wording

namespace Stamp

variable {i : Instant}

theorem cut_seconds (seconds : Int) :
    seconds.fdiv Instant.secondsPerDay = seconds / 86400 ∧
      (seconds - seconds.fdiv Instant.secondsPerDay * Instant.secondsPerDay).toNat = (seconds % 86400).toNat := by
  have hdays : seconds.fdiv Instant.secondsPerDay = seconds / 86400 := Int.fdiv_eq_ediv_of_nonneg _ (by decide)
  rw [hdays, Instant.secondsPerDay]
  omega

/-- The stamp of an instant, cut to milliseconds. -/
def ofInstant (i : Instant) (h : i.InCalendar) (hmicros : i.micros < 1000000) : Stamp :=
  let second := (i.seconds - i.seconds.fdiv Instant.secondsPerDay * Instant.secondsPerDay).toNat
  { date := i.date
    hour := second / 3600
    minute := second / 60 % 60
    second := second % 60
    milli := i.micros / 1000
    inCalendar := (Date.toDays_ofDays (Instant.inCalendar_iff_year.mp h)).1
    hour_lt := by
      have hcut := cut_seconds i.seconds
      omega
    minute_lt := Nat.mod_lt _ (by decide)
    second_lt := Nat.mod_lt _ (by decide)
    milli_lt := by omega }

/-- The text of an instant is its stamp. -/
theorem text_ofInstant (h : i.InCalendar) (hmicros : i.micros < 1000000) : (ofInstant i h hmicros).text = i.text := by
  simp only [text, fields, ofInstant, Field.text, List.flatMap_cons, List.flatMap_nil, Instant.text, Date.text,
    List.append_assoc, List.cons_append, List.nil_append, List.append_nil]

theorem seconds_ofInstant (h : i.InCalendar) (hmicros : i.micros < 1000000) :
    (ofInstant i h hmicros).seconds = i.seconds := by
  obtain ⟨hdays, hclock⟩ := cut_seconds i.seconds
  have hdate : i.date.toDays = i.seconds / 86400 := by
    rw [← hdays]
    exact (Date.toDays_ofDays (Instant.inCalendar_iff_year.mp h)).2
  simp only [seconds, clock, ofInstant, hdate, hclock]
  rw [Instant.secondsPerDay]
  omega

end Stamp

namespace Instant

open Number (Binary)

/-- A binary number of seconds that is an integer has no microseconds. -/
theorem ofBinary_of_integer {negative : Bool} {significand : Nat} {exponent t : Int}
    (h : (Binary.signedFraction negative significand exponent).1 = t * (Binary.fraction significand exponent).2) :
    ofBinary negative significand exponent = ⟨t, 0⟩ := by
  have hden : ((Binary.fraction significand exponent).2 : Int) ≠ 0 := by
    exact_mod_cast (Number.ratio_fraction significand exponent).2.ne'
  have hwhole : ((Binary.fraction significand exponent).1 : Int) =
      (if negative then -t else t) * (Binary.fraction significand exponent).2 := by
    rw [Binary.signedFraction] at h
    cases negative with
    | false => exact h
    | true => exact (neg_eq_iff_eq_neg.mp h).trans (neg_mul _ _).symm
  have hrest : (Binary.fraction significand exponent).1 % (Binary.fraction significand exponent).2 = 0 :=
    Nat.mod_eq_zero_of_dvd (Int.natCast_dvd_natCast.mp (Dvd.intro_left _ hwhole.symm))
  have hnone : Binary.ofFraction false 0 (Binary.fraction significand exponent).2 =
      .finite false 0 Binary.leastExponent := if_pos rfl
  have hround : Number.roundedQuotient (Binary.fraction 0 Binary.leastExponent).1
      (Binary.fraction 0 Binary.leastExponent).2 = 0 := by
    have hnum : (Binary.fraction 0 Binary.leastExponent).1 = 0 := rfl
    rw [hnum]
    simp [Number.roundedQuotient]
  simp only [ofBinary, hrest, Nat.zero_mul, hnone, hround, hwhole, Int.mul_ediv_cancel _ hden]
  cases negative with
  | false => rfl
  | true => exact congrArg (Instant.mk · 0) (neg_neg t)

theorem nearest?_of_value {q : Number.Quantity} {t : Int} (hfinite : q.IsFinite) (hvalue : q.value = t) :
    nearest? q = some ⟨t, 0⟩ := by
  cases q with
  | whole n =>
    rw [Number.Quantity.value_whole, Int.cast_inj] at hvalue
    rw [nearest?, hvalue]
  | binary x =>
    cases x with
    | finite negative significand exponent =>
      rw [Number.Quantity.value, Number.Quantity.finite?, Option.elim_some, div_eq_iff] at hvalue
      · exact congrArg some (ofBinary_of_integer (by exact_mod_cast hvalue))
      · exact_mod_cast (Number.ratio_fraction significand exponent).2.ne'
    | infinite negative => cases hfinite
    | undefined => cases hfinite

end Instant

/-- That a text is the one of a whole second: 24 characters that write a date and a time of day with no milliseconds,
and are read as that second. -/
structure IsTextOfSecond (t : Text) (second : Int) : Prop where
  length_eq : t.length = 24
  form_eq : Instant.form t = "0000-00-00T00:00:00.000Z".toList
  fraction_eq : t.drop 19 = ".000Z".toList
  read_eq : Instant.read? t = some ⟨second, 0⟩

namespace Instant

/-- The text of a whole second is one. -/
theorem isTextOfSecond {second : Int} (h : (⟨second, 0⟩ : Instant).InCalendar) :
    IsTextOfSecond (text ⟨second, 0⟩) second := by
  have hmicros : 0 < 1000000 := by decide
  have hmilli : (Stamp.ofInstant ⟨second, 0⟩ h hmicros).milli = 0 := Nat.zero_div 1000
  rw [← Stamp.text_ofInstant h hmicros]
  refine ⟨Stamp.length_text _, Stamp.form_text _, ?_, ?_⟩
  · rw [Stamp.drop_text, hmilli]
    rfl
  · rw [Stamp.read?_text, Stamp.seconds_ofInstant, hmilli]

/-- Of two instants, the text of the one that is earlier, to the millisecond, comes first. -/
theorem text_lt_text_iff {i j : Instant} (hi : i.InCalendar) (hj : j.InCalendar) (himicros : i.micros < 1000000)
    (hjmicros : j.micros < 1000000) :
    i.text < j.text ↔ i.seconds < j.seconds ∨ i.seconds = j.seconds ∧ i.micros / 1000 < j.micros / 1000 := by
  rw [← Stamp.text_ofInstant hi himicros, ← Stamp.text_ofInstant hj hjmicros, Stamp.text_lt_text_iff,
    Stamp.seconds_ofInstant, Stamp.seconds_ofInstant]
  exact Iff.rfl

end Instant

variable {q r : Number.Quantity} {t u : Int}

theorem timeText_of_integer (hq : q.IsFinite ∧ q.value = t) (h : (⟨t, 0⟩ : Instant).InCalendar) :
    timeText q = .ok (Instant.text ⟨t, 0⟩) := by
  rw [timeText, Instant.ofQuantity_eq_ok_iff.mpr ⟨Instant.nearest?_of_value hq.1 hq.2, h⟩]
  rfl

/-- Integers of seconds in the years 1 to 9999, whole or binary, have time texts of one form without milliseconds, which
are read as these seconds, and the text of the smaller one comes first. -/
theorem timeTexts_of_integers (hq : q.IsFinite ∧ q.value = t) (hr : r.IsFinite ∧ r.value = u)
    (ht : (⟨t, 0⟩ : Instant).InCalendar) (hu : (⟨u, 0⟩ : Instant).InCalendar) :
    ∃ a b, timeText q = .ok a ∧ timeText r = .ok b ∧ IsTextOfSecond a t ∧ IsTextOfSecond b u ∧
      (a < b ↔ t < u) := by
  refine ⟨_, _, timeText_of_integer hq ht, timeText_of_integer hr hu, Instant.isTextOfSecond ht,
    Instant.isTextOfSecond hu, ?_⟩
  have hmicros : 0 < 1000000 := by decide
  rw [Instant.text_lt_text_iff ht hu hmicros hmicros]
  exact or_iff_left fun h => lt_irrefl _ h.2

/-- The last second before 1970 as a whole number, and the first one of a leap day as a binary number. -/
theorem timeTexts_of_integers_leapDay :
    ((Number.Quantity.whole (-1)).IsFinite ∧ (Number.Quantity.whole (-1)).value = (-1 : Int)) ∧
      ((Number.Quantity.binary (.finite false 118972800 3)).IsFinite ∧
        (Number.Quantity.binary (.finite false 118972800 3)).value = (951782400 : Int)) ∧
      (⟨-1, 0⟩ : Instant).InCalendar ∧ (⟨951782400, 0⟩ : Instant).InCalendar ∧
      ∃ a b, timeText (.whole (-1)) = .ok a ∧ timeText (.binary (.finite false 118972800 3)) = .ok b ∧
        a = "1969-12-31T23:59:59.000Z".toList ∧ b = "2000-02-29T00:00:00.000Z".toList ∧
        IsTextOfSecond a (-1) ∧ IsTextOfSecond b 951782400 ∧ a < b := by
  have hwhole : (Number.Quantity.whole (-1)).IsFinite ∧ (Number.Quantity.whole (-1)).value = (-1 : Int) :=
    ⟨Number.Quantity.isFinite_whole _, Number.Quantity.value_whole _⟩
  have hbinary : (Number.Quantity.binary (.finite false 118972800 3)).IsFinite ∧
      (Number.Quantity.binary (.finite false 118972800 3)).value = (951782400 : Int) := by
    refine ⟨by decide, ?_⟩
    norm_num [Number.Quantity.value, Number.Quantity.finite?, Number.Binary.signedFraction, Number.Binary.fraction]
  have hbefore : (⟨-1, 0⟩ : Instant).InCalendar := ⟨by decide, by decide⟩
  have hleapDay : (⟨951782400, 0⟩ : Instant).InCalendar := ⟨by decide, by decide⟩
  obtain ⟨a, b, ha, hb, hfirst, hsecond, horder⟩ := timeTexts_of_integers hwhole hbinary hbefore hleapDay
  have hfirstText : a = "1969-12-31T23:59:59.000Z".toList := by
    have htext : Instant.text ⟨-1, 0⟩ = "1969-12-31T23:59:59.000Z".toList := by decide
    rw [← htext]
    exact Except.ok.inj (ha.symm.trans (timeText_of_integer hwhole hbefore))
  have hsecondText : b = "2000-02-29T00:00:00.000Z".toList := by
    have htext : Instant.text ⟨951782400, 0⟩ = "2000-02-29T00:00:00.000Z".toList := by decide
    rw [← htext]
    exact Except.ok.inj (hb.symm.trans (timeText_of_integer hbinary hleapDay))
  exact ⟨hwhole, hbinary, hbefore, hleapDay, a, b, ha, hb, hfirstText, hsecondText, hfirst, hsecond,
    horder.mpr (by decide)⟩

end Wording
