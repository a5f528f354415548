import Mathlib.Data.Char
import Mathlib.Data.List.Lex
import Wording.Proofs.Calendar.Days
import Wording.Proofs.Text.Digits
import Wording.Proofs.Text.Order

/-! # Time texts by their fields

A time text is a list of fields, each padded with zeros to the length of its place and followed by its mark. All that is
said of time texts is proved of such lists, by induction on the fields, and holds of any fields that fit their places.

Each field is read back from its place: what stands behind some fields is the text of the others (`drop_flatMap_text`).
And of two texts of the same fields, the one with the smaller number in the first field that differs comes first
(`flatMap_text_lt_iff`), because padded numbers of one length are ordered by their digits (`padded_append_lt_iff`). So a
time text is read back as its time (`read?_text`), and time texts are ordered as their times.
-/

set_option autoImplicit false

namespace Wording

namespace Date

variable {length m n : Nat}

/-! ## Padded numbers -/

theorem padded_succ (h : 0 < length) (n : Nat) :
    padded (length + 1) n = padded length (n / 10) ++ [(n % 10).digitChar] :=
  Text.zeros_append_toDigits_succ (by decide) h n

theorem length_padded (h : 0 < length) (hn : n < 10 ^ length) : (padded length n).length = length := by
  have hdigits := (Nat.length_toDigits_le_iff (by decide) h).mpr hn
  rw [padded, List.length_append, List.length_replicate, Nat.sub_add_cancel hdigits]

theorem isDigit_of_mem_padded {c : Char} (h : c ∈ padded length n) : c.isDigit = true := by
  rcases List.mem_append.mp h with hzero | hdigit
  · rw [List.eq_of_mem_replicate hzero]
    decide
  · exact Text.isDigit_of_mem_toDigits hdigit

/-- A padded number is read as that number. -/
theorem ofDigitChars_padded (length n : Nat) : Nat.ofDigitChars 10 (padded length n) 0 = n := by
  rw [padded, Nat.ofDigitChars_append, Nat.ofDigitChars_replicate_zero, Nat.mul_zero, Nat.ofDigitChars_ten_toDigits]

theorem padded_one (hn : n < 10) : padded 1 n = [n.digitChar] := by
  rw [padded, Nat.toDigits_of_lt_base hn]
  rfl

/-- Of two numbers padded to one length, the text of the smaller one comes first. -/
theorem padded_lt_padded (h : 0 < length) (hn : n < 10 ^ length) (hlt : m < n) : padded length m < padded length n := by
  have hdigit : ∀ m < 10, ∀ n < 10, m < n → [Nat.digitChar m] < [Nat.digitChar n] := by decide
  induction length, h using Nat.le_induction generalizing m n with
  | base =>
    rw [padded_one hn, padded_one (hlt.trans hn)]
    exact hdigit m (hlt.trans hn) n hn hlt
  | succ length h ih =>
    have hfront : n / 10 < 10 ^ length := by
      rw [pow_succ] at hn
      omega
    rw [padded_succ h, padded_succ h]
    rcases Nat.lt_or_eq_of_le (Nat.div_le_div_right hlt.le : m / 10 ≤ n / 10) with hbefore | hsame
    · refine Text.append_lt_append ?_ (ih hfront hbefore) _ _
      rw [length_padded h hfront, length_padded h (hbefore.trans hfront)]
    · rw [hsame]
      exact (Text.append_lt_append_left_iff _).mpr (hdigit _ (by omega) _ (by omega) (by omega))

/-- Texts that begin with numbers padded to one length are ordered by these numbers, and then by what follows. -/
theorem padded_append_lt_iff (h : 0 < length) (hm : m < 10 ^ length) (hn : n < 10 ^ length) {x y : Text} :
    padded length m ++ x < padded length n ++ y ↔ m < n ∨ m = n ∧ x < y := by
  have hlength : (padded length m).length = (padded length n).length := by
    rw [length_padded h hm, length_padded h hn]
  rcases Nat.lt_trichotomy m n with hlt | rfl | hgt
  · exact iff_of_true (Text.append_lt_append hlength (padded_lt_padded h hn hlt) x y) (.inl hlt)
  · rw [or_iff_right (lt_irrefl m), and_iff_right rfl]
    exact Text.append_lt_append_left_iff _
  · have hafter := Text.append_lt_append hlength.symm (padded_lt_padded h hm hgt) y x
    exact iff_of_false hafter.asymm (by omega)

end Date

/-! ## Fields -/

/-- A field of a time text: the length of its place, its number, and the mark behind it. -/
structure Field where
  length : Nat
  number : Nat
  mark : Char

namespace Field

open Instant (form)

/-- The padded number of a field and its mark. -/
def text (f : Field) : Text := Date.padded f.length f.number ++ [f.mark]

def blank (f : Field) : Text := List.replicate f.length '0' ++ [f.mark]

/-- That the number of a field is not longer than its place, and its mark is no digit. -/
structure Fits (f : Field) : Prop where
  length_pos : 0 < f.length
  number_lt : f.number < 10 ^ f.length
  mark_ne : f.mark.isDigit = false

variable {f : Field} {fields others : List Field}

theorem Fits.length_text (h : f.Fits) : f.text.length = f.blank.length := by
  rw [text, blank, List.length_append, List.length_append, Date.length_padded h.length_pos h.number_lt,
    List.length_replicate]

theorem Fits.form_text (h : f.Fits) : form f.text = f.blank := by
  have hzeros : form (Date.padded f.length f.number) = List.replicate f.length '0' := by
    rw [form, List.eq_replicate_iff, List.length_map, Date.length_padded h.length_pos h.number_lt]
    refine ⟨rfl, fun c hc => ?_⟩
    obtain ⟨d, hd, rfl⟩ := List.mem_map.mp hc
    exact if_pos (Date.isDigit_of_mem_padded hd)
  rw [text, blank, ← hzeros, form, List.map_append, List.map_singleton, if_neg (Bool.eq_false_iff.mp h.mark_ne)]
  rfl

theorem form_flatMap_text (h : ∀ f ∈ fields, f.Fits) : form (fields.flatMap text) = fields.flatMap blank := by
  rw [form, List.map_flatMap]
  exact List.flatMap_congr fun f hf => (h f hf).form_text

theorem drop_flatMap_text (h : ∀ f ∈ fields, f.Fits) (count : Nat) :
    (fields.flatMap text).drop ((fields.take count).flatMap blank).length = (fields.drop count).flatMap text := by
  induction fields generalizing count with
  | nil => simp only [List.take_nil, List.drop_nil, List.flatMap_nil]
  | cons f fields ih =>
    cases count with
    | zero => rfl
    | succ count =>
      obtain ⟨hf, hfields⟩ := List.forall_mem_cons.mp h
      rw [List.take_succ_cons, List.flatMap_cons, List.flatMap_cons, List.length_append, ← hf.length_text,
        List.drop_length_add_append, ih hfields, List.drop_succ_cons]

theorem number_flatMap_text (h : ∀ f ∈ fields, f.Fits) {count : Nat} (hf : fields[count]? = some f) :
    Instant.number (fields.flatMap text) ((fields.take count).flatMap blank).length f.length = f.number := by
  obtain ⟨hlt, rfl⟩ := List.getElem?_eq_some_iff.mp hf
  have hfits := h _ (List.getElem_mem hlt)
  rw [Instant.number, drop_flatMap_text h, List.drop_eq_getElem_cons hlt, List.flatMap_cons, text, List.append_assoc,
    List.take_left' (Date.length_padded hfits.length_pos hfits.number_lt), Date.ofDigitChars_padded]

/-- Fields of the same lengths and marks are ordered as their numbers. -/
theorem flatMap_text_lt_iff (h : ∀ f ∈ fields, f.Fits) (hothers : ∀ f ∈ others, f.Fits)
    (hplaces : fields.map (fun f => (f.length, f.mark)) = others.map fun f => (f.length, f.mark)) :
    fields.flatMap text < others.flatMap text ↔ fields.map number < others.map number := by
  induction fields generalizing others with
  | nil =>
    obtain rfl := List.map_eq_nil_iff.mp hplaces.symm
    exact iff_of_false (List.not_lt_nil _) (List.not_lt_nil _)
  | cons f fields ih =>
    obtain ⟨g, others, rfl, hplace, hrest⟩ := List.map_eq_cons_iff.mp hplaces.symm
    obtain ⟨hf, hfields⟩ := List.forall_mem_cons.mp h
    obtain ⟨hg, hothers⟩ := List.forall_mem_cons.mp hothers
    obtain ⟨hlength, hmark⟩ := Prod.mk.inj hplace
    have hlt := hg.number_lt
    rw [hlength] at hlt
    rw [List.flatMap_cons, List.flatMap_cons, text, text, List.append_assoc, List.append_assoc, hlength, hmark,
      Date.padded_append_lt_iff hf.length_pos hf.number_lt hlt, Text.append_lt_append_left_iff,
      ih hfields hothers hrest.symm, List.map_cons, List.map_cons, List.cons_lt_cons_iff]

end Field

/-! ## Stamps -/

/-- A date of the calendar and a time of day on the clock, to the millisecond. -/
structure Stamp where
  date : Date
  hour : Nat
  minute : Nat
  second : Nat
  milli : Nat
  inCalendar : date.InCalendar
  hour_lt : hour < 24
  minute_lt : minute < 60
  second_lt : second < 60
  milli_lt : milli < 1000

namespace Stamp

open Instant (form number)

/-- The fields in the order in which they are written. -/
def fields (s : Stamp) : List Field :=
  [⟨4, s.date.year.toNat, '-'⟩, ⟨2, s.date.month, '-'⟩, ⟨2, s.date.day, 'T'⟩, ⟨2, s.hour, ':'⟩, ⟨2, s.minute, ':'⟩,
    ⟨2, s.second, '.'⟩, ⟨3, s.milli, 'Z'⟩]

/-- The text of the fields. -/
def text (s : Stamp) : Text := s.fields.flatMap Field.text

/-- The seconds of the time of day. -/
def clock (s : Stamp) : Nat := s.hour * 3600 + s.minute * 60 + s.second

/-- The whole seconds from the beginning of 1970 on. -/
def seconds (s : Stamp) : Int := s.date.toDays * Instant.secondsPerDay + s.clock

theorem fits (s : Stamp) : ∀ f ∈ s.fields, f.Fits := by
  obtain ⟨date, hour, minute, second, milli, ⟨hyear, hmonth, hday⟩, hhour, hminute, hsecond, hmilli⟩ := s
  have hmonthLength : Date.daysOfMonth date.year date.month ≤ 31 := by
    unfold Date.daysOfMonth
    split
    · split <;> decide
    · split <;> decide
  simp only [fields, List.forall_mem_cons, List.not_mem_nil, false_implies, implies_true, and_true]
  refine ⟨⟨?_, ?_, rfl⟩, ⟨?_, ?_, rfl⟩, ⟨?_, ?_, rfl⟩, ⟨?_, ?_, rfl⟩, ⟨?_, ?_, rfl⟩, ⟨?_, ?_, rfl⟩, ⟨?_, ?_, rfl⟩⟩
  all_goals
    simp only
    omega

/-- All stamps have one form. -/
theorem form_text (s : Stamp) : form s.text = "0000-00-00T00:00:00.000Z".toList := Field.form_flatMap_text s.fits

theorem length_text (s : Stamp) : s.text.length = 24 := by
  have hlength := congrArg List.length s.form_text
  rwa [form, List.length_map] at hlength

theorem number_text (s : Stamp) :
    number s.text 0 4 = s.date.year.toNat ∧ number s.text 5 2 = s.date.month ∧ number s.text 8 2 = s.date.day ∧
      number s.text 11 2 = s.hour ∧ number s.text 14 2 = s.minute ∧ number s.text 17 2 = s.second ∧
      number s.text 20 3 = s.milli := by
  have hread : ∀ count f, s.fields[count]? = some f →
      number s.text ((s.fields.take count).flatMap Field.blank).length f.length = f.number :=
    fun count f hf => Field.number_flatMap_text s.fits hf
  exact ⟨hread 0 _ rfl, hread 1 _ rfl, hread 2 _ rfl, hread 3 _ rfl, hread 4 _ rfl, hread 5 _ rfl, hread 6 _ rfl⟩

theorem drop_text (s : Stamp) : s.text.drop 19 = '.' :: Date.padded 3 s.milli ++ ['Z'] := by
  have hsecond : s.text.drop 17 = Field.text ⟨2, s.second, '.'⟩ ++ (Field.text ⟨3, s.milli, 'Z'⟩ ++ []) :=
    Field.drop_flatMap_text s.fits 5
  have hlength : (Date.padded 2 s.second).length = 2 :=
    Date.length_padded (by decide) (s.second_lt.trans (by decide))
  calc s.text.drop 19
      = (s.text.drop 17).drop 2 := by rw [List.drop_drop]
    _ = '.' :: Date.padded 3 s.milli ++ ['Z'] := by
        rw [hsecond, Field.text, List.append_assoc, List.drop_left' hlength, List.append_nil]
        rfl

/-- A stamp is read as its time. -/
theorem read?_text (s : Stamp) : Instant.read? s.text = some ⟨s.seconds, s.milli * 1000⟩ := by
  obtain ⟨hyear, hmonth, hday, hhour, hminute, hsecond, hmilli⟩ := s.number_text
  have hpositive : (s.date.year.toNat : Int) = s.date.year :=
    Int.toNat_of_nonneg (le_trans (by decide) s.inCalendar.year.1)
  simp only [Instant.read?, hyear, hmonth, hday, hhour, hminute, hsecond, hmilli, hpositive, s.inCalendar.make_eq]
  rw [if_pos ⟨s.form_text, s.hour_lt, s.minute_lt, s.second_lt⟩]
  rfl

theorem clock_lt (s : Stamp) : s.clock < 86400 := by
  have hhour := s.hour_lt
  have hminute := s.minute_lt
  have hsecond := s.second_lt
  rw [clock]
  omega

/-- Stamps are ordered by their dates, then by their times of day, and then by their milliseconds. -/
theorem text_lt_text_iff_fields (s t : Stamp) :
    s.text < t.text ↔ s.date.Before t.date ∨ s.date = t.date ∧
      (s.clock < t.clock ∨ s.clock = t.clock ∧ s.milli < t.milli) := by
  rw [text, text, Field.flatMap_text_lt_iff s.fits t.fits rfl]
  simp only [fields, List.map_cons, List.map_nil, List.cons_lt_cons_iff, List.not_lt_nil, and_false, or_false]
  have hyears : (s.date.year.toNat < t.date.year.toNat ↔ s.date.year < t.date.year) ∧
      (s.date.year.toNat = t.date.year.toNat ↔ s.date.year = t.date.year) := by
    have hpositive := s.inCalendar.year.1
    have hpositive' := t.inCalendar.year.1
    omega
  have hdate : s.date = t.date ↔
      s.date.year = t.date.year ∧ s.date.month = t.date.month ∧ s.date.day = t.date.day := by
    cases s.date
    cases t.date
    exact Eq.to_iff (Date.mk.injEq ..)
  have hclock : s.hour < t.hour ∨ s.hour = t.hour ∧ (s.minute < t.minute ∨ s.minute = t.minute ∧
      (s.second < t.second ∨ s.second = t.second ∧ s.milli < t.milli)) ↔
      s.clock < t.clock ∨ s.clock = t.clock ∧ s.milli < t.milli := by
    have hminute := s.minute_lt
    have hminute' := t.minute_lt
    have hsecond := s.second_lt
    have hsecond' := t.second_lt
    rw [clock, clock]
    omega
  rw [hyears.1, hyears.2, hclock, hdate, Date.Before]
  simp only [and_or_left, or_assoc, and_assoc]

/-- Stamps are ordered as their times. -/
theorem text_lt_text_iff (s t : Stamp) :
    s.text < t.text ↔ s.seconds < t.seconds ∨ s.seconds = t.seconds ∧ s.milli < t.milli := by
  have hclock := s.clock_lt
  have hclock' := t.clock_lt
  rw [text_lt_text_iff_fields, s.inCalendar.before_iff t.inCalendar, s.inCalendar.eq_iff t.inCalendar, seconds, seconds,
    Date.toDays, Date.toDays, Instant.secondsPerDay]
  omega

end Stamp

end Wording
