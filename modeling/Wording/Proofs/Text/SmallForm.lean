import Wording.Proofs.Text.Blank
import Wording.Proofs.Text.Lowercase

/-! # The small form of a small form

Making a text small twice is making it small once. A character is settled if it is its own small form wherever it
stands, and the letters of a small form are settled (`isSettled_of_mem_lower`): in each run of the table of casing the
small letters stay off all runs, and are neither the capital sigma nor the capital I with a dot. That is decided over
the runs of the table (`caseRuns_staysOff`), and no letter is looked at on its own.
-/

set_option autoImplicit false

namespace Wording.Text

/-- That a character is its own small form wherever it stands. -/
structure IsSettled (c : Char) : Prop where
  notDot : c ≠ 'İ'
  notSigma : c ≠ 'Σ'
  small : smallLetter c = c

/-- Whether no small letter of one run of capitals is a capital of another run: the letters lie apart, or the small ones
stand between the capitals. -/
def CaseRun.staysOff (a b : CaseRun) : Bool :=
  (a.lower + (a.last - a.first)).blt b.first || b.last.blt a.lower ||
    (b.first ≤ a.lower && (a.last = a.first || a.step % b.step = 0) && (a.lower - b.first) % b.step ≠ 0)

/-- A small letter of a run that stays off another run is no capital there. -/
theorem CaseRun.not_capital_of_staysOff {a b : CaseRun} (h : a.staysOff b = true) {offset : Nat}
    (hlast : offset ≤ a.last - a.first) (hstep : offset % a.step = 0) (hfirst : b.first ≤ a.lower + offset)
    (hin : a.lower + offset ≤ b.last) : (a.lower + offset - b.first) % b.step ≠ 0 := by
  simp only [staysOff, Bool.or_eq_true, Bool.and_eq_true, decide_eq_true_eq, Nat.blt_eq] at h
  obtain (hbelow | habove) | ⟨⟨hbegins, hsteps⟩, hbetween⟩ := h
  · omega
  · omega
  · have hdvd : b.step ∣ offset := by
      obtain hone | hsteps := hsteps
      · rw [hone, Nat.sub_self, Nat.le_zero] at hlast
        exact hlast ▸ Nat.dvd_zero _
      · exact Nat.dvd_trans (Nat.dvd_of_mod_eq_zero hsteps) (Nat.dvd_of_mod_eq_zero hstep)
    rwa [Nat.sub_add_comm hbegins, Nat.add_mod, Nat.mod_eq_zero_of_dvd hdvd, Nat.add_zero, Nat.mod_mod]

/-- The small letters of all runs stay off all runs. -/
theorem caseRuns_staysOff : (caseRuns.all fun a => caseRuns.all a.staysOff) = true := by
  decide +kernel

theorem caseRuns_notDot : ∀ a ∈ caseRuns, a.lower + (a.last - a.first) < 'İ'.toNat ∨ 'İ'.toNat < a.lower := by
  decide +kernel

theorem isSettled_of_mem_caseRuns {run : CaseRun} (hrun : run ∈ caseRuns) {offset : Nat}
    (hlast : offset ≤ run.last - run.first) (hstep : offset % run.step = 0) :
    IsSettled (Char.ofNat (run.lower + offset)) := by
  obtain hvalid | hnull := toNat_ofNat_eq_or (run.lower + offset)
  · have hsmall : smallLetter (Char.ofNat (run.lower + offset)) = Char.ofNat (run.lower + offset) := by
      rw [smallLetter]
      split
      next other hother =>
        obtain ⟨hmem, hfirst, hin⟩ := mem_of_runOf?_eq_some hother
        have hoff := List.all_eq_true.mp (List.all_eq_true.mp caseRuns_staysOff run hrun) other hmem
        rw [hvalid] at hfirst hin ⊢
        exact if_neg (CaseRun.not_capital_of_staysOff hoff hlast hstep hfirst hin)
      next => rfl
    refine ⟨fun hdot => ?_, fun hsigma => ?_, hsmall⟩
    · have hoff := caseRuns_notDot run hrun
      rw [hdot] at hvalid
      omega
    · rw [hsigma] at hsmall
      exact absurd hsmall (by decide +kernel)
  · have hzero : Char.ofNat (run.lower + offset) = '\u0000' := Char.toNat_inj.mp hnull
    rw [hzero]
    exact ⟨by decide, by decide, by decide +kernel⟩

theorem isSettled_smallLetter {c : Char} (hdot : c ≠ 'İ') (hsigma : c ≠ 'Σ') : IsSettled (smallLetter c) := by
  rw [smallLetter]
  split
  next run hrun =>
    obtain ⟨hmem, hfirst, hlast⟩ := mem_of_runOf?_eq_some hrun
    split
    next hstep => exact isSettled_of_mem_caseRuns hmem (Nat.sub_le_sub_right hlast _) hstep
    next hstep => exact ⟨hdot, hsigma, by rw [smallLetter, hrun]; exact if_neg hstep⟩
  next hnone => exact ⟨hdot, hsigma, by rw [smallLetter, hnone]⟩

theorem isSettled_of_mem_lowerBetween {before after : Text} {c d : Char} (h : d ∈ lowerBetween before c after) :
    IsSettled d := by
  have hfew : ['ς', 'σ', 'i', '\u0307'].all fun d => d ≠ 'İ' ∧ d ≠ 'Σ' ∧ smallLetter d = d := by
    decide +kernel
  have hsettled : ∀ d ∈ ['ς', 'σ', 'i', '\u0307'], IsSettled d := fun d hd =>
    have ⟨hdot, hsigma, hsmall⟩ := of_decide_eq_true (List.all_eq_true.mp hfew d hd)
    ⟨hdot, hsigma, hsmall⟩
  rw [lowerBetween] at h
  split at h
  · split at h <;> exact hsettled d (by rw [List.mem_singleton.mp h]; decide)
  next hsigma =>
    split at h
    · exact hsettled d (List.mem_of_mem_drop (i := 2) h)
    next hdot =>
      rw [List.mem_singleton.mp h]
      exact isSettled_smallLetter hdot hsigma

theorem isSettled_of_mem_lower {t : Text} {d : Char} (h : d ∈ lower t) : IsSettled d := by
  have hafter : ∀ before, d ∈ lowerAfter before t → IsSettled d := by
    clear h
    induction t with
    | nil => exact fun _ => nofun
    | cons c rest ih =>
      intro before h
      rw [lowerAfter] at h
      obtain h | h := List.mem_append.mp h
      · exact isSettled_of_mem_lowerBetween h
      · exact ih _ h
  exact hafter [] h

/-- The small form of a small form is the same. -/
theorem lower_lower (t : Text) : lower (lower t) = lower t := by
  have hdot : 'İ' ∉ lower t := fun h => (isSettled_of_mem_lower h).notDot rfl
  have hsigma : 'Σ' ∉ lower t := fun h => (isSettled_of_mem_lower h).notSigma rfl
  have hsmall : (lower t).map smallLetter = (lower t).map id :=
    List.map_congr_left fun _ hd => (isSettled_of_mem_lower hd).small
  rw [lower_eq_map hdot hsigma, hsmall, List.map_id]

end Wording.Text
