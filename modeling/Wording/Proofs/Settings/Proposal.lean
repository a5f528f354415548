import Mathlib.Data.List.Nodup
import Wording.Settings.Proposal
import Wording.Proofs.Settings.Layer

/-! # Settings over a run of proposals

Whether a proposal is granted hangs on the proposal alone: every draft in it must describe a term, the drafts must have
ids of their own, the seconds must be a positive integer, and no name may be strange (`exists_propose_iff`). What is
granted gives the named fields what they ask for and keeps the others; what is turned down keeps them all.

So every run leads to settings in which each id belongs to one term, since settings carry that with them and are only
ever made by a proposal. What a run keeps is proved over the list of proposals, for the fields that none of them names
(`afterProposals_agreeOn`).
-/

set_option autoImplicit false

namespace Wording

namespace Term.Draft

/-- That a term has the fields of a draft. -/
structure Describes (d : Draft) (t : Term) : Prop where
  id : t.id = d.id
  text : t.text = d.text
  category : d.category = .text t.category.text
  severity : d.severity = .text t.severity.text
  suggestions : t.suggestions = d.suggestions

/-- That a term can be made of a draft: its text is not blank, and its category and its severity are words for one. -/
structure IsComplete (d : Draft) : Prop where
  notBlank : Text.isAllBlank d.text = false
  category : ∃ c : Category, d.category = .text c.text
  severity : ∃ s : Severity, d.severity = .text s.text

variable {room : Rooms} {d : Draft} {t : Term}

/-- A complete draft describes a term, and no other draft does. -/
theorem exists_describes_iff : (∃ t, d.Describes t) ↔ d.IsComplete := by
  constructor
  · rintro ⟨t, h⟩
    exact ⟨h.text ▸ t.notBlank, ⟨_, h.category⟩, ⟨_, h.severity⟩⟩
  · rintro ⟨hblank, ⟨c, hc⟩, ⟨s, hs⟩⟩
    exact ⟨⟨d.id, d.text, c, s, d.suggestions, hblank⟩, rfl, rfl, hc, hs, rfl⟩

theorem termOfDraft_eq_ok_iff : Settings.termOfDraft room d = .ok t ↔ d.Describes t := by
  simp only [Settings.termOfDraft, Attempt.bind_eq_ok_iff, Attempt.mapError_eq_ok_iff, Category.ofValue_eq_ok_iff,
    Severity.ofValue_eq_ok_iff, Term.make_eq_ok_iff]
  constructor
  · rintro ⟨c, hc, s, hs, hid, htext, rfl, rfl, hsuggestions⟩
    exact ⟨hid, htext, hc, hs, hsuggestions⟩
  · intro h
    exact ⟨t.category, h.category, t.severity, h.severity, h.id, h.text, rfl, rfl, h.suggestions⟩

theorem exists_forall₂_describes {drafts : List Draft} (h : ∀ d ∈ drafts, d.IsComplete) :
    ∃ terms, List.Forall₂ Describes drafts terms := by
  induction drafts with
  | nil => exact ⟨[], .nil⟩
  | cons d rest ih =>
    obtain ⟨hd, hrest⟩ := List.forall_mem_cons.mp h
    obtain ⟨t, ht⟩ := exists_describes_iff.mpr hd
    obtain ⟨terms, hterms⟩ := ih hrest
    exact ⟨t :: terms, .cons ht hterms⟩

theorem map_id_of_forall₂ {drafts : List Draft} {terms : List Term} (h : List.Forall₂ Describes drafts terms) :
    terms.map (·.id) = drafts.map (·.id) := by
  induction h with
  | nil => rfl
  | cons hfirst _ ih => rw [List.map_cons, List.map_cons, hfirst.id, ih]

theorem isComplete_of_forall₂ {drafts : List Draft} {terms : List Term} (h : List.Forall₂ Describes drafts terms) :
    ∀ d ∈ drafts, d.IsComplete := by
  induction h with
  | nil => exact nofun
  | cons hfirst _ ih => exact List.forall_mem_cons.mpr ⟨exists_describes_iff.mp ⟨_, hfirst⟩, ih⟩

end Term.Draft

namespace Settings

/-- That a field gets what is asked for, in the way that it is read, and stays if nothing is asked. -/
def Becomes {α β : Type} (asked : Option α) (reads : α → β → Prop) (old new : β) : Prop :=
  match asked with
  | none => new = old
  | some a => reads a new

/-- That settings are what a proposal asks for, and what they were in all other fields. -/
structure Grants (s : Settings) (p : Proposal) (new : Settings) : Prop where
  terms : Becomes p.terms (List.Forall₂ Term.Draft.Describes) s.terms new.terms
  timePerFix : Becomes p.timePerFix (fun v n => v = .int n) s.timePerFix new.timePerFix
  includeIdentifiers : Becomes p.includeIdentifiers Eq s.includeIdentifiers new.includeIdentifiers
  includeStrings : Becomes p.includeStrings Eq s.includeStrings new.includeStrings
  includeComments : Becomes p.includeComments Eq s.includeComments new.includeComments
  caseSensitive : Becomes p.caseSensitive Eq s.caseSensitive new.caseSensitive

/-- That nothing in a proposal stands in its way. -/
structure Proposal.IsSound (p : Proposal) : Prop where
  complete : ∀ drafts, p.terms = some drafts → ∀ d ∈ drafts, d.IsComplete
  distinct : ∀ drafts, p.terms = some drafts → (drafts.map (·.id)).Nodup
  positive : ∀ v, p.timePerFix = some v → ∃ n, v = .int n ∧ 0 < n
  known : p.strangers = []

/-- The fields of settings. -/
inductive Field where
  | terms
  | timePerFix
  | includeIdentifiers
  | includeStrings
  | includeComments
  | caseSensitive

/-- Whether a proposal names a field. -/
def Proposal.names (p : Proposal) : Field → Bool
  | .terms => p.terms.isSome
  | .timePerFix => p.timePerFix.isSome
  | .includeIdentifiers => p.includeIdentifiers.isSome
  | .includeStrings => p.includeStrings.isSome
  | .includeComments => p.includeComments.isSome
  | .caseSensitive => p.caseSensitive.isSome

/-- That two settings have the same in a field. -/
def AgreeOn (s other : Settings) : Field → Prop
  | .terms => s.terms = other.terms
  | .timePerFix => s.timePerFix = other.timePerFix
  | .includeIdentifiers => s.includeIdentifiers = other.includeIdentifiers
  | .includeStrings => s.includeStrings = other.includeStrings
  | .includeComments => s.includeComments = other.includeComments
  | .caseSensitive => s.caseSensitive = other.caseSensitive

variable {room : Rooms} {s new : Settings} {p : Proposal}

/-! ## One proposal -/

/-- An optional attempt leads to what is asked for, or to what was there. -/
theorem exists_mapM_iff {α β Fault : Type} {asked : Option α} {attempt : α → Except Fault β} {old new : β} :
    (∃ got, asked.mapM attempt = .ok got ∧ new = got.getD old) ↔
      Becomes asked (fun a b => attempt a = .ok b) old new := by
  cases asked with
  | none =>
    constructor
    · rintro ⟨_, ⟨⟩, h⟩
      exact h
    · intro h
      exact ⟨none, rfl, h⟩
  | some a =>
    rw [Option.mapM_some]
    cases ha : attempt a with
    | error fault =>
      refine iff_of_false ?_ ?_
      · rintro ⟨_, ⟨⟩, -⟩
      · intro h
        rw [Becomes, ha] at h
        cases h
    | ok b =>
      constructor
      · rintro ⟨_, ⟨⟩, h⟩
        rw [Becomes, ha, h]
        rfl
      · intro h
        rw [Becomes, ha, Except.ok.injEq] at h
        exact ⟨some b, rfl, h.symm⟩

theorem secondsOfValue_eq_ok_iff {v : Value} {n : Int} : secondsOfValue room v = .ok n ↔ v = .int n := by
  cases v with
  | int m => simp only [secondsOfValue, Except.ok.injEq, Value.int.injEq]
  | _ => simp only [secondsOfValue, reduceCtorEq]

theorem eq_getD_iff {asked : Option Bool} {old new : Bool} : new = asked.getD old ↔ Becomes asked Eq old new := by
  cases asked with
  | none => rfl
  | some b => exact eq_comm

/-- A proposal leads to exactly the settings that grant it, if it has no strange names. -/
theorem propose_eq_ok_iff : s.propose room p = .ok new ↔ p.strangers = [] ∧ s.Grants p new := by
  have hterms : (∃ got, p.terms.mapM (fun drafts => drafts.mapM (termOfDraft room)) = .ok got ∧
      new.terms = got.getD s.terms) ↔ Becomes p.terms (List.Forall₂ Term.Draft.Describes) s.terms new.terms := by
    simp only [exists_mapM_iff, Attempt.mapM_eq_ok_iff, Term.Draft.termOfDraft_eq_ok_iff]
  have htime : (∃ got, p.timePerFix.mapM (secondsOfValue room) = .ok got ∧ new.timePerFix = got.getD s.timePerFix) ↔
      Becomes p.timePerFix (fun v n => v = .int n) s.timePerFix new.timePerFix := by
    simp only [exists_mapM_iff, secondsOfValue_eq_ok_iff]
  rw [propose]
  cases hstrangers : p.strangers with
  | cons name rest =>
    simp only [Attempt.bind_eq_ok_iff, reduceCtorEq, and_false, exists_false, false_and]
  | nil =>
    simp only [Attempt.bind_eq_ok_iff, Attempt.mapError_eq_ok_iff, replace, make_eq_ok_iff, true_and]
    constructor
    · rintro ⟨terms, hgot, time, hgot', hnew, hnew', hidentifiers, hstrings, hcomments, hsensitive⟩
      exact
        { terms := hterms.mp ⟨terms, hgot, hnew⟩
          timePerFix := htime.mp ⟨time, hgot', hnew'⟩
          includeIdentifiers := eq_getD_iff.mp hidentifiers
          includeStrings := eq_getD_iff.mp hstrings
          includeComments := eq_getD_iff.mp hcomments
          caseSensitive := eq_getD_iff.mp hsensitive }
    · intro h
      obtain ⟨terms, hgot, hnew⟩ := hterms.mpr h.terms
      obtain ⟨time, hgot', hnew'⟩ := htime.mpr h.timePerFix
      exact ⟨terms, hgot, time, hgot', hnew, hnew', eq_getD_iff.mpr h.includeIdentifiers,
        eq_getD_iff.mpr h.includeStrings, eq_getD_iff.mpr h.includeComments, eq_getD_iff.mpr h.caseSensitive⟩

/-- What grants a proposal shows that its drafts are complete and have ids of their own. -/
theorem Grants.sound_terms (h : s.Grants p new) {drafts : List Term.Draft} (hdrafts : p.terms = some drafts) :
    (∀ d ∈ drafts, d.IsComplete) ∧ (drafts.map (·.id)).Nodup := by
  have hterms := h.terms
  rw [hdrafts, Becomes] at hterms
  exact ⟨Term.Draft.isComplete_of_forall₂ hterms, Term.Draft.map_id_of_forall₂ hterms ▸ new.distinct⟩

/-- A sound proposal asks for terms with ids of their own, or keeps such terms. -/
theorem Proposal.IsSound.exists_terms (h : p.IsSound) (s : Settings) :
    ∃ terms, Becomes p.terms (List.Forall₂ Term.Draft.Describes) s.terms terms ∧ (terms.map (·.id)).Nodup := by
  cases hterms : p.terms with
  | none => exact ⟨s.terms, rfl, s.distinct⟩
  | some drafts =>
    obtain ⟨terms, hall⟩ := Term.Draft.exists_forall₂_describes (h.complete drafts hterms)
    refine ⟨terms, hall, ?_⟩
    rw [Term.Draft.map_id_of_forall₂ hall]
    exact h.distinct drafts hterms

/-- A sound proposal asks for positive seconds, or keeps such seconds. -/
theorem Proposal.IsSound.exists_time (h : p.IsSound) (s : Settings) :
    ∃ n, Becomes p.timePerFix (fun v n => v = .int n) s.timePerFix n ∧ 0 < n := by
  cases htime : p.timePerFix with
  | none => exact ⟨s.timePerFix, rfl, s.positive⟩
  | some v => exact h.positive v htime

/-- A proposal is granted exactly if it is sound, whatever the settings are. -/
theorem exists_propose_iff : (∃ new, s.propose room p = .ok new) ↔ p.IsSound := by
  simp only [propose_eq_ok_iff]
  constructor
  · rintro ⟨new, hstrangers, h⟩
    refine ⟨fun _ hdrafts => (h.sound_terms hdrafts).1, fun _ hdrafts => (h.sound_terms hdrafts).2, ?_, hstrangers⟩
    intro v hv
    have htime := h.timePerFix
    rw [hv, Becomes] at htime
    exact ⟨new.timePerFix, htime, new.positive⟩
  · intro h
    obtain ⟨terms, hterms, hdistinct⟩ := h.exists_terms s
    obtain ⟨time, htime, hpositive⟩ := h.exists_time s
    let new : Settings :=
      { terms := terms
        timePerFix := time
        includeIdentifiers := p.includeIdentifiers.getD s.includeIdentifiers
        includeStrings := p.includeStrings.getD s.includeStrings
        includeComments := p.includeComments.getD s.includeComments
        caseSensitive := p.caseSensitive.getD s.caseSensitive
        positive := hpositive
        distinct := hdistinct }
    exact ⟨new, h.known, hterms, htime, eq_getD_iff.mp rfl, eq_getD_iff.mp rfl, eq_getD_iff.mp rfl,
      eq_getD_iff.mp rfl⟩

/-- A field that is not asked for stays. -/
theorem Becomes.eq_of_not_isSome {α β : Type} {asked : Option α} {reads : α → β → Prop} {old new : β}
    (h : Becomes asked reads old new) (hnone : asked.isSome = false) : new = old := by
  cases asked with
  | none => exact h
  | some a => cases hnone

/-- What grants a proposal keeps every field that the proposal does not name. -/
theorem Grants.agreeOn (h : s.Grants p new) {f : Field} (hf : p.names f = false) : new.AgreeOn s f := by
  cases f with
  | terms => exact h.terms.eq_of_not_isSome hf
  | timePerFix => exact h.timePerFix.eq_of_not_isSome hf
  | includeIdentifiers => exact h.includeIdentifiers.eq_of_not_isSome hf
  | includeStrings => exact h.includeStrings.eq_of_not_isSome hf
  | includeComments => exact h.includeComments.eq_of_not_isSome hf
  | caseSensitive => exact h.caseSensitive.eq_of_not_isSome hf

theorem agreeOn_refl (s : Settings) (f : Field) : s.AgreeOn s f := by
  cases f <;> rfl

/-- Settings that agree with settings that agree with others agree with these. -/
theorem AgreeOn.trans {a b c : Settings} {f : Field} (hab : a.AgreeOn b f) (hbc : b.AgreeOn c f) : a.AgreeOn c f := by
  cases f <;> exact Eq.trans hab hbc

/-- Behind a proposal, every field that it does not name is what it was. -/
theorem afterProposal_agreeOn {f : Field} (hf : p.names f = false) : (s.afterProposal room p).AgreeOn s f := by
  rw [afterProposal]
  cases h : s.propose room p with
  | ok new => exact (propose_eq_ok_iff.mp h).2.agreeOn hf
  | error fault => exact agreeOn_refl s f

/-! ## A run of proposals -/

/-- Behind a run of proposals, every field that none of them names is what it was. -/
theorem afterProposals_agreeOn {f : Field} {ps : List Proposal} (h : ∀ p ∈ ps, p.names f = false) :
    (s.afterProposals room ps).AgreeOn s f := by
  induction ps generalizing s with
  | nil => exact agreeOn_refl s f
  | cons p rest ih =>
    obtain ⟨hp, hrest⟩ := List.forall_mem_cons.mp h
    exact (ih hrest).trans (afterProposal_agreeOn hp)

/-- The last proposal of a run meets the settings that the others lead to. -/
theorem afterProposals_append (room : Rooms) (s : Settings) (ps : List Proposal) (p : Proposal) :
    s.afterProposals room (ps ++ [p]) = (s.afterProposals room ps).afterProposal room p := by
  rw [afterProposals, List.foldl_append]
  rfl

/-- An id is that of one term at most, so that the term with an id is found by it. -/
theorem term?_eq_some_iff {id : Text} {t : Term} : s.term? id = some t ↔ t ∈ s.terms ∧ t.id = id := by
  constructor
  · intro h
    exact ⟨List.mem_of_find?_eq_some h, of_decide_eq_true (List.find?_some h :)⟩
  · rintro ⟨ht, rfl⟩
    have hsome : (s.term? t.id).isSome := List.find?_isSome.mpr ⟨t, ht, decide_eq_true rfl⟩
    obtain ⟨u, hu⟩ := Option.isSome_iff_exists.mp hsome
    have hid : u.id = t.id := of_decide_eq_true (List.find?_some hu :)
    rw [hu, List.inj_on_of_nodup_map s.distinct (List.mem_of_find?_eq_some hu) ht hid]

/-- Behind every run of proposals, the ids of the terms differ, a fix takes some time, no term is blank, and each term
is found by its id, which no other id does. Fields that no proposal of the run names are what they were. The next
proposal is granted exactly if it is sound, and leads to what it asks for, with the other fields kept; otherwise it ends
in a fault and leaves the settings as they are. -/
theorem settings_of_proposals (room : Rooms) (first : Settings) (ps : List Proposal) :
    let s := first.afterProposals room ps
    (s.terms.map (·.id)).Nodup ∧ 0 < s.timePerFix ∧ (∀ t ∈ s.terms, Text.isAllBlank t.text = false) ∧
      (∀ t ∈ s.terms, s.term? t.id = some t) ∧
      (∀ id, id ∉ s.terms.map (·.id) → s.term? id = none) ∧
      (∀ f, (∀ p ∈ ps, p.names f = false) → s.AgreeOn first f) ∧
      ∀ p : Proposal,
        (p.IsSound ∧ ∃ new, s.propose room p = .ok new ∧ s.Grants p new ∧ first.afterProposals room (ps ++ [p]) = new) ∨
        (¬ p.IsSound ∧ (∃ fault, s.propose room p = .error fault) ∧ first.afterProposals room (ps ++ [p]) = s) := by
  intro s
  refine ⟨s.distinct, s.positive, fun t _ => t.notBlank, fun t ht => term?_eq_some_iff.mpr ⟨ht, rfl⟩, ?_,
    fun f hf => afterProposals_agreeOn hf, ?_⟩
  · intro id hid
    refine Option.eq_none_iff_forall_ne_some.mpr fun t ht => ?_
    obtain ⟨hmem, rfl⟩ := term?_eq_some_iff.mp ht
    exact hid (List.mem_map_of_mem hmem)
  · intro p
    rw [afterProposals_append, afterProposal]
    cases h : s.propose room p with
    | ok new => exact .inl ⟨exists_propose_iff.mp ⟨new, h⟩, new, rfl, (propose_eq_ok_iff.mp h).2, rfl⟩
    | error fault =>
      refine .inr ⟨fun hsound => ?_, ⟨fault, rfl⟩, rfl⟩
      obtain ⟨new, hnew⟩ := exists_propose_iff.mpr hsound
      rw [h] at hnew
      cases hnew

/-- Terms of one id are turned down, and what is asked for behind them is granted all the same. -/
example :
    let given : Term.Draft := { id := "1".toList, text := "guys".toList }
    let s := empty.afterProposals shallowRooms
      [{ terms := some [given] }, { terms := some [given, given] }, { timePerFix := some (.int 45) }]
    s.terms.map (·.text) = ["guys".toList] ∧ s.timePerFix = 45 := by
  decide +kernel

end Settings

end Wording
