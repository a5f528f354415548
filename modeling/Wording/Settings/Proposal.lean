import Wording.Settings.Builtin

/-!
Changes as they are proposed for settings: the terms are still drafts, the seconds may be any value, and there may be
names under which settings hold nothing. A proposal is granted as a whole, or it leaves the settings as they are.
-/

set_option autoImplicit false

namespace Wording

/-- What a term is to be made of. -/
structure Term.Draft where
  id : Text
  text : Text
  category : Value := .text Category.other.text
  severity : Value := .text Severity.medium.text
  suggestions : List Text := []

namespace Settings

/-- Why a proposal is turned down. -/
inductive ProposalFault where
  | unknownChoice (u : UnknownChoice)
  | unknownField (name : Text)
  | refused (e : SettingsError)

/-- The fields that settings are to get anew, and the names of fields that settings do not have. -/
structure Proposal where
  terms : Option (List Term.Draft) := none
  timePerFix : Option Value := none
  includeIdentifiers : Option Bool := none
  includeStrings : Option Bool := none
  includeComments : Option Bool := none
  caseSensitive : Option Bool := none
  strangers : List Text := []

/-- The term that a draft describes. -/
def termOfDraft (room : Rooms) (d : Term.Draft) : Except ProposalFault Term := do
  let category ← (Category.ofValue room d.category).mapError .unknownChoice
  let severity ← (Severity.ofValue room d.severity).mapError .unknownChoice
  (Term.make d.id d.text category severity d.suggestions).mapError .refused

/-- The settings with a proposal granted. The terms are made first, then the names are looked at, and the fields are
checked last. -/
def propose (room : Rooms) (s : Settings) (p : Proposal) : Except ProposalFault Settings := do
  let terms ← p.terms.mapM fun drafts => drafts.mapM (termOfDraft room)
  match p.strangers with
  | name :: _ => .error (.unknownField name)
  | [] =>
    let time ← (p.timePerFix.mapM (secondsOfValue room)).mapError .refused
    (s.replace ⟨terms, time, p.includeIdentifiers, p.includeStrings, p.includeComments,
      p.caseSensitive⟩).mapError .refused

/-- The settings behind a proposal: those that it leads to, or the old ones if it is turned down. -/
def afterProposal (room : Rooms) (s : Settings) (p : Proposal) : Settings :=
  match s.propose room p with
  | .ok new => new
  | .error _ => s

/-- The settings behind some proposals, one after the other. -/
def afterProposals (room : Rooms) (s : Settings) (ps : List Proposal) : Settings := ps.foldl (afterProposal room) s

end Settings

end Wording
