import Mathlib.Data.Int.Order.Basic
import Wording.Scan.Report
import Wording.Proofs.StableSort

/-! # The findings of a report by their lines

Sorted findings fall into runs of one line each: the runs put together are the findings, and lines rise from run to run.
So each line with a finding has one group, which holds its findings in their order, and the groups one after the other
are the stable sort of the findings by line.

What a run is follows by induction on the findings, where one more finding in front either begins a run or joins the
first one (`groupRuns_cons`). That the group of a line is the findings of that line, in their order, needs no more than
that lines rise: filtering the runs put together by a line leaves one of them (`filter_flatMap_of_rising`).
-/

set_option autoImplicit false

namespace Wording

namespace FileReport

variable {findings : List Finding}

/-! ## Runs -/

/-- A finding joins the first run behind it if it is on the line of that run, and else begins a run of its own. -/
theorem groupRuns_cons (f : Finding) (findings : List Finding) :
    (∃ run runs, groupRuns findings = (f.line, run) :: runs ∧ groupRuns (f :: findings) = (f.line, f :: run) :: runs) ∨
      ((∀ run ∈ (groupRuns findings).head?, run.1 ≠ f.line) ∧
        groupRuns (f :: findings) = (f.line, [f]) :: groupRuns findings) := by
  rw [groupRuns]
  cases hruns : groupRuns findings with
  | nil => exact .inr ⟨nofun, rfl⟩
  | cons first runs =>
    obtain ⟨line, run⟩ := first
    by_cases hline : f.line = line
    · subst hline
      exact .inl ⟨run, runs, rfl, if_pos rfl⟩
    · refine .inr ⟨?_, if_neg hline⟩
      rintro _ ⟨⟩
      exact Ne.symm hline

/-- The runs put together are the findings. -/
theorem flatMap_groupRuns (findings : List Finding) : (groupRuns findings).flatMap Prod.snd = findings := by
  induction findings with
  | nil => rfl
  | cons f findings ih =>
    rcases groupRuns_cons f findings with ⟨run, runs, hruns, h⟩ | ⟨-, h⟩
    · rw [hruns, List.flatMap_cons] at ih
      rw [h, List.flatMap_cons, List.cons_append, ih]
    · rw [h, List.flatMap_cons, ih, List.singleton_append]

theorem ne_nil_and_line_eq_of_mem_groupRuns {run : Int × List Finding} (h : run ∈ groupRuns findings) :
    run.2 ≠ [] ∧ ∀ f ∈ run.2, f.line = run.1 := by
  induction findings generalizing run with
  | nil => cases h
  | cons f findings ih =>
    rcases groupRuns_cons f findings with ⟨first, runs, hruns, hgroups⟩ | ⟨-, hgroups⟩
    all_goals rw [hgroups] at h
    · have hbefore : ∀ run ∈ (f.line, first) :: runs, run.2 ≠ [] ∧ ∀ f ∈ run.2, f.line = run.1 :=
        fun run hrun => ih (hruns ▸ hrun)
      obtain ⟨hfirst, hrest⟩ := List.forall_mem_cons.mp hbefore
      rcases List.mem_cons.mp h with rfl | h
      · exact ⟨List.cons_ne_nil f first, List.forall_mem_cons.mpr ⟨rfl, hfirst.2⟩⟩
      · exact hrest run h
    · rcases List.mem_cons.mp h with rfl | h
      · exact ⟨List.cons_ne_nil f [], List.forall_mem_singleton.mpr rfl⟩
      · exact ih h

theorem exists_line_of_mem_groupRuns {run : Int × List Finding} (h : run ∈ groupRuns findings) :
    ∃ f ∈ findings, f.line = run.1 := by
  obtain ⟨hne, hline⟩ := ne_nil_and_line_eq_of_mem_groupRuns h
  obtain ⟨f, hf⟩ := List.exists_mem_of_ne_nil _ hne
  refine ⟨f, ?_, hline f hf⟩
  rw [← flatMap_groupRuns findings]
  exact List.mem_flatMap.mpr ⟨run, h, hf⟩

/-- Along findings whose lines never fall, lines rise from run to run. -/
theorem pairwise_groupRuns (h : findings.Pairwise fun f g => f.line ≤ g.line) :
    (groupRuns findings).Pairwise fun a b => a.1 < b.1 := by
  induction findings with
  | nil => exact .nil
  | cons f findings ih =>
    obtain ⟨hleast, hrest⟩ := List.pairwise_cons.mp h
    rcases groupRuns_cons f findings with ⟨run, runs, hruns, hgroups⟩ | ⟨hhead, hgroups⟩
    · have hrising := ih hrest
      rw [hruns, List.pairwise_cons] at hrising
      rw [hgroups]
      exact List.pairwise_cons.mpr hrising
    · have hrising := ih hrest
      rw [hgroups]
      refine List.pairwise_cons.mpr ⟨fun run hrun => ?_, hrising⟩
      have hle : ∀ run ∈ groupRuns findings, f.line ≤ run.1 := fun run hrun => by
        obtain ⟨g, hg, hline⟩ := exists_line_of_mem_groupRuns hrun
        exact hline ▸ hleast g hg
      -- The first run is on another line, and all others are behind it.
      cases hruns : groupRuns findings with
      | nil =>
        rw [hruns] at hrun
        cases hrun
      | cons first runs =>
        rw [hruns] at hhead hrising hrun hle
        have hfirst : f.line < first.1 := lt_of_le_of_ne (hle first List.mem_cons_self) (hhead first rfl).symm
        rcases List.mem_cons.mp hrun with rfl | hrun
        · exact hfirst
        · exact hfirst.trans ((List.pairwise_cons.mp hrising).1 run hrun)

/-! ## Groups -/

/-- Of groups on rising lines, each is what all of them hold on its line. -/
theorem filter_flatMap_of_rising {groups : List (Int × List Finding)} (hrising : groups.Pairwise fun a b => a.1 < b.1)
    (hline : ∀ group ∈ groups, ∀ f ∈ group.2, f.line = group.1) {group : Int × List Finding} (h : group ∈ groups) :
    ((groups.flatMap Prod.snd).filter fun f => f.line = group.1) = group.2 := by
  have hothers : ∀ others : List (Int × List Finding), (∀ other ∈ others, other ∈ groups ∧ other.1 ≠ group.1) →
      ((others.flatMap Prod.snd).filter fun f => f.line = group.1) = [] := fun others hne => by
    refine List.filter_eq_nil_iff.mpr fun f hf heq => ?_
    obtain ⟨other, hother, hf⟩ := List.mem_flatMap.mp hf
    obtain ⟨hmem, hne⟩ := hne other hother
    exact hne ((hline other hmem f hf).symm.trans (of_decide_eq_true heq))
  have hown : (group.2.filter fun f => f.line = group.1) = group.2 :=
    List.filter_eq_self.mpr fun f hf => decide_eq_true (hline group h f hf)
  obtain ⟨before, behind, rfl⟩ := List.append_of_mem h
  obtain ⟨-, hbehind, hbefore⟩ := List.pairwise_append.mp hrising
  have hnoneBefore := hothers before fun other hother =>
    ⟨List.mem_append_left _ hother, (hbefore other hother group List.mem_cons_self).ne⟩
  have hnoneBehind := hothers behind fun other hother =>
    ⟨List.mem_append_right _ (List.mem_cons_of_mem _ hother), ((List.pairwise_cons.mp hbehind).1 other hother).ne'⟩
  rw [List.flatMap_append, List.flatMap_cons, List.filter_append, List.filter_append, hown, hnoneBefore, hnoneBehind,
    List.nil_append, List.append_nil]

/-- That groups hold findings by their lines: lines rise from group to group, they are the lines of the findings, no
group is empty, each holds the findings of its line in their order, and all together are the stable sort by line. -/
structure GroupedByLine (findings : List Finding) (groups : List (Int × List Finding)) : Prop where
  rising : (groups.map Prod.fst).Pairwise (· < ·)
  mem_lines_iff : ∀ line, line ∈ groups.map Prod.fst ↔ ∃ f ∈ findings, f.line = line
  ne_nil : ∀ group ∈ groups, group.2 ≠ []
  group_eq : ∀ group ∈ groups, group.2 = findings.filter fun f => f.line = group.1
  sorted : IsStableSort Finding.line findings (groups.flatMap Prod.snd)

/-- Runs of sorted findings hold the given ones by their lines. -/
theorem groupedByLine_groupRuns {sorted : List Finding} (h : IsStableSort Finding.line findings sorted) :
    GroupedByLine findings (groupRuns sorted) := by
  have hrising := pairwise_groupRuns h.ordered
  have hline : ∀ run ∈ groupRuns sorted, ∀ f ∈ run.2, f.line = run.1 :=
    fun run hrun => (ne_nil_and_line_eq_of_mem_groupRuns hrun).2
  refine ⟨List.pairwise_map.mpr hrising, fun line => ⟨fun hmem => ?_, ?_⟩,
    fun run hrun => (ne_nil_and_line_eq_of_mem_groupRuns hrun).1, fun run hrun => ?_, ?_⟩
  · obtain ⟨run, hrun, rfl⟩ := List.mem_map.mp hmem
    obtain ⟨f, hf, heq⟩ := exists_line_of_mem_groupRuns hrun
    exact ⟨f, h.perm.mem_iff.mp hf, heq⟩
  · rintro ⟨f, hf, rfl⟩
    rw [← h.perm.mem_iff, ← flatMap_groupRuns sorted] at hf
    obtain ⟨run, hrun, hf⟩ := List.mem_flatMap.mp hf
    exact List.mem_map.mpr ⟨run, hrun, (hline run hrun f hf).symm⟩
  · rw [← h.stable, ← filter_flatMap_of_rising hrising hline hrun, flatMap_groupRuns]
  · rwa [flatMap_groupRuns]

/-- The groups of a report hold its findings by their lines. -/
theorem groupedByLine_byLine (r : FileReport) : GroupedByLine r.findings r.byLine :=
  groupedByLine_groupRuns (isStableSort_mergeSort fun _ _ _ _ => decide_eq_true_iff)

end FileReport

end Wording
