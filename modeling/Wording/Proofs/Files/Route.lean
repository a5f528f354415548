import Mathlib.Data.Char
import Mathlib.Data.List.Lex
import Mathlib.Data.List.Nodup
import Wording.Files.Disk
import Wording.Proofs.Text.Lines

/-! # Routes through a tree of files and folders

A path and a route of names make the path of what the route leads to, and different routes make different paths: the
parts of the path are those of the folder and the names behind them (`parts_foldl_child`), as no name holds a slash.
That is what makes a list of paths free of repetitions if the routes are all different.

A scan covers some routes to files, `Covers`, and lists them in an order, `ListedBefore`: the files of a folder come
first, by name, and then what lies below its folders, these by name too and each of them to its end before the next one.
Both are defined on routes alone, apart from the walk that is shown to list them.
-/

set_option autoImplicit false

namespace Wording

namespace Path

theorem parts_append (before after : Text) : parts (before ++ '/' :: after) = parts before ++ parts after := by
  have hsplit : Text.splitOnChar '/' (before ++ '/' :: after) =
      Text.splitOnChar '/' before ++ Text.splitOnChar '/' after := by
    simp only [Text.splitOnChar_eq_splitOn]
    exact List.splitOnP_append_cons before after (beq_self_eq_true '/')
  rw [parts, hsplit, List.filter_append]
  rfl

end Path

namespace Tree

/-- That an entry of a folder can have this name. -/
def IsName (name : Text) : Prop := name ≠ [] ∧ name ≠ ['.'] ∧ '/' ∉ name

instance (name : Text) : Decidable (IsName name) :=
  inferInstanceAs (Decidable (name ≠ [] ∧ name ≠ ['.'] ∧ '/' ∉ name))

theorem IsName.parts_eq {name : Text} (h : IsName name) : Path.parts name = [name] := by
  obtain ⟨hne, hpoint, hslash⟩ := h
  have hsplit : Text.splitOnChar '/' name = [name] := by
    rw [Text.splitOnChar_eq_splitOn, List.splitOn, List.splitOnP_eq_singleton]
    intro c hc
    exact beq_false_of_ne fun heq => hslash (heq ▸ hc)
  rw [Path.parts, hsplit, List.filter_cons_of_pos, List.filter_nil]
  simp only [ne_eq, hne, hpoint, not_false_eq_true, decide_true, Bool.and_self]

/-- A child of a path has the parts of the path and its own name. -/
theorem IsName.parts_child {name : Text} (h : IsName name) (path : Text) :
    Path.parts (Path.child path name) = Path.parts path ++ [name] := by
  unfold Path.child
  split
  next hpoint =>
    rw [hpoint, h.parts_eq]
    rfl
  · split
    next hslash =>
      obtain ⟨before, rfl⟩ := List.getLast?_eq_some_iff.mp hslash
      have hbefore : Path.parts (before ++ ['/']) = Path.parts before := by
        rw [Path.parts_append, show Path.parts [] = [] from rfl, List.append_nil]
      rw [hbefore, List.append_assoc, List.singleton_append, Path.parts_append, h.parts_eq]
    · rw [Path.parts_append, h.parts_eq]

/-- The path behind a route of names has the parts of the path before it and the names. -/
theorem parts_foldl_child {route : List Text} (h : ∀ name ∈ route, IsName name) (path : Text) :
    Path.parts (route.foldl Path.child path) = Path.parts path ++ route := by
  induction route generalizing path with
  | nil => rw [List.foldl_nil, List.append_nil]
  | cons name rest ih =>
    obtain ⟨hname, hrest⟩ := List.forall_mem_cons.mp h
    rw [List.foldl_cons, ih hrest, hname.parts_child, List.append_assoc, List.singleton_append]

/-- A tree as files and folders make it up: the entries of each folder have different names. -/
inductive Proper : Tree → Prop
  | file (bytes : List UInt8) : Proper (.file bytes)
  | folder {entries : List (Text × Tree)} (hnames : ∀ entry ∈ entries, IsName entry.1)
      (hdifferent : (entries.map Prod.fst).Nodup) (hbelow : ∀ entry ∈ entries, Proper entry.2) :
      Proper (.folder entries)

theorem Proper.follow {ancestors : List Tree} {here : Tree} {names : List Text} {found : Tree}
    (hancestors : ∀ tree ∈ ancestors, tree.Proper) (hhere : here.Proper)
    (hfound : Tree.follow ancestors here names = .ok found) : found.Proper := by
  fun_induction Tree.follow ancestors here names with
  | case1 ancestors here =>
    cases hfound
    exact hhere
  | case2 => cases hfound
  | case3 ancestors part rest entries hpart ih => exact ih hancestors hhere hfound
  | case4 rest entries hpart ih => exact ih hancestors hhere hfound
  | case5 rest entries hpart parent above ih =>
    obtain ⟨hparent, habove⟩ := List.forall_mem_cons.mp hancestors
    exact ih habove hparent hfound
  | case6 => cases hfound
  | case7 => cases hfound
  | case8 ancestors part rest entries hpart hup hlong entry hentry ih =>
    cases hhere with
    | folder hnames hdifferent hbelow =>
      exact ih (List.forall_mem_cons.mpr ⟨.folder hnames hdifferent hbelow, hancestors⟩)
        (hbelow entry (List.mem_of_find?_eq_some hentry)) hfound

/-- Paths of a proper disk lead to proper trees only. -/
theorem Proper.at? {disk : Disk} (h : disk.root.Proper) {path : Text} {found : Tree}
    (hfound : disk.at? path = .ok found) : found.Proper := by
  unfold Disk.at? at hfound
  split at hfound
  · cases hfound
  · split at hfound
    · cases hfound
    · split at hfound
      · cases hfound
      · exact h.follow (fun _ hnone => absurd hnone List.not_mem_nil) hfound

/-! ## What is covered, and in which order -/

/-- That a scan reads files of this name. -/
def ReadsName (excluded : List Text) (name : Text) : Prop :=
  Text.lower (Path.suffix name) ∉ binarySuffixes ∧ name ∉ excluded

/-- That a scan goes into folders of this name. -/
def EntersName (excluded : List Text) (name : Text) : Prop :=
  name ∉ skippedFolders ∧ ¬ ".egg-info".toList <:+ name ∧ name ∉ excluded

/-- That a route of names leads from a folder, which is opened by a path of so many bytes, to a file that a scan covers.
It goes through folders that a scan enters and that can be opened. -/
inductive Covers (excluded : List Text) : Nat → Tree → List Text → Prop
  | file {bytes : Nat} {entries : List (Text × Tree)} {name : Text} {content : List UInt8}
      (hentry : (name, .file content) ∈ entries) (hname : ReadsName excluded name) :
      Covers excluded bytes (.folder entries) [name]
  | folder {bytes : Nat} {entries inner : List (Text × Tree)} {name : Text} {route : List Text}
      (hentry : (name, .folder inner) ∈ entries) (hname : EntersName excluded name)
      (hopens : bytesBelow bytes name ≤ longestPath)
      (hroute : Covers excluded (bytesBelow bytes name) (.folder inner) route) :
      Covers excluded bytes (.folder entries) (name :: route)

/-- That a route to a file is listed before another one from the same folder. -/
inductive ListedBefore : List Text → List Text → Prop
  | files {a b : Text} (h : a < b) : ListedBefore [a] [b]
  | fileFirst {a b next : Text} {rest : List Text} : ListedBefore [a] (b :: next :: rest)
  | folders {a b next later : Text} {rest more : List Text} (h : a < b) :
      ListedBefore (a :: next :: rest) (b :: later :: more)
  | sameFolder {a : Text} {first second : List Text} (h : ListedBefore first second) :
      ListedBefore (a :: first) (a :: second)

theorem ListedBefore.ne {first second : List Text} (h : ListedBefore first second) : first ≠ second := by
  induction h with
  | files h => exact fun heq => ne_of_lt h (List.singleton_injective heq)
  | fileFirst => exact fun heq => List.cons_ne_nil _ _ (List.cons.inj heq).2.symm
  | folders h => exact fun heq => ne_of_lt h (List.cons.inj heq).1
  | sameFolder h ih => exact fun heq => ih (List.cons.inj heq).2

/-- That paths are those behind the routes from a path that something holds of, each route once and in its order. -/
def ListsRoutes (path : Text) (covered : List Text → Prop) (paths : List Text) : Prop :=
  ∃ routes : List (List Text), paths = routes.map (·.foldl Path.child path) ∧
    routes.Pairwise ListedBefore ∧ ∀ route, route ∈ routes ↔ covered route

section

variable {excluded : List Text} {bytes : Nat} {tree : Tree} {route : List Text}

theorem Covers.isName (h : Covers excluded bytes tree route) (hproper : tree.Proper) :
    ∀ name ∈ route, IsName name := by
  induction h with
  | file hentry =>
    cases hproper with
    | folder hnames =>
      intro name hname
      rw [List.mem_singleton.mp hname]
      exact hnames _ hentry
  | folder hentry _ _ _ ih =>
    cases hproper with
    | folder hnames _ hbelow => exact List.forall_mem_cons.mpr ⟨hnames _ hentry, ih (hbelow _ hentry)⟩

end

/-- Different routes of names lead to different paths, so the paths of listed routes are all different. -/
theorem ListsRoutes.nodup {path : Text} {covered : List Text → Prop} {paths : List Text}
    (h : ListsRoutes path covered paths) (hnames : ∀ route, covered route → ∀ name ∈ route, IsName name) :
    paths.Nodup := by
  obtain ⟨routes, rfl, hordered, hcovered⟩ := h
  refine List.Nodup.map_on ?_ (hordered.imp ListedBefore.ne)
  intro first hfirst second hsecond heq
  have hparts : Path.parts path ++ first = Path.parts path ++ second := by
    rw [← parts_foldl_child (hnames first ((hcovered first).mp hfirst)),
      ← parts_foldl_child (hnames second ((hcovered second).mp hsecond)), heq]
  exact List.append_cancel_left hparts

end Tree

end Wording
