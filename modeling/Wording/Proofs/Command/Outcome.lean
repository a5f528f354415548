import Wording.Command.Program
import Wording.Proofs.Attempt

/-! # How runs end

Some things are printed one after the other exactly if each of them is, and what is printed before others fail is
printed all the same. A command ends in a complaint or with what it has come to. All of this holds on every platform, as
nothing is asked of what a platform prints. `printAll_append` cuts what is printed in two, which is how the last of the
tables is told apart from what stands above it.
-/

set_option autoImplicit false

namespace Wording.Command

variable {p : Platform} {channel : Channel}

/-! ## Calls -/

/-- What a call asks for: the settings file that it names, and the request, if it asks for a scan. -/
def Call.asked? : Call → Option (Option Text × Option ScanRequest)
  | .over _ _ _ => none
  | .scan named r => some (named, some r)
  | .terms named => some (named, none)

theorem eq_scan_of_asked? {call : Call} {named : Option Text} {r : ScanRequest}
    (h : call.asked? = some (named, some r)) : call = .scan named r := by
  cases call <;> cases h
  rfl

theorem eq_terms_of_asked? {call : Call} {named : Option Text} (h : call.asked? = some (named, none)) :
    call = .terms named := by
  cases call <;> cases h
  rfl

/-! ## Printing -/

/-- That something can be made, and is printed as some bytes. -/
def Platform.Prints (p : Platform) (channel : Channel) (making : Console.Making) : Prop :=
  ∃ bytes, p.printed channel making = .ok bytes

theorem printed_eq_ok_iff {making : Console.Making} {bytes : List UInt8} :
    p.printed channel making = .ok bytes ↔ ∃ what, making = .ok what ∧ p.print channel what = .ok bytes := by
  simp only [Platform.printed, Attempt.bind_eq_ok_iff, Attempt.mapError_eq_ok_iff]

/-- Nothing stops some printing exactly if each thing is printed. -/
theorem printAll_fault_eq_none_iff {makings : List Console.Making} :
    (p.printAll channel makings).fault = none ↔ ∀ making ∈ makings, p.Prints channel making := by
  induction makings with
  | nil => exact iff_of_true rfl (List.forall_mem_nil _)
  | cons making rest ih =>
    rw [Platform.printAll, List.forall_mem_cons, ← ih, Platform.Prints]
    cases p.printed channel making with
    | error fault => exact iff_of_false nofun nofun
    | ok bytes => simp only [Except.ok.injEq, exists_eq', true_and]

theorem exists_of_printAll_fault {makings : List Console.Making} {fault : Fault}
    (h : (p.printAll channel makings).fault = some fault) :
    ∃ making ∈ makings, p.printed channel making = .error fault := by
  induction makings with
  | nil => cases h
  | cons making rest ih =>
    rw [Platform.printAll] at h
    cases hprinted : p.printed channel making with
    | error other =>
      rw [hprinted] at h
      cases h
      exact ⟨making, List.mem_cons_self, hprinted⟩
    | ok bytes =>
      rw [hprinted] at h
      obtain ⟨other, hother, hfault⟩ := ih h
      exact ⟨other, List.mem_cons_of_mem _ hother, hfault⟩

/-- If nothing but one fault stops any of the things, and it stops one of them, it stops the printing. -/
theorem printAll_fault_eq_some {makings : List Console.Making} {fault : Fault}
    (hall : ∀ making ∈ makings, ∀ other, p.printed channel making = .error other → other = fault)
    (hfails : ∃ making ∈ makings, p.printed channel making = .error fault) :
    (p.printAll channel makings).fault = some fault := by
  cases hfault : (p.printAll channel makings).fault with
  | none =>
    obtain ⟨making, hmaking, hstops⟩ := hfails
    obtain ⟨bytes, hbytes⟩ := printAll_fault_eq_none_iff.mp hfault making hmaking
    rw [hstops] at hbytes
    cases hbytes
  | some other =>
    obtain ⟨making, hmaking, hstops⟩ := exists_of_printAll_fault hfault
    rw [hall making hmaking other hstops]

/-- Behind some things that are printed, others are printed as by themselves. -/
theorem printAll_append {first : List Console.Making} (h : (p.printAll channel first).fault = none)
    (second : List Console.Making) :
    p.printAll channel (first ++ second) =
      ⟨(p.printAll channel first).bytes ++ (p.printAll channel second).bytes, (p.printAll channel second).fault⟩ := by
  induction first with
  | nil => rfl
  | cons making rest ih =>
    rw [List.cons_append, Platform.printAll, Platform.printAll]
    rw [Platform.printAll] at h
    cases hprinted : p.printed channel making with
    | error fault =>
      rw [hprinted] at h
      cases h
    | ok bytes =>
      rw [hprinted] at h
      dsimp only at h ⊢
      rw [ih h, List.append_assoc]

theorem ending_eq_exit_iff {printing : Printing} {code other : Nat} :
    printing.ending code = .exit other ↔ printing.fault = none ∧ code = other := by
  rw [Printing.ending]
  cases printing.fault with
  | none => simp only [Ending.exit.injEq, true_and]
  | some fault => exact iff_of_false nofun nofun

theorem ending_eq_raised_iff {printing : Printing} {code : Nat} {fault : Fault} :
    printing.ending code = .raised fault ↔ printing.fault = some fault := by
  rw [Printing.ending]
  cases printing.fault with
  | none => exact iff_of_false nofun nofun
  | some other => simp only [Ending.raised.injEq, Option.some.injEq]

/-! ## Commands -/

section Scan

variable {around : Surroundings} {e : Environment} {named : Option Text} {r : ScanRequest} {c : Configuration}
  {s : Scanner}

theorem runScan_of_load (h : p.load around.disk e named = .ok c) :
    runScan p around e named r = r.carryOut p around c := by
  rw [runScan, h]
  rfl

theorem runScan_of_load_error {stop : Stop} (h : p.load around.disk e named = .error stop) :
    runScan p around e named r = .error stop := by
  rw [runScan, h]
  rfl

theorem carryOut_of_scanner (h : r.scanner c = .ok s) : r.carryOut p around c = r.scanAndShow p around s := by
  rw [ScanRequest.carryOut, h]
  rfl

theorem carryOut_of_scanner_error {reason : SettingsError} (h : r.scanner c = .error reason) :
    r.carryOut p around c = .error (.ofOptionError reason) := by
  rw [ScanRequest.carryOut, h]
  rfl

theorem scanAndShow_of_scan {scanned : BatchReport × Scanner} (h : s.scanPaths around r.paths = .ok scanned) :
    r.scanAndShow p around s = (r.outcome p around scanned.1).mapError .raise := by
  rw [ScanRequest.scanAndShow, h]
  rfl

theorem scanAndShow_of_scan_error {fault : FileError} (h : s.scanPaths around r.paths = .error fault) :
    r.scanAndShow p around s = .error (.raise (.file fault)) := by
  rw [ScanRequest.scanAndShow, h]
  rfl

end Scan

/-- A command raises a fault if it is stopped by it, or has come to it in the end. -/
theorem settle_eq_raised_iff {attempt : Except Stop Outcome} {fault : Fault} :
    (p.settle attempt).ending = .raised fault ↔
      attempt = .error (.raise fault) ∨ ∃ o, attempt = .ok o ∧ o.ending = .raised fault := by
  cases attempt with
  | ok o => simp only [Platform.settle, reduceCtorEq, Except.ok.injEq, exists_eq_left', false_or]
  | error stop =>
    cases stop with
    | complaint c => exact iff_of_false nofun (by rintro (⟨⟨⟩⟩ | ⟨_, ⟨⟩, _⟩))
    | raise other =>
      simp only [Platform.settle, Ending.raised.injEq, Except.error.injEq, Stop.raise.injEq, reduceCtorEq, false_and,
        exists_false, or_false]

end Wording.Command
