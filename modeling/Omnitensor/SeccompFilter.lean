/-
This file models the filter that keeps a worker from becoming another program.

The filter is a classic BPF program, assembled byte by byte with offsets computed from the layout it
is going to have. The kernel runs it on every system call of the worker, over a record of the
call's number, the architecture word and the arguments. For the machines whose tables are written
down the program is one row of tests, so what it returns is known for every call there can be. The
numbers of the machine itself are confined; the second ABI that the kernel of one machine serves
under the same architecture word is not.
-/

import Omnitensor.ClassicBpf
import Omnitensor.Dict

namespace Omnitensor

namespace Seccomp

/-! ### Tables -/

def offsetNr : Nat := 0

def offsetArch : Nat := 4

def offsetArg0Low : Nat := 16

def retKillProcess : Nat := 0x80000000

def retAllow : Nat := 0x7FFF0000

def retErrno : Nat := 0x00050000

def eperm : Nat := 1

def enosys : Nat := 38

/-- The flag of a clone that creates a thread. -/
def cloneThread : Nat := 0x00010000

/-- The numbers of the system calls of a machine, where they are written down. -/
def syscalls (machine : String) : Option (Dict String Nat) :=
  if machine = "x86_64" then
    some ⟨[("execve", 59), ("execveat", 322), ("fork", 57), ("vfork", 58), ("clone", 56),
      ("clone3", 435)], by decide⟩
  else if machine = "aarch64" then
    some ⟨[("execve", 221), ("execveat", 281), ("clone", 220), ("clone3", 435)], by decide⟩
  else none

/-- The architecture word of a machine. -/
def auditArch (machine : String) : Option Nat :=
  if machine = "x86_64" then some 0xC000003E
  else if machine = "aarch64" then some 0xC00000B7
  else none

def deniedOutright : List String := ["execve", "execveat", "fork", "vfork"]

/-- The machines for which a filter can be assembled. -/
def supportedMachines : List String := ["aarch64", "x86_64"]

/-! ### Assembling -/

/-- Why there is no filter. -/
inductive AssemblyError where
  /-- The machine's numbers are not written down. -/
  | unsupported (machine : String)
  /-- A field does not fit its instruction. -/
  | unpackable
  /-- Layout and computed offsets disagree. -/
  | misplaced
  deriving DecidableEq

/-- The bytes of an instruction, unless a field is out of range. -/
def instruction (code : Nat) (jt jf : Int) (k : Nat) : Except AssemblyError (List UInt8) :=
  if code < 65536 ∧ 0 ≤ jt ∧ jt < 256 ∧ 0 ≤ jf ∧ jf < 256 ∧ k < 4294967296 then
    .ok [UInt8.ofNat (code % 256), UInt8.ofNat (code / 256), UInt8.ofNat jt.toNat,
      UInt8.ofNat jf.toNat, UInt8.ofNat (k % 256), UInt8.ofNat (k / 256 % 256),
      UInt8.ofNat (k / 65536 % 256), UInt8.ofNat (k / 16777216)]
  else .error .unpackable

/-- The program with one more instruction. -/
def append (program : List (List UInt8)) (code : Nat) (jt jf : Int) (k : Nat) :
    Except AssemblyError (List (List UInt8)) := do
  return program ++ [← instruction code jt jf k]

/-- How far the next instruction is before a place. -/
def offset (program : List (List UInt8)) (target : Nat) : Int := target - program.length - 1

/-- The value of a system call that fails with an error number. -/
def errno (number : Nat) : Nat := retErrno ||| (number &&& 0xFFFF)

/-- A number that Python counts as true. -/
def truthy (number : Option Nat) : Bool := number.any fun value => decide (value ≠ 0)

/-- The tests of a program before its returns, for a table and the places of the returns. -/
def assembleTests (denied : List Nat) (clone clone3 : Option Nat) (arch allowAt : Nat) :
    Except AssemblyError (List (List UInt8)) := do
  let epermAt := allowAt + 1
  let enosysAt := allowAt + 2
  let killAt := allowAt + 3
  let program ← append [] 0x20 0 0 offsetArch
  let program ← append program 0x15 0 (offset program killAt) arch
  let program ← append program 0x20 0 0 offsetNr
  let program ← denied.foldlM
    (fun program number => append program 0x15 (offset program epermAt) 0 number) program
  let program ← match clone3 with
    | some number => append program 0x15 (offset program enosysAt) 0 number
    | none => pure program
  match clone with
  | some number =>
    let program ← append program 0x15 0 (offset program allowAt) number
    let program ← append program 0x20 0 0 offsetArg0Low
    append program 0x45 (offset program allowAt) (offset program epermAt) cloneThread
  | none => pure program

/-- The BPF program a worker runs under. -/
def workerFilter (currentMachine : String) (machine : Option String) :
    Except AssemblyError (List UInt8) :=
  let machine := (machine.filter fun given => decide (given ≠ "")).getD currentMachine
  match syscalls machine, auditArch machine with
  | some table, some arch => do
    let denied := deniedOutright.filterMap table.get?
    let clone := table.get? "clone"
    let clone3 := table.get? "clone3"
    let length :=
      3 + denied.length + (if truthy clone3 then 1 else 0) + (if truthy clone then 3 else 0)
    let program ← assembleTests denied clone clone3 arch length
    if program.length ≠ length then throw .misplaced
    let program ← append program 0x06 0 0 retAllow
    let program ← append program 0x06 0 0 (errno eperm)
    let program ← append program 0x06 0 0 (errno enosys)
    let program ← append program 0x06 0 0 retKillProcess
    return program.flatten
  | _, _ => .error (.unsupported machine)

/-! ### Running -/

/-- What the kernel tells a filter about a system call. -/
structure SeccompData where
  nr : BitVec 32
  arch : BitVec 32
  instructionPointer : BitVec 64
  args : Fin 6 → BitVec 64

/-- The word at an offset of the record, where there is one. -/
def SeccompData.word (data : SeccompData) (offset : Nat) : Option (BitVec 32) :=
  match offset with
  | 0 => some data.nr
  | 4 => some data.arch
  | 8 => some (data.instructionPointer.setWidth 32)
  | 12 => some ((data.instructionPointer >>> 32).setWidth 32)
  | offset =>
    if inside : 16 ≤ offset ∧ offset < 64 ∧ offset % 4 = 0 then
      let argument := data.args ⟨(offset - 16) / 8, by omega⟩
      some ((if offset % 8 = 0 then argument else argument >>> 32).setWidth 32)
    else none

/-- What the bytes of a program return for a system call. -/
def interpret (program : List UInt8) (data : SeccompData) : Option (BitVec 32) :=
  (ClassicBpf.decode program).bind (ClassicBpf.exec data.word 0)

/-! ### The layout -/

/-- The program for an architecture word and the numbers of a table with both ways to clone. -/
def layout (arch : BitVec 32) (denied : List (BitVec 32)) (clone clone3 : BitVec 32) :
    List BpfInstruction :=
  ⟨0x20, 0, 0, BitVec.ofNat 32 offsetArch⟩ :: ⟨0x15, 0, denied.length + 8, arch⟩ ::
    ⟨0x20, 0, 0, BitVec.ofNat 32 offsetNr⟩ :: (ClassicBpf.tests 5 denied ++
      [⟨0x15, 5, 0, clone3⟩, ⟨0x15, 0, 2, clone⟩, ⟨0x20, 0, 0, BitVec.ofNat 32 offsetArg0Low⟩,
        ⟨0x45, 0, 1, BitVec.ofNat 32 cloneThread⟩,
        ⟨0x06, 0, 0, BitVec.ofNat 32 retAllow⟩, ⟨0x06, 0, 0, BitVec.ofNat 32 (errno eperm)⟩,
        ⟨0x06, 0, 0, BitVec.ofNat 32 (errno enosys)⟩,
        ⟨0x06, 0, 0, BitVec.ofNat 32 retKillProcess⟩])

/-- A clone that creates a process. -/
def createsProcess (data : SeccompData) : Prop :=
  (data.args 0).setWidth 32 &&& BitVec.ofNat 32 cloneThread = 0

instance (data : SeccompData) : Decidable (createsProcess data) :=
  inferInstanceAs (Decidable (_ = _))

/-- What the program with these numbers returns. -/
theorem exec_layout (arch : BitVec 32) (denied : List (BitVec 32)) (clone clone3 : BitVec 32)
    (data : SeccompData) :
    ClassicBpf.exec data.word 0 (layout arch denied clone clone3) =
      some (BitVec.ofNat 32 (
        if data.arch ≠ arch then retKillProcess
        else if data.nr ∈ denied then errno eperm
        else if data.nr = clone3 then errno enosys
        else if data.nr = clone ∧ createsProcess data then errno eperm
        else retAllow)) := by
  have archLoaded : data.word (BitVec.ofNat 32 offsetArch).toNat = some data.arch := rfl
  have nrLoaded : data.word (BitVec.ofNat 32 offsetNr).toNat = some data.nr := rfl
  have flagsLoaded : data.word (BitVec.ofNat 32 offsetArg0Low).toNat =
    some ((data.args 0).setWidth 32) := rfl
  rw [layout, ClassicBpf.exec_loadWord archLoaded, ClassicBpf.exec_jumpEqual]
  by_cases native : data.arch = arch
  · rw [if_pos native, List.drop_zero, ClassicBpf.exec_loadWord nrLoaded, ClassicBpf.exec_tests,
      if_neg (not_not_intro native)]
    by_cases denies : data.nr ∈ denied
    · rw [if_pos denies, if_pos denies]
      exact ClassicBpf.exec_return
    · rw [if_neg denies, if_neg denies, ClassicBpf.exec_jumpEqual]
      by_cases extended : data.nr = clone3
      · rw [if_pos extended, if_pos extended]
        exact ClassicBpf.exec_return
      · rw [if_neg extended, if_neg extended, List.drop_zero, ClassicBpf.exec_jumpEqual]
        by_cases clones : data.nr = clone
        · rw [if_pos clones, List.drop_zero, ClassicBpf.exec_loadWord flagsLoaded,
            ClassicBpf.exec_jumpSet]
          by_cases process : (data.args 0).setWidth 32 &&& BitVec.ofNat 32 cloneThread = 0
          · rw [if_neg (not_not_intro process), if_pos ⟨clones, process⟩]
            exact ClassicBpf.exec_return
          · rw [if_pos process, if_neg fun both => process both.2]
            exact ClassicBpf.exec_return
        · rw [if_neg clones, if_neg fun both => clones both.1]
          exact ClassicBpf.exec_return
  · have skipped : denied.length + 8 = (ClassicBpf.tests 5 denied).length + 7 + 1 := by
      rw [ClassicBpf.length_tests]
    rw [if_neg native, if_pos native, skipped, List.drop_succ_cons, List.drop_length_add_append]
    exact ClassicBpf.exec_return

/-! ### The filters of the machines -/

/-- The number of a system call of a machine, if the machine has it. -/
def number (machine name : String) : Option Nat := (syscalls machine).bind fun table => table.get? name

/-- The number is that of a system call of the machine. -/
def isCall (machine name : String) (nr : BitVec 32) : Bool :=
  (number machine name).any fun known => decide (nr = BitVec.ofNat 32 known)

/-- The architecture word is that of the machine. -/
def isNative (machine : String) (data : SeccompData) : Bool :=
  (auditArch machine).any fun arch => decide (data.arch = BitVec.ofNat 32 arch)

/-- The layout with the numbers of a machine. -/
def machineLayout (machine : String) : List BpfInstruction :=
  layout (BitVec.ofNat 32 ((auditArch machine).getD 0))
    ((deniedOutright.filterMap (number machine)).map (BitVec.ofNat 32))
    (BitVec.ofNat 32 ((number machine "clone").getD 0))
    (BitVec.ofNat 32 ((number machine "clone3").getD 0))

variable {currentMachine machine name : String} {nr : BitVec 32}

/-- The bytes that are assembled are those of the layout. -/
theorem decode_workerFilter {program : List UInt8} (supported : machine ∈ supportedMachines)
    (assembled : workerFilter currentMachine (some machine) = .ok program) :
    ClassicBpf.decode program = some (machineLayout machine) := by
  have decoded : (workerFilter currentMachine (some machine)).toOption.bind ClassicBpf.decode =
      some (machineLayout machine) := by
    simp only [supportedMachines, List.mem_cons, List.not_mem_nil, or_false] at supported
    rcases supported with rfl | rfl
    · have given : workerFilter currentMachine (some "aarch64") =
        workerFilter "" (some "aarch64") := rfl
      rw [given]
      decide +kernel
    · have given : workerFilter currentMachine (some "x86_64") =
        workerFilter "" (some "x86_64") := rfl
      rw [given]
      decide +kernel
  rwa [assembled] at decoded

theorem contained_machineLayout (supported : machine ∈ supportedMachines) :
    ClassicBpf.Contained (machineLayout machine) := by
  simp only [supportedMachines, List.mem_cons, List.not_mem_nil, or_false] at supported
  rcases supported with rfl | rfl <;> decide +kernel

/-- What a filter returns for a system call. -/
theorem interpret_workerFilter {program : List UInt8} (supported : machine ∈ supportedMachines)
    (assembled : workerFilter currentMachine (some machine) = .ok program) (data : SeccompData) :
    interpret program data = some (BitVec.ofNat 32 (
      if isNative machine data = false then retKillProcess
      else if deniedOutright.any (fun name => isCall machine name data.nr) then errno eperm
      else if isCall machine "clone3" data.nr then errno enosys
      else if isCall machine "clone" data.nr = true ∧ createsProcess data then errno eperm
      else retAllow)) := by
  rw [interpret, decode_workerFilter supported assembled, Option.bind_some, machineLayout,
    exec_layout]
  simp only [supportedMachines, List.mem_cons, List.not_mem_nil, or_false] at supported
  rcases supported with rfl | rfl <;>
    simp [isNative, auditArch, isCall, number, syscalls, deniedOutright, Dict.get?]

/-! ### Confinement -/

/-- The bit that marks a number of the x32 ABI, which the kernel of an x86-64 machine serves under
the architecture word of that machine. -/
def x32Bit : Nat := 0x40000000

/-- The numbers of that ABI for executing a program or creating a process or a thread. -/
def x32Number (name : String) : Option Nat :=
  if name = "execve" then some 520
  else if name = "execveat" then some 545
  else if name = "fork" then some 57
  else if name = "vfork" then some 58
  else if name = "clone" then some 56
  else if name = "clone3" then some 435
  else none

/-- The number is that of an x32 call. -/
def isX32Call (name : String) (nr : BitVec 32) : Bool :=
  (x32Number name).any fun known => decide (nr = BitVec.ofNat 32 (x32Bit + known))

/-- The number belongs to another ABI that the kernel serves under the machine's word. -/
def isOtherAbi (machine : String) (nr : BitVec 32) : Bool :=
  decide (machine = "x86_64") && decide (nr &&& BitVec.ofNat 32 x32Bit ≠ 0)

/-- A call of another ABI under the machine's word that executes a program or creates a process. -/
def OtherAbiProcess (machine : String) (data : SeccompData) : Prop :=
  isNative machine data = true ∧ machine = "x86_64" ∧
    (deniedOutright.any (fun name => isX32Call name data.nr) = true ∨
      isX32Call "clone3" data.nr = true ∨
      (isX32Call "clone" data.nr = true ∧ createsProcess data))

/-- What is asked of a program of a machine for a system call. -/
structure Confined (machine : String) (program : List UInt8) (data : SeccompData) : Prop where
  contained : ∃ instructions, ClassicBpf.decode program = some instructions ∧
    ClassicBpf.Contained instructions
  returns : (interpret program data).isSome = true
  foreign : isNative machine data = false →
    interpret program data = some (BitVec.ofNat 32 retKillProcess)
  denied : isNative machine data = true → ∀ name ∈ deniedOutright,
    isCall machine name data.nr = true →
      interpret program data = some (BitVec.ofNat 32 (errno eperm))
  clone : isNative machine data = true → isCall machine "clone" data.nr = true →
    createsProcess data → interpret program data = some (BitVec.ofNat 32 (errno eperm))
  clone3 : isNative machine data = true → isCall machine "clone3" data.nr = true →
    interpret program data = some (BitVec.ofNat 32 (errno enosys))
  allowed : isNative machine data = true → isOtherAbi machine data.nr = false →
    (∀ name ∈ deniedOutright, isCall machine name data.nr = false) →
    isCall machine "clone3" data.nr = false →
    ¬ (isCall machine "clone" data.nr = true ∧ createsProcess data) →
      interpret program data = some (BitVec.ofNat 32 retAllow)
  otherAbi : OtherAbiProcess machine data →
    interpret program data ≠ some (BitVec.ofNat 32 retAllow)

theorem isCall_iff :
    isCall machine name nr = true ↔
      ∃ known, number machine name = some known ∧ nr = BitVec.ofNat 32 known := by
  simp only [isCall, Option.any_eq_true_iff_get, decide_eq_true_eq]
  constructor
  · rintro ⟨some, same⟩
    exact ⟨_, (Option.some_get some).symm, same⟩
  · rintro ⟨known, found, same⟩
    exact ⟨by rw [found]; rfl, by simpa [found] using same⟩

theorem eq_of_isCall {known : Nat} (found : number machine name = some known)
    (calls : isCall machine name nr = true) : nr = BitVec.ofNat 32 known := by
  obtain ⟨other, otherFound, rfl⟩ := isCall_iff.mp calls
  rw [Option.some.inj (found.symm.trans otherFound)]

/-- No number is that of two calls that are answered differently. -/
theorem not_denied_of_clone (supported : machine ∈ supportedMachines)
    (clones : isCall machine "clone" nr = true) :
    deniedOutright.any (fun name => isCall machine name nr) = false ∧
      isCall machine "clone3" nr = false := by
  simp only [supportedMachines, List.mem_cons, List.not_mem_nil, or_false] at supported
  rcases supported with rfl | rfl
  · have found : number "aarch64" "clone" = some 220 := by decide +kernel
    rw [eq_of_isCall found clones]
    decide +kernel
  · have found : number "x86_64" "clone" = some 56 := by decide +kernel
    rw [eq_of_isCall found clones]
    decide +kernel

theorem not_denied_of_clone3 (supported : machine ∈ supportedMachines)
    (clones : isCall machine "clone3" nr = true) :
    deniedOutright.any (fun name => isCall machine name nr) = false := by
  simp only [supportedMachines, List.mem_cons, List.not_mem_nil, or_false] at supported
  rcases supported with rfl | rfl
  · have found : number "aarch64" "clone3" = some 435 := by decide +kernel
    rw [eq_of_isCall found clones]
    decide +kernel
  · have found : number "x86_64" "clone3" = some 435 := by decide +kernel
    rw [eq_of_isCall found clones]
    decide +kernel

theorem isX32Call_iff :
    isX32Call name nr = true ↔
      ∃ known, x32Number name = some known ∧ nr = BitVec.ofNat 32 (x32Bit + known) := by
  simp only [isX32Call, Option.any_eq_true_iff_get, decide_eq_true_eq]
  constructor
  · rintro ⟨some, same⟩
    exact ⟨_, (Option.some_get some).symm, same⟩
  · rintro ⟨known, found, same⟩
    exact ⟨by rw [found]; rfl, by simpa [found] using same⟩

/-- The calls whose numbers the filter of an x86-64 machine tests. -/
def Tested (nr : BitVec 32) : Prop :=
  deniedOutright.any (fun name => isCall "x86_64" name nr) = true ∨
    isCall "x86_64" "clone3" nr = true ∨ isCall "x86_64" "clone" nr = true

instance (nr : BitVec 32) : Decidable (Tested nr) := inferInstanceAs (Decidable (_ ∨ _))

/-- The filter does not test the numbers of the other ABI. -/
theorem not_tested_of_otherAbiProcess {data : SeccompData} (process : OtherAbiProcess machine data) :
    ¬ Tested data.nr := by
  have all : ∀ name ∈ ["execve", "execveat", "fork", "vfork", "clone", "clone3"],
      ∀ known ∈ x32Number name, ¬ Tested (BitVec.ofNat 32 (x32Bit + known)) := by decide +kernel
  have some : ∃ name ∈ ["execve", "execveat", "fork", "vfork", "clone", "clone3"],
      isX32Call name data.nr = true := by
    obtain ⟨_, _, denied | clone3 | ⟨clone, _⟩⟩ := process
    · obtain ⟨name, member, calls⟩ := List.any_eq_true.mp denied
      refine ⟨name, ?_, calls⟩
      simp only [deniedOutright, List.mem_cons, List.not_mem_nil, or_false] at member
      rcases member with rfl | rfl | rfl | rfl <;> simp
    · exact ⟨"clone3", by simp, clone3⟩
    · exact ⟨"clone", by simp, clone⟩
  obtain ⟨name, member, calls⟩ := some
  obtain ⟨known, found, same⟩ := isX32Call_iff.mp calls
  rw [same]
  exact all name member known found

/-- The filter of a machine confines a call exactly if it is not one of another ABI, served under the
machine's word, that executes a program or creates a process. -/
theorem confined_iff {currentMachine machine : String} {program : List UInt8}
    (supported : machine ∈ supportedMachines)
    (assembled : workerFilter currentMachine (some machine) = .ok program) (data : SeccompData) :
    Confined machine program data ↔ ¬ OtherAbiProcess machine data := by
  have value := interpret_workerFilter supported assembled data
  constructor
  · intro confined process
    refine confined.otherAbi process ?_
    have untested := not_tested_of_otherAbiProcess process
    obtain ⟨native, rfl, _⟩ := process
    simp only [Tested, not_or, Bool.not_eq_true] at untested
    obtain ⟨denied, clone3, clone⟩ := untested
    rw [value, native, denied, clone3, clone]
    simp
  · intro foreign
    refine ⟨⟨_, decode_workerFilter supported assembled, contained_machineLayout supported⟩, by
      rw [value]; rfl, fun other => ?_, fun native name member calls => ?_,
      fun native calls creates => ?_, fun native calls => ?_,
      fun native _ undenied unextended uncloned => ?_, fun process => absurd process foreign⟩
    · rw [value, if_pos other]
    · have denied : deniedOutright.any (fun name => isCall machine name data.nr) = true :=
        List.any_eq_true.mpr ⟨name, member, calls⟩
      rw [value, native, denied]
      simp
    · obtain ⟨undenied, unextended⟩ := not_denied_of_clone supported calls
      rw [value, native, undenied, unextended]
      simp [calls, creates]
    · rw [value, native, not_denied_of_clone3 supported calls, calls]
      simp
    · have denied : deniedOutright.any (fun name => isCall machine name data.nr) = false :=
        List.any_eq_false.mpr fun name member => Bool.eq_false_iff.mp (undenied name member)
      rw [value, native, denied, unextended, if_neg uncloned]
      simp

/-- The program of an x86-64 machine. -/
def exampleProgram : List UInt8 := ((workerFilter "" (some "x86_64")).toOption).getD []

theorem workerFilter_exampleProgram : workerFilter "" (some "x86_64") = .ok exampleProgram := by
  decide +kernel

/-- A call with a number on an x86-64 machine. -/
def exampleCall (nr : Nat) : SeccompData where
  nr := BitVec.ofNat 32 nr
  arch := BitVec.ofNat 32 0xC000003E
  instructionPointer := 0
  args := fun _ => 0

theorem confined_iff_execve : Confined "x86_64" exampleProgram (exampleCall 59) := by
  refine (confined_iff (by decide) workerFilter_exampleProgram (exampleCall 59)).mpr ?_
  rintro ⟨_, _, process⟩
  revert process
  decide +kernel

/-- The number of `execve` in the x32 ABI is allowed. -/
theorem not_confined_x32 : ∃ program data, workerFilter "" (some "x86_64") = .ok program ∧
    interpret program data = some (BitVec.ofNat 32 retAllow) ∧
    ¬ Confined "x86_64" program data := by
  have decoded : ClassicBpf.decode exampleProgram = some (machineLayout "x86_64") := by
    decide +kernel
  have allowed : interpret exampleProgram (exampleCall (x32Bit + 520)) =
      some (BitVec.ofNat 32 retAllow) := by
    rw [interpret, decoded, Option.bind_some, machineLayout, exec_layout]
    decide +kernel
  refine ⟨exampleProgram, exampleCall (x32Bit + 520), workerFilter_exampleProgram, allowed, ?_⟩
  intro confined
  exact confined.otherAbi ⟨by decide +kernel, rfl, by decide +kernel⟩ allowed

end Seccomp

end Omnitensor
