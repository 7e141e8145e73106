/-
This file develops classic BPF as far as filters of system calls use it.

A program is a list of instructions of eight bytes each. A jump counts the instructions it skips, so
execution goes forward only: what is left to execute is a tail of the program. Execution ends in a
return, or outside the program, or at an instruction or a load that there is not.
-/

import Mathlib.Data.BitVec
import Mathlib.Data.List.Basic

namespace Omnitensor

/-! ### Instructions -/

/-- An instruction with its operands. -/
structure BpfInstruction where
  code : Nat
  jt : Nat
  jf : Nat
  k : BitVec 32
  deriving DecidableEq

namespace BpfInstruction

/-- What an instruction does. -/
inductive Operation where
  /-- Load a word from an offset. -/
  | loadWord
  /-- Jump on whether the accumulator equals the operand. -/
  | jumpEqual
  /-- Jump on whether the accumulator has a bit of the operand. -/
  | jumpSet
  /-- Return the operand. -/
  | return
  deriving DecidableEq

/-- The operation of a code. -/
def operation (instruction : BpfInstruction) : Option Operation :=
  match instruction.code with
  | 0x20 => some .loadWord
  | 0x15 => some .jumpEqual
  | 0x45 => some .jumpSet
  | 0x06 => some .return
  | _ => none

/-- The places an instruction may go on at. -/
def successors (instruction : BpfInstruction) (place : Nat) : List Nat :=
  match instruction.operation with
  | some .loadWord => [place + 1]
  | some .jumpEqual | some .jumpSet => [place + 1 + instruction.jt, place + 1 + instruction.jf]
  | some .return | none => []

/-- The instruction of eight bytes, the least significant byte of a number first. -/
def ofBytes : List UInt8 → Option BpfInstruction
  | [first, second, jt, jf, k0, k1, k2, k3] =>
    some ⟨first.toNat + 256 * second.toNat, jt.toNat, jf.toNat,
      BitVec.ofNat 32 (k0.toNat + 256 * (k1.toNat + 256 * (k2.toNat + 256 * k3.toNat)))⟩
  | _ => none

end BpfInstruction

namespace ClassicBpf

/-- The instructions of a program's bytes. -/
def decode : List UInt8 → Option (List BpfInstruction)
  | [] => some []
  | first :: second :: jt :: jf :: k0 :: k1 :: k2 :: k3 :: rest => do
    let instruction ← BpfInstruction.ofBytes [first, second, jt, jf, k0, k1, k2, k3]
    let instructions ← decode rest
    return instruction :: instructions
  | _ => none

/-- Wherever execution is in a program, it goes on inside it or returns. -/
def Contained (program : List BpfInstruction) : Prop :=
  ∀ place instruction, program[place]? = some instruction → instruction.operation ≠ none ∧
    ∀ next ∈ instruction.successors place, place < next ∧ next < program.length

instance (program : List BpfInstruction) : Decidable (Contained program) :=
  decidable_of_iff
    (∀ entry ∈ program.zipIdx, entry.1.operation ≠ none ∧
      ∀ next ∈ entry.1.successors entry.2, entry.2 < next ∧ next < program.length)
    ⟨fun all place instruction found =>
        all (instruction, place) (List.mk_mem_zipIdx_iff_getElem?.mpr found),
      fun contained entry member =>
        contained entry.2 entry.1 (List.mk_mem_zipIdx_iff_getElem?.mp member)⟩

/-! ### Execution -/

/-- Execute what is left of a program, and tell what it returns. -/
def exec (load : Nat → Option (BitVec 32)) (accumulator : BitVec 32) :
    List BpfInstruction → Option (BitVec 32)
  | [] => none
  | instruction :: rest =>
    match instruction.operation with
    | some .loadWord =>
      match load instruction.k.toNat with
      | some word => exec load word rest
      | none => none
    | some .jumpEqual =>
      exec load accumulator
        (rest.drop (if accumulator = instruction.k then instruction.jt else instruction.jf))
    | some .jumpSet =>
      exec load accumulator
        (rest.drop (if accumulator &&& instruction.k ≠ 0 then instruction.jt else instruction.jf))
    | some .return => some instruction.k
    | none => none
termination_by program => program.length
decreasing_by
  · exact Nat.lt_succ_self rest.length
  · exact Nat.lt_succ_of_le (rest.drop_sublist _).length_le
  · exact Nat.lt_succ_of_le (rest.drop_sublist _).length_le

variable {load : Nat → Option (BitVec 32)} {accumulator word : BitVec 32} {jt jf : Nat}
  {k : BitVec 32} {rest : List BpfInstruction}

theorem exec_loadWord (found : load k.toNat = some word) :
    exec load accumulator (⟨0x20, jt, jf, k⟩ :: rest) = exec load word rest := by
  rw [exec]
  simp only [BpfInstruction.operation, found]

theorem exec_jumpEqual : exec load accumulator (⟨0x15, jt, jf, k⟩ :: rest) =
    exec load accumulator (rest.drop (if accumulator = k then jt else jf)) := by
  rw [exec]
  simp only [BpfInstruction.operation]

theorem exec_jumpSet : exec load accumulator (⟨0x45, jt, jf, k⟩ :: rest) =
    exec load accumulator (rest.drop (if accumulator &&& k ≠ 0 then jt else jf)) := by
  rw [exec]
  simp only [BpfInstruction.operation]

theorem exec_return : exec load accumulator (⟨0x06, jt, jf, k⟩ :: rest) = some k := by
  rw [exec]
  simp only [BpfInstruction.operation]

/-- A row of tests that all jump to one place, so many instructions after the row. -/
def tests (beyond : Nat) : List (BitVec 32) → List BpfInstruction
  | [] => []
  | value :: values => ⟨0x15, values.length + beyond, 0, value⟩ :: tests beyond values

@[simp] theorem length_tests (beyond : Nat) (values : List (BitVec 32)) :
    (tests beyond values).length = values.length := by
  induction values with
  | nil => rfl
  | cons value values inductionHypothesis =>
    rw [tests, List.length_cons, List.length_cons, inductionHypothesis]

/-- The row jumps exactly for the values it tests. -/
theorem exec_tests (beyond : Nat) (values : List (BitVec 32)) :
    exec load accumulator (tests beyond values ++ rest) =
      exec load accumulator (if accumulator ∈ values then rest.drop beyond else rest) := by
  induction values with
  | nil => rw [tests, List.nil_append, if_neg List.not_mem_nil]
  | cons value values inductionHypothesis =>
    rw [tests, List.cons_append, exec_jumpEqual]
    by_cases same : accumulator = value
    · rw [if_pos same, if_pos (List.mem_cons.mpr (Or.inl same)), List.drop_append,
        List.drop_of_length_le (by rw [length_tests]; omega), List.nil_append, length_tests,
        Nat.add_sub_cancel_left]
    · rw [if_neg same, List.drop_zero, inductionHypothesis]
      simp only [List.mem_cons, same, false_or]

end ClassicBpf

end Omnitensor
