/-
This file models how a referenced buffer is read as a stream of chunks.

A digest is a fold over bytes, the payload is kept or not, and of an element that a chunk cuts in two
the first part is carried into the next. None of the three depends on where the buffer is cut: what is
returned is the digest and the payload of the whole buffer, and it is refused if a whole element of it is
no finite number.
-/

import Omnitensor.TensorReference

namespace Omnitensor

/-! ### Reading a stream -/

/-- A digest that takes bytes one after another. -/
structure StreamingDigest where
  State : Type
  initial : State
  update : State → UInt8 → State
  hexdigest : State → String

/-- The digest of bytes. -/
def StreamingDigest.ofBytes (digest : StreamingDigest) (bytes : List UInt8) : String :=
  digest.hexdigest (bytes.foldl digest.update digest.initial)

namespace TensorReference

/-- What is known of a stream between two chunks. -/
structure StreamState (digest : StreamingDigest) where
  total : Nat
  digested : digest.State
  retained : Option (List (List UInt8))
  carry : List UInt8

/-- `_refuse_non_finite`. -/
def refuseNonFinite (dtype : Dtype) (payload : List UInt8) (count : Nat) :
    Except DispatchFailure Unit :=
  if (elementValues dtype count payload).all finiteValue then .ok ()
  else .error (invalid "referenced tensors must contain finite numbers")

/-- Take one chunk. -/
def takeChunk (digest : StreamingDigest) (dtype : Dtype) (maxBytes : Nat) (state : StreamState digest)
    (chunk : List UInt8) : Except DispatchFailure (StreamState digest) :=
  let total := state.total + chunk.length
  if maxBytes < total then
    .error (.refused "input-ref-too-large" ("file exceeds " ++ toString maxBytes ++ " bytes"))
  else
    let digested := chunk.foldl digest.update state.digested
    let retained := state.retained.map fun chunks => chunks ++ [chunk]
    if !dtype.checked then .ok ⟨total, digested, retained, state.carry⟩
    else
      let carry := state.carry ++ chunk
      let whole := carry.length - carry.length % dtype.size
      if whole = 0 then .ok ⟨total, digested, retained, carry⟩
      else do
        refuseNonFinite dtype (carry.take whole) (whole / dtype.size)
        return ⟨total, digested, retained, carry.drop whole⟩

/-- The payload, if it is kept, and the digest of a stream of chunks. -/
def readChunks (digest : StreamingDigest) (dtype : Dtype) (maxBytes : Nat) (retainBytes : Bool)
    (chunks : List (List UInt8)) : Except DispatchFailure (Option (List UInt8) × String) := do
  let state ← chunks.foldlM (takeChunk digest dtype maxBytes)
    ⟨0, digest.initial, if retainBytes then some [] else none, []⟩
  return (state.retained.map List.flatten, digest.hexdigest state.digested)

/-! ### Chunks do not matter -/

/-- Some whole element of a buffer is no finite number, where that is asked. -/
def SomeNonFinite (dtype : Dtype) (bytes : List UInt8) : Prop :=
  dtype.checked = true ∧ ∃ index, (index + 1) * dtype.size ≤ bytes.length ∧
    finiteValue (elementValue dtype ((bytes.drop (index * dtype.size)).take dtype.size)) = false

theorem mem_elementValues {dtype : Dtype} {count : Nat} {bytes : List UInt8} {value : Json Double} :
    value ∈ elementValues dtype count bytes ↔ ∃ index < count,
      value = elementValue dtype ((bytes.drop (index * dtype.size)).take dtype.size) := by
  induction count generalizing bytes with
  | zero => simp [elementValues]
  | succ count inductionHypothesis =>
    rw [elementValues, List.mem_cons, inductionHypothesis]
    constructor
    · rintro (rfl | ⟨index, small, rfl⟩)
      · exact ⟨0, Nat.succ_pos count, by rw [Nat.zero_mul, List.drop_zero]⟩
      · refine ⟨index + 1, Nat.succ_lt_succ small, ?_⟩
        rw [List.drop_drop, Nat.succ_mul, Nat.add_comm dtype.size]
    · rintro ⟨index, small, rfl⟩
      cases index with
      | zero => exact .inl (by rw [Nat.zero_mul, List.drop_zero])
      | succ index =>
        refine .inr ⟨index, Nat.lt_of_succ_lt_succ small, ?_⟩
        rw [List.drop_drop, Nat.succ_mul, Nat.add_comm dtype.size]

theorem finiteElements_iff {dtype : Dtype} {bytes : List UInt8} :
    FiniteElements dtype bytes ↔ ¬ SomeNonFinite dtype bytes := by
  have inside : ∀ index, index < bytes.length / dtype.size ↔ (index + 1) * dtype.size ≤ bytes.length :=
    fun index => Nat.lt_iff_add_one_le.trans (Nat.le_div_iff_mul_le dtype.size_pos)
  rw [FiniteElements, SomeNonFinite, not_and]
  refine imp_congr_right fun _ => ?_
  rw [List.all_eq_true]
  constructor
  · rintro all ⟨index, whole, special⟩
    have finite := all _ (mem_elementValues.mpr ⟨index, (inside index).mpr whole, rfl⟩)
    rw [special] at finite
    cases finite
  · intro none value member
    obtain ⟨index, small, rfl⟩ := mem_elementValues.mp member
    by_contra special
    exact none ⟨index, (inside index).mp small, Bool.eq_false_of_not_eq_true special⟩

/-- The elements that are checked are the whole elements of what is carried. -/
theorem refuseNonFinite_take (dtype : Dtype) (carry : List UInt8) :
    refuseNonFinite dtype (carry.take (carry.length / dtype.size * dtype.size))
        (carry.length / dtype.size) =
      if (elementValues dtype (carry.length / dtype.size) carry).all finiteValue then .ok ()
      else .error (invalid "referenced tensors must contain finite numbers") := by
  have whole := Nat.div_mul_le_self carry.length dtype.size
  have enough : carry.length / dtype.size * dtype.size ≤
      (carry.take (carry.length / dtype.size * dtype.size)).length := by
    rw [List.length_take, Nat.min_eq_left whole]
  have same := elementValues_append enough (carry.drop (carry.length / dtype.size * dtype.size))
  rw [List.take_append_drop] at same
  rw [refuseNonFinite, same]

/-- Of a chunk of a stream that is checked, whole elements are checked and the rest is carried. -/
theorem takeChunk_checked {digest : StreamingDigest} {dtype : Dtype} {maxBytes : Nat}
    {state : StreamState digest} {chunk : List UInt8} (room : ¬ maxBytes < state.total + chunk.length)
    (checked : dtype.checked = true) :
    takeChunk digest dtype maxBytes state chunk =
      if (elementValues dtype ((state.carry ++ chunk).length / dtype.size)
          (state.carry ++ chunk)).all finiteValue then
        .ok ⟨state.total + chunk.length, chunk.foldl digest.update state.digested,
          state.retained.map fun chunks => chunks ++ [chunk], (state.carry ++ chunk).drop
            ((state.carry ++ chunk).length / dtype.size * dtype.size)⟩
      else .error (invalid "referenced tensors must contain finite numbers") := by
  have split := Nat.div_add_mod' (state.carry ++ chunk).length dtype.size
  have whole : (state.carry ++ chunk).length - (state.carry ++ chunk).length % dtype.size =
      (state.carry ++ chunk).length / dtype.size * dtype.size := by omega
  rw [takeChunk]
  dsimp only
  rw [if_neg room, checked, Bool.not_true, if_neg Bool.false_ne_true, whole,
    Nat.mul_div_cancel _ dtype.size_pos, refuseNonFinite_take]
  split_ifs with none finite
  · rw [none, List.drop_zero]
  · have few := (Nat.mul_eq_zero.mp none).resolve_right (Nat.ne_of_gt dtype.size_pos)
    rw [few, elementValues] at finite
    exact absurd List.all_nil finite
  · rfl
  · rfl

/-- Taking chunks refuses what scanning them refuses, and hashes and keeps all of them. -/
theorem foldlM_takeChunk (digest : StreamingDigest) (dtype : Dtype) (maxBytes : Nat)
    (chunks : List (List UInt8)) (state : StreamState digest) :
    (chunks.foldlM (takeChunk digest dtype maxBytes) state).map
        (fun state => (state.retained.map List.flatten, state.digested)) =
      (scanChunks dtype maxBytes state.total state.carry chunks).map fun _ =>
        (state.retained.map fun kept => kept.flatten ++ chunks.flatten,
          chunks.flatten.foldl digest.update state.digested) := by
  induction chunks generalizing state with
  | nil =>
    simp only [List.flatten_nil, List.append_nil]
    rfl
  | cons chunk chunks inductionHypothesis =>
    have kept : ∀ kept : List (List UInt8), (kept ++ [chunk]).flatten ++ chunks.flatten =
        kept.flatten ++ (chunk :: chunks).flatten := fun kept => by simp
    rw [List.foldlM_cons, scanChunks]
    by_cases large : maxBytes < state.total + chunk.length
    · rw [takeChunk, if_pos large, if_pos large]
      rfl
    rw [if_neg large]
    by_cases checked : dtype.checked = true
    · rw [takeChunk_checked large checked, if_pos checked]
      dsimp only
      split_ifs with finite
      · rw [ok_bind, inductionHypothesis, Option.map_map]
        simp only [Function.comp_def, kept, List.flatten_cons, List.foldl_append]
      · rfl
    · rw [takeChunk, if_neg large, if_pos (by simpa using checked), if_neg checked, ok_bind,
        inductionHypothesis, Option.map_map]
      simp only [Function.comp_def, kept, List.flatten_cons, List.foldl_append]

/-- A buffer within the limit is refused for one reason only. -/
theorem scanChunks_within {dtype : Dtype} {maxBytes total : Nat} {carry : List UInt8}
    {chunks : List (List UInt8)} (few : total + chunks.flatten.length ≤ maxBytes) :
    scanChunks dtype maxBytes total carry chunks = .ok () ∨
      scanChunks dtype maxBytes total carry chunks =
        .error (invalid "referenced tensors must contain finite numbers") := by
  induction chunks generalizing total carry with
  | nil => exact .inl rfl
  | cons chunk chunks inductionHypothesis =>
    rw [List.flatten_cons, List.length_append, ← Nat.add_assoc] at few
    rw [scanChunks, if_neg (by omega)]
    dsimp only
    split_ifs
    · exact inductionHypothesis few
    · exact .inr rfl
    · exact inductionHypothesis few

/-- A stream is refused as scanning its chunks is; else its digest and all of it are returned. -/
theorem readChunks_eq_map (digest : StreamingDigest) (dtype : Dtype) (maxBytes : Nat)
    (retainBytes : Bool) (chunks : List (List UInt8)) :
    readChunks digest dtype maxBytes retainBytes chunks =
      (scanChunks dtype maxBytes 0 [] chunks).map fun _ =>
        (if retainBytes then some chunks.flatten else none, digest.ofBytes chunks.flatten) := by
  have taken := foldlM_takeChunk digest dtype maxBytes chunks
    ⟨0, digest.initial, if retainBytes then some [] else none, []⟩
  have read : readChunks digest dtype maxBytes retainBytes chunks =
      ((chunks.foldlM (takeChunk digest dtype maxBytes)
        ⟨0, digest.initial, if retainBytes then some [] else none, []⟩).map
          fun state => (state.retained.map List.flatten, state.digested)).map
            fun result => (result.1, digest.hexdigest result.2) := by
    rw [readChunks]
    cases chunks.foldlM (takeChunk digest dtype maxBytes)
      ⟨0, digest.initial, if retainBytes then some [] else none, []⟩ <;> rfl
  rw [read, taken]
  cases scanChunks dtype maxBytes 0 [] chunks with
  | error failure => rfl
  | ok result => cases retainBytes <;> rfl

/-- What reading a stream within the limit comes to. -/
theorem readChunks_cases (digest : StreamingDigest) (dtype : Dtype) {maxBytes : Nat}
    (retainBytes : Bool) {chunks : List (List UInt8)} (few : chunks.flatten.length ≤ maxBytes) :
    (SomeNonFinite dtype chunks.flatten ∧ readChunks digest dtype maxBytes retainBytes chunks =
        .error (invalid "referenced tensors must contain finite numbers")) ∨
      (¬ SomeNonFinite dtype chunks.flatten ∧ readChunks digest dtype maxBytes retainBytes chunks =
        .ok (if retainBytes then some chunks.flatten else none, digest.ofBytes chunks.flatten)) := by
  have scanned := @scanChunks_eq_ok dtype maxBytes 0 [] chunks (Nat.zero_le maxBytes)
    (finiteElements_nil dtype)
  rw [Nat.zero_add, List.nil_append, finiteElements_iff] at scanned
  rw [readChunks_eq_map]
  rcases @scanChunks_within dtype maxBytes 0 [] chunks (by rwa [Nat.zero_add]) with accepted | refused
  · exact .inr ⟨(scanned.mp accepted).2, by rw [accepted]; rfl⟩
  · refine .inl ⟨?_, by rw [refused]; rfl⟩
    by_contra finite
    rw [scanned.mpr ⟨few, finite⟩] at refused
    cases refused

/-- Reading does not depend on where a buffer is cut, and refuses it exactly for an element that is no
finite number. Bytes that are carried from one chunk to the next are decoded as they are in one piece, and
what is kept and hashed are the bytes themselves. -/
theorem readChunks_flatten (digest : StreamingDigest) (dtype : Dtype) (maxBytes : Nat)
    (retainBytes : Bool) (chunks : List (List UInt8)) (few : chunks.flatten.length ≤ maxBytes) :
    readChunks digest dtype maxBytes retainBytes chunks =
        readChunks digest dtype maxBytes retainBytes [chunks.flatten] ∧
      (readChunks digest dtype maxBytes retainBytes chunks =
          .error (invalid "referenced tensors must contain finite numbers") ↔
        SomeNonFinite dtype chunks.flatten) ∧
      (¬ SomeNonFinite dtype chunks.flatten → readChunks digest dtype maxBytes retainBytes chunks =
        .ok (if retainBytes then some chunks.flatten else none, digest.ofBytes chunks.flatten)) := by
  have whole : [chunks.flatten].flatten = chunks.flatten := by simp
  have one := @readChunks_cases digest dtype maxBytes retainBytes [chunks.flatten] (by rwa [whole])
  rw [whole] at one
  rcases readChunks_cases digest dtype retainBytes few with ⟨special, refused⟩ | ⟨finite, read⟩
  · rcases one with ⟨_, same⟩ | ⟨other, _⟩
    · exact ⟨refused.trans same.symm, iff_of_true refused special, fun finite => absurd special finite⟩
    · exact absurd special other
  · rcases one with ⟨other, _⟩ | ⟨_, same⟩
    · exact absurd other finite
    · refine ⟨read.trans same.symm, iff_of_false (fun refused => ?_) finite, fun _ => read⟩
      rw [read] at refused
      cases refused

/-- The sum of the bytes, in place of a digest. -/
def byteSum : StreamingDigest := ⟨Nat, 0, fun sum byte => sum + byte.toNat, toString⟩

theorem readChunks_flatten_cut :
    readChunks byteSum .float32 8 true [[0, 0, 128], [63, 0], [0, 0, 64]] =
        readChunks byteSum .float32 8 true [[0, 0, 128, 63, 0, 0, 0, 64]] ∧
      (readChunks byteSum .float32 8 true [[0, 0, 128], [63, 0], [0, 0, 64]] =
          .error (invalid "referenced tensors must contain finite numbers") ↔
        SomeNonFinite .float32 [0, 0, 128, 63, 0, 0, 0, 64]) ∧
      (¬ SomeNonFinite .float32 [0, 0, 128, 63, 0, 0, 0, 64] →
        readChunks byteSum .float32 8 true [[0, 0, 128], [63, 0], [0, 0, 64]] =
          .ok (some [0, 0, 128, 63, 0, 0, 0, 64], byteSum.ofBytes [0, 0, 128, 63, 0, 0, 0, 64])) :=
  readChunks_flatten byteSum .float32 8 true [[0, 0, 128], [63, 0], [0, 0, 64]] (by decide)

end TensorReference

end Omnitensor
