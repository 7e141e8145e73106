/-
This file develops readers that call each other, and the depth of their calls.

A call takes room while it runs, for itself and for what it calls. A metered reader says how much
room it takes at most at one time, and what it reads or why it refuses. Run with less room it is
exhausted; with enough it ends as it says. A reader that is put together from calls as a metered one
is runs as that one does, and it does not look at what lies behind the part that it reads.
-/

import Omnitensor.Fallible

namespace Omnitensor

namespace MeteredReading

/-- Why a reader stops: it refuses what it reads, or its calls use up the room. -/
inductive Stop (Refusal : Type) where
  | refused (refusal : Refusal)
  | exhausted
  deriving DecidableEq

section

variable {Refusal Result : Type}

/-- A call that takes so much room with all that it calls. -/
def within (cost room : Nat) (read : Except Refusal Result) : Except (Stop Refusal) Result :=
  if cost ≤ room then read.mapError .refused else .error .exhausted

/-- A call that takes so much room itself. -/
def calling (own room : Nat) (body : Except (Stop Refusal) Result) :
    Except (Stop Refusal) Result :=
  if own ≤ room then body else .error .exhausted

/-- What comes after a call matters for what it reads only. -/
theorem within_bind_congr {Other : Type} {cost room : Nat} {read : Except Refusal Result}
    {first second : Result → Except (Stop Refusal) Other}
    (same : ∀ value, read = .ok value → first value = second value) :
    (within cost room read >>= first) = (within cost room read >>= second) := by
  rw [within]
  split_ifs
  · cases read with
    | error refusal => rfl
    | ok value => exact same value rfl
  · rfl

/-- How much room a computation takes at most at one time, and how it ends. -/
structure Metered (Refusal Result : Type) where
  depth : Nat
  result : Except Refusal Result

/-- A metered computation with so much room. -/
def Metered.run (room : Nat) (metered : Metered Refusal Result) : Except (Stop Refusal) Result :=
  within metered.depth room metered.result

end

variable {Refusal Symbol Value Other Item : Type}

/-- Read as often as a count says. -/
def repeatRead (read : List Symbol → Except (Stop Refusal) (Value × List Symbol)) :
    Nat → List Symbol → Except (Stop Refusal) (List Value × List Symbol)
  | 0, data => .ok ([], data)
  | count + 1, data => do
    let (value, data) ← read data
    let (values, data) ← repeatRead read count data
    return (value :: values, data)

/-- A metered reader of what is left of some data. -/
abbrev Metering (Refusal Symbol Value : Type) : Type :=
  List Symbol → Metered Refusal (Value × List Symbol)

namespace Metering

/-! ### Putting readers together -/

def pure (value : Value) : Metering Refusal Symbol Value := fun data => ⟨0, .ok (value, data)⟩

def refuse (refusal : Refusal) : Metering Refusal Symbol Value := fun _ => ⟨0, .error refusal⟩

/-- A call that takes so much room with all that it calls. -/
def leaf (cost : Nat) (read : List Symbol → Except Refusal (Value × List Symbol)) :
    Metering Refusal Symbol Value :=
  fun data => ⟨cost, read data⟩

/-- A call that takes so much room itself. -/
def call (own : Nat) (read : Metering Refusal Symbol Value) : Metering Refusal Symbol Value :=
  fun data => ⟨own + (read data).depth, (read data).result⟩

/-- One reader after another. -/
def bind (read : Metering Refusal Symbol Value) (next : Value → Metering Refusal Symbol Other) :
    Metering Refusal Symbol Other := fun data =>
  match (read data).result with
  | .error refusal => ⟨(read data).depth, .error refusal⟩
  | .ok (value, rest) => ⟨max (read data).depth (next value rest).depth, (next value rest).result⟩

/-- A value is read as often as `count` says. -/
def repeated (read : Metering Refusal Symbol Value) : Nat → Metering Refusal Symbol (List Value)
  | 0 => pure []
  | count + 1 => bind read fun value => bind (repeated read count) fun values =>
      pure (value :: values)

variable {read : Metering Refusal Symbol Value} {next : Value → Metering Refusal Symbol Other}

variable {depth most : Nat} {data rest : List Symbol}

theorem bind_of_eq {value : Value} (same : read data = ⟨depth, .ok (value, rest)⟩) :
    bind read next data = ⟨max depth (next value rest).depth, (next value rest).result⟩ := by
  rw [bind, same]

theorem bind_pure_of_eq {value : Value} (same : read data = ⟨depth, .ok (value, rest)⟩)
    (change : Value → Other) :
    bind read (fun value => pure (change value)) data = ⟨depth, .ok (change value, rest)⟩ := by
  rw [bind_of_eq same]
  exact congrArg (Metered.mk · _) (Nat.max_zero depth)

/-! ### Running -/

@[simp] theorem run_pure (value : Value) (room : Nat) (data : List Symbol) :
    (pure value data : Metered Refusal _).run room = .ok (value, data) := by
  rw [Metered.run, within, pure, if_pos (Nat.zero_le room)]
  rfl

@[simp] theorem run_refuse (refusal : Refusal) (room : Nat) (data : List Symbol) :
    (refuse refusal data : Metered Refusal (Value × List Symbol)).run room =
      .error (.refused refusal) := by
  rw [Metered.run, within, refuse, if_pos (Nat.zero_le room)]
  rfl

theorem run_leaf (cost room : Nat) (read : List Symbol → Except Refusal (Value × List Symbol))
    (data : List Symbol) : (leaf cost read data).run room = within cost room (read data) := rfl

theorem run_call (own room : Nat) (data : List Symbol) :
    (call own read data).run room = calling own room ((read data).run (room - own)) := by
  rw [calling, Metered.run, Metered.run, within, within, call]
  dsimp only
  by_cases fits : own ≤ room
  · rw [if_pos fits]
    congr 1
    exact propext (by omega)
  · rw [if_neg fits, if_neg (by omega)]

theorem run_bind (room : Nat) (data : List Symbol) : (bind read next data).run room =
    ((read data).run room >>= fun taken => (next taken.1 taken.2).run room) := by
  rw [bind]
  obtain ⟨depth, result⟩ := read data
  by_cases fits : depth ≤ room
  · cases result with
    | error refusal => simp [Metered.run, within, fits, Except.mapError, Bind.bind, Except.bind]
    | ok taken => simp [Metered.run, within, fits, Except.mapError]
  · cases result with
    | error refusal => simp [Metered.run, within, fits, Bind.bind, Except.bind]
    | ok taken => simp [Metered.run, within, fits, Bind.bind, Except.bind]

/-! ### What is read is a beginning -/

/-- What a reader returns does not depend on what comes behind, and it leaves no more than there was. -/
structure ReadsBeginning (read : Metering Refusal Symbol Value) : Prop where
  append : ∀ {data depth value rest}, read data = ⟨depth, .ok (value, rest)⟩ → ∀ more,
    read (data ++ more) = ⟨depth, .ok (value, rest ++ more)⟩
  shorter : ∀ {data depth value rest}, read data = ⟨depth, .ok (value, rest)⟩ →
    rest.length ≤ data.length

namespace ReadsBeginning

theorem pure (value : Value) : ReadsBeginning (pure value : Metering Refusal Symbol Value) where
  append := by
    rintro data depth value rest same more
    cases same
    rfl
  shorter := by
    rintro data depth value rest same
    cases same
    exact Nat.le_refl _

theorem refuse (refusal : Refusal) :
    ReadsBeginning (refuse refusal : Metering Refusal Symbol Value) where
  append := nofun
  shorter := nofun

theorem call (own : Nat) (inner : ReadsBeginning read) : ReadsBeginning (call own read) where
  append := by
    intro data depth value rest same more
    obtain ⟨rfl, result⟩ := Metered.mk.inj same
    have longer := inner.append (congrArg (Metered.mk (read data).depth) result) more
    rw [Metering.call, longer]
  shorter := by
    intro data depth value rest same
    exact inner.shorter (congrArg (Metered.mk (read data).depth) (Metered.mk.inj same).2)

theorem bind (first : ReadsBeginning read) (then_ : ∀ value, ReadsBeginning (next value)) :
    ReadsBeginning (bind read next) where
  append := by
    intro data depth other rest same more
    cases taken : read data with
    | mk room result =>
      cases result with
      | error refusal =>
        rw [Metering.bind, taken] at same
        cases same
      | ok pair =>
        rw [bind_of_eq taken] at same
        obtain ⟨rfl, result⟩ := Metered.mk.inj same
        have later := (then_ pair.1).append (congrArg (Metered.mk (next pair.1 pair.2).depth) result)
          more
        rw [bind_of_eq (first.append taken more), later]
  shorter := by
    intro data depth other rest same
    cases taken : read data with
    | mk room result =>
      cases result with
      | error refusal =>
        rw [Metering.bind, taken] at same
        cases same
      | ok pair =>
        rw [bind_of_eq taken] at same
        have later := (then_ pair.1).shorter
          (congrArg (Metered.mk (next pair.1 pair.2).depth) (Metered.mk.inj same).2)
        exact later.trans (first.shorter taken)

theorem repeated (first : ReadsBeginning read) (count : Nat) :
    ReadsBeginning (repeated read count) := by
  induction count with
  | zero => exact pure []
  | succ count inductionHypothesis =>
    exact first.bind fun value => inductionHypothesis.bind fun values => pure (value :: values)

/-- What a call takes makes no difference to what it reads. -/
theorem leaf {cost other : Nat} {read : List Symbol → Except Refusal (Value × List Symbol)}
    (reads : ReadsBeginning (leaf cost read)) : ReadsBeginning (leaf other read) where
  append := by
    intro data depth value rest same more
    obtain ⟨rfl, result⟩ := Metered.mk.inj same
    have longer := reads.append (congrArg (Metered.mk cost) result) more
    exact congrArg (Metered.mk other) (Metered.mk.inj longer).2
  shorter := fun same => reads.shorter (congrArg (Metered.mk cost) (Metered.mk.inj same).2)

theorem leaf_bind {cost : Nat} {read : List Symbol → Except Refusal (Value × List Symbol)}
    {next : Value → List Symbol → Except Refusal (Other × List Symbol)}
    (first : ReadsBeginning (Metering.leaf cost read))
    (then_ : ∀ value, ReadsBeginning (Metering.leaf cost (next value))) :
    ReadsBeginning (Metering.leaf cost fun data => read data >>= fun taken => next taken.1 taken.2) := by
  have same : Metering.leaf cost (fun data => read data >>= fun taken => next taken.1 taken.2) =
      Metering.bind (Metering.leaf cost read) fun value => Metering.leaf cost (next value) := by
    funext data
    rw [Metering.bind, Metering.leaf, Metering.leaf]
    dsimp only
    cases read data with
    | error refusal => rfl
    | ok taken => exact congrArg (Metered.mk · _) (max_self cost).symm
  exact same ▸ first.bind then_

end ReadsBeginning

/-! ### Many items -/

/-- A repeated reader runs as its meter says, if each reading of no more data does. -/
theorem run_repeated {plain : List Symbol → Except (Stop Refusal) (Value × List Symbol)}
    {room : Nat} (beginning : ReadsBeginning read)
    (each : ∀ data, data.length ≤ most → plain data = (read data).run room) (count : Nat)
    (short : data.length ≤ most) :
    repeatRead plain count data = (repeated read count data).run room := by
  induction count generalizing data with
  | zero => exact (run_pure [] room data).symm
  | succ count inductionHypothesis =>
    rw [repeatRead, repeated, run_bind, each data short]
    cases taken : read data with
    | mk depth result =>
      rw [Metered.run, within]
      split
      · cases result with
        | error refusal => rfl
        | ok pair =>
          have rest := (beginning.shorter taken).trans short
          simp only [Except.mapError, ok_bind, run_bind, inductionHypothesis rest, run_pure]
          rfl
      · rfl

/-- The most that some items take. -/
def peak (cost : Item → Nat) (items : List Item) : Nat := (items.map cost).foldr max 0

theorem peak_le {cost : Item → Nat} {items : List Item} :
    peak cost items ≤ most ↔ ∀ item ∈ items, cost item ≤ most := by
  induction items with
  | nil => simp [peak]
  | cons item items inductionHypothesis =>
    rw [List.forall_mem_cons, ← inductionHypothesis]
    exact max_le_iff

/-- A reader that reads each item from what it is encoded as reads all of them, and takes the most
that one of them does. -/
theorem repeated_flatMap {encode : Item → List Symbol} {seen : Item → Value} {cost : Item → Nat}
    {items : List Item} (each : ∀ item ∈ items, ∀ rest,
      read (encode item ++ rest) = ⟨cost item, .ok (seen item, rest)⟩) (rest : List Symbol) :
    repeated read items.length (items.flatMap encode ++ rest) =
      ⟨peak cost items, .ok (items.map seen, rest)⟩ := by
  induction items with
  | nil => rfl
  | cons item items inductionHypothesis =>
    obtain ⟨first, others⟩ := List.forall_mem_cons.mp each
    rw [List.length_cons, repeated, List.flatMap_cons, List.append_assoc, bind_of_eq (first _),
      bind_of_eq (inductionHypothesis others)]
    show Metered.mk (max (cost item) (max (peak cost items) 0)) _ = _
    rw [Nat.max_zero]
    rfl

end Metering

end MeteredReading

end Omnitensor
