/-
This file proves which aggregates of kernel telemetry are refused for what they carry.

The search visits the members of an object, of the objects that are values of members, and of the
objects that are items of an array that is one. An array inside an array is not entered, so what is
in it is not seen. The search stops at the first forbidden field, unless the frames of the
interpreter are used up before.
-/

import Omnitensor.KernelTelemetry

namespace Omnitensor

variable {Real : Type}

namespace Json

/-- A value is the document itself, or at some depth inside it. -/
inductive Within (value : Json Real) : Json Real → Prop
  | refl : Within value value
  | item {items : List (Json Real)} {item : Json Real} :
      item ∈ items → Within value item → Within value (.array items)
  | member {members : List (String × Json Real)} {name : String} {inner : Json Real} :
      (name, inner) ∈ members → Within value inner → Within value (.object members)

end Json

namespace KernelTelemetry

open Json (Within)

/-- Some object at some depth has a forbidden key. -/
def Carries (document : Json Real) : Prop :=
  ∃ members, Within (.object members) document ∧ ∃ member ∈ members, member.1 ∈ forbiddenFields

/-! ### What the search visits -/

/-- The names that the search of members visits: no array inside an array is entered. -/
inductive Visited (name : String) : List (String × Json Real) → Prop
  | here {members : List (String × Json Real)} {value : Json Real} :
      (name, value) ∈ members → Visited name members
  | inside {members inner : List (String × Json Real)} {key : String} :
      (key, .object inner) ∈ members → Visited name inner → Visited name members
  | listed {members inner : List (String × Json Real)} {key : String} {items : List (Json Real)} :
      (key, .array items) ∈ members → .object inner ∈ items → Visited name inner →
      Visited name members

/-- The names that the search of a value visits. -/
def VisitedIn (name : String) : Json Real → Prop
  | .object members => Visited name members
  | .array items => ∃ inner, .object inner ∈ items ∧ Visited name inner
  | _ => False

/-- A step of the search. -/
inductive ScanStep where
  /-- A call is made, with so many frames in use. -/
  | call (used : Nat)
  /-- A key is looked at. -/
  | key (name : String)
  deriving DecidableEq

mutual

/-- The steps through members, with so many frames in use. -/
def memberSteps (used : Nat) : List (String × Json Real) → List ScanStep
  | [] => []
  | (name, value) :: members =>
    .key name :: .call (used + 1) :: (valueSteps (used + 1) value ++ memberSteps used members)

def valueSteps (used : Nat) : Json Real → List ScanStep
  | .object members => .call (used + 1) :: memberSteps (used + 1) members
  | .array items => itemSteps used items
  | _ => []

def itemSteps (used : Nat) : List (Json Real) → List ScanStep
  | [] => []
  | .object members :: items =>
    .call (used + 1) :: (memberSteps (used + 1) members ++ itemSteps used items)
  | _ :: items => itemSteps used items

end

/-- The steps of the search of members. -/
def scanSteps (members : List (String × Json Real)) : List ScanStep := .call 1 :: memberSteps 1 members

/-- Where steps end with so many frames: at the first call beyond them or forbidden key. -/
def firstStop (frames : Nat) : List ScanStep → Except TelemetryFailure String
  | [] => .ok ""
  | .call used :: steps => if frames < used then .error .recursion else firstStop frames steps
  | .key name :: steps => if name ∈ forbiddenFields then .ok name else firstStop frames steps

variable {members : List (String × Json Real)} {frames : Nat} {name : String} {condition : Prop}
  {steps : List ScanStep}

theorem forbidden_ne (forbidden : name ∈ forbiddenFields) : name ≠ "" := by
  rintro rfl
  exact absurd forbidden (by decide)

theorem firstStop_append (frames : Nat) (first second : List ScanStep) :
    firstStop frames (first ++ second) =
      (firstStop frames first >>= fun found =>
        if found ≠ "" then .ok found else firstStop frames second) := by
  induction first with
  | nil => rfl
  | cons step first inductionHypothesis =>
    cases step with
    | call used =>
      rw [List.cons_append, firstStop, firstStop]
      split_ifs
      · rfl
      · exact inductionHypothesis
    | key name =>
      rw [List.cons_append, firstStop, firstStop]
      split_ifs with forbidden
      · exact (if_pos (forbidden_ne forbidden)).symm
      · exact inductionHypothesis

theorem firstFound_cons {Item : Type} (look : Item → Except TelemetryFailure String) (item : Item)
    (items : List Item) :
    firstFound look (item :: items) =
      (look item >>= fun found => if found ≠ "" then .ok found else firstFound look items) := rfl

/-! ### The search follows the steps -/

/-- How one member is searched with so many frames left. -/
def lookMember (frames : Nat) (member : String × Json Real) : Except TelemetryFailure String :=
  if member.1 ∈ forbiddenFields then .ok member.1
  else
    match frames with
    | 0 => .error .recursion
    | frames + 1 => nestedForbidden (forbiddenField frames) member.2

theorem forbiddenField_succ (frames : Nat) (members : List (String × Json Real)) :
    forbiddenField (frames + 1) members = firstFound (lookMember frames) members := by
  rw [forbiddenField]
  rfl

/-- How one item of an array is searched with so many frames left. -/
def lookItem (frames : Nat) (item : Json Real) : Except TelemetryFailure String :=
  match item with
  | .object members => forbiddenField frames members
  | _ => .ok ""

theorem forbiddenField_of_members {used : Nat}
    (follows : ∀ frames, firstFound (lookMember frames) members =
      firstStop (used + 1 + frames) (memberSteps (used + 1) members)) (frames : Nat) :
    forbiddenField frames members =
      firstStop (used + frames) (.call (used + 1) :: memberSteps (used + 1) members) := by
  cases frames with
  | zero =>
    rw [firstStop, if_pos (by omega)]
    rfl
  | succ frames =>
    rw [forbiddenField_succ, firstStop, if_neg (by omega), follows,
      show used + 1 + frames = used + (frames + 1) by omega]

mutual

theorem firstFound_members : ∀ (members : List (String × Json Real)) (used frames : Nat),
    firstFound (lookMember frames) members = firstStop (used + frames) (memberSteps used members)
  | [], _, _ => by
    rw [memberSteps]
    rfl
  | (name, value) :: members, used, frames => by
    rw [firstFound_cons, memberSteps, firstStop]
    by_cases forbidden : name ∈ forbiddenFields
    · have found : lookMember frames (name, value) = .ok name := if_pos forbidden
      rw [found, if_pos forbidden]
      exact if_pos (forbidden_ne forbidden)
    · rw [if_neg forbidden, firstStop]
      cases frames with
      | zero =>
        have found : lookMember 0 (name, value) = .error .recursion := if_neg forbidden
        rw [found, if_pos (by omega)]
        rfl
      | succ frames =>
        have found : lookMember (frames + 1) (name, value) =
            nestedForbidden (forbiddenField frames) value := if_neg forbidden
        rw [found, if_neg (by omega), firstStop_append, firstFound_members members used (frames + 1),
          nestedForbidden_value value (used + 1) frames,
          show used + 1 + frames = used + (frames + 1) by omega]

theorem nestedForbidden_value : ∀ (value : Json Real) (used frames : Nat),
    nestedForbidden (forbiddenField frames) value = firstStop (used + frames) (valueSteps used value)
  | .object members, used, frames => by
    rw [valueSteps]
    exact forbiddenField_of_members (firstFound_members members (used + 1)) frames
  | .array items, used, frames => by
    rw [valueSteps]
    exact firstFound_items items used frames
  | .null, _, _ => rfl
  | .bool _, _, _ => rfl
  | .int _, _, _ => rfl
  | .float _, _, _ => rfl
  | .constant _, _, _ => rfl
  | .string _, _, _ => rfl

theorem firstFound_items : ∀ (items : List (Json Real)) (used frames : Nat),
    firstFound (lookItem frames) items = firstStop (used + frames) (itemSteps used items)
  | [], _, _ => rfl
  | item :: items, used, frames => by
    rw [firstFound_cons, firstFound_items items used frames]
    cases item with
    | object members =>
      rw [itemSteps, ← List.cons_append, firstStop_append,
        ← forbiddenField_of_members (firstFound_members members (used + 1)) frames]
      rfl
    | _ => rfl

end

/-- The search ends where its steps do. -/
theorem forbiddenField_eq (frames : Nat) (members : List (String × Json Real)) :
    forbiddenField frames members = firstStop frames (scanSteps members) := by
  have follows := forbiddenField_of_members (firstFound_members members (0 + 1)) frames
  rwa [Nat.zero_add] at follows

/-! ### Where the search ends -/

/-- A key is looked at that no aggregate carries. -/
def ScanStep.finds : ScanStep → Bool
  | .call _ => false
  | .key name => decide (name ∈ forbiddenFields)

/-- A call is made beyond the frames before a forbidden key is looked at. -/
def TooDeep (frames : Nat) (members : List (String × Json Real)) : Prop :=
  ∃ used, frames < used ∧ .call used ∈ (scanSteps members).takeWhile fun step => !step.finds

/-- The search visits a forbidden key. -/
def Scanned (members : List (String × Json Real)) : Prop :=
  ∃ name ∈ forbiddenFields, Visited name members

theorem firstStop_recursion_iff :
    firstStop frames steps = .error .recursion ↔
      ∃ used, frames < used ∧ .call used ∈ steps.takeWhile fun step => !step.finds := by
  induction steps with
  | nil =>
    refine iff_of_false ?_ ?_
    · rintro ⟨⟩
    · rintro ⟨_, _, ⟨⟩⟩
  | cons step steps inductionHypothesis =>
    cases step with
    | call depth =>
      rw [firstStop, List.takeWhile_cons_of_pos rfl]
      split_ifs with deep
      · exact iff_of_true rfl ⟨depth, deep, List.mem_cons_self⟩
      · rw [inductionHypothesis]
        refine exists_congr fun used => and_congr_right fun beyond => ?_
        have other : used ≠ depth := fun same => deep (same ▸ beyond)
        simp [other]
    | key name =>
      rw [firstStop]
      split_ifs with forbidden
      · rw [List.takeWhile_cons_of_neg (by simp [ScanStep.finds, forbidden])]
        refine iff_of_false ?_ ?_
        · rintro ⟨⟩
        · rintro ⟨_, _, ⟨⟩⟩
      · rw [List.takeWhile_cons_of_pos (by simp [ScanStep.finds, forbidden]), inductionHypothesis]
        simp

theorem firstStop_empty_iff (returns : firstStop frames steps ≠ .error .recursion) :
    firstStop frames steps = .ok "" ↔ ∀ name ∈ forbiddenFields, .key name ∉ steps := by
  induction steps with
  | nil => exact iff_of_true rfl fun _ _ => List.not_mem_nil
  | cons step steps inductionHypothesis =>
    cases step with
    | call used =>
      rw [firstStop] at returns ⊢
      split_ifs at returns ⊢ with deep
      · exact absurd rfl returns
      · rw [inductionHypothesis returns]
        simp
    | key looked =>
      rw [firstStop] at returns ⊢
      split_ifs at returns ⊢ with forbidden
      · refine iff_of_false (fun same => ?_) fun clean => clean looked forbidden List.mem_cons_self
        injection same with same
        exact forbidden_ne forbidden same
      · rw [inductionHypothesis returns]
        refine forall₂_congr fun name known => ?_
        have other : name ≠ looked := fun same => forbidden (same ▸ known)
        simp [other]

/-- A search fails only when the frames are used up. -/
theorem firstStop_error {failure : TelemetryFailure}
    (fails : firstStop frames steps = .error failure) : failure = .recursion := by
  induction steps with
  | nil => cases fails
  | cons step steps inductionHypothesis =>
    cases step with
    | call used =>
      rw [firstStop] at fails
      split_ifs at fails
      · injection fails with fails
        exact fails.symm
      · exact inductionHypothesis fails
    | key looked =>
      rw [firstStop] at fails
      split_ifs at fails
      exact inductionHypothesis fails

theorem visited_cons {key : String} {value : Json Real} :
    Visited name ((key, value) :: members) ↔
      name = key ∨ VisitedIn name value ∨ Visited name members := by
  constructor
  · intro visited
    cases visited with
    | here member =>
      rcases List.mem_cons.mp member with same | member
      · injection same with same _
        exact Or.inl same
      · exact Or.inr (Or.inr (Visited.here member))
    | inside member visited =>
      rcases List.mem_cons.mp member with same | member
      · injection same with _ same
        exact Or.inr (Or.inl (same ▸ visited))
      · exact Or.inr (Or.inr (Visited.inside member visited))
    | listed member item visited =>
      rcases List.mem_cons.mp member with same | member
      · injection same with _ same
        exact Or.inr (Or.inl (same ▸ ⟨_, item, visited⟩))
      · exact Or.inr (Or.inr (Visited.listed member item visited))
  · rintro (rfl | visited | visited)
    · exact Visited.here List.mem_cons_self
    · cases value with
      | object inner => exact Visited.inside List.mem_cons_self visited
      | array items =>
        obtain ⟨inner, item, visited⟩ := visited
        exact Visited.listed List.mem_cons_self item visited
      | _ => exact visited.elim
    · cases visited with
      | here member => exact Visited.here (List.mem_cons_of_mem _ member)
      | inside member visited => exact Visited.inside (List.mem_cons_of_mem _ member) visited
      | listed member item visited => exact Visited.listed (List.mem_cons_of_mem _ member) item visited

theorem not_visited_nil : ¬ Visited name ([] : List (String × Json Real)) := by
  intro visited
  cases visited <;> rename_i member <;> cases member

mutual

theorem key_mem_memberSteps {name : String} :
    ∀ (members : List (String × Json Real)) (used : Nat),
      .key name ∈ memberSteps used members ↔ Visited name members
  | [], _ => by
    rw [memberSteps]
    exact iff_of_false List.not_mem_nil not_visited_nil
  | (key, value) :: members, used => by
    rw [memberSteps, visited_cons, List.mem_cons, List.mem_cons, List.mem_append,
      key_mem_memberSteps members used, key_mem_valueSteps value (used + 1), ScanStep.key.injEq]
    simp only [reduceCtorEq, false_or]

theorem key_mem_valueSteps {name : String} : ∀ (value : Json Real) (used : Nat),
    .key name ∈ valueSteps used value ↔ VisitedIn name value
  | .object members, used => by
    rw [valueSteps, List.mem_cons, key_mem_memberSteps members (used + 1), VisitedIn]
    simp
  | .array items, used => by
    rw [valueSteps, key_mem_itemSteps items used, VisitedIn]
  | .null, _ => by simp [valueSteps, VisitedIn]
  | .bool _, _ => by simp [valueSteps, VisitedIn]
  | .int _, _ => by simp [valueSteps, VisitedIn]
  | .float _, _ => by simp [valueSteps, VisitedIn]
  | .constant _, _ => by simp [valueSteps, VisitedIn]
  | .string _, _ => by simp [valueSteps, VisitedIn]

theorem key_mem_itemSteps {name : String} : ∀ (items : List (Json Real)) (used : Nat),
    .key name ∈ itemSteps used items ↔ ∃ inner, .object inner ∈ items ∧ Visited name inner
  | [], _ => by simp [itemSteps]
  | item :: items, used => by
    have rest : .key name ∈ itemSteps used items ↔
        ∃ inner, .object inner ∈ items ∧ Visited name inner := key_mem_itemSteps items used
    cases item with
    | object members =>
      rw [itemSteps, List.mem_cons, List.mem_append, key_mem_memberSteps members (used + 1), rest]
      simp
    | _ => simp [itemSteps, rest]

end

theorem key_mem_scanSteps : .key name ∈ scanSteps members ↔ Visited name members := by
  rw [scanSteps, List.mem_cons, key_mem_memberSteps members 1]
  simp

theorem forbiddenField_recursion_iff :
    forbiddenField frames members = .error .recursion ↔ TooDeep frames members := by
  rw [forbiddenField_eq]
  exact firstStop_recursion_iff

/-- A search that returns finds nothing exactly when no forbidden key is visited. -/
theorem forbiddenField_empty_iff :
    forbiddenField frames members = .ok "" ↔ ¬ TooDeep frames members ∧ ¬ Scanned members := by
  by_cases deep : TooDeep frames members
  · rw [forbiddenField_recursion_iff.mpr deep]
    refine iff_of_false ?_ fun both => both.1 deep
    rintro ⟨⟩
  · have returns : firstStop frames (scanSteps members) ≠ .error .recursion := by
      rwa [← forbiddenField_eq, Ne, forbiddenField_recursion_iff]
    rw [forbiddenField_eq, firstStop_empty_iff returns, Scanned]
    simp only [key_mem_scanSteps, deep, not_false_eq_true, true_and, not_exists, not_and]

/-- What the search visits is in the document. -/
theorem exists_within_of_visited (visited : Visited name members) :
    ∃ inner, Within (.object inner) (.object members) ∧
      ∃ member ∈ inner, member.1 = name := by
  induction visited with
  | here member => exact ⟨_, Within.refl, _, member, rfl⟩
  | inside member _ inductionHypothesis =>
    obtain ⟨inner, within, found⟩ := inductionHypothesis
    exact ⟨inner, Within.member member within, found⟩
  | listed member item _ inductionHypothesis =>
    obtain ⟨inner, within, found⟩ := inductionHypothesis
    exact ⟨inner, Within.member member (Within.item item within), found⟩

theorem carries_of_scanned (scanned : Scanned members) : Carries (.object members) := by
  obtain ⟨name, forbidden, visited⟩ := scanned
  obtain ⟨inner, within, member, inside, rfl⟩ := exists_within_of_visited visited
  exact ⟨inner, within, member, inside, forbidden⟩

/-! ### Aggregates -/

/-- A count within its bounds. -/
def IsCount (value : Json Real) : Prop := ∃ count : Nat, value = .int count ∧ count ≤ maxCount

def IsName (value : Json Real) : Prop :=
  ∃ name, value = .string name ∧ 1 ≤ name.length ∧ name.length ≤ maxNameLength

structure IsHistogram (members : List (String × Json Real)) : Prop where
  buckets : ∃ buckets, Json.field members "buckets" = some (.array buckets) ∧
    buckets.length ≤ maxBuckets ∧ ∀ bucket ∈ buckets, IsCount bucket
  name : ∃ name, Json.field members "name" = some name ∧ IsName name
  unit : IsName ((Json.field members "unit").getD (.string "ns"))

structure IsCounter (members : List (String × Json Real)) : Prop where
  value : ∃ value, Json.field members "value" = some value ∧ IsCount value
  name : ∃ name, Json.field members "name" = some name ∧ IsName name

/-- A series of so many objects at most. -/
def IsSeries (each : List (String × Json Real) → Prop) (raw : Json Real) : Prop :=
  ∃ items, raw = .array items ∧ items.length ≤ maxSeries ∧
    ∀ item ∈ items, ∃ members, item = .object members ∧ each members

/-- What an aggregate holds next to its version. -/
structure IsAggregate (members : List (String × Json Real)) : Prop where
  collected : ∃ moment : Nat, (Json.field members "collectedAtMs").getD (.int 0) = .int moment
  histograms : IsSeries IsHistogram ((Json.field members "histograms").getD (.array []))
  counters : IsSeries IsCounter ((Json.field members "counters").getD (.array []))

/-- A computation of the reader returns exactly under a condition, and otherwise refuses. -/
def ReturnsIff {Value : Type} (result : Except TelemetryFailure Value) (condition : Prop) : Prop :=
  (condition ∧ ∃ value, result = .ok value) ∨
    (¬ condition ∧ ∃ code detail, result = .error (.refused code detail))

theorem ReturnsIff.refuses {Value : Type} (fails : ¬ condition) (code detail : String) :
    ReturnsIff (.error (.refused code detail) : Except TelemetryFailure Value) condition :=
  Or.inr ⟨fails, code, detail, rfl⟩

theorem ReturnsIff.returns {Value : Type} (holds : condition) (value : Value) :
    ReturnsIff (.ok value : Except TelemetryFailure Value) condition :=
  Or.inl ⟨holds, value, rfl⟩

theorem ReturnsIff.of_iff {Value : Type} {result : Except TelemetryFailure Value} {other : Prop}
    (returns : ReturnsIff result condition) (same : other ↔ condition) :
    ReturnsIff result other := by
  rwa [propext same]

theorem ReturnsIff.bind {Value Other : Type} {first : Except TelemetryFailure Value}
    {next : Value → Except TelemetryFailure Other} {later : Prop}
    (returns : ReturnsIff first condition) (continues : ∀ value, ReturnsIff (next value) later) :
    ReturnsIff (first >>= next) (condition ∧ later) := by
  rcases returns with ⟨holds, value, rfl⟩ | ⟨fails, code, detail, rfl⟩
  · rcases continues value with ⟨rest, other, same⟩ | ⟨rest, code, detail, same⟩
    · exact Or.inl ⟨⟨holds, rest⟩, other, same⟩
    · exact Or.inr ⟨fun both => rest both.2, code, detail, same⟩
  · exact Or.inr ⟨fun both => fails both.1, code, detail, rfl⟩

theorem ReturnsIff.mapM {Item Value : Type} {read : Item → Except TelemetryFailure Value}
    {condition : Item → Prop} {items : List Item}
    (each : ∀ item ∈ items, ReturnsIff (read item) (condition item)) :
    ReturnsIff (items.mapM read) (∀ item ∈ items, condition item) := by
  induction items with
  | nil => exact ReturnsIff.returns (fun _ member => absurd member List.not_mem_nil) []
  | cons item items inductionHypothesis =>
    obtain ⟨first, others⟩ := List.forall_mem_cons.mp each
    rw [List.mapM_cons]
    refine ReturnsIff.of_iff ?_ (List.forall_mem_cons.trans (and_congr_right' (iff_of_eq (and_true _)).symm))
    exact first.bind fun value => (inductionHypothesis others).bind fun values =>
      ReturnsIff.returns trivial (value :: values)

theorem count?_eq_some {value : Json Real} {count : Nat} :
    count? value = some count ↔ value = .int count ∧ count ≤ maxCount := by
  cases value with
  | int number =>
    rw [count?]
    constructor
    · intro same
      split_ifs at same with within
      injection same with same
      have number_eq : number = (count : Int) := by omega
      exact ⟨congrArg _ number_eq, by omega⟩
    · rintro ⟨same, small⟩
      injection same with same
      subst same
      rw [if_pos ⟨Int.natCast_nonneg count, Int.ofNat_le.mpr small⟩, Int.toNat_natCast]
  | _ =>
    refine iff_of_false ?_ ?_
    · rintro ⟨⟩
    · rintro ⟨⟨⟩, small⟩

theorem boundedName_returnsIff (value : Option (Json Real)) :
    ReturnsIff (boundedName value) (∃ name, value = some name ∧ IsName name) := by
  cases value with
  | none =>
    refine ReturnsIff.refuses ?_ _ _
    rintro ⟨_, ⟨⟩, named⟩
  | some value =>
    cases value with
    | string name =>
      rw [boundedName]
      split_ifs with bounded
      · exact ReturnsIff.returns ⟨_, rfl, name, rfl, bounded⟩ name
      · refine ReturnsIff.refuses ?_ _ _
        rintro ⟨_, given, other, same, within⟩
        cases given
        injection same with same
        exact bounded (same ▸ within)
    | _ =>
      refine ReturnsIff.refuses ?_ _ _
      rintro ⟨_, given, other, same, _⟩
      cases given
      cases same

theorem bucketCount_returnsIff (value : Json Real) :
    ReturnsIff (bucketCount value) (IsCount value) := by
  rw [bucketCount]
  cases read : count? value with
  | some count => exact ReturnsIff.returns ⟨count, count?_eq_some.mp read⟩ count
  | none =>
    refine ReturnsIff.refuses ?_ _ _
    rintro ⟨count, counted⟩
    rw [count?_eq_some.mpr counted] at read
    cases read

theorem exists_object_iff {holds : List (String × Json Real) → Prop} :
    (∃ inner, Json.object members = .object inner ∧ holds inner) ↔ holds members := by
  constructor
  · rintro ⟨inner, same, sound⟩
    cases same
    exact sound
  · exact fun sound => ⟨members, rfl, sound⟩

theorem histogram_returnsIff (item : Json Real) :
    ReturnsIff (histogram item) (∃ members, item = .object members ∧ IsHistogram members) := by
  cases item with
  | object members =>
    rw [histogram]
    refine ReturnsIff.of_iff ?_ exists_object_iff
    split
    · rename_i buckets stored
      split_ifs with many
      · refine ReturnsIff.refuses (fun sound => ?_) _ _
        obtain ⟨others, found, few, _⟩ := sound.buckets
        rw [stored] at found
        injection found with found
        injection found with found
        exact Nat.not_lt.mpr few (found ▸ many)
      · have all := (ReturnsIff.mapM fun bucket (_ : bucket ∈ buckets) =>
          bucketCount_returnsIff bucket).bind fun counts =>
            (boundedName_returnsIff (Json.field members "name")).bind fun name =>
              (boundedName_returnsIff (some ((Json.field members "unit").getD (.string "ns")))).bind
                fun unit => ReturnsIff.returns trivial ({ name, unit, buckets := counts } :
                  LatencyHistogram)
        refine all.of_iff ⟨fun sound => ?_, ?_⟩
        · obtain ⟨others, found, _, counted⟩ := sound.buckets
          rw [stored] at found
          injection found with found
          injection found with found
          exact ⟨found ▸ counted, sound.name, ⟨_, rfl, sound.unit⟩, trivial⟩
        · rintro ⟨counted, named, ⟨_, given, scaled⟩, -⟩
          injection given with given
          exact ⟨⟨buckets, stored, Nat.not_lt.mp many, counted⟩, named, given ▸ scaled⟩
    · rename_i other
      refine ReturnsIff.refuses (fun sound => ?_) _ _
      obtain ⟨buckets, found, _⟩ := sound.buckets
      exact other buckets found
  | _ =>
    refine ReturnsIff.refuses ?_ _ _
    rintro ⟨_, ⟨⟩, sound⟩

theorem counter_returnsIff (item : Json Real) :
    ReturnsIff (counter item) (∃ members, item = .object members ∧ IsCounter members) := by
  cases item with
  | object members =>
    rw [counter]
    refine ReturnsIff.of_iff ?_ exists_object_iff
    split
    · rename_i count stored
      obtain ⟨value, found, counted⟩ := Option.bind_eq_some_iff.mp stored
      have all := (boundedName_returnsIff (Json.field members "name")).bind fun name =>
        ReturnsIff.returns trivial ({ name, value := count } : KernelCounter)
      exact all.of_iff ⟨fun sound => ⟨sound.name, trivial⟩,
        fun both => ⟨⟨value, found, count, count?_eq_some.mp counted⟩, both.1⟩⟩
    · rename_i missing
      refine ReturnsIff.refuses (fun sound => ?_) _ _
      obtain ⟨value, found, count, counted⟩ := sound.value
      rw [found, Option.bind_some, count?_eq_some.mpr counted] at missing
      cases missing
  | _ =>
    refine ReturnsIff.refuses ?_ _ _
    rintro ⟨_, ⟨⟩, sound⟩

theorem series_returnsIff {Item : Type} {read : Json Real → Except TelemetryFailure Item}
    {each : List (String × Json Real) → Prop}
    (reads : ∀ item, ReturnsIff (read item) (∃ members, item = .object members ∧ each members))
    (refusal : String) (raw : Json Real) : ReturnsIff (series read refusal raw) (IsSeries each raw) := by
  cases raw with
  | array items =>
    rw [series]
    split_ifs with many
    · refine ReturnsIff.refuses ?_ _ _
      rintro ⟨others, same, few, _⟩
      injection same with same
      exact Nat.not_lt.mpr few (same ▸ many)
    · refine (ReturnsIff.mapM fun item (_ : item ∈ items) => reads item).of_iff ⟨?_, fun all => ?_⟩
      · rintro ⟨others, same, _, all⟩
        injection same with same
        exact same ▸ all
      · exact ⟨items, rfl, Nat.not_lt.mp many, all⟩
  | _ =>
    refine ReturnsIff.refuses ?_ _ _
    rintro ⟨_, ⟨⟩, sound⟩

theorem collectedAt_returnsIff (members : List (String × Json Real)) :
    ReturnsIff (collectedAt members)
      (∃ moment : Nat, (Json.field members "collectedAtMs").getD (.int 0) = .int moment) := by
  rw [collectedAt]
  split
  · rename_i number stored
    rw [stored]
    split_ifs with negative
    · refine ReturnsIff.refuses ?_ _ _
      rintro ⟨moment, same⟩
      injection same with same
      omega
    · exact ReturnsIff.returns ⟨number.toNat, congrArg _ (by omega)⟩ _
  · rename_i other
    exact ReturnsIff.refuses (fun ⟨moment, same⟩ => other moment same) _ _

variable [FloatText Real]

/-- A document of the version that is read. -/
def Versioned (members : List (String × Json Real)) : Prop :=
  ((Json.field members "version").getD .null).equalsInt aggregateVersion = true

/-- A `KernelTelemetryError` is raised. -/
def Refuses (frames : Nat) (text : Json Real → String) (document : Json Real) : Prop :=
  ∃ code detail, parseAggregate frames text document = .error (.refused code detail)

/-- An object is refused for its version, for what the search finds or for the rest of it. -/
theorem refuses_object_iff {text : Json Real → String} :
    Refuses frames text (.object members) ↔
      (Versioned members → ¬ TooDeep frames members ∧ (Scanned members ∨ ¬ IsAggregate members)) := by
  rw [Refuses, parseAggregate]
  by_cases version : Versioned members
  · rw [if_neg (by rw [version]; exact Bool.noConfusion)]
    simp only [version, true_implies]
    cases found : forbiddenField frames members with
    | error failure =>
      rw [forbiddenField_eq] at found
      cases firstStop_error found
      refine iff_of_false ?_ fun both => both.1 ?_
      · rintro ⟨_, _, ⟨⟩⟩
      rw [← forbiddenField_recursion_iff, forbiddenField_eq]
      exact found
    | ok carried =>
      have shallow : ¬ TooDeep frames members := by
        rw [← forbiddenField_recursion_iff, found]
        rintro ⟨⟩
      rw [ok_bind]
      split_ifs with some
      · refine iff_of_true ⟨_, _, rfl⟩ ⟨shallow, Or.inl ?_⟩
        by_contra clean
        have nothing := forbiddenField_empty_iff.mpr ⟨shallow, clean⟩
        rw [found] at nothing
        injection nothing with nothing
        exact some nothing
      · rw [not_not] at some
        subst some
        have clean := (forbiddenField_empty_iff.mp found).2
        have all := (collectedAt_returnsIff members).bind fun collectedAtMs =>
          (series_returnsIff histogram_returnsIff "histograms are invalid"
            ((Json.field members "histograms").getD (.array []))).bind fun histograms =>
            (series_returnsIff counter_returnsIff "counters are invalid"
              ((Json.field members "counters").getD (.array []))).bind fun counters =>
              ReturnsIff.returns trivial
                (⟨.ready, "", collectedAtMs, histograms, counters⟩ : KernelAggregate)
        have parts : IsAggregate members ↔ (∃ moment : Nat,
            (Json.field members "collectedAtMs").getD (.int 0) = .int moment) ∧
            IsSeries IsHistogram ((Json.field members "histograms").getD (.array [])) ∧
            IsSeries IsCounter ((Json.field members "counters").getD (.array [])) ∧ True := by
          constructor
          · exact fun sound => ⟨sound.collected, sound.histograms, sound.counters, trivial⟩
          · rintro ⟨collected, histograms, counters, -⟩
            exact ⟨collected, histograms, counters⟩
        have sound := all.of_iff parts
        rcases sound with ⟨holds, aggregate, same⟩ | ⟨fails, code, detail, same⟩
        · refine iff_of_false ?_ fun both => both.2.elim clean fun none => none holds
          rintro ⟨_, _, other⟩
          cases same.symm.trans other
        · exact iff_of_true ⟨code, detail, same⟩ ⟨shallow, Or.inr fails⟩
  · rw [if_pos (Bool.eq_false_iff.mpr version)]
    exact iff_of_true ⟨_, _, rfl⟩ fun versioned => absurd versioned version

/-- A document that carries a forbidden key is refused, and nothing is found in one that does not,
exactly when the search stays within the frames and visits a forbidden key wherever the rest of the
document would be accepted. -/
theorem refuses_carried_iff (frames : Nat) (text : Json Real → String) (document : Json Real) :
    ((Carries document → Refuses frames text document) ∧
      (¬ Carries document → ∀ members, document = .object members →
        forbiddenField frames members = .ok "")) ↔
    ∀ members, document = .object members →
      (Carries document → Versioned members →
        ¬ TooDeep frames members ∧ (Scanned members ∨ ¬ IsAggregate members)) ∧
      (¬ Carries document → ¬ TooDeep frames members) := by
  constructor
  · rintro ⟨refused, clean⟩ members rfl
    exact ⟨fun carries => refuses_object_iff.mp (refused carries),
      fun none => (forbiddenField_empty_iff.mp (clean none members rfl)).1⟩
  · intro holds
    refine ⟨fun carries => ?_, fun clean members same => ?_⟩
    · cases document with
      | object members => exact refuses_object_iff.mpr ((holds members rfl).1 carries)
      | _ => exact ⟨_, _, rfl⟩
    · have shallow := (holds members same).2 clean
      subst same
      exact forbiddenField_empty_iff.mpr ⟨shallow, fun scanned => clean (carries_of_scanned scanned)⟩

/-- An aggregate with a process id in an array inside an array. -/
def listedTwice : List (String × Json ExactDecimal) :=
  [("version", .int 1), ("samples", .array [.array [.object [("pid", .int 4242)]]])]

/-- It is accepted. -/
theorem not_refuses_listedTwice :
    Carries (.object listedTwice) ∧ ¬ Refuses 1000 (fun _ => "") (.object listedTwice) := by
  refine ⟨⟨[("pid", .int 4242)], ?_, ("pid", .int 4242), List.mem_cons_self, by decide⟩, ?_⟩
  · exact Within.member (List.mem_cons_of_mem _ List.mem_cons_self)
      (Within.item List.mem_cons_self (Within.item List.mem_cons_self Within.refl))
  · rintro ⟨code, detail, same⟩
    have accepted : parseAggregate 1000 (fun _ => "") (.object listedTwice) =
        .ok ⟨.ready, "", 0, [], []⟩ := rfl
    cases accepted.symm.trans same

end KernelTelemetry

end Omnitensor
