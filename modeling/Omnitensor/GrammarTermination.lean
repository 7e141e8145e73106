/-
This file proves that the projection of a schema comes to an end.

A definition is not written out within itself, so every reference leaves fewer definitions to write out,
and between references the depth of what is left goes down. Merging makes nothing deeper than its parts
are. So the fuel of the projection is never used up, however the definitions refer to one another.
-/

import Omnitensor.GrammarReferences

namespace Omnitensor

open PyString (ofString)

open PyValue (field)

open Document SchemaValidity

namespace Grammar

/-! ### Depth -/

variable {fields definitions here : DocumentFields} {bound fuel : Nat} {value : Document}
  {error : GrammarError}

theorem depthItems_le {items : List Document} :
    depthItems items ≤ bound ↔ ∀ item ∈ items, depth item ≤ bound := by
  induction items with
  | nil => simp [depthItems]
  | cons item items inductionHypothesis =>
    rw [depthItems, max_le_iff, List.forall_mem_cons, inductionHypothesis]

theorem depthMembers_le :
    depthMembers fields ≤ bound ↔ ∀ member ∈ fields, depth member.2 ≤ bound := by
  induction fields with
  | nil => simp [depthMembers]
  | cons member fields inductionHypothesis =>
    rw [depthMembers, max_le_iff, List.forall_mem_cons, inductionHypothesis]

theorem depth_item_lt {items : List Document} {item : Document} (member : item ∈ items) :
    depth item < depth (.list items) := by
  rw [depth]
  exact Nat.lt_succ_of_le (depthItems_le.mp le_rfl item member)

theorem depth_member_lt {member : PyString × Document} (inside : member ∈ fields) :
    depth member.2 < depth (.dict fields) := by
  rw [depth]
  exact Nat.lt_succ_of_le (depthMembers_le.mp le_rfl member inside)

theorem depth_field_lt {key : String} (found : field fields key = some value) :
    depth value < depth (.dict fields) :=
  depth_member_lt (mem_of_lookup found)

/-- Members that are each no deeper make no deeper dictionary. -/
theorem depth_dict_le (some : 0 < bound) (each : ∀ member ∈ fields, depth member.2 < bound) :
    depth (.dict fields) ≤ bound := by
  rw [depth]
  refine Nat.succ_le_of_lt (Nat.lt_of_le_of_lt (depthMembers_le.mpr fun member inside => ?_)
    (Nat.sub_lt some Nat.one_pos))
  exact Nat.le_sub_one_of_lt (each member inside)

theorem depth_pop_le (key : String) (fields : DocumentFields) :
    depth (.dict (pop key fields)) ≤ depth (.dict fields) :=
  depth_dict_le (Nat.succ_pos _) fun _ inside => depth_member_lt (List.mem_of_mem_filter inside)

theorem depth_merge_le {target siblings : DocumentFields} (first : depth (.dict target) ≤ bound)
    (second : depth (.dict siblings) ≤ bound) : depth (.dict (merge target siblings)) ≤ bound := by
  refine depth_dict_le ((Nat.succ_pos _).trans_le first) fun member inside => ?_
  rcases List.mem_append.mp inside with old | new
  · obtain ⟨original, before, rfl⟩ := List.mem_map.mp old
    cases other : lookup (pop "$ref" siblings) original.1 with
    | none =>
      rw [Option.getD_none]
      exact (depth_member_lt before).trans_le first
    | some value =>
      rw [Option.getD_some]
      exact (depth_member_lt (List.mem_of_mem_filter (mem_of_lookup other))).trans_le second
  · exact (depth_member_lt (List.mem_of_mem_filter (List.mem_of_mem_filter new))).trans_le second

theorem depth_replace_le {key : String} {old : Document} (there : field fields key = some old)
    (less : depth value ≤ depth old) :
    depth (.dict (replace key value fields)) ≤ depth (.dict fields) := by
  refine depth_dict_le (Nat.succ_pos _) fun member inside => ?_
  obtain ⟨original, before, rfl⟩ := List.mem_map.mp inside
  split
  · exact less.trans_lt (depth_field_lt there)
  · exact depth_member_lt before

/-! ### Failures -/

theorem map_ne_error {Value Other : Type} {change : Value → Other}
    {first : Except GrammarError Value} (fine : first ≠ .error error) :
    change <$> first ≠ .error error := by
  cases first with
  | error other =>
    intro same
    cases same
    exact fine rfl
  | ok value => exact nofun

theorem bind_ne_error {Value Other : Type} {next : Value → Except GrammarError Other}
    {first : Except GrammarError Value} (fine : first ≠ .error error)
    (rest : ∀ value, first = .ok value → next value ≠ .error error) :
    (first >>= next) ≠ .error error := by
  cases first with
  | error other =>
    intro same
    cases same
    exact fine rfl
  | ok value => exact rest value rfl

theorem mapM_ne_error {Value Other : Type} {change : Value → Except GrammarError Other}
    {values : List Value} (fine : ∀ value ∈ values, change value ≠ .error error) :
    values.mapM change ≠ .error error := by
  induction values with
  | nil => exact nofun
  | cons value values inductionHypothesis =>
    rw [List.mapM_cons]
    refine bind_ne_error (fine value List.mem_cons_self) fun result _ => bind_ne_error ?_ fun _ _ => nofun
    exact inductionHypothesis fun other member => fine other (List.mem_cons_of_mem _ member)

theorem mapChildren_ne_error {change : Document → Except GrammarError Document}
    (fine : ∀ member ∈ fields, change member.2 ≠ .error error) :
    mapChildren change fields ≠ .error error :=
  mapM_ne_error fun member inside => bind_ne_error (fine member inside) fun _ _ => nofun

/-! ### References -/

/-- The definitions that are not being written out. -/
def unvisited (definitions : DocumentFields) (stack : List PyString) : Nat :=
  ((names definitions).toFinset \ stack.toFinset).card

theorem unvisited_append_lt {stack : List PyString} {name : PyString} {target : Document}
    (fresh : name ∉ stack) (defined : lookup definitions name = some target) :
    unvisited definitions (stack ++ [name]) < unvisited definitions stack := by
  refine Finset.card_lt_card (Finset.ssubset_iff_subset_ne.mpr ⟨fun other member => ?_, fun same => ?_⟩)
  · simp only [Finset.mem_sdiff, List.mem_toFinset, List.mem_append] at member ⊢
    exact ⟨member.1, fun old => member.2 (Or.inl old)⟩
  · have before : name ∈ (names definitions).toFinset \ stack.toFinset := by
      simp [fresh, mem_names_of_lookup defined]
    rw [← same] at before
    simp at before

theorem unvisited_nil_le (definitions : DocumentFields) :
    unvisited definitions [] ≤ definitions.length := by
  refine (Finset.card_le_card Finset.sdiff_subset).trans ((List.toFinset_card_le _).trans ?_)
  rw [names, List.length_map]

theorem resolve_ne_exhausted (definitions : DocumentFields) (stack : List PyString)
    (reference : Document) : resolve definitions stack reference ≠ .error .exhausted := by
  unfold resolve
  split
  · split
    · dsimp only
      split
      · exact nofun
      · split <;> exact nofun
    · exact nofun
  · exact nofun

/-- Fuel for every definition that is left and for the depth of a value is enough. -/
theorem inline_ne_exhausted
    (defined : ∀ name target, lookup definitions name = some target → depth target ≤ bound)
    {stack : List PyString} (flat : depth value ≤ bound)
    (enough : unvisited definitions stack * (bound + 2) + depth value < fuel) :
    inlineLocalRefs definitions fuel stack value ≠ .error .exhausted := by
  induction fuel generalizing stack value with
  | zero => exact absurd enough (Nat.not_lt_zero _)
  | succ fuel inductionHypothesis =>
    cases value with
    | list items =>
      refine map_ne_error (mapM_ne_error fun item member => ?_)
      have less := depth_item_lt member
      exact inductionHypothesis (by omega) (by omega)
    | dict fields =>
      unfold inlineLocalRefs
      dsimp only
      split
      · refine map_ne_error (mapChildren_ne_error fun member inside => ?_)
        have less := depth_member_lt inside
        exact inductionHypothesis (by omega) (by omega)
      · refine bind_ne_error (resolve_ne_exhausted _ _ _) fun ⟨name, target⟩ resolved => ?_
        obtain ⟨fresh, there, _⟩ := definition_of_resolve resolved
        have flatter := depth_merge_le (defined name _ there) flat
        have fewer := unvisited_append_lt fresh there
        refine inductionHypothesis flatter ?_
        -- One definition less makes up for whatever depth the merged schema has.
        calc unvisited definitions (stack ++ [name]) * (bound + 2) + depth (.dict (merge target fields))
            < unvisited definitions (stack ++ [name]) * (bound + 2) + (bound + 2) := by omega
          _ = (unvisited definitions (stack ++ [name]) + 1) * (bound + 2) := by ring
          _ ≤ unvisited definitions stack * (bound + 2) := Nat.mul_le_mul_right _ fewer
          _ ≤ fuel := by omega
    | _ => exact nofun

/-! ### Keywords -/

theorem containsPending_ne_exhausted (given : Document) : containsPending given ≠ .error .exhausted := by
  cases given <;>
    · intro exhausted
      cases exhausted

theorem offersPending_ne_exhausted (confirmation : Document) :
    offersPending confirmation ≠ .error .exhausted := by
  cases confirmation with
  | dict fields => exact containsPending_ne_exhausted _
  | _ => exact nofun

theorem projectHere_ne_exhausted (fields : DocumentFields) :
    projectHere fields ≠ .error .exhausted := by
  unfold projectHere
  dsimp only
  unfold confirmPending
  split
  · split
    · exact bind_ne_error (offersPending_ne_exhausted _) fun _ _ => nofun
    · exact nofun
  · exact nofun

/-- A schema of a confirmation is as deep as what it is replaced by. -/
theorem depth_pendingOnly_le {confirmation : Document} (offers : offersPending confirmation = .ok true) :
    depth pendingOnly ≤ depth confirmation := by
  cases confirmation with
  | dict fields => exact Nat.succ_le_succ (Nat.zero_le _)
  | _ => cases offers

theorem depth_confirmPending_le (made : confirmPending fields = .ok here) :
    depth (.dict here) ≤ depth (.dict fields) := by
  rcases confirmPending_cases made with rfl | ⟨properties, confirmation, listed, offered, offers, rfl⟩
  · exact le_rfl
  · exact depth_replace_le listed (depth_replace_le offered (depth_pendingOnly_le offers))

theorem depth_projectHere_le (made : projectHere fields = .ok here) :
    depth (.dict here) ≤ depth (.dict fields) := by
  refine (depth_confirmPending_le made).trans ?_
  split
  · exact (depth_pop_le _ _).trans (depth_pop_le _ _)
  · exact depth_pop_le _ _

theorem project_ne_exhausted (enough : depth value < fuel) :
    projectGrammarKeywords fuel value ≠ .error .exhausted := by
  induction fuel generalizing value with
  | zero => exact absurd enough (Nat.not_lt_zero _)
  | succ fuel inductionHypothesis =>
    cases value with
    | list items =>
      refine map_ne_error (mapM_ne_error fun item member => inductionHypothesis ?_)
      have less := depth_item_lt member
      omega
    | dict fields =>
      refine bind_ne_error (projectHere_ne_exhausted fields) fun here made => ?_
      refine map_ne_error (mapChildren_ne_error fun member inside => inductionHypothesis ?_)
      have less := depth_member_lt inside
      have flat := depth_projectHere_le made
      omega
    | _ => exact nofun

/-! ### Schemas -/

theorem depth_withoutDefinitions_le (value : Document) :
    depth (withoutDefinitions value) ≤ depth value := by
  cases value with
  | dict fields => exact depth_pop_le _ _
  | _ => exact le_rfl

/-- The projection of a schema does not use its fuel up. -/
theorem grammarSchema_ne_exhausted (schema : DocumentFields) :
    grammarSchema schema ≠ .error .exhausted := by
  have flat {definitions : DocumentFields}
      (said : (field schema "$defs").getD (.dict []) = .dict definitions) (name : PyString)
      (target : Document) (defined : lookup definitions name = some target) :
      depth target ≤ depth (.dict schema) := by
    cases given : field schema "$defs" with
    | none =>
      rw [given] at said
      cases said
      cases defined
    | some value =>
      rw [given, Option.getD_some] at said
      rw [said] at given
      exact ((depth_member_lt (mem_of_lookup defined)).trans (depth_field_lt given)).le
  unfold grammarSchema
  split
  · next definitions said =>
    refine bind_ne_error (inline_ne_exhausted (flat said) le_rfl ?_) fun inlined _ => ?_
    · have few := Nat.mul_le_mul_right (depth (.dict schema) + 2) (unvisited_nil_le definitions)
      rw [inlineFuel, Nat.succ_mul]
      omega
    · exact project_ne_exhausted (Nat.lt_succ_of_le (depth_withoutDefinitions_le inlined))
  · exact nofun

end Grammar

end Omnitensor
