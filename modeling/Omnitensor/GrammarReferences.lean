/-
This file proves that writing references out keeps what was valid.

A definition and the siblings of a reference to it both hold, and what is merged has its keywords from
one or the other. That is weaker than both with one exception: where the siblings list properties and
the definition says what others have to be, members that the definition lists would become others. In
a value without such members all that the merged schema leads to is led to by one of the two.

References are sought in every dictionary, also in constants and in lists of properties: these have to
be such that nothing is found there.
-/

import Omnitensor.GrammarSchema

namespace Omnitensor

open PyString (ofString)

open PyValue (field)

open Document SchemaValidity

namespace Grammar

/-! ### Lookups -/

theorem lookup_filter (accept : PyString → Bool) (fields : DocumentFields) (name : PyString) :
    lookup (fields.filter fun member => accept member.1) name =
      if accept name then lookup fields name else none := by
  induction fields with
  | nil => simp
  | cons member fields inductionHypothesis =>
    rw [List.filter_cons, lookup_cons]
    by_cases same : member.1 = name
    · by_cases accepted : accept name = true
      · rw [if_pos (same ▸ accepted), lookup_cons, if_pos same, if_pos same, if_pos accepted]
      · rw [if_neg (same ▸ accepted), inductionHypothesis, if_neg accepted, if_neg accepted]
    · rw [if_neg same]
      split
      · rw [lookup_cons, if_neg same, inductionHypothesis]
      · exact inductionHypothesis

theorem lookup_map (change : PyString → Document → Document) (fields : DocumentFields)
    (name : PyString) :
    lookup (fields.map fun member => (member.1, change member.1 member.2)) name =
      (lookup fields name).map (change name) := by
  induction fields with
  | nil => rfl
  | cons member fields inductionHypothesis =>
    rw [List.map_cons, lookup_cons, lookup_cons, inductionHypothesis]
    by_cases same : member.1 = name
    · rw [if_pos same, if_pos same, same]
      rfl
    · rw [if_neg same, if_neg same]

theorem lookup_append (first second : DocumentFields) (name : PyString) :
    lookup (first ++ second) name = (lookup first name).or (lookup second name) := by
  induction first with
  | nil => rfl
  | cons member first inductionHypothesis =>
    rw [List.cons_append, lookup_cons, lookup_cons, inductionHypothesis]
    split <;> rfl

variable {fields results target siblings : DocumentFields} {result value reference : Document}
  {stack : List PyString} {fuel : Nat} {change : Document → Except GrammarError Document}
  {name : PyString}

theorem lookup_eq_none : lookup fields name = none ↔ name ∉ names fields := by
  refine ⟨fun nothing named => ?_, fun unnamed => ?_⟩
  · obtain ⟨value, found⟩ := exists_lookup named
    rw [nothing] at found
    cases found
  · refine Option.eq_none_iff_forall_ne_some.mpr fun value found => ?_
    exact unnamed (mem_names_of_lookup found)

theorem field_pop (key other : String) (fields : DocumentFields) :
    field (pop key fields) other = if other = key then none else field fields other := by
  have popped := lookup_filter (fun name => decide (name ≠ ofString key)) fields (ofString other)
  rw [pop, ← lookup_ofString, popped, lookup_ofString]
  by_cases same : other = key
  · rw [if_pos same, same]
    simp
  · have apart : ofString other ≠ ofString key := fun equal => same (ofString_inj.mp equal)
    rw [if_neg same, if_pos (decide_eq_true apart)]

theorem lookup_pop_of_ne (key : String) (fields : DocumentFields) (apart : name ≠ ofString key) :
    lookup (pop key fields) name = lookup fields name := by
  have popped := lookup_filter (fun name => decide (name ≠ ofString key)) fields name
  rw [pop, popped, if_pos (decide_eq_true apart)]

theorem lookup_replace (key : String) (value : Document) (fields : DocumentFields) (name : PyString) :
    lookup (replace key value fields) name =
      if name = ofString key then (lookup fields name).map fun _ => value else lookup fields name := by
  have mapped := lookup_map (fun name old => if name = ofString key then value else old) fields name
  have same : replace key value fields = fields.map fun member =>
      (member.1, if member.1 = ofString key then value else member.2) := by
    refine List.map_congr_left fun member _ => ?_
    split <;> rfl
  rw [same, mapped]
  by_cases named : name = ofString key
  · simp [named]
  · simp [named]

/-- A merged dictionary has what stands beside the reference before what the definition has. -/
theorem field_merge (target siblings : DocumentFields) (key : String) :
    field (merge target siblings) key =
      if key = "$ref" then field target key else (field siblings key).or (field target key) := by
  have kept := lookup_filter (fun name => decide (name ∉ names target)) (pop "$ref" siblings)
    (ofString key)
  have changed := lookup_map (fun name old => (lookup (pop "$ref" siblings) name).getD old) target
    (ofString key)
  rw [merge, ← lookup_ofString, lookup_append, kept, changed, lookup_ofString, field_pop,
    lookup_ofString]
  by_cases reference : key = "$ref"
  · rw [if_pos reference, if_pos reference]
    cases field target key <;> simp
  · rw [if_neg reference, if_neg reference]
    cases old : field target key with
    | none =>
      rw [← lookup_ofString] at old
      simp [lookup_eq_none.mp old]
    | some value => cases field siblings key <;> simp

/-- Children are looked up under their names, changed. -/
theorem lookup_mapChildren (made : mapChildren change fields = .ok results) (name : PyString) :
    (∀ value, lookup fields name = some value →
      ∃ result, change value = .ok result ∧ lookup results name = some result) ∧
    (lookup fields name = none → lookup results name = none) := by
  replace made := mapM_eq_ok.mp made
  induction made with
  | nil => exact ⟨fun _ => nofun, fun _ => rfl⟩
  | cons first _ inductionHypothesis =>
    obtain ⟨result, changed, ⟨⟩⟩ := bind_eq_ok.mp first
    rw [lookup_cons, lookup_cons]
    split
    · refine ⟨fun value same => ?_, nofun⟩
      cases same
      exact ⟨result, changed, rfl⟩
    · exact inductionHypothesis

theorem lookup_of_mapChildren (made : mapChildren change fields = .ok results)
    (found : lookup results name = some result) :
    ∃ value, lookup fields name = some value ∧ change value = .ok result := by
  obtain ⟨there, missing⟩ := lookup_mapChildren made name
  cases old : lookup fields name with
  | none =>
    rw [missing old] at found
    cases found
  | some value =>
    obtain ⟨other, changed, same⟩ := there value old
    rw [found] at same
    cases same
    exact ⟨value, rfl, changed⟩

theorem names_mapChildren (made : mapChildren change fields = .ok results) :
    names results = names fields := by
  replace made := mapM_eq_ok.mp made
  induction made with
  | nil => rfl
  | cons first _ inductionHypothesis =>
    obtain ⟨result, changed, ⟨⟩⟩ := bind_eq_ok.mp first
    exact congrArg (List.cons _) inductionHypothesis

/-! ### What the passes leave alone -/

/-- A value that is no list and no dictionary. -/
def scalar : Document → Bool
  | .list _ => false
  | .dict _ => false
  | _ => true

/-- A dictionary in which neither pass finds anything. -/
structure Quiet (fields : DocumentFields) : Prop where
  reference : reference? fields = none
  bound : field fields "maxLength" = none
  pattern : unusablePattern fields = false
  confirmation : ∀ properties confirmation, field fields "properties" = some (.dict properties) →
    field properties "confirmation" = some confirmation → offersPending confirmation ≠ .ok true

/-- Data in which neither pass finds anything. -/
inductive Untouched : Document → Prop where
  | scalar {value : Document} (plain : scalar value = true) : Untouched value
  | list {items : List Document} (each : ∀ item ∈ items, Untouched item) : Untouched (.list items)
  | dict {fields : DocumentFields} (quiet : Quiet fields)
      (each : ∀ member ∈ fields, Untouched member.2) : Untouched (.dict fields)

/-- A pass copies what it leaves alone, also as an item of a list. -/
structure Copies (change : Document → Except GrammarError Document) : Prop where
  same : ∀ {value result}, Untouched value → change value = .ok result → result = value
  inside : ∀ {items result}, change (.list items) = .ok result →
    ∃ results, result = .list results ∧ ∀ item ∈ items, Untouched item → item ∈ results

/-- Items that are each copied are copied. -/
theorem eq_of_mapM {items results : List Document}
    (copied : ∀ item ∈ items, ∀ result, change item = .ok result → result = item)
    (made : items.mapM change = .ok results) : results = items := by
  replace made := mapM_eq_ok.mp made
  induction made with
  | nil => rfl
  | cons first _ inductionHypothesis =>
    rw [copied _ List.mem_cons_self _ first,
      inductionHypothesis fun item member => copied item (List.mem_cons_of_mem _ member)]

theorem eq_of_mapChildren
    (copied : ∀ member ∈ fields, ∀ result, change member.2 = .ok result → result = member.2)
    (made : mapChildren change fields = .ok results) : results = fields := by
  replace made := mapM_eq_ok.mp made
  induction made with
  | nil => rfl
  | cons first _ inductionHypothesis =>
    obtain ⟨result, changed, ⟨⟩⟩ := bind_eq_ok.mp first
    rw [copied _ List.mem_cons_self _ changed,
      inductionHypothesis fun member inside => copied member (List.mem_cons_of_mem _ inside)]

theorem mem_of_mapM {items results : List Document} (made : items.mapM change = .ok results)
    {item : Document} (member : item ∈ items)
    (copied : ∀ result, change item = .ok result → result = item) : item ∈ results := by
  replace made := mapM_eq_ok.mp made
  induction made with
  | nil => cases member
  | cons first _ inductionHypothesis =>
    rcases List.mem_cons.mp member with rfl | later
    · rw [copied _ first]
      exact List.mem_cons_self
    · exact List.mem_cons_of_mem _ (inductionHypothesis later)

/-! ### One step of writing out -/

variable {definitions : DocumentFields}

theorem fuel_of_inline (made : inlineLocalRefs definitions fuel stack value = .ok result) :
    ∃ less, fuel = less + 1 := by
  cases fuel with
  | zero => cases made
  | succ less => exact ⟨less, rfl⟩

theorem inline_scalar (plain : scalar value = true)
    (made : inlineLocalRefs definitions fuel stack value = .ok result) : result = value := by
  obtain ⟨less, rfl⟩ := fuel_of_inline made
  cases value with
  | list items => cases plain
  | dict fields => cases plain
  | _ =>
    cases made
    rfl

theorem inline_list {items : List Document}
    (made : inlineLocalRefs definitions (fuel + 1) stack (.list items) = .ok result) :
    ∃ results, result = .list results ∧
      items.mapM (inlineLocalRefs definitions fuel stack) = .ok results := by
  obtain ⟨results, mapped, rfl⟩ := map_eq_ok.mp made
  exact ⟨results, rfl, mapped⟩

theorem inline_closed (closed : reference? fields = none)
    (made : inlineLocalRefs definitions (fuel + 1) stack (.dict fields) = .ok result) :
    ∃ results, result = .dict results ∧
      mapChildren (inlineLocalRefs definitions fuel stack) fields = .ok results := by
  unfold inlineLocalRefs at made
  dsimp only at made
  rw [closed] at made
  obtain ⟨results, mapped, rfl⟩ := map_eq_ok.mp made
  exact ⟨results, rfl, mapped⟩

/-- A resolved reference is to a definition. -/
theorem definition_of_resolve (resolved : resolve definitions stack reference = .ok (name, target)) :
    name ∉ stack ∧ lookup definitions name = some (.dict target) ∧
      definition definitions reference = .dict target := by
  unfold resolve at resolved
  split at resolved
  · next text =>
    split at resolved
    · next written =>
      dsimp only at resolved
      split at resolved
      · cases resolved
      · next fresh =>
        split at resolved
        · cases resolved
        · next found =>
          cases resolved
          refine ⟨fresh, found, ?_⟩
          rw [definition, if_pos written, found, Option.getD_some]
        · cases resolved
    · cases resolved
  · cases resolved

theorem inline_reference (refers : reference? fields = some reference)
    (made : inlineLocalRefs definitions (fuel + 1) stack (.dict fields) = .ok result) :
    ∃ name target, name ∉ stack ∧ lookup definitions name = some (.dict target) ∧
      definition definitions reference = .dict target ∧
      inlineLocalRefs definitions fuel (stack ++ [name]) (.dict (merge target fields)) =
        .ok result := by
  unfold inlineLocalRefs at made
  dsimp only at made
  rw [refers] at made
  obtain ⟨⟨name, target⟩, resolved, written⟩ := bind_eq_ok.mp made
  obtain ⟨fresh, found, defined⟩ := definition_of_resolve resolved
  exact ⟨name, target, fresh, found, defined, written⟩

theorem inline_dict (made : inlineLocalRefs definitions fuel stack (.dict fields) = .ok result) :
    ∃ results, result = .dict results := by
  induction fuel generalizing stack fields with
  | zero => cases made
  | succ fuel inductionHypothesis =>
    cases refers : reference? fields with
    | none =>
      obtain ⟨results, same, _⟩ := inline_closed refers made
      exact ⟨results, same⟩
    | some reference =>
      obtain ⟨name, target, _, _, _, written⟩ := inline_reference refers made
      exact inductionHypothesis written

theorem inline_untouched (untouched : Untouched value)
    (made : inlineLocalRefs definitions fuel stack value = .ok result) : result = value := by
  induction fuel generalizing value result with
  | zero => cases made
  | succ fuel inductionHypothesis =>
    cases untouched with
    | scalar plain => exact inline_scalar plain made
    | list each =>
      obtain ⟨results, rfl, mapped⟩ := inline_list made
      exact congrArg _ (eq_of_mapM (fun item member _ => inductionHypothesis (each item member)) mapped)
    | dict quiet each =>
      obtain ⟨results, rfl, mapped⟩ := inline_closed quiet.reference made
      exact congrArg _ (eq_of_mapChildren
        (fun member inside _ => inductionHypothesis (each member inside)) mapped)

theorem copies_inline (fuel : Nat) (stack : List PyString) :
    Copies (inlineLocalRefs definitions fuel stack) where
  same := inline_untouched
  inside made := by
    obtain ⟨less, rfl⟩ := fuel_of_inline made
    obtain ⟨results, rfl, mapped⟩ := inline_list made
    exact ⟨results, rfl, fun item member untouched =>
      mem_of_mapM mapped member fun _ => inline_untouched untouched⟩

/-! ### Merging -/

/-- No member of a value becomes an additional one by merging: unless the siblings say what additional
members have to be, or list no properties, they list those that the definition lists. -/
def MergesSafely (target siblings : DocumentFields) (value : Document) : Prop :=
  additional? target ≠ none → field siblings "additionalProperties" = none →
    field siblings "properties" ≠ none → ∀ name ∈ names value.members,
      name ∈ names (properties target) → name ∈ names (properties siblings)

theorem reference?_merge (target siblings : DocumentFields) :
    reference? (merge target siblings) = reference? target := by
  rw [reference?, field_merge, if_pos rfl, reference?]

theorem field_merge_of_ne (target siblings : DocumentFields) {key : String} (apart : key ≠ "$ref") :
    field (merge target siblings) key = (field siblings key).or (field target key) := by
  rw [field_merge, if_neg apart]

theorem properties_merge (target siblings : DocumentFields) :
    properties (merge target siblings) =
      if field siblings "properties" = none then properties target else properties siblings := by
  rw [properties, field_merge_of_ne _ _ (by decide)]
  cases listed : field siblings "properties" with
  | none => rfl
  | some value =>
    rw [if_neg (by simp), properties, listed]
    rfl

theorem additional?_merge (target siblings : DocumentFields) :
    additional? (merge target siblings) =
      if field siblings "additionalProperties" = none then additional? target
      else additional? siblings := by
  rw [additional?, field_merge_of_ne _ _ (by decide)]
  cases said : field siblings "additionalProperties" with
  | none => rfl
  | some value =>
    rw [if_neg (by simp), additional?, said]
    rfl

/-- What a merged schema leads to, one of the two schemas leads to. -/
theorem leads_merge {next part : Document} (safe : MergesSafely target siblings value)
    (leads : Leads definitions (.dict (merge target siblings)) value next part) :
    Leads definitions (.dict siblings) value next part ∨
      Leads definitions (.dict target) value next part := by
  cases leads with
  | referred _ refers =>
    rw [reference?_merge] at refers
    exact Or.inr (.referred value refers)
  | property listed inside =>
    rw [properties_merge] at listed
    split at listed
    · exact Or.inr (.property listed inside)
    · exact Or.inl (.property listed inside)
  | additional rest unlisted inside =>
    rw [properties_merge] at unlisted
    rw [additional?_merge] at rest
    split at rest
    · next silent =>
      refine Or.inr (.additional rest (fun named => ?_) inside)
      split at unlisted
      · exact unlisted named
      · next lists =>
        exact unlisted (safe (by rw [rest]; simp) silent lists _ (mem_names_of_lookup inside) named)
    · refine Or.inl (.additional rest (fun named => ?_) inside)
      split at unlisted
      · next silent =>
        rw [properties, silent] at named
        cases named
      · exact unlisted named
  | item each inside =>
    rw [field_merge_of_ne _ _ (by decide)] at each
    rcases Option.or_eq_some_iff.mp each with own | ⟨_, other⟩
    · exact Or.inl (.item own inside)
    · exact Or.inr (.item other inside)

variable {found : PyString → PyString → Bool}

theorem valid_merge (refers : reference? siblings = some reference)
    (defined : definition definitions reference = .dict target)
    (safe : MergesSafely target siblings value)
    (valid : Valid found definitions (.dict siblings) value) :
    Valid found definitions (.dict (merge target siblings)) value := by
  cases valid with
  | keywords whole parts =>
    have other := parts _ _ (.referred value refers)
    rw [defined] at other
    cases other with
    | keywords otherWhole otherParts =>
      refine .keywords (fun keyword given said => ?_) fun next part leads => ?_
      · rw [field_merge_of_ne _ _ (by cases keyword <;> decide)] at said
        rcases Option.or_eq_some_iff.mp said with own | ⟨_, theirs⟩
        · exact whole keyword given own
        · exact otherWhole keyword given theirs
      · rcases leads_merge safe leads with own | theirs
        · exact parts next part own
        · exact otherParts next part theirs

theorem confirms_merge (refers : reference? siblings = some reference)
    (defined : definition definitions reference = .dict target)
    (safe : MergesSafely target siblings value)
    (confirms : Confirms definitions (.dict siblings) value) :
    Confirms definitions (.dict (merge target siblings)) value := by
  have other : Confirms definitions (.dict target) value := by
    rw [← defined]
    exact confirms.leads (.referred value refers)
  intro place part reaches
  cases reaches with
  | here =>
    rintro _ offered confirmation ⟨⟩ listed offers inside
    rw [properties_merge] at listed
    split at listed
    · exact other.here _ _ _ rfl listed offers inside
    · exact confirms.here _ _ _ rfl listed offers inside
  | later leads reaches =>
    rcases leads_merge safe leads with own | theirs
    · exact confirms.leads own _ _ reaches
    · exact other.leads theirs _ _ reaches

/-! ### Confirmations -/

/-- A confirmation is replaced where the listed properties offer one that is pending. -/
theorem confirmPending_cases {left here : DocumentFields} (made : confirmPending left = .ok here) :
    here = left ∨ ∃ properties confirmation, field left "properties" = some (.dict properties) ∧
      field properties "confirmation" = some confirmation ∧ offersPending confirmation = .ok true ∧
      here = replace "properties" (.dict (replace "confirmation" pendingOnly properties)) left := by
  unfold confirmPending at made
  split at made
  · next properties listed =>
    split at made
    · next confirmation offered =>
      obtain ⟨offers, answer, made⟩ := bind_eq_ok.mp made
      cases offers with
      | false =>
        cases made
        exact Or.inl rfl
      | true =>
        cases made
        exact Or.inr ⟨properties, confirmation, listed, offered, answer, rfl⟩
    · cases made
      exact Or.inl rfl
  · cases made
    exact Or.inl rfl

end Grammar

end Omnitensor
