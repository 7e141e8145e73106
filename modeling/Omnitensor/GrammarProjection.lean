/-
This file proves when a projected schema keeps what was valid.

The projection walks over a schema: from a reference to the merged definition, and from there to members
and items. A value is met with care if at every place of that walk nothing is taken for a keyword that
is none: no constant that the value equals has keys of keywords, no list of properties is read as a
reference, no member of the value loses its property beside a schema of additional members, and the first
enumeration of a confirmation lists no more than the others.

Then what is written out accepts the value, and so does what is left of it when keywords are removed.
-/

import Omnitensor.GrammarTermination

namespace Omnitensor

open PyString (ofString)

open PyValue (field)

open Document SchemaValidity

namespace Grammar

/-! ### The walk of the projection -/

/-- A step of the projection, held against a value. -/
inductive Enters (definitions : DocumentFields) : Document → Document → Document → Document → Prop where
  | merged {fields target : DocumentFields} {reference : Document} (value : Document)
      (refers : reference? fields = some reference)
      (defined : definition definitions reference = .dict target) :
      Enters definitions (.dict fields) value (.dict (merge target fields)) value
  | part {fields : DocumentFields} {value next part : Document} (closed : reference? fields = none)
      (leads : Leads definitions (.dict fields) value next part) :
      Enters definitions (.dict fields) value next part

/-- The places that the projection comes to. -/
inductive Visits (definitions : DocumentFields) : Document → Document → Document → Document → Prop where
  | here (schema value : Document) : Visits definitions schema value schema value
  | later {schema value next part last deep : Document}
      (enters : Enters definitions schema value next part)
      (visits : Visits definitions next part last deep) : Visits definitions schema value last deep

/-- The first enumeration of a schema, its own or else that of what it refers to, lists a pending
confirmation. -/
inductive Lists (definitions : DocumentFields) : Document → Prop where
  | here {fields : DocumentFields} {items : List Document}
      (enum : field fields "enum" = some (.list items)) (inside : pending ∈ items) :
      Lists definitions (.dict fields)
  | referred {fields : DocumentFields} {reference : Document} (bare : field fields "enum" = none)
      (refers : reference? fields = some reference)
      (lists : Lists definitions (definition definitions reference)) : Lists definitions (.dict fields)

/-- A schema without a reference in which the projection takes only keywords for keywords, as far as a
value is concerned. -/
structure Plain (definitions fields : DocumentFields) (value : Document) : Prop where
  /-- No property is called like a reference. -/
  listed : reference? (properties fields) = none
  /-- A constant is left alone. -/
  constant : ∀ given, field fields "const" = some given → Untouched given
  /-- So is an enumerated value that the value is the same as. -/
  enumerated : ∀ items, field fields "enum" = some (.list items) → ∀ item ∈ items,
    Same item value → Untouched item
  /-- A member of the value that is called like a bound is not made an additional one. -/
  bound : additional? fields ≠ none → ofString "maxLength" ∈ names (properties fields) →
    ofString "maxLength" ∉ names value.members
  /-- Where there is a confirmation, the first enumeration lists no more of it than the others. -/
  confirmed : ∀ offered part, lookup (properties fields) (ofString "confirmation") = some offered →
    lookup value.members (ofString "confirmation") = some part →
      Lists definitions offered → Offers definitions offered

/-- The projection of a schema with a value takes only keywords for keywords. -/
def CarefulHere (definitions : DocumentFields) (schema value : Document) : Prop :=
  ∀ fields, schema = .dict fields →
    (reference? fields = none → Plain definitions fields value) ∧
      ∀ reference target, reference? fields = some reference →
        definition definitions reference = .dict target → MergesSafely target fields value

/-- It does so at every place that it comes to. -/
def Careful (definitions : DocumentFields) (schema value : Document) : Prop :=
  ∀ place part, Visits definitions schema value place part → CarefulHere definitions place part

variable {definitions : DocumentFields} {found : PyString → PyString → Bool}

theorem Careful.here {schema value : Document} (careful : Careful definitions schema value) :
    CarefulHere definitions schema value := careful _ _ (.here schema value)

variable {schema value next part given result : Document} {fields results here : DocumentFields}
  {fuel : Nat} {name : PyString} {stack : List PyString} {key : String}

theorem Careful.enters (careful : Careful definitions schema value)
    (enters : Enters definitions schema value next part) : Careful definitions next part :=
  fun _ _ visits => careful _ _ (.later enters visits)

/-! ### What is written out -/

/-- A keyword that holds, with data that both passes leave alone. -/
structure Held (found : PyString → PyString → Bool) (keyword : Keyword) (given value : Document) :
    Prop where
  holds : keyword.Holds found given value
  constant : keyword = .const → Untouched given
  enumerated : keyword = .enum → ∃ items item, given = .list items ∧ item ∈ items ∧
    Same item value ∧ Untouched item

/-- A value is accepted by a schema without references, with care. -/
inductive Accepts (found : PyString → PyString → Bool) : Document → Document → Prop where
  | anything (value : Document) : Accepts found (.bool true) value
  | keywords {fields : DocumentFields} {value : Document} (closed : reference? fields = none)
      (whole : ∀ keyword given, field fields (Keyword.text keyword) = some given →
        Held found keyword given value)
      (bound : additional? fields ≠ none → ofString "maxLength" ∈ names (properties fields) →
        ofString "maxLength" ∉ names value.members)
      (confirmed : ∀ confirmation part, field (properties fields) "confirmation" = some confirmation →
        offersPending confirmation = .ok true →
        lookup value.members (ofString "confirmation") = some part → part = pending)
      (parts : ∀ next part, Leads [] (.dict fields) value next part → Accepts found next part) :
      Accepts found (.dict fields) value

/-- A pass that copies what it is to leave alone keeps a keyword. -/
theorem Held.copied {change : Document → Except GrammarError Document} (copies : Copies change)
    {keyword : Keyword} (held : Held found keyword given value) (made : change given = .ok result) :
    Held found keyword result value := by
  have plain {text : PyString} : Untouched (.str text) := .scalar rfl
  have whole {number : Document} {bound : Int} (integer : number.integer? = some bound) :
      Untouched number := by
    refine .scalar ?_
    cases number with
    | list items => cases integer
    | dict fields => cases integer
    | _ => rfl
  have holds := held.holds
  cases keyword with
  | type =>
    obtain ⟨name, rfl | ⟨items, rfl, member⟩, typed⟩ := holds
    · rw [copies.same plain made]
      exact held
    · obtain ⟨results, rfl, inside⟩ := copies.inside made
      exact ⟨⟨name, Or.inr ⟨results, rfl, inside _ member plain⟩, typed⟩, nofun, nofun⟩
  | required =>
    obtain ⟨required, rfl, _⟩ := holds
    have texts : Untouched (.list (required.map .str)) := by
      refine .list fun item member => ?_
      obtain ⟨name, _, rfl⟩ := List.mem_map.mp member
      exact plain
    rw [copies.same texts made]
    exact held
  | enum =>
    obtain ⟨items, item, rfl, member, same, untouched⟩ := held.enumerated rfl
    obtain ⟨results, rfl, inside⟩ := copies.inside made
    have kept := inside item member untouched
    exact ⟨⟨results, rfl, item, kept, same⟩, nofun, fun _ =>
      ⟨results, item, rfl, kept, same, untouched⟩⟩
  | const =>
    rw [copies.same (held.constant rfl) made]
    exact held
  | minLength =>
    obtain ⟨bound, integer, _⟩ := holds
    rw [copies.same (whole integer) made]
    exact held
  | maxLength =>
    obtain ⟨bound, integer, _⟩ := holds
    rw [copies.same (whole integer) made]
    exact held
  | pattern =>
    obtain ⟨pattern, rfl, _⟩ := holds
    rw [copies.same plain made]
    exact held

/-! ### Children -/

section

variable {change : Document → Except GrammarError Document} {fields results : DocumentFields}

theorem reference?_mapChildren (copies : Copies change) (made : mapChildren change fields = .ok results)
    (closed : reference? fields = none) : reference? results = none := by
  unfold reference? at closed ⊢
  cases said : field results "$ref" with
  | none => rfl
  | some result =>
    obtain ⟨value, old, changed⟩ := lookup_of_mapChildren made said
    rw [lookup_ofString] at old
    rw [old] at closed
    cases value with
    | null =>
      rw [copies.same (.scalar rfl) changed]
    | _ => cases closed

theorem additional?_of_mapChildren (copies : Copies change)
    (made : mapChildren change fields = .ok results) {result : Document}
    (said : additional? results = some result) :
    ∃ value, additional? fields = some value ∧ change value = .ok result := by
  have there : field results "additionalProperties" = some result := by
    unfold additional? at said
    split at said
    · cases said
    · exact said
  obtain ⟨value, old, changed⟩ := lookup_of_mapChildren made there
  rw [lookup_ofString] at old
  refine ⟨value, ?_, changed⟩
  unfold additional?
  rw [old]
  split
  · next same =>
    -- What accepts everything is copied, and would accept everything still.
    rw [Option.some.inj same] at changed
    rw [additional?, there, copies.same (.scalar rfl) changed] at said
    cases said
  · rfl

/-- Properties that are not written as a dictionary are none. -/
theorem properties_of_ne_dict {given : Document} (said : field fields "properties" = some given)
    (other : ∀ listed, given ≠ .dict listed) : properties fields = [] := by
  rw [properties, said]
  cases given with
  | dict listed => exact absurd rfl (other listed)
  | _ => rfl

theorem properties_of_dict {listed : DocumentFields}
    (said : field fields "properties" = some (.dict listed)) : properties fields = listed := by
  rw [properties, said]
  rfl

theorem properties_of_none (said : field fields "properties" = none) : properties fields = [] := by
  rw [properties, said]
  rfl

end

/-! ### Writing out -/

/-- The properties of a dictionary that is written out are its properties, written out. -/
theorem properties_inline
    (made : mapChildren (inlineLocalRefs definitions fuel stack) fields = .ok results)
    (listed : reference? (properties fields) = none) :
    names (properties results) = names (properties fields) ∧
      ∀ name schema, lookup (properties results) name = some schema → ∃ less original, less < fuel ∧
        lookup (properties fields) name = some original ∧
        inlineLocalRefs definitions less stack original = .ok schema := by
  obtain ⟨there, missing⟩ := lookup_mapChildren made (ofString "properties")
  simp only [lookup_ofString] at there missing
  cases old : field fields "properties" with
  | none =>
    rw [properties_of_none old, properties_of_none (missing old)]
    exact ⟨rfl, fun _ _ => nofun⟩
  | some given =>
    obtain ⟨result, changed, said⟩ := there given old
    obtain ⟨less, rfl⟩ := fuel_of_inline changed
    cases given with
    | dict old_listed =>
      rw [properties_of_dict old] at listed ⊢
      obtain ⟨children, rfl, mapped⟩ := inline_closed listed changed
      rw [properties_of_dict said]
      refine ⟨names_mapChildren mapped, fun name schema inside => ?_⟩
      obtain ⟨original, before, written⟩ := lookup_of_mapChildren mapped inside
      exact ⟨less, original, Nat.lt_succ_self less, before, written⟩
    | list items =>
      obtain ⟨children, rfl, _⟩ := inline_list changed
      rw [properties_of_ne_dict old nofun, properties_of_ne_dict said nofun]
      exact ⟨rfl, fun _ _ => nofun⟩
    | _ =>
      rw [inline_scalar rfl changed] at said
      rw [properties_of_ne_dict old nofun, properties_of_ne_dict said nofun]
      exact ⟨rfl, fun _ _ => nofun⟩

/-- What a schema leads to that is written out is written out. -/
theorem leads_inline (closed : reference? fields = none)
    (listed : reference? (properties fields) = none)
    (made : mapChildren (inlineLocalRefs definitions fuel stack) fields = .ok results)
    (leads : Leads [] (.dict results) value next part) :
    ∃ less original, less ≤ fuel ∧ Leads definitions (.dict fields) value original part ∧
      inlineLocalRefs definitions less stack original = .ok next := by
  obtain ⟨same, inside⟩ := properties_inline made listed
  cases leads with
  | referred _ refers =>
    rw [reference?_mapChildren (copies_inline fuel stack) made closed] at refers
    cases refers
  | property found member =>
    obtain ⟨less, original, fewer, old, written⟩ := inside _ _ found
    exact ⟨less, original, fewer.le, .property old member, written⟩
  | additional rest unlisted member =>
    obtain ⟨original, old, written⟩ := additional?_of_mapChildren (copies_inline fuel stack) made rest
    rw [same] at unlisted
    exact ⟨fuel, original, le_rfl, .additional old unlisted member, written⟩
  | item each member =>
    obtain ⟨original, old, written⟩ := lookup_of_mapChildren made each
    exact ⟨fuel, original, le_rfl, .item old member, written⟩

/-- A text is written out as what it is, and nothing else is written out as a text. -/
theorem eq_str_of_inline {text : PyString}
    (made : inlineLocalRefs definitions fuel stack value = .ok (.str text)) :
    value = .str text := by
  obtain ⟨less, rfl⟩ := fuel_of_inline made
  cases value with
  | list items =>
    obtain ⟨results, same, _⟩ := inline_list made
    cases same
  | dict fields =>
    obtain ⟨results, same⟩ := inline_dict made
    cases same
  | _ => exact (inline_scalar rfl made).symm

theorem isPending_iff : isPending value = true ↔ value = pending := by
  cases value with
  | str text => simp [isPending, pending]
  | _ => simp [isPending, pending]

/-- A confirmation that is written out offers to be pending only if it did before. -/
theorem lists_of_inline {fuel : Nat} {stack : List PyString} {confirmation result part : Document}
    (made : inlineLocalRefs definitions fuel stack confirmation = .ok result)
    (offers : offersPending result = .ok true) (valid : Valid found definitions confirmation part)
    (careful : Careful definitions confirmation part) : Lists definitions confirmation := by
  induction fuel generalizing stack confirmation with
  | zero => cases made
  | succ fuel inductionHypothesis =>
    cases valid with
    | anything =>
      rw [inline_scalar rfl made] at offers
      cases offers
    | @keywords fields _ whole parts =>
      cases refers : reference? fields with
      | none =>
        obtain ⟨results, rfl, mapped⟩ := inline_closed refers made
        obtain ⟨there, missing⟩ := lookup_mapChildren mapped (ofString "enum")
        simp only [lookup_ofString] at there missing
        rw [offersPending] at offers
        cases old : field fields "enum" with
        | none =>
          rw [missing old] at offers
          cases offers
        | some given =>
          obtain ⟨written, changed, said⟩ := there given old
          obtain ⟨items, rfl, _⟩ := whole .enum given old
          obtain ⟨less, rfl⟩ := fuel_of_inline changed
          obtain ⟨children, rfl, each⟩ := inline_list changed
          rw [said] at offers
          obtain ⟨child, member, same⟩ := List.any_eq_true.mp (Except.ok.inj offers)
          rw [isPending_iff] at same
          obtain ⟨item, inside, copied⟩ := exists_of_mem_mapM each child member
          rw [same] at copied
          have word : item = pending := eq_str_of_inline copied
          exact .here old (word ▸ inside)
      | some reference =>
        obtain ⟨name, target, _, _, defined, written⟩ := inline_reference refers made
        have safe := (careful.here fields rfl).2 reference target refers defined
        have merged := inductionHypothesis written
          (valid_merge refers defined safe (.keywords whole parts))
          (careful.enters (.merged part refers defined))
        cases merged with
        | here enum inside =>
          rw [field_merge_of_ne _ _ (by decide)] at enum
          rcases Option.or_eq_some_iff.mp enum with own | ⟨bare, other⟩
          · exact .here own inside
          · refine .referred bare refers ?_
            rw [defined]
            exact .here other inside
        | referred bare deeper lists =>
          rw [reference?_merge] at deeper
          rw [field_merge_of_ne _ _ (by decide), Option.or_eq_none_iff] at bare
          refine .referred bare.1 refers ?_
          rw [defined]
          exact .referred bare.2 deeper lists

/-- What is written out accepts a value that was valid and is met with care. -/
theorem accepts_inline {fuel : Nat} {stack : List PyString} {schema result value : Document}
    (made : inlineLocalRefs definitions fuel stack schema = .ok result)
    (valid : Valid found definitions schema value) (confirms : Confirms definitions schema value)
    (careful : Careful definitions schema value) : Accepts found result value := by
  induction fuel using Nat.strong_induction_on generalizing stack schema result value with
  | h fuel inductionHypothesis =>
    obtain ⟨fuel, rfl⟩ := fuel_of_inline made
    cases valid with
    | anything =>
      rw [inline_scalar rfl made]
      exact .anything value
    | @keywords fields _ whole parts =>
      cases refers : reference? fields with
      | some reference =>
        obtain ⟨name, target, _, _, defined, written⟩ := inline_reference refers made
        have safe := (careful.here fields rfl).2 reference target refers defined
        exact inductionHypothesis fuel (Nat.lt_succ_self fuel) written
          (valid_merge refers defined safe (.keywords whole parts))
          (confirms_merge refers defined safe confirms)
          (careful.enters (.merged value refers defined))
      | none =>
        obtain ⟨results, rfl, mapped⟩ := inline_closed refers made
        have plain := (careful.here fields rfl).1 refers
        have copies := @copies_inline definitions fuel stack
        obtain ⟨same, inside⟩ := properties_inline mapped plain.listed
        refine .keywords (reference?_mapChildren copies mapped refers) (fun keyword given said => ?_)
          (fun restricts named => ?_) (fun confirmation part listed offers member => ?_)
          fun next part leads => ?_
        · obtain ⟨original, old, changed⟩ := lookup_of_mapChildren mapped said
          rw [lookup_ofString] at old
          have holds := whole keyword original old
          refine Held.copied copies ⟨holds, fun const => ?_, fun enum => ?_⟩ changed
          · subst const
            exact plain.constant original old
          · subst enum
            obtain ⟨items, rfl, item, among, equal⟩ := holds
            exact ⟨items, item, rfl, among, equal, plain.enumerated items old item among equal⟩
        · refine plain.bound (fun nothing => ?_) (same ▸ named)
          obtain ⟨schema, said⟩ := Option.ne_none_iff_exists'.mp restricts
          obtain ⟨original, old, _⟩ := additional?_of_mapChildren copies mapped said
          rw [nothing] at old
          cases old
        · obtain ⟨less, original, _, old, written⟩ := inside _ _ listed
          have leads : Leads definitions (.dict fields) value original part := .property old member
          have lists := lists_of_inline written offers (parts _ _ leads) (careful.enters (.part refers leads))
          exact confirms.here fields original part rfl old (plain.confirmed original part old member lists)
            member
        · obtain ⟨less, original, fewer, old, written⟩ := leads_inline refers plain.listed mapped leads
          exact inductionHypothesis less (Nat.lt_succ_of_le fewer) written (parts _ _ old)
            (confirms.leads old) (careful.enters (.part refers old))

/-! ### Removing keywords -/

theorem fuel_of_project (made : projectGrammarKeywords fuel value = .ok result) :
    ∃ less, fuel = less + 1 := by
  cases fuel with
  | zero => cases made
  | succ less => exact ⟨less, rfl⟩

theorem project_scalar (plain : scalar value = true)
    (made : projectGrammarKeywords fuel value = .ok result) : result = value := by
  obtain ⟨less, rfl⟩ := fuel_of_project made
  cases value with
  | list items => cases plain
  | dict fields => cases plain
  | _ =>
    cases made
    rfl

theorem project_list {items : List Document}
    (made : projectGrammarKeywords (fuel + 1) (.list items) = .ok result) :
    ∃ results, result = .list results ∧ items.mapM (projectGrammarKeywords fuel) = .ok results := by
  obtain ⟨results, mapped, rfl⟩ := map_eq_ok.mp made
  exact ⟨results, rfl, mapped⟩

theorem project_dict (made : projectGrammarKeywords (fuel + 1) (.dict fields) = .ok result) :
    ∃ here results, projectHere fields = .ok here ∧ result = .dict results ∧
      mapChildren (projectGrammarKeywords fuel) here = .ok results := by
  obtain ⟨here, projected, rest⟩ := bind_eq_ok.mp made
  obtain ⟨results, mapped, rfl⟩ := map_eq_ok.mp rest
  exact ⟨here, results, projected, rfl, mapped⟩

/-- A quiet dictionary stays as it is. -/
theorem projectHere_of_quiet (quiet : Quiet fields) (made : projectHere fields = .ok here) :
    here = fields := by
  have unbounded : pop "maxLength" fields = fields := by
    refine List.filter_eq_self.mpr fun member inside => decide_eq_true fun same => ?_
    have missing := lookup_eq_none.mp (quiet.bound : lookup fields (ofString "maxLength") = none)
    exact missing (List.mem_map.mpr ⟨member, inside, same⟩)
  unfold projectHere at made
  dsimp only at made
  rw [unbounded, quiet.pattern, if_neg Bool.false_ne_true] at made
  unfold confirmPending at made
  split at made
  · next properties listed =>
    split at made
    · next confirmation offered =>
      obtain ⟨offers, answer, made⟩ := bind_eq_ok.mp made
      cases offers with
      | true => exact absurd answer (quiet.confirmation _ _ listed offered)
      | false =>
        cases made
        rfl
    · cases made
      rfl
  · cases made
    rfl

theorem project_untouched (untouched : Untouched value)
    (made : projectGrammarKeywords fuel value = .ok result) : result = value := by
  induction fuel generalizing value result with
  | zero => cases made
  | succ fuel inductionHypothesis =>
    cases untouched with
    | scalar plain => exact project_scalar plain made
    | list each =>
      obtain ⟨results, rfl, mapped⟩ := project_list made
      exact congrArg _ (eq_of_mapM (fun item member _ => inductionHypothesis (each item member)) mapped)
    | dict quiet each =>
      obtain ⟨here, results, projected, rfl, mapped⟩ := project_dict made
      rw [projectHere_of_quiet quiet projected] at mapped
      exact congrArg _ (eq_of_mapChildren
        (fun member inside _ => inductionHypothesis (each member inside)) mapped)

theorem copies_project (fuel : Nat) : Copies (projectGrammarKeywords fuel) where
  same := project_untouched
  inside made := by
    obtain ⟨less, rfl⟩ := fuel_of_project made
    obtain ⟨results, rfl, mapped⟩ := project_list made
    exact ⟨results, rfl, fun item member untouched =>
      mem_of_mapM mapped member fun _ => project_untouched untouched⟩

/-- What is left of a dictionary when keywords have been removed. -/
structure Projected (fields here : DocumentFields) : Prop where
  kept : ∀ {name value}, name ≠ ofString "properties" → lookup here name = some value →
    lookup fields name = some value
  listed : ∀ {value}, field here "properties" = some value → field fields "properties" = some value ∨
    ∃ properties confirmation, field fields "properties" = some (.dict properties) ∧
      field properties "confirmation" = some confirmation ∧ offersPending confirmation = .ok true ∧
      value = .dict (replace "confirmation" pendingOnly properties)
  dropped : ∀ {name}, name ∈ names fields → name ∈ names here ∨ name = ofString "maxLength" ∨
    name = ofString "pattern" ∧ ∃ text, lookup fields name = some (.str text)

theorem lookup_pop_eq_some (found : lookup (pop key fields) name = some value) :
    name ≠ ofString key ∧ lookup fields name = some value := by
  by_cases same : name = ofString key
  · rw [same, lookup_ofString, field_pop, if_pos rfl] at found
    cases found
  · rw [lookup_pop_of_ne key fields same] at found
    exact ⟨same, found⟩

theorem mem_names_pop (named : name ∈ names fields) (apart : name ≠ ofString key) :
    name ∈ names (pop key fields) := by
  obtain ⟨value, there⟩ := exists_lookup named
  exact mem_names_of_lookup ((lookup_pop_of_ne key fields apart).trans there)

theorem names_replace (key : String) (value : Document) (fields : DocumentFields) :
    names (replace key value fields) = names fields := by
  rw [names, names, replace, List.map_map]
  refine List.map_congr_left fun member _ => ?_
  rw [Function.comp_apply]
  split <;> rfl

/-- What is left is there from before, and only a bound and a pattern are not left. -/
theorem lookup_popped (fields : DocumentFields) :
    let bounded := pop "maxLength" fields
    let left := if unusablePattern bounded then pop "pattern" bounded else bounded
    (∀ name value, lookup left name = some value → lookup fields name = some value) ∧
      ∀ name ∈ names fields, name ∈ names left ∨ name = ofString "maxLength" ∨
        name = ofString "pattern" ∧ ∃ text, lookup fields name = some (.str text) := by
  dsimp only
  split
  · next unusable =>
    refine ⟨fun name value there => (lookup_pop_eq_some (lookup_pop_eq_some there).2).2,
      fun name named => ?_⟩
    by_cases bound : name = ofString "maxLength"
    · exact Or.inr (Or.inl bound)
    · by_cases pattern : name = ofString "pattern"
      · refine Or.inr (Or.inr ⟨pattern, ?_⟩)
        unfold unusablePattern at unusable
        split at unusable
        · next text said =>
          rw [pattern]
          exact ⟨text, (lookup_pop_eq_some said).2⟩
        · cases unusable
      · exact Or.inl (mem_names_pop (mem_names_pop named bound) pattern)
  · refine ⟨fun name value there => (lookup_pop_eq_some there).2, fun name named => ?_⟩
    by_cases bound : name = ofString "maxLength"
    · exact Or.inr (Or.inl bound)
    · exact Or.inl (mem_names_pop named bound)

theorem projected_projectHere (made : projectHere fields = .ok here) : Projected fields here := by
  obtain ⟨before, dropped⟩ := lookup_popped fields
  rcases confirmPending_cases made with rfl | ⟨properties, confirmation, listed, offered, answer, rfl⟩
  · exact ⟨fun _ => before _ _, fun there => Or.inl (before _ _ there), dropped _⟩
  · refine ⟨fun apart there => ?_, fun there => ?_, fun named => ?_⟩
    · rw [lookup_replace, if_neg apart] at there
      exact before _ _ there
    · rw [← lookup_ofString, lookup_replace, if_pos rfl, lookup_ofString, listed] at there
      cases there
      exact Or.inr ⟨properties, confirmation, before _ _ listed, offered, answer, rfl⟩
    · rw [names_replace]
      exact dropped _ named

theorem Projected.field (projected : Projected fields here) (apart : key ≠ "properties")
    (there : PyValue.field here key = some value) : PyValue.field fields key = some value :=
  projected.kept (fun same => apart (ofString_inj.mp same)) there

theorem Projected.reference? (projected : Projected fields here)
    (closed : SchemaValidity.reference? fields = none) : SchemaValidity.reference? here = none := by
  unfold SchemaValidity.reference? at closed ⊢
  cases said : PyValue.field here "$ref" with
  | none => rfl
  | some reference =>
    rw [projected.field (by decide) said] at closed
    cases reference with
    | null => rfl
    | _ => cases closed

theorem Projected.additional? (projected : Projected fields here)
    (said : SchemaValidity.additional? here = some schema) :
    SchemaValidity.additional? fields = some schema := by
  unfold SchemaValidity.additional? at said ⊢
  cases there : PyValue.field here "additionalProperties" with
  | none =>
    rw [there] at said
    cases said
  | some given =>
    rw [there] at said
    rw [projected.field (by decide) there]
    exact said

/-- Where the schema of a projected property comes from: the property, a confirmation that has to be
pending, or a property with a changed key that is no keyword. -/
inductive Origin (fields : DocumentFields) (name : PyString) : Document → Prop where
  | same {schema : Document} (listed : lookup (properties fields) name = some schema) :
      Origin fields name schema
  | confirmation {offered : Document} (named : name = ofString "confirmation")
      (listed : field (properties fields) "confirmation" = some offered)
      (offers : offersPending offered = .ok true) : Origin fields name pendingOnly
  | changed {keywords : DocumentFields}
      (listed : lookup (properties fields) name = some (.dict keywords)) :
      Origin fields name (.dict (replace "confirmation" pendingOnly keywords))

/-- What a list of properties is when a confirmation has been looked at. -/
theorem origin_of_projected (projected : Projected fields here) {listed left : DocumentFields}
    (said : field here "properties" = some (.dict listed)) (inner : Projected listed left)
    (found : lookup left name = some schema) : Origin fields name schema := by
  rcases projected.listed said with same | ⟨original, confirmation, there, offered, offers, changed⟩
  · -- The list is unchanged, and a property may be called like the list.
    have whole := properties_of_dict same
    by_cases nested : name = ofString "properties"
    · rw [nested, lookup_ofString] at found
      rw [nested]
      rcases inner.listed found with before | ⟨keywords, _, before, _, _, rfl⟩
      · exact .same (whole ▸ before)
      · exact .changed (whole ▸ before)
    · exact .same (whole ▸ inner.kept nested found)
  · -- The confirmation is replaced, and a property may be called like the list here as well.
    have whole := properties_of_dict there
    cases changed
    have apart : ofString "properties" ≠ ofString "confirmation" := by decide
    by_cases nested : name = ofString "properties"
    · rw [nested, lookup_ofString] at found
      rw [nested]
      rcases inner.listed found with before | ⟨keywords, _, before, _, _, rfl⟩
      · rw [← lookup_ofString, lookup_replace, if_neg apart] at before
        exact .same (whole ▸ before)
      · rw [← lookup_ofString, lookup_replace, if_neg apart] at before
        exact .changed (whole ▸ before)
    · have before := inner.kept nested found
      rw [lookup_replace] at before
      split at before
      · next named =>
        rw [named, lookup_ofString, offered] at before
        cases before
        exact .confirmation named (whole ▸ offered) offers
      · exact .same (whole ▸ before)

/-- The projected properties, and those of which nothing is left. -/
theorem properties_project (projected : Projected fields here)
    (made : mapChildren (projectGrammarKeywords fuel) here = .ok results) :
    (∀ name schema, lookup (properties results) name = some schema → ∃ less original, less < fuel ∧
      Origin fields name original ∧ projectGrammarKeywords less original = .ok schema) ∧
    ∀ name ∈ names (properties fields), name ∈ names (properties results) ∨
      name = ofString "maxLength" ∨
        name = ofString "pattern" ∧ ∃ text, lookup (properties fields) name = some (.str text) := by
  obtain ⟨there, missing⟩ := lookup_mapChildren made (ofString "properties")
  simp only [lookup_ofString] at there missing
  cases said : field here "properties" with
  | none =>
    have before : field fields "properties" = none := by
      refine lookup_eq_none.mpr fun named => ?_
      rcases projected.dropped named with kept | bound | ⟨pattern, _⟩
      · exact lookup_eq_none.mp said kept
      · exact absurd bound (by decide)
      · exact absurd pattern (by decide)
    rw [properties_of_none (missing said), properties_of_none before]
    exact ⟨fun _ _ => nofun, fun _ => nofun⟩
  | some given =>
    obtain ⟨result, changed, written⟩ := there given said
    obtain ⟨less, rfl⟩ := fuel_of_project changed
    have unchanged (other : ∀ listed, given ≠ .dict listed) : properties fields = [] := by
      rcases projected.listed said with same | ⟨_, _, _, _, _, same⟩
      · exact properties_of_ne_dict same other
      · exact absurd same (other _)
    cases given with
    | dict listed =>
      obtain ⟨left, children, inner, rfl, mapped⟩ := project_dict changed
      replace inner := projected_projectHere inner
      rw [properties_of_dict written]
      refine ⟨fun name schema found => ?_, fun name named => ?_⟩
      · obtain ⟨original, before, projectedSchema⟩ := lookup_of_mapChildren mapped found
        exact ⟨less, original, Nat.lt_succ_self less, origin_of_projected projected said inner before,
          projectedSchema⟩
      · rw [names_mapChildren mapped]
        have inside : name ∈ names listed ∧ ∀ text, lookup listed name = some (.str text) →
            lookup (properties fields) name = some (.str text) := by
          rcases projected.listed said with same | ⟨original, confirmation, before, _, _, changed⟩
          · rw [properties_of_dict same] at named ⊢
            exact ⟨named, fun _ => id⟩
          · cases changed
            rw [properties_of_dict before] at named ⊢
            rw [names_replace]
            refine ⟨named, fun text stated => ?_⟩
            rw [lookup_replace] at stated
            split at stated
            · obtain ⟨_, _, impossible⟩ := Option.map_eq_some_iff.mp stated
              cases impossible
            · exact stated
        rcases inner.dropped inside.1 with kept | bound | ⟨pattern, text, stated⟩
        · exact Or.inl kept
        · exact Or.inr (Or.inl bound)
        · exact Or.inr (Or.inr ⟨pattern, text, inside.2 text stated⟩)
    | list items =>
      obtain ⟨children, rfl, _⟩ := project_list changed
      rw [properties_of_ne_dict written nofun, unchanged nofun]
      exact ⟨fun _ _ => nofun, fun _ => nofun⟩
    | _ =>
      rw [project_scalar rfl changed] at written
      rw [properties_of_ne_dict written nofun, unchanged nofun]
      exact ⟨fun _ _ => nofun, fun _ => nofun⟩

/-- Keys that are no keywords say nothing. -/
theorem Accepts.of_fields {first second : DocumentFields}
    (same : ∀ key : String, key ≠ "confirmation" → key ≠ "$defs" → field second key = field first key)
    (accepts : Accepts found (.dict first) value) : Accepts found (.dict second) value := by
  have references : reference? second = reference? first := by
    rw [reference?, reference?, same _ (by decide) (by decide)]
  have lists : properties second = properties first := by
    rw [properties, properties, same _ (by decide) (by decide)]
  have rest : additional? second = additional? first := by
    rw [additional?, additional?, same _ (by decide) (by decide)]
  cases accepts with
  | keywords closed whole bound confirmed parts =>
    refine .keywords (references ▸ closed) (fun keyword given said => ?_) (rest ▸ lists ▸ bound)
      (lists ▸ confirmed) fun next part leads => ?_
    · rw [same _ (by cases keyword <;> decide) (by cases keyword <;> decide)] at said
      exact whole keyword given said
    · cases leads with
      | referred _ refers =>
        rw [references, closed] at refers
        cases refers
      | property listed inside => exact parts _ _ (.property (lists ▸ listed) inside)
      | additional said unlisted inside =>
        exact parts _ _ (.additional (rest ▸ said) (lists ▸ unlisted) inside)
      | item each inside =>
        rw [same _ (by decide) (by decide)] at each
        exact parts _ _ (.item each inside)

theorem untouched_pendingOnly : Untouched pendingOnly := by
  refine .dict ⟨rfl, rfl, rfl, fun _ _ => nofun⟩ fun member inside => ?_
  rw [List.mem_singleton.mp inside]
  exact .scalar rfl

theorem valid_pendingOnly : Valid found definitions pendingOnly pending := by
  refine .keywords (fun keyword given said => ?_) fun next part leads => ?_
  · cases keyword with
    | const =>
      cases said
      exact rfl
    | _ => cases said
  · cases leads with
    | referred _ refers => cases refers
    | property listed _ => cases listed
    | additional rest _ _ => cases rest
    | item each _ => cases each

/-- What accepts a value with care is projected to what the value is valid under. -/
theorem valid_project (made : projectGrammarKeywords fuel schema = .ok result)
    (accepts : Accepts found schema value) : Valid found [] result value := by
  induction fuel using Nat.strong_induction_on generalizing schema result value with
  | h fuel inductionHypothesis =>
    obtain ⟨fuel, rfl⟩ := fuel_of_project made
    cases accepts with
    | anything =>
      rw [project_scalar rfl made]
      exact .anything value
    | @keywords fields _ closed whole bound confirmed parts =>
      obtain ⟨here, results, projected, rfl, mapped⟩ := project_dict made
      replace projected := projected_projectHere projected
      have copies := copies_project fuel
      obtain ⟨origins, remain⟩ := properties_project projected mapped
      refine .keywords (fun keyword given said => ?_) fun next part leads => ?_
      · obtain ⟨original, old, changed⟩ := lookup_of_mapChildren mapped said
        have before := projected.field (by cases keyword <;> decide) old
        exact ((whole keyword original before).copied copies changed).holds
      · cases leads with
        | referred _ refers =>
          rw [reference?_mapChildren copies mapped (projected.reference? closed)] at refers
          cases refers
        | property listed inside =>
          obtain ⟨less, original, fewer, origin, changed⟩ := origins _ _ listed
          have smaller := Nat.lt_succ_of_lt fewer
          cases origin with
          | same before =>
            exact inductionHypothesis less smaller changed (parts _ _ (.property before inside))
          | confirmation named before offers =>
            subst named
            rw [project_untouched untouched_pendingOnly changed, confirmed _ _ before offers inside]
            exact valid_pendingOnly
          | changed before =>
            refine inductionHypothesis less smaller changed
              ((parts _ _ (.property before inside)).of_fields fun key apart _ => ?_)
            rw [← lookup_ofString, lookup_replace, if_neg fun equal => apart (ofString_inj.mp equal),
              lookup_ofString]
        | additional rest unlisted inside =>
          obtain ⟨original, old, changed⟩ := additional?_of_mapChildren copies mapped rest
          have before := projected.additional? old
          refine inductionHypothesis fuel (Nat.lt_succ_self fuel) changed
            (parts _ _ (.additional before (fun named => ?_) inside))
          rcases remain _ named with kept | long | ⟨_, text, stated⟩
          · exact unlisted kept
          · rw [long] at named inside
            exact bound (by rw [before]; simp) named (mem_names_of_lookup inside)
          · -- No value is accepted by a text in the place of a schema.
            cases parts _ _ (.property stated inside)
        | item each inside =>
          obtain ⟨original, old, changed⟩ := lookup_of_mapChildren mapped each
          exact inductionHypothesis fuel (Nat.lt_succ_self fuel) changed
            (parts _ _ (.item (projected.field (by decide) old) inside))

/-! ### Places of small schemas -/

theorem confirms_of_leads (here : ConfirmsHere definitions schema value)
    (later : ∀ next part, Leads definitions schema value next part → Confirms definitions next part) :
    Confirms definitions schema value := by
  intro place part reaches
  cases reaches with
  | here => exact here
  | later leads reaches => exact later _ _ leads _ _ reaches

theorem careful_of_enters (here : CarefulHere definitions schema value)
    (later : ∀ next part, Enters definitions schema value next part → Careful definitions next part) :
    Careful definitions schema value := by
  intro place part visits
  cases visits with
  | here => exact here
  | later enters visits => exact later _ _ enters _ _ visits

/-- A schema with no reference, properties, additional members and items leads nowhere. -/
structure Leaf (fields : DocumentFields) : Prop where
  closed : reference? fields = none
  listed : properties fields = []
  rest : additional? fields = none
  items : field fields "items" = none

theorem Leaf.not_leads (leaf : Leaf fields) :
    ¬ Leads definitions (.dict fields) value next part := by
  intro leads
  cases leads with
  | referred _ refers =>
    rw [leaf.closed] at refers
    cases refers
  | property listed inside =>
    rw [leaf.listed] at listed
    cases listed
  | additional rest _ _ =>
    rw [leaf.rest] at rest
    cases rest
  | item each _ =>
    rw [leaf.items] at each
    cases each

theorem Leaf.confirms (leaf : Leaf fields) (value : Document) :
    Confirms definitions (.dict fields) value := by
  refine confirms_of_leads ?_ fun next part leads => absurd leads leaf.not_leads
  rintro _ offered part ⟨⟩ listed
  rw [leaf.listed] at listed
  cases listed

theorem Leaf.careful (leaf : Leaf fields) (plain : Plain definitions fields value) :
    Careful definitions (.dict fields) value := by
  refine careful_of_enters ?_ fun next part enters => ?_
  · rintro _ ⟨⟩
    refine ⟨fun _ => plain, fun reference target refers => ?_⟩
    rw [leaf.closed] at refers
    cases refers
  · cases enters with
    | merged _ refers =>
      rw [leaf.closed] at refers
      cases refers
    | part _ leads => exact absurd leads leaf.not_leads

theorem lookup_singleton {other : PyString} (there : lookup [(name, value)] other = some given) :
    other = name ∧ given = value := by
  rw [lookup_cons] at there
  split at there
  · next same =>
    cases there
    exact ⟨same.symm, rfl⟩
  · cases there

/-! ### Whole schemas -/

/-- The definitions of a schema. -/
def definitionsOf (schema : DocumentFields) : DocumentFields :=
  members ((field schema "$defs").getD (.dict []))

theorem accepts_withoutDefinitions (accepts : Accepts found schema value) :
    Accepts found (withoutDefinitions schema) value := by
  cases schema with
  | dict fields =>
    refine accepts.of_fields fun key _ apart => ?_
    rw [field_pop, if_neg apart]
  | _ => exact accepts

/-- The projection of a schema comes to an end, and where it takes only keywords for keywords, it keeps
every valid value whose confirmations are pending. -/
theorem grammarSchema_keeps (found : PyString → PyString → Bool) (schema : DocumentFields) :
    grammarSchema schema ≠ .error .exhausted ∧
    ∀ projected value, grammarSchema schema = .ok projected →
      Valid found (definitionsOf schema) (.dict schema) value →
      Confirms (definitionsOf schema) (.dict schema) value →
      Careful (definitionsOf schema) (.dict schema) value → Valid found [] projected value := by
  refine ⟨grammarSchema_ne_exhausted schema, fun projected value made valid confirms careful => ?_⟩
  unfold grammarSchema at made
  split at made
  · next definitions said =>
    have defined : definitionsOf schema = definitions := by
      rw [definitionsOf, said]
      rfl
    rw [defined] at valid confirms careful
    obtain ⟨inlined, written, projects⟩ := bind_eq_ok.mp made
    exact valid_project projects
      (accepts_withoutDefinitions (accepts_inline written valid confirms careful))
  · cases made

/-- The words of a confirmation. -/
def confirmationWords : DocumentFields :=
  [(ofString "enum", .list [pending, .str (ofString "confirmed")])]

/-- A bounded reference to these words. -/
def boundedReference : DocumentFields :=
  [(ofString "$ref", .str (ofString "#/$defs/confirmation")), (ofString "maxLength", .int 9)]

/-- A schema of a confirmation that is defined elsewhere. -/
def confirmationSchema : DocumentFields := [
  (ofString "$defs", .dict [(ofString "confirmation", .dict confirmationWords)]),
  (ofString "properties", .dict [(ofString "confirmation", .dict boundedReference)])]

def confirmationValue : Document := .dict [(ofString "confirmation", pending)]

theorem offers_boundedReference :
    Offers (definitionsOf confirmationSchema) (.dict boundedReference) := by
  refine ⟨⟨confirmationWords, _, .referred rfl (.here _), rfl⟩, fun keywords items stands said => ?_⟩
  cases stands with
  | here => cases said
  | referred refers stands =>
    cases refers
    change Stands _ (.dict confirmationWords) _ at stands
    cases stands with
    | here =>
      cases said
      exact List.mem_cons_self
    | referred deeper _ => cases deeper

theorem grammarSchema_keeps_confirmation :
    grammarSchema confirmationSchema =
      .ok (.dict [(ofString "properties", .dict [(ofString "confirmation", pendingOnly)])]) ∧
    Valid (fun _ _ => false) []
      (.dict [(ofString "properties", .dict [(ofString "confirmation", pendingOnly)])])
      confirmationValue := by
  have made : grammarSchema confirmationSchema =
      .ok (.dict [(ofString "properties", .dict [(ofString "confirmation", pendingOnly)])]) := rfl
  have words : Leaf confirmationWords := ⟨rfl, rfl, rfl, rfl⟩
  have merged : Leaf (merge confirmationWords boundedReference) := ⟨rfl, rfl, rfl, rfl⟩
  have top {next part : Document} (leads : Leads (definitionsOf confirmationSchema)
      (.dict confirmationSchema) confirmationValue next part) :
      next = .dict boundedReference ∧ part = pending := by
    cases leads with
    | referred _ refers => cases refers
    | property listed inside => exact ⟨(lookup_singleton listed).2, (lookup_singleton inside).2⟩
    | additional rest _ _ => cases rest
    | item each _ => cases each
  have inner {next : Document} {part : Document} (leads : Leads (definitionsOf confirmationSchema)
      (.dict boundedReference) pending next part) : next = .dict confirmationWords ∧ part = pending := by
    cases leads with
    | referred _ refers =>
      cases refers
      exact ⟨rfl, rfl⟩
    | property listed _ => cases listed
    | additional rest _ _ => cases rest
    | item each _ => cases each
  refine ⟨made, (grammarSchema_keeps _ _).2 _ _ made ?_ ?_ ?_⟩
  · refine .keywords (fun keyword given said => by cases keyword <;> cases said) fun next part leads => ?_
    obtain ⟨rfl, rfl⟩ := top leads
    refine .keywords (fun keyword given said => ?_) fun next part leads => ?_
    · cases keyword with
      | maxLength =>
        cases said
        exact ⟨9, rfl, fun text same => by cases same; decide⟩
      | _ => cases said
    · obtain ⟨rfl, rfl⟩ := inner leads
      refine .keywords (fun keyword given said => ?_) fun _ _ leads => absurd leads words.not_leads
      cases keyword with
      | enum =>
        cases said
        exact ⟨_, rfl, pending, List.mem_cons_self, rfl⟩
      | _ => cases said
  · refine confirms_of_leads ?_ fun next part leads => ?_
    · rintro _ _ part ⟨⟩ _ _ inside
      exact (lookup_singleton inside).2
    · obtain ⟨rfl, rfl⟩ := top leads
      refine confirms_of_leads ?_ fun next part leads => ?_
      · rintro _ _ _ ⟨⟩ listed
        cases listed
      · obtain ⟨rfl, rfl⟩ := inner leads
        exact words.confirms pending
  · refine careful_of_enters ?_ fun next part enters => ?_
    · rintro _ ⟨⟩
      refine ⟨fun _ => ⟨rfl, fun _ => nofun, fun _ => nofun, fun said => absurd rfl said, ?_⟩,
        fun _ _ => nofun⟩
      intro offered part listed _ _
      rw [(lookup_singleton listed).2]
      exact offers_boundedReference
    · cases enters with
      | merged _ refers => cases refers
      | part _ leads =>
        obtain ⟨rfl, rfl⟩ := top leads
        refine careful_of_enters ?_ fun next part enters => ?_
        · rintro _ ⟨⟩
          refine ⟨nofun, fun reference target refers defined => ?_⟩
          cases refers
          cases defined
          exact fun said => absurd rfl said
        · cases enters with
          | part closed _ => cases closed
          | merged _ refers defined =>
            cases refers
            cases defined
            refine merged.careful ⟨rfl, fun _ => nofun, fun items said item member _ => ?_,
              fun said => absurd rfl said, fun _ _ => nofun⟩
            cases said
            rcases List.mem_cons.mp member with rfl | last
            · exact .scalar rfl
            · rw [List.mem_singleton.mp last]
              exact .scalar rfl

/-- A schema whose one property is called like a bound, and which has no other members. -/
def boundProperty : DocumentFields := [
  (ofString "properties",
    .dict [(ofString "maxLength", .dict [(ofString "type", .str (ofString "integer"))])]),
  (ofString "additionalProperties", .bool false)]

/-- A value with the member that the schema lists. -/
def boundValue : Document := .dict [(ofString "maxLength", .int 3)]

theorem leaf_integer : Leaf [(ofString "type", .str (ofString "integer"))] :=
  ⟨rfl, rfl, rfl, rfl⟩

/-- The property is lost, and its member is not allowed any more. -/
theorem grammarSchema_forbids :
    ∃ projected, grammarSchema boundProperty = .ok projected ∧
      Valid (fun _ _ => false) (definitionsOf boundProperty) (.dict boundProperty) boundValue ∧
      Confirms (definitionsOf boundProperty) (.dict boundProperty) boundValue ∧
      ¬ Valid (fun _ _ => false) [] projected boundValue := by
  have leads {next part : Document}
      (leads : Leads (definitionsOf boundProperty) (.dict boundProperty) boundValue next part) :
      next = .dict [(ofString "type", .str (ofString "integer"))] ∧ part = .int 3 := by
    cases leads with
    | referred _ refers => cases refers
    | property listed inside => exact ⟨(lookup_singleton listed).2, (lookup_singleton inside).2⟩
    | additional _ unlisted inside =>
      rw [(lookup_singleton inside).1] at unlisted
      exact absurd (List.mem_singleton.mpr rfl) unlisted
    | item each _ => cases each
  refine ⟨.dict [(ofString "properties", .dict []), (ofString "additionalProperties", .bool false)],
    rfl, .keywords (fun keyword given said => ?_) fun next part place => ?_,
    confirms_of_leads ?_ fun next part place => ?_, fun valid => ?_⟩
  · cases keyword <;> cases said
  · obtain ⟨rfl, rfl⟩ := leads place
    refine .keywords (fun keyword given said => ?_) fun _ _ deeper => absurd deeper leaf_integer.not_leads
    cases keyword with
    | type =>
      cases said
      exact ⟨_, Or.inl rfl, rfl⟩
    | _ => cases said
  · rintro _ offered part ⟨⟩ listed
    cases (lookup_singleton listed).1
  · obtain ⟨rfl, rfl⟩ := leads place
    exact leaf_integer.confirms _
  · cases valid with
    | keywords _ parts =>
      have place : Leads [] (.dict [(ofString "properties", .dict []),
          (ofString "additionalProperties", .bool false)]) boundValue (.bool false) (.int 3) :=
        .additional rfl (List.not_mem_nil (a := ofString "maxLength")) rfl
      cases parts _ _ place

end Grammar

end Omnitensor
