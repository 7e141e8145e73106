/-
This file proves what a plan of the file organizer promises.

A plan has one entry for every selected file. A folder and a name lead, from any directory, to where they
name a place below it; a component may begin with a tilde, as long as the folder does not. Evidence is
what the index says of distinct spans of the same file. Files share a group exactly if they share a
digest.
-/

import Omnitensor.Fallible
import Omnitensor.FileOrganizer

namespace Omnitensor

namespace Organizer

open Events PosixPath

/-! ### Groups -/

theorem numbered_injective (word : String) : Function.Injective (numbered word) := by
  intro first second same
  have chars := congrArg PyString.chars? (List.append_cancel_left same)
  rw [PyString.chars?_ofChars, PyString.chars?_ofChars] at chars
  have values := congrArg (Nat.ofDigitChars 10 · 0) (Option.some.inj chars)
  simpa only [Nat.ofDigitChars_ten_toDigits] using values

def digests (selected : List SelectedSource) : List PyString := selected.map (·.item.digest)

/-- Every file is counted for its digest. -/
theorem get?_digestCounts (selected : List SelectedSource) (digest : PyString) :
    ((digestCounts selected).get? digest).getD 0 = (digests selected).count digest := by
  have general : ∀ counts : Dict PyString Nat,
      ((selected.foldl (fun counts source =>
        counts.set source.item.digest ((counts.get? source.item.digest).getD 0 + 1)) counts).get?
          digest).getD 0 = (counts.get? digest).getD 0 + (digests selected).count digest := by
    induction selected with
    | nil => exact fun counts => rfl
    | cons source selected inductionHypothesis =>
      intro counts
      have counted : (digests (source :: selected)).count digest =
          (digests selected).count digest + if source.item.digest == digest then 1 else 0 :=
        List.count_cons
      rw [List.foldl_cons, inductionHypothesis, counted]
      by_cases same : source.item.digest = digest
      · rw [same, Dict.get?_set_self, if_pos (beq_self_eq_true _), Option.getD_some]
        ring
      · rw [Dict.get?_set_of_ne _ _ _ (Ne.symm same), if_neg (by simpa using same), Nat.add_zero]
  exact (general .empty).trans (Nat.zero_add _)

/-- Groups are named one after another, for digests that are not alone. -/
structure Named (repeated : PyString → Prop) (seen : List PyString)
    (state : Nat × Dict PyString PyString) : Prop where
  keys : ∀ digest, digest ∈ state.2.keys ↔ digest ∈ seen ∧ repeated digest
  values : state.2.values =
    (List.range state.1).map fun index => numbered "duplicate-group-" (index + 1)

theorem Named.nameGroup {counts : Dict PyString Nat} {seen : List PyString}
    {state : Nat × Dict PyString PyString}
    (named : Named (fun digest => 1 < (counts.get? digest).getD 0) seen state) (source : SelectedSource) :
    Named (fun digest => 1 < (counts.get? digest).getD 0) (seen ++ [source.item.digest])
      (nameGroup counts state source) := by
  rw [Organizer.nameGroup]
  split_ifs with new
  · obtain ⟨several, unnamed⟩ := new
    have absent : source.item.digest ∉ state.2.keys := by simpa [Dict.contains] using unnamed
    refine ⟨fun digest => ?_, ?_⟩
    · rw [Dict.keys_set_of_not_mem _ absent, List.mem_append, List.mem_append, named.keys,
        List.mem_singleton]
      constructor
      · rintro (⟨known, repeated⟩ | rfl)
        · exact ⟨.inl known, repeated⟩
        · exact ⟨.inr rfl, several⟩
      · rintro ⟨known | rfl, repeated⟩
        · exact .inl ⟨known, repeated⟩
        · exact .inr rfl
    · have entries : (state.2.set source.item.digest
          (numbered "duplicate-group-" (state.1 + 1))).entries = state.2.entries ++
            [(source.item.digest, numbered "duplicate-group-" (state.1 + 1))] :=
        Dict.setEntries_of_not_mem absent _
      have values := named.values
      rw [Dict.values] at values ⊢
      rw [entries, List.map_append, values, List.range_succ, List.map_append]
      rfl
  · refine ⟨fun digest => ?_, named.values⟩
    rw [named.keys, List.mem_append, List.mem_singleton]
    constructor
    · rintro ⟨known, repeated⟩
      exact ⟨.inl known, repeated⟩
    · rintro ⟨known | rfl, repeated⟩
      · exact ⟨known, repeated⟩
      · have kept : source.item.digest ∈ state.2.keys := by
          by_contra absent
          exact new ⟨repeated, by simpa [Dict.contains] using absent⟩
        exact (named.keys _).mp kept

theorem named_duplicateGroups (selected : List SelectedSource) :
    ∃ number, Named (fun digest => 1 < (digests selected).count digest) (digests selected)
      (number, duplicateGroups selected) := by
  have general : ∀ (counts : Dict PyString Nat) (rest : List SelectedSource) (seen : List PyString)
      (state : Nat × Dict PyString PyString),
      Named (fun digest => 1 < (counts.get? digest).getD 0) seen state →
        Named (fun digest => 1 < (counts.get? digest).getD 0) (seen ++ digests rest)
          (rest.foldl (nameGroup counts) state) := by
    intro counts rest
    induction rest with
    | nil =>
      intro seen state named
      rw [digests, List.map_nil, List.append_nil]
      exact named
    | cons source rest inductionHypothesis =>
      intro seen state named
      have later := inductionHypothesis _ _ (named.nameGroup source)
      rw [List.append_assoc] at later
      exact later
  have whole := general (digestCounts selected) selected [] (0, .empty)
    ⟨fun digest => iff_of_false List.not_mem_nil fun known => List.not_mem_nil known.1, rfl⟩
  simp only [get?_digestCounts] at whole
  exact ⟨_, whole⟩

variable {cited spans : List IndexedSpan} {selected : List SelectedSource}
  {lowerCase : PyString → PyString} {plan : List PlanEntry} {proposed : Option PyString}
  {byReference : Dict PyString IndexedSpan}

/-- A digest has a group exactly if several files have it. -/
theorem isSome_duplicateGroups {digest : PyString} :
    ((duplicateGroups selected).get? digest).isSome ↔ 1 < (digests selected).count digest := by
  obtain ⟨_, named⟩ := named_duplicateGroups selected
  have keys := named.keys digest
  rw [Dict.mem_keys_iff] at keys
  rw [Option.isSome_iff_exists, keys]
  exact ⟨And.right, fun several => ⟨List.count_pos_iff.mp (Nat.zero_lt_of_lt several), several⟩⟩

/-- Different digests have different groups. -/
theorem duplicateGroups_inj {first second group : PyString}
    (one : (duplicateGroups selected).get? first = some group)
    (two : (duplicateGroups selected).get? second = some group) : first = second := by
  obtain ⟨_, named⟩ := named_duplicateGroups selected
  have distinct : ((duplicateGroups selected).entries.map Prod.snd).Nodup := by
    have values := named.values
    rw [Dict.values] at values
    rw [values]
    exact List.nodup_range.map fun _ _ same => Nat.succ.inj (numbered_injective _ same)
  have same := List.inj_on_of_nodup_map distinct (Dict.get?_eq_some_iff.mp one)
    (Dict.get?_eq_some_iff.mp two) rfl
  exact congrArg Prod.fst same

/-- A value occurs twice if it occurs at another position. -/
theorem one_lt_count_iff {values : List PyString} {position : Nat} {value : PyString}
    (there : values[position]? = some value) : 1 < values.count value ↔
      ∃ other, other ≠ position ∧ values[other]? = some value := by
  obtain ⟨inside, same⟩ := List.getElem?_eq_some_iff.mp there
  have twice : 1 < values.count value ↔ List.Duplicate value values :=
    List.replicate_sublist_iff.symm.trans List.duplicate_iff_sublist.symm
  rw [twice, List.duplicate_iff_exists_distinct_get]
  constructor
  · rintro ⟨first, second, less, one, two⟩
    have either : first.val ≠ position ∨ second.val ≠ position := by
      by_contra both
      rw [not_or, not_not, not_not] at both
      exact absurd less (by rw [Fin.lt_def, both.1, both.2]; exact Nat.lt_irrefl _)
    rcases either with other | other
    · exact ⟨first, other, List.getElem?_eq_some_iff.mpr ⟨first.isLt, one.symm⟩⟩
    · exact ⟨second, other, List.getElem?_eq_some_iff.mpr ⟨second.isLt, two.symm⟩⟩
  · rintro ⟨other, different, found⟩
    obtain ⟨within, equal⟩ := List.getElem?_eq_some_iff.mp found
    rcases Nat.lt_or_gt_of_ne different with less | more
    · exact ⟨⟨other, within⟩, ⟨position, inside⟩, less, equal.symm, same.symm⟩
    · exact ⟨⟨position, inside⟩, ⟨other, within⟩, more, same.symm, equal.symm⟩

/-! ### Names and folders -/

/-- A name that leads to one place below any directory, and has the suffix of a file. -/
structure ConfinedName (lowerCase : PyString → PyString) (originalSuffix name : PyString) : Prop where
  descends : Descends name
  inside : ∀ directory, locate directory name = directory ++ [name]
  suffix : lowerCase (suffix name) = lowerCase originalSuffix

/-- A folder that leads to a place below any directory, and does not begin at a home. -/
structure ConfinedFolder (folder : PyString) : Prop where
  filled : split folder ≠ []
  homeless : folder.head? ≠ some (.scalar '~')
  descends : ∀ part ∈ split folder, Descends part
  inside : ∀ directory, locate directory folder = directory ++ split folder

theorem confinedName_of_safeName {value : Document} {originalSuffix : PyString}
    (safe : safeName lowerCase value originalSuffix = .ok proposed) :
    ∀ name ∈ proposed, ConfinedName lowerCase originalSuffix name := by
  rintro name rfl
  unfold safeName at safe
  split at safe
  · cases safe
  · rename_i text
    split_ifs at safe with unsafeText
    · cases safe
    · cases safe
      simp only [not_or, not_not] at unsafeText
      obtain ⟨length, notDot, notDotDot, _, single, _, _, suffix⟩ := unsafeText
      have descends : Descends name := by
        refine ⟨?_, notDot, notDotDot, single⟩
        rintro rfl
        exact absurd length.1 (by decide)
      have whole := split_of_notMem single
      have named : PosixPath.name name = name := by
        rw [PosixPath.name, parts, whole, List.filter_cons, if_pos (decide_eq_true ⟨descends.filled, notDot⟩)]
        rfl
      have relative : name.head? ≠ some (.scalar '/') := fun first =>
        single (List.mem_of_mem_head? first)
      refine ⟨descends, fun directory => ?_, by rw [← suffix, named]⟩
      rw [locate_of_descends relative (whole ▸ List.forall_mem_singleton.mpr descends), whole]
  · cases safe

theorem confinedFolder_of_safeFolder {value : Document} (safe : safeFolder value = .ok proposed) :
    ∀ folder ∈ proposed, ConfinedFolder folder := by
  rintro folder rfl
  unfold safeFolder at safe
  split at safe
  · cases safe
  · rename_i text
    dsimp only at safe
    split_ifs at safe with unsafeText unsafeParts dropped
    · cases safe
    · cases safe
    · cases safe
    · cases safe
      simp only [not_or, not_not] at unsafeText
      obtain ⟨_, relative, _, homeless, _⟩ := unsafeText
      rw [not_or] at unsafeParts
      have same : split folder = parts folder := split_eq_parts (not_not.mp dropped)
      have descends : ∀ part ∈ split folder, Descends part := by
        intro part member
        have safePart : ¬ (part = [] ∨ part = dot ∨ part = dotDot ∨ 120 < part.length) := fun bad =>
          unsafeParts.2 (List.any_eq_true.mpr ⟨part, same ▸ member, decide_eq_true bad⟩)
        simp only [not_or] at safePart
        exact ⟨safePart.1, safePart.2.1, safePart.2.2.1, slash_notMem_of_mem_split member⟩
      exact ⟨same ▸ unsafeParts.1, homeless, descends, locate_of_descends relative descends⟩
  · cases safe

/-! ### Evidence -/

/-- Citations of distinct spans of a file are published as the index has them. -/
structure Cited (fileId : PyString) (byReference : Dict PyString IndexedSpan) (cited : List IndexedSpan)
    (state : List PublicEvidence × List PyString) : Prop where
  published : state.1 = cited.map IndexedSpan.published
  seen : state.2.Nodup
  found : List.Forall₂ (fun reference span => byReference.get? reference = some span) state.2 cited
  file : ∀ span ∈ cited, span.fileId = fileId

theorem cited_publicCitation {fileId : PyString} {state next : List PublicEvidence × List PyString}
    {citation : Document} (known : Cited fileId byReference cited state)
    (ran : publicCitation fileId byReference state citation = .ok next) :
    ∃ span, Cited fileId byReference (cited ++ [span]) next := by
  rw [publicCitation] at ran
  split at ran
  · cases ran
  · rename_i span found
    split_ifs at ran with otherFile repeated disagrees
    · cases ran
    · cases ran
    · cases ran
    · cases ran
      refine ⟨span, ?_, ?_, List.rel_append known.found (.cons found .nil), ?_⟩
      · rw [List.map_append, known.published]
        rfl
      · exact List.nodup_append.mpr ⟨known.seen, List.nodup_singleton _, by
          rintro reference member other new rfl
          exact repeated (List.mem_singleton.mp new ▸ member)⟩
      · exact List.forall_mem_append.mpr ⟨known.file, List.forall_mem_singleton.mpr (not_not.mp otherFile)⟩

theorem cited_publicEvidence {evidence : List Document} {fileId : PyString}
    {published : List PublicEvidence}
    (ran : Organizer.publicEvidence evidence fileId byReference = .ok published) :
    ∃ cited references, Cited fileId byReference cited (published, references) := by
  have general : ∀ (evidence : List Document) (cited : List IndexedSpan)
      (state next : List PublicEvidence × List PyString), Cited fileId byReference cited state →
        evidence.foldlM (publicCitation fileId byReference) state = .ok next →
        ∃ cited, Cited fileId byReference cited next := by
    intro evidence
    induction evidence with
    | nil =>
      intro cited state next known folded
      cases folded
      exact ⟨cited, known⟩
    | cons citation evidence inductionHypothesis =>
      intro cited state next known folded
      rw [List.foldlM_cons] at folded
      obtain ⟨middle, first, rest⟩ := bind_eq_ok.mp folded
      obtain ⟨span, more⟩ := cited_publicCitation known first
      exact inductionHypothesis _ _ _ more rest
  obtain ⟨state, folded, last⟩ := bind_eq_ok.mp ran
  cases last
  obtain ⟨cited, known⟩ := general evidence [] ([], []) state
    ⟨rfl, List.nodup_nil, .nil, List.forall_mem_nil _⟩ folded
  exact ⟨cited, state.2, known⟩

/-- The index by reference holds spans of the index under their references. -/
theorem mem_of_byReference {reference : PyString} {span : IndexedSpan}
    (found : (spans.foldl (fun known span => known.set span.reference span)
      (.empty : Dict PyString IndexedSpan)).get? reference = some span) :
    span ∈ spans ∧ span.reference = reference := by
  have general : ∀ (rest : List IndexedSpan) (known : Dict PyString IndexedSpan),
      (∀ entry ∈ known.entries, entry.2 ∈ spans ∧ entry.2.reference = entry.1) → rest ⊆ spans →
        ∀ entry ∈ (rest.foldl (fun known span => known.set span.reference span) known).entries,
          entry.2 ∈ spans ∧ entry.2.reference = entry.1 := by
    intro rest
    induction rest with
    | nil => exact fun known sound _ => sound
    | cons first rest inductionHypothesis =>
      intro known sound within
      refine inductionHypothesis _ (fun entry member => ?_)
        fun span member => within (List.mem_cons_of_mem _ member)
      rcases Dict.mem_entries_of_set member with rfl | old
      · exact ⟨within List.mem_cons_self, rfl⟩
      · exact sound entry old
  exact general spans .empty (fun _ member => absurd member List.not_mem_nil) (List.Subset.refl _) _
    (Dict.get?_eq_some_iff.mp found)

theorem of_forall₂_byReference {references : List PyString}
    (found : List.Forall₂ (fun reference span => (spans.foldl (fun known span =>
      known.set span.reference span) (.empty : Dict PyString IndexedSpan)).get? reference = some span)
      references cited) : cited.map (·.reference) = references ∧ ∀ span ∈ cited, span ∈ spans := by
  induction found with
  | nil => exact ⟨rfl, List.forall_mem_nil _⟩
  | cons first _ inductionHypothesis =>
    obtain ⟨member, same⟩ := mem_of_byReference first
    obtain ⟨referenced, inside⟩ := inductionHypothesis
    exact ⟨by rw [List.map_cons, same, referenced], List.forall_mem_cons.mpr ⟨member, inside⟩⟩

/-! ### Plans -/

/-- What is promised of an entry for a selected file. -/
structure FaithfulEntry (lowerCase : PyString → PyString) (selected : List SelectedSource)
    (spans : List IndexedSpan) (source : SelectedSource) (entry : PlanEntry) : Prop where
  digest : entry.sourceSha256 = source.item.digest
  name : ∀ name ∈ entry.proposedName, ConfinedName lowerCase source.item.suffix name
  folder : ∀ folder ∈ entry.proposedFolder, ConfinedFolder folder
  evidence : ∃ cited : List IndexedSpan, (cited.map (·.reference)).Nodup ∧
    (∀ span ∈ cited, span ∈ spans ∧ span.fileId = entry.fileId) ∧
    entry.evidence = cited.map IndexedSpan.published
  group : entry.duplicateGroup = (duplicateGroups selected).get? source.item.digest

theorem faithfulEntry_of_planEntry {source : SelectedSource} {suggestion : Document} {index : Nat}
    {entry : PlanEntry} (ran : planEntry lowerCase
      (spans.foldl (fun known span => known.set span.reference span) .empty) (duplicateGroups selected)
      ((source, suggestion), index) = .ok entry) :
    FaithfulEntry lowerCase selected spans source entry ∧
      entry.fileId = numbered "selected-file-" index := by
  obtain ⟨name, named, next⟩ := bind_eq_ok.mp ran
  obtain ⟨folder, filed, next⟩ := bind_eq_ok.mp next
  obtain ⟨evidence, cites, last⟩ := bind_eq_ok.mp next
  cases last
  obtain ⟨cited, references, known⟩ := cited_publicEvidence cites
  obtain ⟨referenced, inside⟩ := of_forall₂_byReference known.found
  exact ⟨⟨rfl, confinedName_of_safeName named, confinedFolder_of_safeFolder filed,
    ⟨cited, referenced ▸ known.seen, fun span member => ⟨inside span member, known.file span member⟩,
      known.published⟩, rfl⟩, rfl⟩

/-- What is promised of a plan: an entry for every file, and groups that say which files are the same. -/
structure FaithfulPlan (lowerCase : PyString → PyString) (selected : List SelectedSource)
    (spans : List IndexedSpan) (plan : List PlanEntry) : Prop where
  entries : List.Forall₂ (FaithfulEntry lowerCase selected spans) selected plan
  fileIds : plan.map (·.fileId) =
    (List.range selected.length).map fun index => numbered "selected-file-" (index + 1)
  shared : ∀ (first second : Nat) (one two : PlanEntry), first ≠ second → plan[first]? = some one →
    plan[second]? = some two → ((∃ group, one.duplicateGroup = some group ∧
      two.duplicateGroup = some group) ↔ one.sourceSha256 = two.sourceSha256)
  grouped : ∀ (first : Nat) (one : PlanEntry), plan[first]? = some one →
    (one.duplicateGroup.isSome ↔ ∃ second two, second ≠ first ∧ plan[second]? = some two ∧
      two.sourceSha256 = one.sourceSha256)

theorem forall₂_planEntry {sources : List SelectedSource} {suggestions : List Document}
    {start : Nat} (length : suggestions.length = sources.length)
    (ran : ((sources.zip suggestions).zipIdx start).mapM (planEntry lowerCase
      (spans.foldl (fun known span => known.set span.reference span) .empty)
      (duplicateGroups selected)) = .ok plan) :
    List.Forall₂ (FaithfulEntry lowerCase selected spans) sources plan ∧
      plan.map (·.fileId) =
        (List.range sources.length).map fun index => numbered "selected-file-" (index + start) := by
  induction sources generalizing suggestions plan start with
  | nil =>
    cases ran
    exact ⟨.nil, rfl⟩
  | cons source sources inductionHypothesis =>
    cases suggestions with
    | nil => cases length
    | cons suggestion suggestions =>
      rw [List.zip_cons_cons, List.zipIdx_cons] at ran
      cases mapM_eq_ok.mp ran with
      | @cons _ entry _ rest first others =>
        obtain ⟨faithful, fileId⟩ := faithfulEntry_of_planEntry first
        obtain ⟨entries, fileIds⟩ :=
          inductionHypothesis (Nat.succ.inj length) (mapM_eq_ok.mpr others)
        refine ⟨.cons faithful entries, ?_⟩
        rw [List.map_cons, fileId, fileIds, List.length_cons, List.range_succ_eq_map, List.map_cons,
          List.map_map, Nat.zero_add]
        refine congrArg _ (List.map_congr_left fun index _ => ?_)
        rw [Function.comp_apply, Nat.succ_add, Nat.add_succ]

/-- An entry has the digest of the file at its position, and the group of that digest. -/
theorem position_of_entries
    (entries : List.Forall₂ (FaithfulEntry lowerCase selected spans) selected plan) {position : Nat}
    {entry : PlanEntry} (there : plan[position]? = some entry) :
    (digests selected)[position]? = some entry.sourceSha256 ∧
      entry.duplicateGroup = (duplicateGroups selected).get? entry.sourceSha256 := by
  obtain ⟨inside, same⟩ := List.getElem?_eq_some_iff.mp there
  have within : position < selected.length := entries.length_eq ▸ inside
  have faithful := (List.forall₂_iff_get.mp entries).2 position within inside
  simp only [List.get_eq_getElem, same] at faithful
  rw [faithful.digest, digests, List.getElem?_map, List.getElem?_eq_getElem within]
  exact ⟨rfl, faithful.group⟩

theorem faithfulPlan_of_entries
    (entries : List.Forall₂ (FaithfulEntry lowerCase selected spans) selected plan)
    (fileIds : plan.map (·.fileId) =
      (List.range selected.length).map fun index => numbered "selected-file-" (index + 1)) :
    FaithfulPlan lowerCase selected spans plan := by
  have within : ∀ {position : Nat} {digest : PyString}, (digests selected)[position]? = some digest →
      ∃ entry, plan[position]? = some entry ∧ entry.sourceSha256 = digest := by
    intro position digest there
    obtain ⟨inside, _⟩ := List.getElem?_eq_some_iff.mp there
    rw [digests, List.length_map, entries.length_eq] at inside
    have found : plan[position]? = some plan[position] := List.getElem?_eq_getElem inside
    refine ⟨plan[position], found, Option.some.inj ?_⟩
    rw [← (position_of_entries entries found).1, there]
  refine ⟨entries, fileIds, fun first second one two other firstThere secondThere => ?_,
    fun first one there => ?_⟩
  · obtain ⟨firstDigest, firstGroup⟩ := position_of_entries entries firstThere
    obtain ⟨secondDigest, secondGroup⟩ := position_of_entries entries secondThere
    rw [firstGroup, secondGroup]
    constructor
    · rintro ⟨group, oneNamed, twoNamed⟩
      exact duplicateGroups_inj oneNamed twoNamed
    · intro same
      rw [← same] at secondDigest ⊢
      have several := (one_lt_count_iff firstDigest).mpr ⟨second, Ne.symm other, secondDigest⟩
      obtain ⟨group, named⟩ := Option.isSome_iff_exists.mp (isSome_duplicateGroups.mpr several)
      exact ⟨group, named, named⟩
  · obtain ⟨digest, group⟩ := position_of_entries entries there
    rw [group, isSome_duplicateGroups, one_lt_count_iff digest]
    constructor
    · rintro ⟨second, other, found⟩
      obtain ⟨two, secondThere, same⟩ := within found
      exact ⟨second, two, other, secondThere, same⟩
    · rintro ⟨second, two, other, secondThere, same⟩
      exact ⟨second, other, same ▸ (position_of_entries entries secondThere).1⟩

variable {lowerCase : PyString → PyString} {document : Document}
  {requestId providerId accelerator : PyString} {selected : List SelectedSource}
  {spans : List IndexedSpan} {plan : ReviewPlan}

/-- A plan that is returned covers the selection in order, proposes names and folders that stay below any
directory, cites distinct spans as the index has them, and groups exactly the files that are the same. -/
theorem faithfulPlan_of_returned
    (returned : reviewOnlyPlan lowerCase document requestId selected spans providerId accelerator =
      .ok plan) : FaithfulPlan lowerCase selected spans plan.plan := by
  rw [reviewOnlyPlan] at returned
  dsimp only at returned
  split_ifs at returned with invalid other uncovered
  · cases returned
  · cases returned
  · obtain ⟨entries, planned, last⟩ := bind_eq_ok.mp returned
    split_ifs at last
    cases last
    rw [not_or, not_not, not_not] at uncovered
    obtain ⟨faithful, fileIds⟩ := forall₂_planEntry uncovered.1 planned
    exact faithfulPlan_of_entries faithful fileIds

/-! ### A selection -/

/-- A text of ASCII in lower case. -/
def lowerAscii (text : PyString) : PyString :=
  text.map fun point => match point with
    | .scalar char => .scalar char.toLower
    | half => half

/-- A file of notes. -/
def notes (path : String) : SelectedSource :=
  ⟨⟨.ofString path, .ofString ".md", List.replicate 64 (.scalar 'a')⟩⟩

/-- The one span of a file of notes. -/
def notesSpan (number : Nat) (fileName : String) : IndexedSpan :=
  ⟨numbered "private:request:source:" number, numbered "selected-file-" number, .ofString fileName,
    List.replicate 64 (.scalar 'a'), 1, 0, 5, List.replicate 64 (.scalar 'b')⟩

/-- A suggestion that cites the span of its file. -/
def suggestedNotes (number : Nat) (name folder : String) : Document := record [
  ("fileId", some (.str (numbered "selected-file-" number))),
  ("tags", some (.list [.str (.ofString "notes")])),
  ("proposedName", some (.str (.ofString name))),
  ("proposedFolder", some (.str (.ofString folder))),
  ("reason", some (.str (.ofString "notes"))),
  ("evidence", some (.list [record [
    ("sourceRef", some (.str (numbered "private:request:source:" number))),
    ("sourceSha256", some (.str (List.replicate 64 (.scalar 'a')))),
    ("page", some (.int 1)),
    ("span", some (record [("start", some (.int 0)), ("end", some (.int 5))])),
    ("textSha256", some (.str (List.replicate 64 (.scalar 'b'))))]]))]

/-- An answer with these suggestions. -/
def answerOf (suggestions : List Document) : Document := record [
  ("version", some (.int 1)),
  ("requestId", some (.str (.ofString "request"))),
  ("suggestions", some (.list suggestions))]

theorem faithfulPlan_of_returned_copies :
    ∃ plan, reviewOnlyPlan lowerAscii
        (answerOf [suggestedNotes 1 "Plan.MD" "Projects/2026", suggestedNotes 2 "copy.md" "Projects/2026"])
        (.ofString "request") [notes "/home/plan.md", notes "/home/copy.md"]
        [notesSpan 1 "plan.md", notesSpan 2 "copy.md"] (.ofString "provider") (.ofString "gpu") = .ok plan ∧
      FaithfulPlan lowerAscii [notes "/home/plan.md", notes "/home/copy.md"]
        [notesSpan 1 "plan.md", notesSpan 2 "copy.md"] plan.plan := by
  have returned := (rfl : reviewOnlyPlan lowerAscii
    (answerOf [suggestedNotes 1 "Plan.MD" "Projects/2026", suggestedNotes 2 "copy.md" "Projects/2026"])
    (.ofString "request") [notes "/home/plan.md", notes "/home/copy.md"]
    [notesSpan 1 "plan.md", notesSpan 2 "copy.md"] (.ofString "provider") (.ofString "gpu") = .ok _)
  exact ⟨_, returned, faithfulPlan_of_returned returned⟩

/-- A component after the first may be a tilde. -/
theorem not_homeless_components : ¬ ∀ (lowerCase : PyString → PyString) (document : Document)
    (requestId providerId accelerator : PyString) (selected : List SelectedSource)
    (spans : List IndexedSpan) (plan : ReviewPlan),
      reviewOnlyPlan lowerCase document requestId selected spans providerId accelerator = .ok plan →
        FaithfulPlan lowerCase selected spans plan.plan ∧ ∀ entry ∈ plan.plan,
          ∀ folder ∈ entry.proposedFolder, ∀ part ∈ split folder, part.head? ≠ some (.scalar '~') := by
  intro claim
  have returned := (rfl : reviewOnlyPlan lowerAscii (answerOf [suggestedNotes 1 "plan.md" "a/~"])
    (.ofString "request") [notes "/home/plan.md"] [notesSpan 1 "plan.md"] (.ofString "provider")
    (.ofString "gpu") = .ok _)
  exact (claim _ _ _ _ _ _ _ _ returned).2 _ List.mem_cons_self _ rfl (.ofString "~") (by decide) rfl

end Organizer

end Omnitensor
