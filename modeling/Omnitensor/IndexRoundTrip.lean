/-
This file proves that an entry of an index is read back as it was written.

What the checks of a call let through is storable: its embedding consists of singles, its tags are
a sorted set, and every field keeps the limits that the reader applies again. A storable entry is
read back from its document, unless its time is negative. What a load returns is storable as well.
-/

import Omnitensor.Fallible
import Omnitensor.IndexStore
import Omnitensor.JsonRoundTrip

namespace Omnitensor

namespace Index

/-! ### Calls that may fail -/

@[simp] theorem check_eq_ok {accepted : Bool} {code detail : String} {checked : Unit} :
    check accepted code detail = .ok checked ↔ accepted = true := by
  cases accepted <;> simp [check]

/-! ### Embeddings -/

/-- A double that is a single. -/
def Single (value : Double) : Prop :=
  ∃ word < 2 ^ 32, value.pack = some word ∧ Double.unpack word = some value

variable {word dimensions : Nat} {values : List Double} {value : Json Double}
  {cleaned attributes : Dict String Attribute} {text name : String} {tags : List String}

theorem single_of_unpack {value : Double} (small : word < 2 ^ 32)
    (read : Double.unpack word = some value) : Single value :=
  ⟨word, small, Double.pack_unpack small read, read⟩

theorem single_of_unpackFloats {bytes : List UInt8} (read : unpackFloats bytes = some values) :
    ∀ value ∈ values, Single value := by
  fun_induction unpackFloats bytes generalizing values with
  | case1 first second third fourth rest inductionHypothesis =>
    simp only [Option.bind_eq_bind, Option.bind_eq_some_iff, Option.pure_def,
      Option.some.injEq] at read
    obtain ⟨value, one, others, more, rfl⟩ := read
    intro other member
    rcases List.mem_cons.mp member with rfl | member
    · exact single_of_unpack (wordOf_lt ..) one
    · exact inductionHypothesis more other member
  | case2 =>
    cases read
    exact fun _ member => by cases member

theorem unpackFloats_littleEndian (small : word < 2 ^ 32) (rest : List UInt8) :
    unpackFloats (littleEndian word ++ rest) = (do
      let number ← Double.unpack word
      let numbers ← unpackFloats rest
      return number :: numbers) := by
  have same := wordOf_littleEndian small
  simp only [littleEndian, List.cons_append, List.nil_append, unpackFloats]
  rw [same]

theorem packFloat_of_pack {value : Double} (packed : value.pack = some word) :
    packFloat value = .ok (littleEndian word) := by
  rw [packFloat, packed]
  rfl

/-- The bytes of singles are read as the singles. -/
theorem unpackFloats_flatten (single : ∀ value ∈ values, Single value) :
    ∃ bytes, values.mapM packFloat = .ok bytes ∧ unpackFloats bytes.flatten = some values ∧
      bytes.flatten.length = values.length * 4 := by
  induction values with
  | nil => exact ⟨[], rfl, rfl, rfl⟩
  | cons value values inductionHypothesis =>
    obtain ⟨word, small, packed, read⟩ := single value List.mem_cons_self
    obtain ⟨bytes, rest, back, length⟩ :=
      inductionHypothesis fun other member => single other (List.mem_cons_of_mem _ member)
    refine ⟨littleEndian word :: bytes, ?_, ?_, ?_⟩
    · exact mapM_eq_ok.mpr (List.Forall₂.cons (packFloat_of_pack packed) (mapM_eq_ok.mp rest))
    · rw [List.flatten_cons, unpackFloats_littleEndian small, read, back]
      rfl
    · rw [List.flatten_cons, List.length_append, length, List.length_cons]
      simp only [littleEndian, List.length_cons, List.length_nil]
      omega

theorem mapM_finiteFloat (values : List Double) :
    (values.map .float).mapM finiteFloat = .ok values := by
  rw [mapM_eq_ok, List.forall₂_map_left_iff]
  exact List.forall₂_same.mpr fun _ _ => rfl

/-- The text of an embedding of singles. -/
theorem encodeEmbedding_single (single : ∀ value ∈ values, Single value)
    (length : values.length = dimensions) :
    ∃ text, encodeEmbedding (values.map .float) dimensions = .ok text ∧
      decodeEmbedding (.string text) dimensions = .ok values := by
  obtain ⟨bytes, packed, back, size⟩ := unpackFloats_flatten single
  have checked : check (decide ((values.map .float : List (Json Double)).length = dimensions))
      "embedding-invalid" ("expected " ++ toString dimensions ++ " dimensions, got " ++
        toString (values.map .float : List (Json Double)).length) = .ok () := by
    simp [length]
  refine ⟨String.ofList (Base64.encode bytes.flatten), ?_, ?_⟩
  · rw [encodeEmbedding, checked, ok_bind, mapM_finiteFloat, ok_bind, packed, ok_bind]
    rfl
  · simp only [decodeEmbedding, String.toList_ofList, Base64.decode_encode, size, length, check,
      back, decide_true, if_true]
    rfl

/-- An embedding that is read consists of as many singles as it should. -/
theorem single_of_decodeEmbedding {text : Json Double}
    (read : decodeEmbedding text dimensions = .ok values) : ∀ value ∈ values, Single value := by
  unfold decodeEmbedding at read
  split at read
  · split at read
    · cases read
    · obtain ⟨_, _, read⟩ := bind_eq_ok.mp read
      split at read
      · cases read
      · rename_i unpacked
        cases read
        exact single_of_unpackFloats unpacked
  · cases read

theorem length_unpackFloats {bytes : List UInt8} {count : Nat}
    (read : unpackFloats bytes = some values) (length : bytes.length = count * 4) :
    values.length = count := by
  fun_induction unpackFloats bytes generalizing values count with
  | case1 first second third fourth rest inductionHypothesis =>
    simp only [Option.bind_eq_bind, Option.bind_eq_some_iff, Option.pure_def,
      Option.some.injEq] at read
    obtain ⟨value, one, others, more, rfl⟩ := read
    simp only [List.length_cons] at length ⊢
    have : others.length = count - 1 := inductionHypothesis more (by omega)
    omega
  | case2 bytes short =>
    cases read
    match bytes, short with
    | [], _ => simp at length ⊢; omega
    | [_], _ => simp at length; omega
    | [_, _], _ => simp at length; omega
    | [_, _, _], _ => simp at length; omega
    | first :: second :: third :: fourth :: rest, short =>
      exact absurd rfl (short first second third fourth rest)

theorem length_of_decodeEmbedding {text : Json Double}
    (read : decodeEmbedding text dimensions = .ok values) : values.length = dimensions := by
  unfold decodeEmbedding at read
  split at read
  · split at read
    · cases read
    · obtain ⟨_, checked, read⟩ := bind_eq_ok.mp read
      split at read
      · cases read
      · rename_i unpacked
        cases read
        exact length_unpackFloats unpacked (of_decide_eq_true (check_eq_ok.mp checked))
  · cases read

/-! ### Tags -/

/-- Tags that are stored as they are. -/
structure ValidTags (tags : List String) : Prop where
  sorted : tags.Pairwise fun first second => first ≤ second
  nodup : tags.Nodup
  length : tags.length ≤ maxTagsPerEntry
  bounded : ∀ tag ∈ tags, 1 ≤ tag.length ∧ tag.length ≤ maxTagLength

theorem mem_sortedSet {texts : List String} : text ∈ sortedSet texts ↔ text ∈ texts := by
  rw [sortedSet, List.mem_insertionSort, List.mem_dedup]

theorem sortedSet_self (valid : ValidTags tags) : sortedSet tags = tags := by
  rw [sortedSet, valid.nodup.dedup]
  exact valid.sorted.insertionSort_eq

theorem validatedTag_eq_ok {tag : String} :
    validatedTag value = .ok tag ↔
      value = .string tag ∧ 1 ≤ tag.length ∧ tag.length ≤ maxTagLength := by
  unfold validatedTag
  split
  · rename_i text
    simp only [bind_eq_ok, check_eq_ok, Bool.and_eq_true, decide_eq_true_eq, Json.string.injEq]
    constructor
    · rintro ⟨_, bounded, same⟩
      cases same
      exact ⟨rfl, bounded⟩
    · rintro ⟨rfl, bounded⟩
      exact ⟨(), bounded, rfl⟩
  · rename_i other
    constructor
    · intro impossible
      cases impossible
    · exact fun same => absurd same.1 (other tag)

/-- What the check of tags lets through. -/
theorem valid_of_validatedTags (accepted : validatedTags value = .ok tags) : ValidTags tags := by
  unfold validatedTags at accepted
  split at accepted
  · rename_i items
    obtain ⟨_, short, cleaning⟩ := bind_eq_ok.mp accepted
    obtain ⟨cleaned, read, same⟩ := bind_eq_ok.mp cleaning
    cases same
    exact {
      sorted := List.pairwise_insertionSort _ _
      nodup := (List.perm_insertionSort _ _).nodup_iff.mpr (List.nodup_dedup _)
      length := by
        rw [sortedSet, List.length_insertionSort]
        refine (List.dedup_sublist _).length_le.trans ?_
        rw [length_of_mapM read]
        exact of_decide_eq_true (check_eq_ok.mp short)
      bounded := by
        intro tag member
        obtain ⟨item, _, one⟩ := exists_of_mem_mapM read tag (mem_sortedSet.mp member)
        exact (validatedTag_eq_ok.mp one).2 }
  · cases accepted

theorem validatedTags_string (valid : ValidTags tags) :
    validatedTags (.array (tags.map .string)) = .ok tags := by
  have read : (tags.map Json.string).mapM validatedTag = .ok tags := by
    rw [mapM_eq_ok, List.forall₂_map_left_iff]
    exact List.forall₂_same.mpr fun tag member =>
      validatedTag_eq_ok.mpr ⟨rfl, valid.bounded tag member⟩
  rw [validatedTags, List.length_map, check, if_pos (decide_eq_true valid.length), ok_bind, read,
    ok_bind, sortedSet_self valid]
  rfl

/-! ### Attributes -/

/-- A scalar that is stored as it is. -/
def ValidAttribute : Attribute → Prop
  | .text value => value.length ≤ maxAttributeLength
  | .integer value => (Double.ofInt value).isSome
  | .truth _ => True
  | .real _ => True

/-- Attributes that are stored as they are. -/
structure ValidAttributes (attributes : Dict String Attribute) : Prop where
  size : attributes.size ≤ maxAttributes
  keys : ∀ entry ∈ attributes.entries, 1 ≤ entry.1.length ∧ entry.1.length ≤ maxTagLength
  values : ∀ entry ∈ attributes.entries, ValidAttribute entry.2

theorem validatedAttribute_document {value : Attribute} (valid : ValidAttribute value)
    (key : String) : validatedAttribute key (attributeDocument value) = .ok value := by
  cases value with
  | text value =>
    have short : value.length ≤ maxAttributeLength := valid
    rw [attributeDocument, validatedAttribute, check, if_pos (decide_eq_true short)]
    rfl
  | truth value => rfl
  | integer value =>
    obtain ⟨number, same⟩ := Option.isSome_iff_exists.mp valid
    rw [attributeDocument, validatedAttribute, same]
    rfl
  | real value => rfl

theorem valid_of_validatedAttribute {key : String} {document : Json Double} {value : Attribute}
    (accepted : validatedAttribute key document = .ok value) : ValidAttribute value := by
  unfold validatedAttribute at accepted
  split at accepted
  · obtain ⟨_, short, same⟩ := bind_eq_ok.mp accepted
    cases same
    have short := of_decide_eq_true (check_eq_ok.mp short)
    exact short
  · cases accepted
    trivial
  · rename_i number
    cases same : Double.ofInt number with
    | none =>
      rw [same] at accepted
      cases accepted
    | some float =>
      rw [same] at accepted
      cases accepted
      exact Option.isSome_of_eq_some same
  · cases accepted
    trivial
  · cases accepted
  · cases accepted

theorem addAttribute_eq_ok {next : Dict String Attribute} {member : String × Json Double} :
    addAttribute cleaned member = .ok next ↔
      (1 ≤ member.1.length ∧ member.1.length ≤ maxTagLength) ∧
        ∃ value, validatedAttribute member.1 member.2 = .ok value ∧
          next = cleaned.set member.1 value := by
  simp only [addAttribute, bind_eq_ok, check_eq_ok, Bool.and_eq_true, decide_eq_true_eq]
  constructor
  · rintro ⟨_, bounded, value, read, same⟩
    cases same
    exact ⟨bounded, value, read, rfl⟩
  · rintro ⟨bounded, value, read, rfl⟩
    exact ⟨(), bounded, value, read, rfl⟩

/-- What the check of attributes lets through. -/
theorem valid_of_foldlM_addAttribute {members : List (String × Json Double)}
    (all : members.foldlM addAttribute cleaned = .ok attributes) :
    attributes.size ≤ cleaned.size + members.length ∧
      ∀ entry ∈ attributes.entries, entry ∈ cleaned.entries ∨
        (1 ≤ entry.1.length ∧ entry.1.length ≤ maxTagLength) ∧ ValidAttribute entry.2 := by
  induction members generalizing cleaned with
  | nil =>
    cases all
    exact ⟨Nat.le_refl _, fun _ => Or.inl⟩
  | cons member members inductionHypothesis =>
    rw [List.foldlM_cons, bind_eq_ok] at all
    obtain ⟨next, one, rest⟩ := all
    obtain ⟨bounded, value, read, rfl⟩ := addAttribute_eq_ok.mp one
    obtain ⟨size, entries⟩ := inductionHypothesis rest
    refine ⟨?_, fun entry inside => ?_⟩
    · have := Dict.size_set_le cleaned member.1 value
      rw [List.length_cons]
      omega
    · rcases entries entry inside with before | valid
      · rcases Dict.mem_entries_of_set before with rfl | before
        · exact Or.inr ⟨bounded, valid_of_validatedAttribute read⟩
        · exact Or.inl before
      · exact Or.inr valid

theorem valid_of_validatedAttributes (accepted : validatedAttributes value = .ok attributes) :
    ValidAttributes attributes := by
  unfold validatedAttributes at accepted
  split at accepted
  · obtain ⟨_, short, all⟩ := bind_eq_ok.mp accepted
    have short := of_decide_eq_true (check_eq_ok.mp short)
    obtain ⟨size, entries⟩ := valid_of_foldlM_addAttribute all
    rw [Dict.size_empty, Nat.zero_add] at size
    have valid := fun entry inside => (entries entry inside).resolve_left List.not_mem_nil
    exact ⟨size.trans short, fun entry inside => (valid entry inside).1,
      fun entry inside => (valid entry inside).2⟩
  · cases accepted

/-- The members that attributes are stored as. -/
def attributeMembers (attributes : Dict String Attribute) : List (String × Json Double) :=
  attributes.entries.map fun member => (member.1, attributeDocument member.2)

theorem foldlM_addAttribute {entries : List (String × Attribute)}
    (keys : ∀ entry ∈ entries, 1 ≤ entry.1.length ∧ entry.1.length ≤ maxTagLength)
    (values : ∀ entry ∈ entries, ValidAttribute entry.2) (cleaned : Dict String Attribute) :
    (entries.map fun member => (member.1, attributeDocument member.2)).foldlM addAttribute cleaned =
      .ok (entries.foldl (fun dict entry => dict.set entry.1 entry.2) cleaned) := by
  induction entries generalizing cleaned with
  | nil => rfl
  | cons entry entries inductionHypothesis =>
    have one : addAttribute cleaned (entry.1, attributeDocument entry.2) =
        .ok (cleaned.set entry.1 entry.2) :=
      addAttribute_eq_ok.mpr ⟨keys entry List.mem_cons_self, entry.2,
        validatedAttribute_document (values entry List.mem_cons_self) entry.1, rfl⟩
    rw [List.map_cons, List.foldlM_cons, one, ok_bind, inductionHypothesis
      (fun other member => keys other (List.mem_cons_of_mem _ member))
      (fun other member => values other (List.mem_cons_of_mem _ member))]
    rfl

theorem validatedAttributes_document (valid : ValidAttributes attributes) :
    validatedAttributes (.object (attributeMembers attributes)) = .ok attributes := by
  have short : (attributeMembers attributes).length ≤ maxAttributes := by
    rw [attributeMembers, List.length_map]
    exact valid.size
  have distinct : ((Dict.empty : Dict String Attribute).keys ++
      attributes.entries.map Prod.fst).Nodup := attributes.nodup
  rw [validatedAttributes, check, if_pos (decide_eq_true short), ok_bind, attributeMembers,
    foldlM_addAttribute valid.keys valid.values]
  exact congrArg Except.ok (Dict.ext (Dict.entries_foldl_set distinct))

/-! ### Entries -/

theorem boundedIdentity_string (bounded : boundedText text = true) :
    boundedIdentity (.string text) name = .ok text := by
  rw [boundedIdentity, check, if_pos bounded]
  rfl

theorem bounded_of_boundedIdentity (accepted : boundedIdentity value name = .ok text) :
    boundedText text = true := by
  unfold boundedIdentity at accepted
  split at accepted
  · obtain ⟨_, bounded, same⟩ := bind_eq_ok.mp accepted
    cases same
    exact check_eq_ok.mp bounded
  · cases accepted

end Index

namespace IndexStore

open Index

variable {store : IndexStore}

/-- An entry whose fields, its time apart, are all as the reader wants them. -/
structure Storable (store : IndexStore) (entry : IndexEntry) : Prop where
  entryId : boundedText entry.entryId = true
  digest : boundedText entry.digest = true
  sourcePath : boundedText entry.sourcePath = true
  single : ∀ value ∈ entry.embedding, Single value
  dimensions : entry.embedding.length = store.model.dimensions
  tags : ValidTags entry.tags
  attributes : ValidAttributes entry.attributes
  accepted : store.entryError entry = ""

variable {entry : IndexEntry} {entries : List IndexEntry} {state : IndexState}
  {document : Json Double} {documents : List (Json Double)} {file : Option (List Char)}

/-- An entry is read back from its document unless its time is negative. -/
theorem parseEntry_entryDocument (storable : store.Storable entry)
    (written : store.entryDocument entry = .ok document) :
    store.parseEntry document = .ok (if 0 ≤ entry.updatedAtMs then some entry else none) := by
  obtain ⟨text, encoded, decoded⟩ := encodeEmbedding_single storable.single storable.dimensions
  rw [entryDocument, encoded] at written
  cases written
  have attributes := validatedAttributes_document storable.attributes
  rw [attributeMembers] at attributes
  by_cases current : 0 ≤ entry.updatedAtMs
  · simp [parseEntry, Json.field, boundedIdentity_string storable.entryId,
      boundedIdentity_string storable.digest, boundedIdentity_string storable.sourcePath, decoded,
      validatedTags_string storable.tags, attributes, check, current, storable.accepted, pure,
      Except.pure]
  · simp [parseEntry, Json.field, boundedIdentity_string storable.entryId,
      boundedIdentity_string storable.digest, boundedIdentity_string storable.sourcePath, decoded,
      validatedTags_string storable.tags, attributes, check, current, bind, Except.bind]

/-- What a load accepts is storable, and its time is not negative. -/
theorem storable_of_parseEntry {item : Json Double}
    (parsed : store.parseEntry item = .ok (some entry)) :
    store.Storable entry ∧ 0 ≤ entry.updatedAtMs := by
  cases item with
  | object members =>
    simp only [parseEntry] at parsed
    split at parsed
    · rename_i checked fields
      rw [Except.ok.injEq, Option.ite_none_right_eq_some, Option.some.injEq] at parsed
      obtain ⟨accepted, rfl⟩ := parsed
      obtain ⟨entryId, idRead, fields⟩ := bind_eq_ok.mp fields
      obtain ⟨digest, digestRead, fields⟩ := bind_eq_ok.mp fields
      obtain ⟨sourcePath, pathRead, fields⟩ := bind_eq_ok.mp fields
      obtain ⟨embedding, embeddingRead, fields⟩ := bind_eq_ok.mp fields
      obtain ⟨tags, tagsRead, fields⟩ := bind_eq_ok.mp fields
      obtain ⟨attributes, attributesRead, fields⟩ := bind_eq_ok.mp fields
      split at fields
      · obtain ⟨_, current, fields⟩ := bind_eq_ok.mp fields
        cases fields
        exact ⟨{
          entryId := bounded_of_boundedIdentity idRead
          digest := bounded_of_boundedIdentity digestRead
          sourcePath := bounded_of_boundedIdentity pathRead
          single := single_of_decodeEmbedding embeddingRead
          dimensions := length_of_decodeEmbedding embeddingRead
          tags := valid_of_validatedTags tagsRead
          attributes := valid_of_validatedAttributes attributesRead
          accepted }, of_decide_eq_true (check_eq_ok.mp current)⟩
      · cases fields
    · cases parsed
    · cases parsed
  | _ => cases parsed

/-- What the checks of a call let through is storable, whatever its clock shows. -/
theorem storable_of_prepare {reading : Int} {input : Option EntryInput}
    (prepared : store.prepare reading input = .ok entry) : store.Storable entry := by
  cases input with
  | none => cases prepared
  | some input =>
    unfold prepare at prepared
    obtain ⟨entryId, idRead, prepared⟩ := bind_eq_ok.mp prepared
    obtain ⟨digest, digestRead, prepared⟩ := bind_eq_ok.mp prepared
    obtain ⟨sourcePath, pathRead, prepared⟩ := bind_eq_ok.mp prepared
    split at prepared
    · obtain ⟨_, _, prepared⟩ := bind_eq_ok.mp prepared
      obtain ⟨encoded, _, prepared⟩ := bind_eq_ok.mp prepared
      obtain ⟨embedding, embeddingRead, prepared⟩ := bind_eq_ok.mp prepared
      obtain ⟨tags, tagsRead, prepared⟩ := bind_eq_ok.mp prepared
      obtain ⟨attributes, attributesRead, prepared⟩ := bind_eq_ok.mp prepared
      obtain ⟨_, accepted, prepared⟩ := bind_eq_ok.mp prepared
      cases prepared
      exact {
        entryId := bounded_of_boundedIdentity idRead
        digest := bounded_of_boundedIdentity digestRead
        sourcePath := bounded_of_boundedIdentity pathRead
        single := single_of_decodeEmbedding embeddingRead
        dimensions := length_of_decodeEmbedding embeddingRead
        tags := valid_of_validatedTags tagsRead
        attributes := valid_of_validatedAttributes attributesRead
        accepted := of_decide_eq_true (check_eq_ok.mp accepted) }
    · cases prepared

/-! ### Documents -/

/-- The entries of a document are read back unless the time of one is negative. -/
theorem parseEntries_documents (storable : ∀ entry ∈ entries, store.Storable entry)
    (written : entries.mapM store.entryDocument = .ok documents) :
    store.parseEntries documents =
      .ok (if ∀ entry ∈ entries, 0 ≤ entry.updatedAtMs then some entries else none) := by
  replace written := mapM_eq_ok.mp written
  induction written with
  | nil => simp [parseEntries]
  | @cons entry document entries documents one rest inductionHypothesis =>
    have read := parseEntry_entryDocument (storable entry List.mem_cons_self) one
    have others := inductionHypothesis fun other member =>
      storable other (List.mem_cons_of_mem _ member)
    rw [parseEntries, read, ok_bind]
    by_cases current : 0 ≤ entry.updatedAtMs
    · simp only [current, if_true, others, ok_bind, List.forall_mem_cons, true_and]
      split <;> rfl
    · simp [current, pure, Except.pure]

theorem readable_entryDocument (written : store.entryDocument entry = .ok document) :
    Json.Readable document := by
  obtain ⟨text, _, same⟩ := bind_eq_ok.mp written
  cases same
  have tags : Json.ReadableItems (entry.tags.map (@Json.string Double String)) := by
    simp [Json.readableItems_iff, Json.Readable]
  have attributes : Json.Readable (.object (attributeMembers entry.attributes)) := by
    refine ⟨?_, Json.readableMembers_iff.mpr fun member inside => ?_⟩
    · rw [attributeMembers, List.map_map]
      exact entry.attributes.nodup
    · obtain ⟨pair, _, rfl⟩ := List.mem_map.mp inside
      refine ⟨Json.whole_points _, ?_⟩
      cases pair.2 <;> first
        | exact Json.whole_points _
        | trivial
  rw [attributeMembers] at attributes
  simp [Json.Readable, Json.ReadableMembers, tags] at attributes ⊢
  exact attributes

theorem readable_document {revision : Nat}
    (written : entries.mapM store.entryDocument = .ok documents) :
    Json.Readable (store.document revision documents) := by
  have items : Json.ReadableItems documents := Json.readableItems_iff.mpr fun document member =>
    have ⟨_, _, one⟩ := exists_of_mem_mapM written document member
    readable_entryDocument one
  simp [document, modelDocument, Json.Readable, Json.ReadableMembers, items]

theorem sameModel_modelDocument : store.sameModel store.modelDocument = true := by
  simp [sameModel, modelDocument, Json.hasFields, Json.field, Json.equalsInt]

theorem parse_document {revision : Nat} {entries : List IndexEntry}
    {documents : List (Json Double)} (storable : ∀ entry ∈ entries, store.Storable entry)
    (written : entries.mapM store.entryDocument = .ok documents) :
    store.parse (store.document revision documents) =
      .ok (if ∀ entry ∈ entries, 0 ≤ entry.updatedAtMs
        then ⟨revision, store.model, entries, .intact⟩
        else ⟨revision, store.model, [], .recovered⟩) := by
  have read := parseEntries_documents storable written
  by_cases current : ∀ entry ∈ entries, 0 ≤ entry.updatedAtMs
  · rw [if_pos current] at read ⊢
    simp [parse, document, documentRevision, Json.field, Json.equalsInt, sameModel_modelDocument,
      read, pure, Except.pure]
  · rw [if_neg current] at read ⊢
    simp [parse, document, documentRevision, Json.field, Json.equalsInt, sameModel_modelDocument,
      read, pure, Except.pure]

/-- What is loaded is storable. -/
theorem storable_of_parseEntries {items : List (Json Double)}
    (parsed : store.parseEntries items = .ok (some entries)) :
    ∀ entry ∈ entries, store.Storable entry ∧ 0 ≤ entry.updatedAtMs := by
  induction items generalizing entries with
  | nil =>
    cases parsed
    exact fun _ member => by cases member
  | cons item items inductionHypothesis =>
    obtain ⟨first, one, parsed⟩ := bind_eq_ok.mp parsed
    cases first with
    | none => cases parsed
    | some entry =>
      obtain ⟨rest, others, parsed⟩ := bind_eq_ok.mp parsed
      cases rest with
      | none => cases parsed
      | some rest =>
        cases parsed
        intro other member
        rcases List.mem_cons.mp member with rfl | member
        · exact storable_of_parseEntry one
        · exact inductionHypothesis others other member

theorem entries_of_parse (parsed : store.parse document = .ok state) :
    state.entries = [] ∨ ∃ items, store.parseEntries items = .ok (some state.entries) := by
  unfold parse at parsed
  split at parsed
  · split at parsed
    · cases parsed
      exact Or.inl rfl
    · split at parsed
      · split at parsed
        · split at parsed
          · rename_i items _
            obtain ⟨entries, read, parsed⟩ := bind_eq_ok.mp parsed
            cases entries with
            | none =>
              cases parsed
              exact Or.inl rfl
            | some entries =>
              cases parsed
              exact Or.inr ⟨items, read⟩
          · cases parsed
            exact Or.inl rfl
        · cases parsed
          exact Or.inl rfl
      · cases parsed
        exact Or.inl rfl
  · cases parsed
    exact Or.inl rfl

/-- Entries are loaded only from a document all of whose entries were accepted. -/
theorem entries_of_load (loaded : store.load file = .ok state) :
    state.entries = [] ∨ ∃ items, store.parseEntries items = .ok (some state.entries) := by
  unfold load at loaded
  split at loaded
  · cases loaded
    exact Or.inl rfl
  · split at loaded
    · cases loaded
      exact Or.inl rfl
    · split at loaded
      · cases loaded
        exact Or.inl rfl
      · exact entries_of_parse loaded

theorem storable_of_load (loaded : store.load file = .ok state) :
    ∀ entry ∈ state.entries, store.Storable entry ∧ 0 ≤ entry.updatedAtMs := by
  rcases entries_of_load loaded with none | ⟨items, parsed⟩
  · rw [none]
    exact fun _ member => absurd member List.not_mem_nil
  · exact storable_of_parseEntries parsed

end IndexStore

end Omnitensor
