/-
This file compares where a schema's marked nodes apply with where the code looks for secrets.

A node of a schema applies to values by way of the keywords that lead to it: properties, items,
combinators, references and the rest. The values that marked nodes apply to should be references
to secrets. The walk of the code finds the marked nodes that properties alone lead to, so a
configuration that is accepted holds references there; elsewhere nothing asks for one. A schema
keeps its secrets when its marked nodes apply nowhere else.

The keywords are those of the applicator vocabulary with local references, as far as they apply to
values; names, and what is left unevaluated, are not values of their own.
-/

import Omnitensor.SettingsProcesses

namespace Omnitensor

variable {Real : Type}

/-! ### Where nodes apply -/

/-- The value of a part of a value. -/
def partAt : PathPart → Json Real → Option (Json Real)
  | .key name, .object members => Json.field members name
  | .item index, .array items => items[index]?
  | _, _ => none

/-- The value at a path. -/
def valueAt (value : Json Real) (path : List PathPart) : Option (Json Real) :=
  path.foldl (fun found part => found.bind (partAt part)) (some value)

/-- The names that `properties` and `patternProperties` of a node deal with. -/
def namedProperty (library : SchemaLibrary Real) (node : JsonFields Real) (name : String) : Bool :=
  (match Json.field node "properties" with
    | some (.object children) => decide (name ∈ children.map Prod.fst)
    | _ => false) ||
  match Json.field node "patternProperties" with
  | some (.object patterns) => patterns.any fun pattern => library.search pattern.1 name
  | _ => false

/-- How many items `prefixItems` of a node deals with. -/
def prefixLength (node : JsonFields Real) : Nat :=
  match Json.field node "prefixItems" with
  | some (.array children) => children.length
  | _ => 0

/-- A node of a schema applies to a value of a configuration at a path. -/
inductive Applies (library : SchemaLibrary Real) (schema : JsonFields Real)
    (configuration : Json Real) : JsonFields Real → List PathPart → Json Real → Prop where
  | root : Applies library schema configuration schema [] configuration
  | property {node children child values : JsonFields Real} {path : List PathPart} {name : String}
      {value : Json Real} (at_ : Applies library schema configuration node path (.object values))
      (keyword : Json.field node "properties" = some (.object children))
      (listed : (name, .object child) ∈ children) (present : Json.field values name = some value) :
      Applies library schema configuration child (path ++ [.key name]) value
  | patternProperty {node patterns child values : JsonFields Real} {path : List PathPart}
      {pattern name : String} {value : Json Real}
      (at_ : Applies library schema configuration node path (.object values))
      (keyword : Json.field node "patternProperties" = some (.object patterns))
      (listed : (pattern, .object child) ∈ patterns) (found : library.search pattern name = true)
      (present : Json.field values name = some value) :
      Applies library schema configuration child (path ++ [.key name]) value
  | additionalProperty {node child values : JsonFields Real} {path : List PathPart}
      {name : String} {value : Json Real}
      (at_ : Applies library schema configuration node path (.object values))
      (keyword : Json.field node "additionalProperties" = some (.object child))
      (unnamed : namedProperty library node name = false)
      (present : Json.field values name = some value) :
      Applies library schema configuration child (path ++ [.key name]) value
  | prefixItem {node child : JsonFields Real} {children items : List (Json Real)}
      {path : List PathPart} {index : Nat} {value : Json Real}
      (at_ : Applies library schema configuration node path (.array items))
      (keyword : Json.field node "prefixItems" = some (.array children))
      (listed : children[index]? = some (.object child)) (present : items[index]? = some value) :
      Applies library schema configuration child (path ++ [.item index]) value
  | item {node child : JsonFields Real} {items : List (Json Real)} {path : List PathPart}
      {index : Nat} {value : Json Real}
      (at_ : Applies library schema configuration node path (.array items))
      (keyword : Json.field node "items" = some (.object child))
      (beyond : prefixLength node ≤ index) (present : items[index]? = some value) :
      Applies library schema configuration child (path ++ [.item index]) value
  | contained {node child : JsonFields Real} {items : List (Json Real)} {path : List PathPart}
      {index : Nat} {value : Json Real}
      (at_ : Applies library schema configuration node path (.array items))
      (keyword : Json.field node "contains" = some (.object child))
      (present : items[index]? = some value) :
      Applies library schema configuration child (path ++ [.item index]) value
  | branch {node child : JsonFields Real} {children : List (Json Real)} {path : List PathPart}
      {value : Json Real} {name : String}
      (at_ : Applies library schema configuration node path value)
      (combines : name ∈ ["allOf", "anyOf", "oneOf"])
      (keyword : Json.field node name = some (.array children))
      (listed : .object child ∈ children) :
      Applies library schema configuration child path value
  | operand {node child : JsonFields Real} {path : List PathPart} {value : Json Real}
      {name : String} (at_ : Applies library schema configuration node path value)
      (combines : name ∈ ["not", "if"]) (keyword : Json.field node name = some (.object child)) :
      Applies library schema configuration child path value
  /-- Whether the condition holds decides which of the two nodes applies. -/
  | conditional {node condition child : JsonFields Real} {path : List PathPart}
      {value : Json Real} (at_ : Applies library schema configuration node path value)
      (asks : Json.field node "if" = some (.object condition))
      (keyword : Json.field node
        (if (library.iterErrors condition value).isEmpty then "then" else "else") =
          some (.object child)) :
      Applies library schema configuration child path value
  | dependent {node children child values : JsonFields Real} {path : List PathPart}
      {name : String} (at_ : Applies library schema configuration node path (.object values))
      (keyword : Json.field node "dependentSchemas" = some (.object children))
      (listed : (name, .object child) ∈ children) (present : name ∈ values.map Prod.fst) :
      Applies library schema configuration child path (.object values)
  | reference {node child : JsonFields Real} {path : List PathPart} {value : Json Real}
      {target : String} (at_ : Applies library schema configuration node path value)
      (keyword : Json.field node "$ref" = some (.string target))
      (resolves : library.resolve schema target = some (.object child)) :
      Applies library schema configuration child path value

/-- A marked node applies to a value. -/
def Governed (library : SchemaLibrary Real) (schema : JsonFields Real) (configuration : Json Real)
    (path : List PathPart) (value : Json Real) : Prop :=
  ∃ node, Applies library schema configuration node path value ∧ secretMarker node = some true

/-- Properties alone lead from the root of a schema to a node, through nodes that are not marked. -/
inductive AlongProperties (schema : JsonFields Real) : List String → JsonFields Real → Prop where
  | root : AlongProperties schema [] schema
  | property {names : List String} {node children child : JsonFields Real} {name : String}
      (above : AlongProperties schema names node) (unmarked : secretMarker node = some false)
      (keyword : Json.field node "properties" = some (.object children))
      (listed : (name, .object child) ∈ children) :
      AlongProperties schema (names ++ [name]) child

/-- The walk of the code found a secret at a path. -/
def OnWalk (schema : JsonFields Real) (path : List PathPart) : Prop :=
  ∃ paths, secretPaths schema = .ok paths ∧ ∃ names ∈ paths, path = names.map .key

/-! ### Values and paths -/

/-- A path of names is read as the code reads it. -/
theorem valueAt_names (value : Json Real) (names : List String) :
    valueAt value (names.map .key) = getPath value names := by
  have nowhere (path : List PathPart) :
      path.foldl (fun found part => found.bind (partAt part)) (none : Option (Json Real)) = none := by
    induction path with
    | nil => rfl
    | cons part path inductionHypothesis => exact inductionHypothesis
  induction names generalizing value with
  | nil => rfl
  | cons name names inductionHypothesis =>
    cases value with
    | object members =>
      rw [getPath]
      cases found : Json.field members name with
      | none =>
        simp only [valueAt, List.map_cons, List.foldl_cons, Option.bind_some, partAt, found]
        exact nowhere _
      | some value =>
        rw [Option.bind_some, ← inductionHypothesis value]
        simp only [valueAt, List.map_cons, List.foldl_cons, Option.bind_some, partAt, found]
    | _ => exact nowhere _

section

variable {library : SchemaLibrary Real} {schema node : JsonFields Real} {configuration : Json Real}
  {path : List PathPart} {value : Json Real}

variable (library schema configuration) in
/-- At paths of names below a path, a marked node applies to whatever there is, if one of some
children applies to what is at its name. -/
def Reaches (path : List String) (children : JsonFields Real) (names : List String) : Prop :=
  ∃ name child rest, (name, .object child) ∈ children ∧ names = path ++ name :: rest ∧
    ∀ values value,
      Applies library schema configuration child ((path ++ [name]).map .key) values →
      getPath values rest = some value →
      Governed library schema configuration (names.map .key) value

variable {found paths : List (List String)} {names : List String} {children : JsonFields Real}

theorem Reaches.of_node {path : List String}
    (reaches : Reaches library schema configuration path children names)
    (keyword : Json.field node "properties" = some (.object children)) :
    ∃ rest, names = path ++ rest ∧ ∀ values value,
      Applies library schema configuration node (path.map .key) values →
      getPath values rest = some value →
      Governed library schema configuration (names.map .key) value := by
  obtain ⟨name, child, rest, listed, same, governed⟩ := reaches
  refine ⟨name :: rest, same, fun values value applies found => ?_⟩
  cases values with
  | object values =>
    obtain ⟨present, stored, below⟩ := Option.bind_eq_some_iff.mp found
    refine governed present value ?_ below
    rw [List.map_append]
    exact .property applies keyword listed stored
  | _ => cases found

mutual

theorem governed_of_collectSecretPaths : ∀ (json : Json Real) (path : List String)
    (found : List (List String)), collectSecretPaths path json = .ok found →
    ∀ names ∈ found, ∃ child rest, json = .object child ∧ names = path ++ rest ∧
      ∀ values value, Applies library schema configuration child (path.map .key) values →
        getPath values rest = some value →
        Governed library schema configuration (names.map .key) value
  | .object node, path, found, collects, names, member => by
    rw [collectSecretPaths] at collects
    split at collects
    · cases collects
    · rename_i marked
      split at collects
      · cases collects
      · split at collects
        · cases collects
        · cases collects
          obtain rfl := List.mem_singleton.mp member
          refine ⟨node, [], rfl, (List.append_nil _).symm, fun values value applies found => ?_⟩
          cases found
          exact ⟨node, applies, marked⟩
    · obtain ⟨children, keyword, reaches⟩ :=
        reaches_of_collectInProperties node path found collects names member
      obtain ⟨rest, same, governed⟩ := reaches.of_node keyword
      exact ⟨node, rest, rfl, same, governed⟩
  | .null, _, _, collects, _, member | .bool _, _, _, collects, _, member
  | .int _, _, _, collects, _, member | .float _, _, _, collects, _, member
  | .constant _, _, _, collects, _, member | .string _, _, _, collects, _, member
  | .array _, _, _, collects, _, member => by
    cases collects
    cases member

theorem reaches_of_collectInProperties : ∀ (members : JsonFields Real) (path : List String)
    (found : List (List String)), collectInProperties path members = .ok found →
    ∀ names ∈ found, ∃ children, Json.field members "properties" = some (.object children) ∧
      Reaches library schema configuration path children names
  | [], _, _, collects, _, member => by
    cases collects
    cases member
  | (key, value) :: members, path, found, collects, names, member => by
    rw [collectInProperties] at collects
    by_cases same : key = "properties"
    · rw [if_pos same] at collects
      obtain ⟨children, rfl, reaches⟩ :=
        reaches_of_collectInChildren value path found collects names member
      exact ⟨children, by simp [Json.field, same], reaches⟩
    · rw [if_neg same] at collects
      obtain ⟨children, keyword, reaches⟩ :=
        reaches_of_collectInProperties members path found collects names member
      refine ⟨children, ?_, reaches⟩
      rw [Json.field, List.find?_cons_of_neg (by simpa using same)]
      exact keyword

theorem reaches_of_collectInChildren : ∀ (json : Json Real) (path : List String)
    (found : List (List String)), collectInChildren path json = .ok found →
    ∀ names ∈ found, ∃ children, json = .object children ∧
      Reaches library schema configuration path children names
  | .object children, path, found, collects, names, member =>
    ⟨children, rfl, reaches_of_collectInMembers children path found collects names member⟩
  | .null, _, _, collects, _, member | .bool _, _, _, collects, _, member
  | .int _, _, _, collects, _, member | .float _, _, _, collects, _, member
  | .constant _, _, _, collects, _, member | .string _, _, _, collects, _, member
  | .array _, _, _, collects, _, member => by
    cases collects
    cases member

theorem reaches_of_collectInMembers : ∀ (children : JsonFields Real) (path : List String)
    (found : List (List String)), collectInMembers path children = .ok found →
    ∀ names ∈ found, Reaches library schema configuration path children names
  | [], _, _, collects, _, member => by
    cases collects
    cases member
  | (name, child) :: children, path, found, collects, names, member => by
    rw [collectInMembers] at collects
    split at collects
    · cases collects
    · rename_i first below
      obtain ⟨others, more, rfl⟩ := map_eq_ok.mp collects
      rcases List.mem_append.mp member with here | later
      · obtain ⟨node, rest, rfl, same, governed⟩ :=
          governed_of_collectSecretPaths child (path ++ [name]) first below names here
        exact ⟨name, node, rest, List.mem_cons_self, by rw [same, List.append_assoc]; rfl, governed⟩
      · obtain ⟨other, node, rest, listed, same, governed⟩ :=
          reaches_of_collectInMembers children path others more names later
        exact ⟨other, node, rest, List.mem_cons_of_mem _ listed, same, governed⟩

end

/-- The walk finds only places that marked nodes apply to. Where it comes by, and the configuration has a
value, a node of the schema with the marker governs this value through the applicators on the way. -/
theorem governed_of_onWalk (walk : OnWalk schema path)
    (present : valueAt configuration path = some value) :
    Governed library schema configuration path value := by
  obtain ⟨paths, collects, names, member, rfl⟩ := walk
  obtain ⟨found, finds, rest⟩ := bind_eq_ok.mp collects
  split at rest
  · cases rest
  · cases rest
    obtain ⟨node, rest, same, rfl, governed⟩ :=
      @governed_of_collectSecretPaths _ library schema configuration _ _ _ finds names member
    cases same
    exact governed configuration value .root (by rw [← valueAt_names]; exact present)

theorem collectInMembers_of_properties {members : JsonFields Real} {path : List String}
    (collects : collectInProperties path members = .ok found)
    (keyword : Json.field members "properties" = some (.object children)) :
    collectInMembers path children = .ok found := by
  induction members with
  | nil => cases keyword
  | cons member members inductionHypothesis =>
    obtain ⟨key, value⟩ := member
    rw [collectInProperties] at collects
    by_cases same : key = "properties"
    · rw [if_pos same] at collects
      obtain rfl : value = .object children := by simpa [Json.field, same] using keyword
      exact collects
    · rw [if_neg same] at collects
      rw [Json.field, List.find?_cons_of_neg (by simpa using same)] at keyword
      exact inductionHypothesis collects keyword

theorem collects_of_mem {path : List String} {name : String} {child : Json Real}
    (collects : collectInMembers path children = .ok found) (listed : (name, child) ∈ children) :
    ∃ below, collectSecretPaths (path ++ [name]) child = .ok below ∧ below ⊆ found := by
  induction children generalizing found with
  | nil => cases listed
  | cons member children inductionHypothesis =>
    rw [collectInMembers] at collects
    split at collects
    · cases collects
    · rename_i first below
      obtain ⟨others, more, rfl⟩ := map_eq_ok.mp collects
      rcases List.mem_cons.mp listed with rfl | later
      · exact ⟨first, below, List.subset_append_left _ _⟩
      · obtain ⟨further, finds, inside⟩ := inductionHypothesis more later
        exact ⟨further, finds, List.Subset.trans inside (List.subset_append_right _ _)⟩

theorem AlongProperties.collects (along : AlongProperties schema names node)
    (collects : collectSecretPaths [] (.object schema) = .ok found) :
    ∃ below, collectSecretPaths names (.object node) = .ok below ∧ below ⊆ found := by
  induction along with
  | root => exact ⟨found, collects, List.Subset.refl _⟩
  | property above unmarked keyword listed inductionHypothesis =>
    obtain ⟨below, finds, inside⟩ := inductionHypothesis
    rw [collectSecretPaths, unmarked] at finds
    obtain ⟨further, last, within⟩ :=
      collects_of_mem (collectInMembers_of_properties finds keyword) listed
    exact ⟨further, last, List.Subset.trans within inside⟩

end

/-! ### Updates -/

namespace SettingsProcesses

open PluginSettingsStore

variable [FloatText Real] (library : SchemaLibrary Real) (files : String → Option (List Char))

/-- A contract with a token that is secret. -/
def tokenSpec : PluginConfigurationSpec ExactDecimal where
  pluginId := "denoise"
  pluginVersion := "0.1.0"
  schema := ⟨[("properties", .object [("token", .object
    [("type", .string "string"), (secretSchemaMarker, .bool true)])])],
    by simp [Json.Readable, Json.ReadableMembers, secretSchemaMarker]⟩
  defaults := ⟨[], Json.readable_nil⟩
  migrations := []

/-- An update of the token to a reference. -/
def tokenUpdate : SettingsUpdate ExactDecimal where
  expectedRevision := 0
  configuration := ⟨[("token", .object [(secretReferenceField, .object
    [("provider", .string "keyring"), ("key", .string "denoise/token")])])],
    by simp [Json.Readable, Json.ReadableMembers]⟩

/-- The reference of the token is where a marked node applies. -/
theorem governed_of_onWalk_token : ∃ value, Governed acceptingLibrary tokenSpec.schema.1
    (.object tokenUpdate.configuration.1) [.key "token"] value :=
  ⟨_, governed_of_onWalk ⟨_, rfl, ["token"], List.mem_singleton_self _, rfl⟩ rfl⟩

end SettingsProcesses

end Omnitensor
