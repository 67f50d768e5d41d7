import GuestTypes.Store
import GuestTypes.Text.Structured

/-!
# Descriptions

The texts by which classes, types, representations, machines and objects are shown. A
`label` is short and meant for a sentence; a `describe` shows what a thing is made of.
-/

namespace GuestTypes

open Text (quoted listed structured)

namespace Hierarchy

/-- A class. -/
def describe (hierarchy : Hierarchy) (cls : ClassId) : String :=
  "HostClass(" ++ hierarchy.name cls ++ ")"

/-- Some object of a class. -/
def describeInstance (hierarchy : Hierarchy) (cls : ClassId) : String :=
  "<" ++ hierarchy.name cls ++ " object>"

def describeAll (hierarchy : Hierarchy) (classes : List ClassId) : String :=
  listed (classes.map hierarchy.describe)

end Hierarchy

/-- A specification, with a mark when it is frozen. -/
def Specification.describeState (hierarchy : Hierarchy) (spec : Specification) : String :=
  "RepresentationSpec(" ++ spec.describe hierarchy ++ (if spec.isFrozen then ", frozen" else "")
    ++ ")"

def TypeDescription.describe (hierarchy : Hierarchy) (wanted : TypeDescription) : String :=
  structured "TypeSpec" [
    ("name", quoted wanted.name),
    ("primary", hierarchy.describe wanted.primary),
    ("adopted", hierarchy.describeAll wanted.adopted),
    ("accepted", hierarchy.describeAll wanted.accepted),
    ("features", wanted.features.describe)]

/-- A type as a sentence names it. -/
def GuestType.label (type : GuestType) : String := "<class '" ++ type.name ++ "'>"

namespace Store

/-- A shared representation. -/
def sharedLabel (store : Store) (shared : SharedId) : String :=
  "Shared[" ++ store.hierarchy.simpleName (store.types.sharedRow shared).hostClass ++ "]"

/-- A representation as a sentence names it. -/
def label (store : Store) (rep : Representation) : String :=
  match rep with
  | .canonical type => store.types.name type
  | .adopted owner _ =>
      store.hierarchy.simpleName (store.types.hostClass rep) ++ " as "
        ++ (store.types.row owner).label
  | .shared shared => store.sharedLabel shared

def describeRepresentation (store : Store) : Representation -> String
  | .canonical type => "Canonical(" ++ store.types.name type ++ ")"
  | .adopted owner index =>
      "Adopted(" ++ store.types.name owner ++ "#" ++ toString index ++ ")"
  | .shared shared => store.sharedLabel shared

def describeKind (store : Store) : TypeKind -> String
  | .simple => "Simple"
  | .adoptive adopted => structured "Adoptive" [("adopted_count", toString adopted)]
  | .replaceable shared => structured "Replaceable" [("shared", store.sharedLabel shared)]

def describeType (store : Store) (type : TypeId) : String :=
  let row := store.types.row type
  structured "GuestType" [
    ("name", quoted row.name),
    ("kind", store.describeKind row.kind),
    ("self_classes", store.hierarchy.describeAll row.selfClasses)]

def describeRegistry (store : Store) (id : RegistryId) : String :=
  let registry := store.registry id
  structured "TypeRegistry" [
    ("entries", toString registry.size),
    ("stats", structured "RegistryStats" [
      ("hits", toString registry.hits),
      ("misses", toString registry.misses),
      ("escalations", toString registry.escalations)])]

def describeFactory (store : Store) (id : FactoryId) : String :=
  let factory := store.factory id
  structured "TypeFactory" [
    ("registry", store.describeRegistry factory.registry),
    ("layouts", toString factory.layouts.length)]

def describeSynthesizer (store : Store) (id : SynthesizerId) : String :=
  let synthesizer := store.synthesizer id
  structured "SubclassFactory" [
    ("package", quoted synthesizer.config.package),
    ("defined", toString (store.loader synthesizer.loader).defined.length)]

/-- An instance of a synthesized class. -/
def describeDerived (store : Store) (fields : Instance) : String :=
  structured "DerivedObject" [
    ("class", store.hierarchy.describe fields.cls),
    ("type", quoted ((fields.type.map store.types.name).getD "")),
    ("slots", listed (((fields.layout.map (·.slots)).getD []).map quoted))]

/-- The indentation of a record inside nested requests. -/
def indentation (depth : Nat) : String := String.join (List.replicate (min depth 24) ". ")

/-- The line of a log that shows a record. -/
def recordText (store : Store) : Record -> String
  | .factoryBegun => "INFO Type factory being created."
  | .synthesizerMade package => "INFO Subclass factory created for " ++ package
  | .typeBegun depth name =>
      "DEBUG " ++ indentation depth ++ "Creating partial type for '" ++ name ++ "'"
  | .resolutionBegun depth cls =>
      "DEBUG " ++ indentation depth ++ "Finding representation for '"
        ++ store.hierarchy.name cls ++ "'"
  | .published cls rep =>
      "DEBUG Publishing '" ++ store.hierarchy.name cls ++ "' -> '" ++ store.label rep ++ "'"
  | .classBegun name spec =>
      "DEBUG Creating class " ++ name ++ " for spec " ++ spec.describe store.hierarchy

end Store

/-- The names of a dictionary's entries, in order. -/
def HeapObject.names (object : HeapObject) : List String :=
  (object.entries.map (·.1)).mergeSort (fun left right => decide (left ≤ right))

/-- The names that a dictionary holds. -/
def HeapObject.describeNames (object : HeapObject) : String :=
  Text.braced (object.names.map quoted)

end GuestTypes
