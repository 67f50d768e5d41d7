import GuestTypes.Specification

/-!
# Class bodies

The definition that a synthesized class is loaded from: fields, accessor methods and the
interfaces the class implements. `ClassBody.realise` assembles the body of a specification,
and `ClassBody.listing` is its text.
-/

namespace GuestTypes

/-- What a field stores. -/
inductive FieldKind where
  | type
  | dict
  | slot
  deriving DecidableEq, Inhabited, Repr

/-- The name of the values that a field stores. -/
def FieldKind.descriptor : FieldKind -> String
  | type => "GuestType"
  | dict => "InstanceDict"
  | slot => "Object"

structure Field where
  name : String
  kind : FieldKind
  /-- Reached through accessors only. -/
  hidden : Bool := false
  deriving DecidableEq, Inhabited, Repr

/-- The behaviour of a method. -/
inductive MethodRole where
  /-- The constructor without arguments. -/
  | construct
  /-- Return the field. -/
  | get
  /-- Call the check, then store into the field. -/
  | set
  /-- Validate on behalf of the setter. -/
  | check
  deriving DecidableEq, Inhabited, Repr

structure Method where
  name : String
  role : MethodRole
  /-- The field that an accessor is about; none for a constructor. -/
  field : Option String := none
  /-- The check that a setter calls first. -/
  check : Option String := none
  deriving DecidableEq, Inhabited, Repr

/-- A loadable class definition. -/
structure ClassBody where
  name : String
  base : ClassId
  interfaces : List ClassId := []
  fields : List Field := []
  methods : List Method := []
  deriving DecidableEq, Inhabited, Repr

namespace ClassBody

/-- The field that holds the guest type. -/
def typeField : String := "$type"

/-- The field that holds the instance dictionary. -/
def dictField : String := "$dict"

/-- The first field of a name. -/
def field? (body : ClassBody) (name : String) : Option Field :=
  body.fields.find? (·.name == name)

/-- The first method of a name. -/
def method? (body : ClassBody) (name : String) : Option Method :=
  body.methods.find? (·.name == name)

def simpleName (body : ClassBody) : String := Text.simpleName body.name

/-! ## Listing -/

/-- What an accessor's field stores, as the listing writes it. -/
def accessedDescriptor (body : ClassBody) (method : Method) : String :=
  match method.field.bind body.field? with
  | some field => field.kind.descriptor
  | none => FieldKind.slot.descriptor

def fieldLine (field : Field) : String :=
  "  " ++ (if field.hidden then "private " else "") ++ field.kind.descriptor ++ " "
    ++ field.name ++ ";\n"

def methodLine (body : ClassBody) (method : Method) : String :=
  match method.role with
  | .construct => "  public " ++ body.simpleName ++ "();\n"
  | .get => "  public " ++ body.accessedDescriptor method ++ " " ++ method.name ++ "();\n"
  | .set =>
      "  public void " ++ method.name ++ "(Object);    // " ++ method.check.getD "?"
        ++ " then store\n"
  | .check => "  public " ++ body.accessedDescriptor method ++ " " ++ method.name ++ "(Object);\n"

/-- The text of a body. -/
def listing (hierarchy : Hierarchy) (body : ClassBody) : String :=
  "class " ++ body.name ++ " extends " ++ hierarchy.name body.base
    ++ (if body.interfaces.isEmpty then "" else
      " implements " ++ String.intercalate ", " (body.interfaces.map hierarchy.name))
    ++ " \x7b\n"
    ++ String.join (body.fields.map fieldLine)
    ++ String.join (body.methods.map body.methodLine)
    ++ "\x7d"

/-! ## Realisation -/

/-- A hidden field with its getter, its setter and the check the setter calls. -/
def guardedMethods (field get set check : String) : List Method := [
  { name := get, role := .get, field := some field },
  { name := set, role := .set, field := some field, check := some check },
  { name := check, role := .check, field := some field }]

/-- An interface added to a list that may hold it already. -/
def withInterface (iface : ClassId) (declared : List ClassId) : List ClassId :=
  if declared.contains iface then declared else declared ++ [iface]

/-- The body of a class that realises a specification. -/
def realise (name : String) (spec : Specification) : ClassBody :=
  let typed := withInterface Builtin.withClassAssignment spec.interfaces
  { name
    base := spec.base
    interfaces :=
      if spec.hasDict then withInterface Builtin.withDictAssignment typed else typed
    fields :=
      [{ name := typeField, kind := .type, hidden := true }]
        ++ (if spec.hasDict then [{ name := dictField, kind := .dict, hidden := true }] else [])
        ++ spec.slots.map fun slot => { name := slot, kind := .slot }
    methods :=
      [{ name := "<init>", role := .construct }]
        ++ guardedMethods typeField "get_type" "set_type" "check_class_assignment"
        ++ if spec.hasDict then
            guardedMethods dictField "get_dict" "set_dict" "check_dict_assignment"
          else [] }

/-! ## Verification -/

end ClassBody

/-- Why a body cannot be loaded. -/
inductive BodyDefect where
  | interfaceBase (base : String)
  | notInterface (cls : String)
  | duplicateField (field : String)
  | boundConstructor
  | unboundAccessor (method : String)
  | missingField (method field : String)
  | uncheckedSetter (method : String)
  | noTypeField
  | notDictField
  deriving DecidableEq, Inhabited, Repr

def BodyDefect.message : BodyDefect -> String
  | interfaceBase base => "base " ++ base ++ " is an interface"
  | notInterface cls => cls ++ " is not an interface"
  | duplicateField field => "duplicate field " ++ field
  | boundConstructor => "constructor bound to a field"
  | unboundAccessor method => "accessor " ++ method ++ " has no field"
  | missingField method field => "accessor " ++ method ++ " refers to missing field " ++ field
  | uncheckedSetter method => "setter " ++ method ++ " has no matching check"
  | noTypeField => "no " ++ ClassBody.typeField ++ " field"
  | notDictField => ClassBody.dictField ++ " is not a dictionary field"

namespace ClassBody

/-- The first text that occurred earlier in the list. -/
def firstRepeated? : List String -> List String -> Option String
  | _, [] => none
  | seen, name :: rest =>
      if seen.contains name then some name else firstRepeated? (name :: seen) rest

/-- Whether a setter's check is the first method of its name, is a check, and is about the
same field. -/
def hasMatchingCheck (body : ClassBody) (method : Method) : Bool :=
  match method.check.bind body.method? with
  | some check => check.role == .check && check.field == method.field
  | none => false

/-- The defect of one method, if it has one. -/
def methodDefect? (body : ClassBody) (method : Method) : Option BodyDefect :=
  match method.role, method.field with
  | .construct, none => none
  | .construct, some _ => some .boundConstructor
  | _, none => some (.unboundAccessor method.name)
  | role, some field =>
      if (body.field? field).isNone then some (.missingField method.name field)
      else if role == .set && !body.hasMatchingCheck method then
        some (.uncheckedSetter method.name)
      else none

/-- The slots of a body, as they were declared. -/
def slotNames (body : ClassBody) : List String :=
  (body.fields.filter (·.kind == .slot)).map (·.name)

/-- The layout of a body, or its first defect. -/
def verify (hierarchy : Hierarchy) (body : ClassBody) : Except BodyDefect Layout := do
  if hierarchy.isInterface body.base then
    throw (.interfaceBase (hierarchy.name body.base))
  if let some other := body.interfaces.find? (!hierarchy.isInterface ·) then
    throw (.notInterface (hierarchy.name other))
  if let some field := firstRepeated? [] (body.fields.map (·.name)) then
    throw (.duplicateField field)
  if let some defect := body.methods.findSome? body.methodDefect? then
    throw defect
  if !(body.field? typeField).any (·.kind == .type) then
    throw .noTypeField
  match body.field? dictField with
  | none => return .ofFields false body.slotNames
  | some field =>
      if field.kind == .dict then return .ofFields true body.slotNames
      else throw .notDictField

end ClassBody

end GuestTypes
