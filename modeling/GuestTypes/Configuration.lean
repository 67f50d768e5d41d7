import GuestTypes.FileTree
import GuestTypes.Text.Blank
import GuestTypes.Text.Dotted
import GuestTypes.Text.Substitution

/-!
# Configuration

How synthesized classes are named and where their listings go. A template holds a place for
the simple name of the base class and one for a number; `Configuration.validate` asks for
both, and `Configuration.className` fills them in.
-/

namespace GuestTypes

/-- Why a configuration cannot be used. -/
inductive ConfigurationProblem where
  | placeholderMissing (template placeholder : String)
  | blankInPackage (package : String)
  | unreadable (path : String) (problem : FileProblem)
  | invalidDocument
  deriving DecidableEq, Inhabited, Repr

def ConfigurationProblem.message : ConfigurationProblem -> String
  | placeholderMissing template placeholder =>
      "subclass_name_template '" ++ template ++ "' lacks " ++ placeholder
  | blankInPackage package => "subclass_package '" ++ package ++ "' contains whitespace"
  | unreadable path problem => "cannot read " ++ path ++ ": " ++ problem.message
  | invalidDocument => "invalid YAML"

/-- Settings of a type factory and its synthesizer. -/
structure Configuration where
  /-- The package that synthesized classes are defined in. -/
  package : String := "typeforge.subclasses"
  /-- The template of their simple names. -/
  template : String := "Derived$\x7bbase\x7d$\x7bn\x7d"
  /-- Where their listings are written, if anywhere. -/
  dumpDirectory : Option String := none
  deriving DecidableEq, Inhabited, Repr

namespace Configuration

/-- The place of the base's simple name in a template. -/
def basePlaceholder : String := "\x7bbase\x7d"

/-- The place of the number in a template. -/
def numberPlaceholder : String := "\x7bn\x7d"

/-- Whether a template has a placeholder. -/
def mentions (template placeholder : String) : Bool :=
  Text.occursIn placeholder.toList template.toList

/-- Check that the template can tell names apart and that the package is a name. -/
def validate (config : Configuration) : Except ConfigurationProblem Unit :=
  match [basePlaceholder, numberPlaceholder].find? (!mentions config.template ·) with
  | some placeholder => .error (.placeholderMissing config.template placeholder)
  | none =>
      if config.package.toList.any Text.isWhiteSpace then
        .error (.blankInPackage config.package)
      else .ok ()

/-- The simple name of the `number`-th class over a base. The base is filled in first, so a
number's place inside the base's name is filled in as well. -/
def simpleClassName (config : Configuration) (base : String) (number : Nat) : String :=
  let based := Text.substitute basePlaceholder.toList base.toList config.template.toList
  String.ofList
    (Text.substitute numberPlaceholder.toList (toString number).toList based)

/-- The qualified name of a class, in the package of synthesized classes. -/
def className (config : Configuration) (simple : String) : String :=
  Text.qualified config.package simple

/-- The setting that overrides the dump directory. -/
def dumpSetting : String := "TYPEFORGE_DUMP_DIR"

/-- The setting that overrides the package. -/
def packageSetting : String := "TYPEFORGE_SUBCLASS_PACKAGE"

/-- Apply the settings that are present and not empty. -/
def withOverrides (config : Configuration) (setting : String -> Option String) : Configuration :=
  let given (name : String) : Option String := (setting name).filter (!·.isEmpty)
  { config with
    dumpDirectory := (given dumpSetting).or config.dumpDirectory
    package := (given packageSetting).getD config.package }

end Configuration

end GuestTypes
