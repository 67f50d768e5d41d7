import GuestTypes.Configuration
import GuestTypes.Yaml.Node

/-!
# Configuration documents

A configuration is read from a mapping. Keys that are no settings are ignored, a setting may
be given once, and settings that are not given take their defaults. Any scalar serves as a
text; only the dump directory can be given as nothing.
-/

namespace GuestTypes.Configuration

open Yaml

/-- The texts that stand for nothing. -/
def nothingTexts : List String := ["null", "Null", "NULL", "~"]

/-- The tag of nothing. -/
def nothingTag : String := "tag:yaml.org,2002:null"

/-- A text that may be given as nothing. A plain text that is tagged as nothing has to be one
of the texts for it. -/
def optionalText (scalar : Scalar) : Option (Option String) :=
  if !scalar.plain then some (some scalar.text)
  else
    match scalar.tag with
    | some tag =>
        if tag == nothingTag then
          if nothingTexts.contains scalar.text then some none else none
        else some (some scalar.text)
    | none =>
        if scalar.text.isEmpty || nothingTexts.contains scalar.text then some none
        else some (some scalar.text)

/-- The settings given so far. -/
structure Given where
  package : Option String := none
  template : Option String := none
  dumpDirectory : Option (Option String) := none

/-- Take in one entry of the mapping. -/
def Given.add (given : Given) (document : Document) (entry : Node × Node) : Option Given := do
  let key <- document.scalar? entry.1
  match key.text with
  | "subclass_package" =>
      if given.package.isSome then none
      return { given with package := some (<- document.scalar? entry.2).text }
  | "subclass_name_template" =>
      if given.template.isSome then none
      return { given with template := some (<- document.scalar? entry.2).text }
  | "dump_dir" =>
      if given.dumpDirectory.isSome then none
      return { given with dumpDirectory := some (<- optionalText (<- document.scalar? entry.2)) }
  | _ => return given

/-- The settings of a document. -/
def ofDocument? (document : Document) : Option Configuration := do
  match document.root with
  | none => return {}
  | some (.scalar scalar) => if scalar.plain && scalar.text.isEmpty then return {} else none
  | some (.mapping entries) =>
      let given <- entries.foldlM (fun given entry => given.add document entry) ({} : Given)
      let fallback : Configuration := {}
      return {
        package := given.package.getD fallback.package
        template := given.template.getD fallback.template
        dumpDirectory := given.dumpDirectory.getD fallback.dumpDirectory }
  | some (.alias _) | some (.sequence _) => none

/-- Read a configuration and check it. -/
def ofText (text : String) : Except ConfigurationProblem Configuration :=
  match (Document.read? text).bind ofDocument? with
  | none => .error .invalidDocument
  | some config => config.validate.map fun _ => config

/-- Read a configuration from a file and check it. -/
def ofFile (tree : FileTree) (path : String) : Except ConfigurationProblem Configuration :=
  match tree.read path with
  | .error problem => .error (.unreadable path problem)
  | .ok text => ofText text

end GuestTypes.Configuration
