import GuestTypes.Configuration
import GuestTypes.Identity

/-!
# Synthesizers and loaders

A synthesizer names and describes layout classes; a loader defines them, each name once.
`Synthesizer.Step` and `Loader.Step` list what can happen to each at one instant.
-/

namespace GuestTypes

/-- The names of the classes that were defined. -/
structure Loader where
  defined : List String := []
  deriving DecidableEq, Inhabited, Repr

/-- One change of a loader. -/
inductive Loader.Step : Type -> Type where
  /-- Take a name. The answer is whether it was free. -/
  | claim (name : String) : Loader.Step Bool

def Loader.Step.perform {β : Type} (step : Loader.Step β) (loader : Loader) : β × Loader :=
  match step with
  | .claim name =>
      if loader.defined.contains name then (false, loader)
      else (true, { loader with defined := loader.defined ++ [name] })

/-- A maker of layout classes. -/
structure Synthesizer where
  config : Configuration
  loader : LoaderId
  /-- Where listings go now. -/
  dumpDirectory : Option String
  /-- The number last issued for each simple name of a base. -/
  issued : List (String × UInt32) := []
  deriving Inhabited, Repr

/-- The number last issued for a base. -/
def Synthesizer.lastIssued (synthesizer : Synthesizer) (base : String) : UInt32 :=
  ((synthesizer.issued.find? (·.1 == base)).map (·.2)).getD 0

/-- One change of a synthesizer. -/
inductive Synthesizer.Step : Type -> Type where
  /-- Issue the next number for a base. -/
  | issue (base : String) : Synthesizer.Step UInt32
  /-- Send listings elsewhere, or nowhere. -/
  | redirect (directory : Option String) : Synthesizer.Step Unit

def Synthesizer.Step.perform {β : Type} (step : Synthesizer.Step β) (synthesizer : Synthesizer) :
    β × Synthesizer :=
  match step with
  | .issue base =>
      let number := synthesizer.lastIssued base + 1
      (number, { synthesizer with
        issued := synthesizer.issued.filter (·.1 != base) ++ [(base, number)] })
  | .redirect directory => ((), { synthesizer with dumpDirectory := directory })

end GuestTypes
