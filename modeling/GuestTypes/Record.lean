import GuestTypes.Representation
import GuestTypes.Specification

/-!
# Records of what happened

The kernel records the events that a reader of its log wants to see. A record names classes
and representations by their identities; its text is made when somebody reads it.
-/

namespace GuestTypes

/-- An event worth recording. -/
inductive Record where
  | factoryBegun
  | synthesizerMade (package : String)
  | typeBegun (depth : Nat) (name : String)
  | resolutionBegun (depth : Nat) (cls : ClassId)
  | published (cls : ClassId) (rep : Representation)
  | classBegun (name : String) (spec : Specification)
  deriving Inhabited

end GuestTypes
