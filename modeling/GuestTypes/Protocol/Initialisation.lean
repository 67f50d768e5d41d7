import GuestTypes.Program

/-!
# Static initialisation

Before a class is used, it and its superclasses are initialised, the root first. The first
failure ends the request; a class below a failed one is not even claimed.
-/

namespace GuestTypes.ClassId

variable {σ : Type}

/-- The fault of a class that cannot be initialised. -/
def initialisationFault (cls : ClassId) (reason : String) : Request σ Unit := do
  throw (.initialisation (<- Request.observe (·.hierarchy.name cls)) reason)

/-- Initialise one class, whose superclasses are usable. -/
def initialise (cls : ClassId) : Request σ Unit := do
  match <- Request.perform (.claim cls) with
  | .usable => return ()
  | .failed reason => cls.initialisationFault reason
  | .begun =>
      match <- ExceptT.lift (Program.initialise cls .done) with
      | none => return ()
      | some reason => cls.initialisationFault reason

/-- Initialise classes one after the other. -/
def initialiseEach : List ClassId -> Request σ Unit
  | [] => return ()
  | cls :: rest => do
      cls.initialise
      initialiseEach rest

/-- Initialise a class and all its superclasses. -/
def ensureInitialised (cls : ClassId) : Request σ Unit := do
  initialiseEach (<- Request.observe (·.hierarchy.lineage cls)).reverse

end GuestTypes.ClassId
