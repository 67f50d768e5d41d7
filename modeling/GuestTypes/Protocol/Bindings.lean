import GuestTypes.Program

/-!
# Using the bindings of a registry

The bindings of a registry are read or written in one action, with which the thread takes the guard
of the registry. The next action of the thread gives the guard back. So a guard is never held across
an initialisation or an escalation, both of which may use the registry again.
-/

namespace GuestTypes.RegistryId

variable {σ α : Type}

/-- A step of the registry under its guard. -/
def step (registry : RegistryId) (step : Registry.Step α) : Request σ α := do
  let answer <- Request.perform (.registry registry step)
  Request.perform (.release registry)
  return answer

/-- What is published for a class, without any effect. -/
def lookup (registry : RegistryId) (cls : ClassId) : Request σ (Option Representation) :=
  registry.step (.lookup cls)

end GuestTypes.RegistryId
