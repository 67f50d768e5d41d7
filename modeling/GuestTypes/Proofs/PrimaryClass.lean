import GuestTypes.Proofs.ClassAssignment
import GuestTypes.Proofs.IndexTable
import GuestTypes.Proofs.RuledRegistry

/-!
# The primary class of a created type

A type that a factory creates has the classes of its description, and its first representation is
what the registry binds the primary class of the description to. Only the primary class of a
replaceable type need not be that of the description: it is the host class of the shared
representation that the described class is bound to, which may be one that the class took over
from a superclass.
-/

namespace GuestTypes

variable {σ : Type} {factory : FactoryId} {wanted : TypeDescription} {type : TypeId}
  {rep : Representation}

namespace World

variable {world : World}

end World

namespace Machine

variable {code : ClientCode σ} {machine later : Machine (Clients σ)}

end Machine

end GuestTypes
