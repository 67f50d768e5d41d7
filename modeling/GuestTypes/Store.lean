import GuestTypes.Factory
import GuestTypes.FileTree
import GuestTypes.GuestType
import GuestTypes.Heap
import GuestTypes.Host.Progress
import GuestTypes.Registry
import GuestTypes.Synthesizer

/-!
# The store

All that the operations of the kernel share: classes and how far each is initialised, types,
objects, the machines that make and bind them, the file tree, and the records made so far.
-/

namespace GuestTypes

/-- Everything that threads share. -/
structure Store where
  hierarchy : Hierarchy := Builtin.hierarchy
  progress : Table InitState := { fallback := .unstarted }
  types : TypeTable := {}
  heap : Heap := { fallback := default }
  registries : Table Registry := { fallback := {} }
  /-- The guard of each registry, by the position of the registry. -/
  guards : Table Guard := { fallback := {} }
  factories : Table Factory := { fallback := default }
  synthesizers : Table Synthesizer := { fallback := default }
  loaders : Table Loader := { fallback := {} }
  files : FileTree := {}
  records : Array Record := #[]
  deriving Inhabited

namespace Store

def initState (store : Store) (cls : ClassId) : InitState := store.progress.get cls.index

def isInitialised (store : Store) (cls : ClassId) : Bool := store.initState cls == .done

def registry (store : Store) (id : RegistryId) : Registry := store.registries.get id.index

def guard (store : Store) (id : RegistryId) : Guard := store.guards.get id.index

def factory (store : Store) (id : FactoryId) : Factory := store.factories.get id.index

def synthesizer (store : Store) (id : SynthesizerId) : Synthesizer :=
  store.synthesizers.get id.index

def loader (store : Store) (id : LoaderId) : Loader := store.loaders.get id.index

/-- The configuration of a factory's synthesizer. -/
def factorySynthesizer (store : Store) (id : FactoryId) : Synthesizer :=
  store.synthesizer (store.factory id).synthesizer

/-- Record the end of a static initialisation. -/
def settle (store : Store) (cls : ClassId) (state : InitState) : Store :=
  { store with progress := store.progress.set cls.index state }

end Store

end GuestTypes
