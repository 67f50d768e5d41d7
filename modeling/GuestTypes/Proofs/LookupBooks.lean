import GuestTypes.Proofs.Attribution
import Mathlib.Data.List.Count
import Mathlib.Data.List.Perm.Basic

/-!
# The books of lookups

Who asks a registry for a class looks it up, and again after its initialisation if it was not bound.
The books of a run hold the calls of host code, the threads that began them, and these lookups, each
with the call that it was made in. A call comes to one of few courses of lookups, and a thread goes
on with the innermost of its calls that have not been answered, so its calls stand on one another.
Three things happen to the books: a thread makes a lookup in its innermost call, begins a call, or
answers its innermost one. None of them concerns the calls of another thread.
-/

namespace GuestTypes

/-- A lookup that a registry counts. -/
structure Look where
  /-- The call that it is made in. -/
  number : Option Nat
  registry : RegistryId
  cls : ClassId
  /-- Whether the call has looked before, and the class has been initialised since. -/
  again : Bool
  /-- Whether the class was bound. -/
  found : Bool
  deriving DecidableEq, Repr

namespace Look

variable (registry : RegistryId) (look : Look)

/-- The lookup is the first of its call. -/
def isFirst : Bool := look.registry == registry && !look.again

/-- The lookup is the first of its call, and the class was not bound. -/
def isMiss : Bool := look.isFirst registry && !look.found

/-- The class was not bound after its initialisation either. -/
def isEscalation : Bool := look.registry == registry && look.again && !look.found

variable {registry look}

/-- A first lookup in a registry is in that registry, before the initialisation. -/
theorem of_isFirst (first : look.isFirst registry = true) :
    look.registry = registry ∧ look.again = false := by
  simpa [isFirst] using first

/-- A miss in a registry is in that registry, before the initialisation. -/
theorem of_isMiss (miss : look.isMiss registry = true) :
    look.registry = registry ∧ look.again = false :=
  of_isFirst (Bool.and_eq_true_iff.mp miss).1

/-- An escalation in a registry is in that registry, after the initialisation. -/
theorem of_isEscalation (escalation : look.isEscalation registry = true) :
    look.registry = registry ∧ look.again = true := by
  simp only [isEscalation, Bool.and_eq_true, beq_iff_eq] at escalation
  exact escalation.1

end Look

/-! ## Courses of lookups -/

/-- What the lookups of a call have come to. -/
inductive Course where
  | unasked
  | hit (cls : ClassId)
  | missed (cls : ClassId)
  | twice (cls : ClassId) (found : Bool)
  deriving DecidableEq, Repr

namespace Course

variable {course later : Course} {cls : ClassId} {again found : Bool}

/-- The lookups of a call, in their order. -/
def looks (number : Nat) (registry : RegistryId) : Course -> List Look
  | unasked => []
  | hit cls => [{ number := some number, registry, cls, again := false, found := true }]
  | missed cls => [{ number := some number, registry, cls, again := false, found := false }]
  | twice cls found =>
      [{ number := some number, registry, cls, again := false, found := false },
        { number := some number, registry, cls, again := true, found }]

/-- The first lookup did not find the class. -/
def hasMissed : Course -> Bool
  | unasked | hit _ => false
  | missed _ | twice _ _ => true

/-- What one more lookup makes of the course, if the call may make it. -/
def next (course : Course) (cls : ClassId) (again found : Bool) : Option Course :=
  match course, again with
  | unasked, false => some (if found then hit cls else missed cls)
  | missed wanted, true => if wanted = cls then some (twice cls found) else none
  | _, _ => none

/-- One more lookup comes last among the lookups of its call. -/
theorem looks_next (advances : course.next cls again found = some later) (number : Nat)
    (registry : RegistryId) :
    later.looks number registry =
      course.looks number registry ++ [{ number := some number, registry, cls, again, found }] := by
  unfold next at advances
  split at advances
  · cases advances
    cases found <;> rfl
  · split at advances
    · rename_i same
      cases advances
      rw [same]
      rfl
    · cases advances
  · cases advances

variable {number : Nat} {registry other : RegistryId}

/-- No call makes two lookups of a kind. -/
theorem countP_looks (course : Course) {counted : Look -> Bool} {kind : Bool}
    (ofKind : forall look, counted look = true -> look.again = kind) :
    (course.looks number registry).countP counted ≤ 1 := by
  have single : (course.looks number registry).countP (·.again == kind) ≤ 1 := by
    cases course <;> cases kind <;> simp [looks]
  refine Nat.le_trans (List.countP_mono_left fun look _ counts => ?_) single
  rw [ofKind look counts, beq_self_eq_true]

/-- A call looks in one registry only. -/
theorem registry_of_mem {look : Look} (member : look ∈ course.looks number registry) :
    look.registry = registry := by
  cases course with
  | unasked => cases member
  | hit _ | missed _ =>
      cases List.mem_singleton.mp member
      rfl
  | twice _ _ =>
      simp only [looks, List.mem_cons, List.not_mem_nil, or_false] at member
      rcases member with rfl | rfl <;> rfl

/-- Only a call that has missed looks again. -/
theorem hasMissed_of_next (advances : course.next cls true found = some later) :
    course.hasMissed = true := by
  cases course with
  | unasked | hit _ => cases advances
  | missed _ | twice _ _ => rfl

/-- A call that has missed has a lookup that did not find the class. -/
theorem exists_unfound (missed : course.hasMissed = true) :
    exists look, look ∈ course.looks number registry ∧ look.found = false := by
  cases course with
  | unasked | hit _ => cases missed
  | missed cls => exact ⟨_, List.mem_cons_self, rfl⟩
  | twice cls found => exact ⟨_, List.mem_cons_self, rfl⟩

/-- A call that escalates has missed before. -/
theorem any_isMiss_of_isEscalation
    (escalates : (course.looks number registry).any (·.isEscalation other) = true) :
    (course.looks number registry).any (·.isMiss other) = true := by
  obtain ⟨look, member, escalation⟩ := List.any_eq_true.mp escalates
  obtain ⟨same, again⟩ := Look.of_isEscalation escalation
  have own := (registry_of_mem member).symm.trans same
  cases course with
  | unasked => cases member
  | hit _ | missed _ =>
      cases List.mem_singleton.mp member
      cases again
  | twice cls found => simp [looks, Look.isMiss, Look.isFirst, own]

end Course

/-- A call that has not been answered, and what its lookups have come to. -/
structure Standing where
  number : Nat
  call : Call
  course : Course

namespace Standing

/-- The lookups of the call; most calls make none. -/
def looks (standing : Standing) : List Look :=
  standing.call.lookedIn?.elim [] fun registry => standing.course.looks standing.number registry

/-- If the call has to look a class up, then it has done so. -/
def HasLooked (standing : Standing) : Prop :=
  standing.call.lookedIn?.isSome -> standing.course ≠ .unasked

/-- The call is more than one lookup: it is for something else, or has missed. -/
def IsBusy (standing : Standing) : Prop :=
  standing.call.lookedIn?.isSome -> standing.course.hasMissed = true

/-- The lookups of a call that makes one more. -/
theorem looks_next {standing : Standing} {registry : RegistryId} {course : Course} {cls : ClassId}
    {again found : Bool} (looked : standing.call.lookedIn? = some registry)
    (advances : standing.course.next cls again found = some course) :
    looks { standing with course } =
      standing.looks ++ [⟨some standing.number, registry, cls, again, found⟩] := by
  unfold looks
  rw [looked, Option.elim_some]
  exact Course.looks_next advances _ _

end Standing

/-! ## Books -/

/-- The calls of host code, who began them, and the lookups that were counted. -/
structure Books where
  calls : List CallRecord := []
  callers : List ThreadId := []
  looks : List Look := []

namespace Books

variable {books after : Books} {thread other : ThreadId} {stack : List Standing} {top : Standing}
  {number : Nat}

/-- The calls of a thread that have not been answered. -/
def pending (books : Books) (thread : ThreadId) : List Nat :=
  GuestTypes.pending books.calls books.callers thread

/-- The lookups that were made in a call. -/
def looksOf (books : Books) (number : Nat) : List Look :=
  books.looks.filter (·.number == some number)

/-- Every lookup was made in a call, of the class that the call names if it names one, and every
call has come to a course of lookups. -/
structure Sound (books : Books) : Prop where
  called : books.callers.length = books.calls.length
  owned : forall look, look ∈ books.looks -> exists (number : Nat) (record : CallRecord),
    look.number = some number ∧ books.calls[number]? = some record ∧
      forall named, named ∈ record.call.classes -> look.cls = named
  courses : forall (number : Nat) record, books.calls[number]? = some record -> exists course,
    books.looksOf number = Standing.looks ⟨number, record.call, course⟩ ∧
      (record.answer.isSome -> Standing.HasLooked ⟨number, record.call, course⟩)

/-- The calls of a thread that have not been answered, the innermost first. -/
structure Stands (books : Books) (thread : ThreadId) (stack : List Standing) : Prop where
  numbers : stack.map (·.number) = (books.pending thread).reverse
  entries : forall standing, standing ∈ stack ->
    books.calls[standing.number]? = some { call := standing.call } ∧
      books.looksOf standing.number = standing.looks

/-- What a step of a thread may do to the books. -/
structure Turns (thread : ThreadId) (before after : Books) (stack : List Standing) : Prop where
  sound : after.Sound
  stands : after.Stands thread stack
  others : forall other, other ≠ thread -> forall kept, before.Stands other kept ->
    after.Stands other kept
  callers : forall caller, caller ∈ after.callers -> caller ∈ before.callers ∨ caller = thread

/-- Doing nothing is a turn. -/
theorem Turns.stay (sound : books.Sound) (stands : books.Stands thread stack) :
    Turns thread books books stack :=
  ⟨sound, stands, fun _ _ _ kept => kept, fun _ => .inl⟩

namespace Stands

/-- A thread has not answered the calls that it stands in. -/
theorem mem_pending (stands : books.Stands thread stack) {standing : Standing}
    (member : standing ∈ stack) : standing.number ∈ books.pending thread := by
  rw [← List.mem_reverse, ← stands.numbers]
  exact List.mem_map_of_mem member

/-- A thread stands in no call twice. -/
theorem nodup (stands : books.Stands thread stack) : (stack.map (·.number)).Nodup := by
  rw [stands.numbers, List.nodup_reverse]
  exact List.nodup_range.filter _

/-- The innermost call is the last one that has not been answered. -/
theorem getLast_pending (stands : books.Stands thread (top :: stack)) :
    (books.pending thread).getLast? = some top.number := by
  rw [← List.head?_reverse, ← stands.numbers]
  rfl

/-- A thread stands in the call that it began last. -/
theorem innermost (stands : books.Stands thread stack)
    (last : (books.pending thread).getLast? = some number) :
    exists top outer, stack = top :: outer ∧ top.number = number := by
  rw [← List.head?_reverse, ← stands.numbers, List.head?_map] at last
  obtain ⟨top, first, same⟩ := Option.map_eq_some_iff.mp last
  obtain ⟨outer, rfl⟩ := List.head?_eq_some_iff.mp first
  exact ⟨top, outer, rfl, same⟩

/-- The calls further out are other ones. -/
theorem ne_of_mem (stands : books.Stands thread (top :: stack)) {standing : Standing}
    (member : standing ∈ stack) : standing.number ≠ top.number := by
  intro same
  exact (List.nodup_cons.mp stands.nodup).1 (List.mem_map.mpr ⟨standing, member, same⟩)

/-- So are the calls of another thread. -/
theorem ne_of_other (stands : books.Stands thread (top :: stack)) {kept : List Standing}
    (others : books.Stands other kept) (different : other ≠ thread) {standing : Standing}
    (member : standing ∈ kept) : standing.number ≠ top.number := by
  intro same
  have mine := (GuestTypes.mem_pending.mp (stands.mem_pending List.mem_cons_self)).1
  have theirs := (GuestTypes.mem_pending.mp (others.mem_pending member)).1
  rw [same, mine] at theirs
  exact different (Option.some.inj theirs).symm

/-- The number of a call that a thread stands in has been given. -/
theorem lt (stands : books.Stands thread stack) {standing : Standing} (member : standing ∈ stack) :
    standing.number < books.calls.length :=
  (List.getElem?_eq_some_iff.mp (stands.entries standing member).1).1

end Stands

/-! ## A lookup -/

/-- A lookup is made. -/
def note (books : Books) (look : Look) : Books := { books with looks := books.looks ++ [look] }

section Look

variable {look : Look}

/-- A lookup is made in one call only. -/
theorem looksOf_note (owner : look.number = some number) (asked : Nat) :
    (books.note look).looksOf asked =
      books.looksOf asked ++ if number = asked then [look] else [] := by
  unfold note looksOf
  rw [List.filter_append, List.filter_singleton, owner]
  by_cases same : number = asked
  · simp [same]
  · simp [same, beq_eq_false_iff_ne.mpr same]

/-- A thread makes a lookup in its innermost call. -/
theorem Turns.note (sound : books.Sound) (stands : books.Stands thread (top :: stack))
    (owner : look.number = some top.number)
    (names : forall named, named ∈ top.call.classes -> look.cls = named) {course : Course}
    (grows : Standing.looks { top with course } = top.looks ++ [look]) :
    Turns thread books (books.note look) ({ top with course } :: stack) where
  sound := {
    called := sound.called
    owned := by
      intro made member
      rcases List.mem_append.mp member with before | new
      · exact sound.owned made before
      · cases List.mem_singleton.mp new
        exact ⟨top.number, _, owner, (stands.entries top List.mem_cons_self).1, names⟩
    courses := by
      intro number record found
      obtain ⟨asked, same⟩ := stands.entries top List.mem_cons_self
      rw [looksOf_note owner]
      by_cases innermost : top.number = number
      · subst innermost
        cases found.symm.trans asked
        exact ⟨course, by rw [if_pos rfl, same]; exact grows.symm, nofun⟩
      · rw [if_neg innermost, List.append_nil]
        exact sound.courses number record found }
  stands := {
    numbers := stands.numbers
    entries := by
      intro standing member
      rw [looksOf_note owner]
      rcases List.mem_cons.mp member with rfl | member
      · obtain ⟨asked, same⟩ := stands.entries top List.mem_cons_self
        exact ⟨asked, by rw [if_pos rfl, same]; exact grows.symm⟩
      · rw [if_neg (stands.ne_of_mem member).symm, List.append_nil]
        exact stands.entries standing (List.mem_cons_of_mem _ member) }
  others := by
    intro other different kept others
    refine ⟨others.numbers, fun standing member => ?_⟩
    rw [looksOf_note owner, if_neg (stands.ne_of_other others different member).symm,
      List.append_nil]
    exact others.entries standing member
  callers := fun _ => .inl

end Look

/-! ## Calls that begin and end -/

/-- A thread begins a call. -/
def begin (books : Books) (thread : ThreadId) (call : Call) : Books :=
  { books with calls := books.calls ++ [{ call }], callers := books.callers ++ [thread] }

/-- A call is answered. -/
def finish (books : Books) (number : Nat) (call : Call) (outcome : Except Fault call.Answer) :
    Books :=
  { books with calls := books.calls.set number { call, answer := some outcome } }

/-- No lookup was made in a call that has not begun. -/
theorem Sound.looksOf_next (sound : books.Sound) : books.looksOf books.calls.length = [] := by
  refine List.filter_eq_nil_iff.mpr fun look member same => ?_
  obtain ⟨number, record, owner, found, -⟩ := sound.owned look member
  rw [owner, beq_iff_eq] at same
  exact absurd (Option.some.inj same) (Nat.ne_of_lt (List.getElem?_eq_some_iff.mp found).1)

/-- A call that one thread begins is none of another. -/
theorem pending_begin_other (called : books.callers.length = books.calls.length) (call : Call)
    (different : other ≠ thread) :
    (books.begin thread call).pending other = books.pending other := by
  unfold begin pending GuestTypes.pending
  rw [List.length_append, List.length_singleton, List.range_succ, List.filter_append,
    List.filter_singleton, ← called, List.getElem?_concat_length]
  have apart : (some thread == some other) = false :=
    beq_eq_false_iff_ne.mpr fun same => different (Option.some.inj same).symm
  rw [apart, Bool.false_and, cond_false, List.append_nil]
  refine List.filter_congr fun number listed => ?_
  have inside := List.mem_range.mp listed
  rw [List.getElem?_append_left inside, List.getElem?_append_left (called ▸ inside)]

/-- A thread begins a call, in the innermost one that it stands in. -/
theorem Turns.begin (sound : books.Sound) (stands : books.Stands thread stack) (call : Call) :
    Turns thread books (books.begin thread call)
      (⟨books.calls.length, call, .unasked⟩ :: stack) := by
  have entries : forall {thread : ThreadId} {stack : List Standing}, books.Stands thread stack ->
      forall standing, standing ∈ stack ->
        (books.calls ++ [({ call } : CallRecord)])[standing.number]? =
            some { call := standing.call } ∧
          books.looksOf standing.number = standing.looks := fun stands standing member =>
    ⟨(List.getElem?_append_left (stands.lt member)).trans (stands.entries standing member).1,
      (stands.entries standing member).2⟩
  have none_ : Standing.looks ⟨books.calls.length, call, .unasked⟩ = [] := by
    unfold Standing.looks
    cases call.lookedIn? <;> rfl
  exact {
    sound := {
      called := by simp [Books.begin, sound.called]
      owned := by
        intro look member
        obtain ⟨number, record, owner, found, names⟩ := sound.owned look member
        have inside := (List.getElem?_eq_some_iff.mp found).1
        exact ⟨number, record, owner, (List.getElem?_append_left inside).trans found, names⟩
      courses := by
        intro number record found
        rcases getElem?_concat_eq_some found with before | ⟨rfl, rfl⟩
        · exact sound.courses number record before
        · exact ⟨.unasked, sound.looksOf_next.trans none_.symm, nofun⟩ }
    stands := {
      numbers := by
        show books.calls.length :: _ = (GuestTypes.pending _ _ _).reverse
        rw [Books.begin, pending_begin sound.called, List.reverse_append, stands.numbers]
        rfl
      entries := by
        intro standing member
        rcases List.mem_cons.mp member with rfl | member
        · exact ⟨List.getElem?_concat_length, sound.looksOf_next.trans none_.symm⟩
        · exact entries stands standing member }
    others := fun other different kept others =>
      ⟨others.numbers.trans (congrArg _ (pending_begin_other sound.called call different).symm),
        entries others⟩
    callers := fun caller member => (List.mem_append.mp member).imp_right List.mem_singleton.mp }

/-- An answered call is pending no longer. -/
theorem reverse_pending_finish (books : Books) (call : Call) (outcome : Except Fault call.Answer) :
    ((books.finish number call outcome).pending thread).reverse =
      (books.pending thread).reverse.filter (· ≠ number) := by
  unfold finish pending
  rw [pending_finish, List.filter_reverse]

/-- A thread answers the innermost call that it stands in. -/
theorem Turns.finish (sound : books.Sound) (stands : books.Stands thread (top :: stack))
    (looked : top.HasLooked) (outcome : Except Fault top.call.Answer) :
    Turns thread books (books.finish top.number top.call outcome) stack := by
  obtain ⟨asked, same⟩ := stands.entries top List.mem_cons_self
  have kept : forall number, number ≠ top.number ->
      (books.finish top.number top.call outcome).calls[number]? = books.calls[number]? :=
    fun number different => List.getElem?_set_ne different.symm
  have answered : (books.finish top.number top.call outcome).calls[top.number]? =
      some { call := top.call, answer := some outcome } :=
    List.getElem?_set_self (stands.lt List.mem_cons_self)
  -- Calls other than the one that is answered stay where they are.
  have stays : forall {numbered : List Standing},
      (forall standing, standing ∈ numbered -> standing.number ≠ top.number) ->
        (numbered.map (·.number)).filter (· ≠ top.number) = numbered.map (·.number) := by
    intro numbered apart
    refine List.filter_eq_self.mpr fun number listed => ?_
    obtain ⟨standing, member, rfl⟩ := List.mem_map.mp listed
    exact decide_eq_true (apart standing member)
  exact {
    sound := {
      called := by simp [Books.finish, sound.called]
      owned := by
        intro look member
        obtain ⟨number, record, owner, found, names⟩ := sound.owned look member
        by_cases innermost : number = top.number
        · subst innermost
          cases found.symm.trans asked
          exact ⟨top.number, _, owner, answered, names⟩
        · exact ⟨number, record, owner, (kept number innermost).trans found, names⟩
      courses := by
        intro number record found
        by_cases innermost : number = top.number
        · subst innermost
          cases found.symm.trans answered
          exact ⟨top.course, same, fun _ => looked⟩
        · exact sound.courses number record ((kept number innermost).symm.trans found) }
    stands := {
      numbers := by
        rw [reverse_pending_finish, ← stands.numbers, List.map_cons,
          List.filter_cons_of_neg (by simp), stays fun _ => stands.ne_of_mem]
      entries := fun standing member =>
        ⟨(kept _ (stands.ne_of_mem member)).trans
          (stands.entries standing (List.mem_cons_of_mem _ member)).1,
          (stands.entries standing (List.mem_cons_of_mem _ member)).2⟩ }
    others := by
      intro other different numbered others
      have apart : forall standing, standing ∈ numbered -> standing.number ≠ top.number :=
        fun standing => stands.ne_of_other others different
      refine ⟨?_, fun standing member => ?_⟩
      · rw [reverse_pending_finish, ← others.numbers, stays apart]
      · obtain ⟨begun, looks⟩ := others.entries standing member
        exact ⟨(kept _ (apart standing member)).trans begun, looks⟩
    callers := fun _ => .inl }

/-! ## Counting calls -/

/-- The calls whose lookups are wanted, by their numbers. -/
def callsWith (books : Books) (wanted : List Look -> Bool) : List Nat :=
  (List.range books.calls.length).filter fun number => wanted (books.looksOf number)

/-- Lookups of a kind are counted by the calls that made them. -/
theorem Sound.countP_looks (sound : books.Sound) {counted : Look -> Bool} {kind : Bool}
    (ofKind : forall look, counted look = true -> look.again = kind) :
    books.looks.countP counted = (books.callsWith (·.any counted)).length := by
  have once : forall number, (books.looksOf number).countP counted ≤ 1 := by
    intro number
    by_cases inside : number < books.calls.length
    · obtain ⟨course, same, -⟩ :=
        sound.courses number _ (List.getElem?_eq_some_iff.mpr ⟨inside, rfl⟩)
      rw [same, Standing.looks]
      cases Call.lookedIn? _ with
      | none => exact Nat.zero_le _
      | some registry => exact course.countP_looks ofKind
    · rw [looksOf, List.filter_eq_nil_iff.mpr]
      · exact Nat.zero_le _
      · intro look member same
        obtain ⟨owner, record, owned, found, -⟩ := sound.owned look member
        rw [owned, beq_iff_eq] at same
        exact inside (Option.some.inj same ▸ (List.getElem?_eq_some_iff.mp found).1)
  have distinct : ((books.looks.filter counted).map (·.number)).Nodup := by
    refine List.nodup_iff_count_le_one.mpr fun owner => ?_
    rw [List.count, List.countP_map, List.countP_filter]
    cases owner with
    | none =>
        rw [List.countP_eq_zero.mpr]
        · exact Nat.zero_le _
        · intro look member
          obtain ⟨number, _, owned, -⟩ := sound.owned look member
          simp [owned]
    | some number =>
        refine Nat.le_trans (Nat.le_of_eq ?_) (once number)
        rw [looksOf, List.countP_filter]
        exact List.countP_congr fun look _ => by simp [and_comm]
  have numbers : ((books.looks.filter counted).map (·.number)).Perm
      ((books.callsWith (·.any counted)).map some) := by
    refine (List.perm_ext_iff_of_nodup distinct ?_).mpr fun owner => ?_
    · exact (List.nodup_range.filter _).map fun _ _ => Option.some.inj
    · simp only [List.mem_map, List.mem_filter, callsWith, looksOf, List.mem_range,
        List.any_eq_true,
        beq_iff_eq]
      constructor
      · rintro ⟨look, ⟨member, counts⟩, rfl⟩
        obtain ⟨number, record, owned, found, -⟩ := sound.owned look member
        have inside := (List.getElem?_eq_some_iff.mp found).1
        exact ⟨number, ⟨inside, look, ⟨member, owned⟩, counts⟩, owned.symm⟩
      · rintro ⟨number, ⟨-, look, ⟨member, owned⟩, counts⟩, rfl⟩
        exact ⟨look, ⟨member, counts⟩, owned⟩
  rw [List.countP_eq_length_filter]
  simpa using numbers.length_eq

/-- Whoever escalates is among those who have missed. -/
theorem Sound.callsWith_isEscalation (sound : books.Sound) (registry : RegistryId) :
    books.callsWith (·.any (·.isEscalation registry)) = books.callsWith fun looks =>
      looks.any (·.isMiss registry) && looks.any (·.isEscalation registry) := by
  refine List.filter_congr fun number listed => ?_
  have inside := List.mem_range.mp listed
  obtain ⟨course, same, -⟩ :=
    sound.courses number _ (List.getElem?_eq_some_iff.mpr ⟨inside, rfl⟩)
  rw [same, Standing.looks]
  cases Call.lookedIn? _ with
  | none => rfl
  | some other =>
      refine (Bool.and_eq_right_iff_imp.mpr fun escalates => ?_).symm
      exact Course.any_isMiss_of_isEscalation escalates

/-- Only calls are counted. -/
theorem length_callsWith (books : Books) (wanted : List Look -> Bool) :
    (books.callsWith wanted).length ≤ books.calls.length :=
  Nat.le_trans (List.length_filter_le _ _) (Nat.le_of_eq List.length_range)

/-- No more calls have missed than have looked. -/
theorem length_callsWith_isMiss (books : Books) (registry : RegistryId) :
    (books.callsWith (·.any (·.isMiss registry))).length ≤
      (books.callsWith (·.any (·.isFirst registry))).length := by
  unfold callsWith
  rw [← List.countP_eq_length_filter, ← List.countP_eq_length_filter]
  refine List.countP_mono_left fun number _ misses => ?_
  obtain ⟨look, member, miss⟩ := List.any_eq_true.mp misses
  exact List.any_eq_true.mpr ⟨look, member, (Bool.and_eq_true_iff.mp miss).1⟩

/-- Fewer calls have lookups that are wanted for one reason more. -/
theorem length_callsWith_and (books : Books) (wanted other : List Look -> Bool) :
    (books.callsWith fun looks => wanted looks && other looks).length ≤
      (books.callsWith wanted).length := by
  unfold callsWith
  rw [← List.countP_eq_length_filter, ← List.countP_eq_length_filter]
  exact List.countP_mono_left fun _ _ both => (Bool.and_eq_true_iff.mp both).1

/-- Who has looked in a registry asked it. -/
theorem Sound.lookedIn (sound : books.Sound) {registry : RegistryId}
    (looked : number ∈ books.callsWith (·.any (·.isFirst registry))) :
    exists record, books.calls[number]? = some record ∧
      record.call.lookedIn? = some registry := by
  obtain ⟨listed, looks⟩ := List.mem_filter.mp looked
  have inside := List.mem_range.mp listed
  have found := List.getElem?_eq_some_iff.mpr ⟨inside, rfl⟩
  refine ⟨_, found, ?_⟩
  obtain ⟨look, member, first⟩ := List.any_eq_true.mp looks
  obtain ⟨course, same, -⟩ := sound.courses number _ found
  rw [same, Standing.looks] at member
  cases asked : Call.lookedIn? books.calls[number].call with
  | none =>
      rw [asked] at member
      cases member
  | some other =>
      rw [asked] at member
      rw [← (Look.of_isFirst first).1, Course.registry_of_mem member]

end Books

end GuestTypes
