import GuestTypes.Machine

/-!
# Turns

In one step of a machine one thread takes its turn. What it can do then depends on its control, on
the frames below, and on the store: `Machine.Turn` has one case for each kind of turn, with the
machine that it leads to, and `step_eq_some_iff` says that these are all the steps there are. What
every step keeps is proved by cases of the turn, without a word about how steps are computed.
-/

namespace GuestTypes.Machine

variable {σ : Type} {thread other : ThreadId}

/-! ## Threads of a machine -/

/-- A thread that was replaced is what it was replaced by. -/
theorem thread_self {machine : Machine σ} (state : Thread σ)
    (present : thread.index < machine.threads.size) :
    (machine.setThread thread state).threads[thread.index]? = some state :=
  Array.getElem?_setIfInBounds_self_of_lt present

/-- Replacing a thread leaves the others. -/
theorem thread_other {machine : Machine σ} (state : Thread σ) (different : other ≠ thread) :
    (machine.setThread thread state).threads[other.index]? = machine.threads[other.index]? :=
  Array.getElem?_setIfInBounds_ne fun equal => different (congrArg ThreadId.mk equal.symm)

/-- Starting a thread changes no other one. -/
theorem thread_started {machine : Machine σ} (request : Request σ Unit) {state : Thread σ}
    (found : machine.threads[other.index]? = some state) :
    (machine.start request).2.threads[other.index]? = some state := by
  have present := (Array.getElem?_eq_some_iff.mp found).1
  rw [← found]
  exact Array.getElem?_push_lt present |>.trans (Array.getElem?_eq_getElem present).symm

/-- Unwinding changes the progress of initialisations alone. -/
theorem unwind_progress (store : Store) (frames : List (Frame σ)) :
    exists progress, unwind store frames = { store with progress } := by
  induction frames generalizing store with
  | nil => exact ⟨store.progress, rfl⟩
  | cons frame outer inductionHypothesis =>
      obtain ⟨progress, unwound⟩ := inductionHypothesis (store.settle frame.cls .unwound)
      exact ⟨progress, unwound⟩

/-- Unwinding a thread declares no class. -/
theorem hierarchy_unwind (store : Store) (frames : List (Frame σ)) :
    (unwind store frames).hierarchy = store.hierarchy := by
  obtain ⟨progress, same⟩ := unwind_progress store frames
  rw [same]

/-- Steps follow one another. -/
theorem Steps.trans {code : HostCode σ} {first middle last : Machine σ}
    (early : Steps code first middle) (late : Steps code middle last) : Steps code first last := by
  induction late with
  | refl => exact early
  | step _ step inductionHypothesis => exact .step inductionHypothesis step

/-! ## Turns -/

/-- Why an initializer has failed that ended so; none if it has not. -/
def reason? (machine : Machine σ) : Except Fault Unit -> Option String
  | .ok _ => none
  | .error fault => some (fault.message machine.store.hierarchy)

/-- What a thread with a control and frames may do in its turn. -/
inductive Turn (code : HostCode σ) (machine : Machine σ) (thread : ThreadId) :
    Program σ (Except Fault Unit) -> List (Frame σ) -> Machine σ -> Prop where
  /-- It ends. -/
  | ended (outcome : Except Fault Unit) :
      Turn code machine thread (.done outcome) [] (machine.setThread thread (.finished outcome))
  /-- It leaves an initializer, whose class is settled, and goes on with what has waited. -/
  | resumed (outcome : Except Fault Unit) (frame : Frame σ) (outer : List (Frame σ)) :
      Turn code machine thread (.done outcome) (frame :: outer)
        ({ machine with
            store := machine.store.settle frame.cls (.settled (machine.reason? outcome)) }.setThread
          thread (.running (frame.resume (machine.reason? outcome)) outer))
  /-- It takes an action, unless others hold the guard that it needs. -/
  | acted {β : Type} {action : Action β} {rest : β -> Program σ (Except Fault Unit)}
      {frames : List (Frame σ)} (answer : β) (store : Store)
      (performed : action.perform thread machine.store = some (answer, store))
      (admitted : action.isBarred machine.store = false) :
      Turn code machine thread (.act action rest) frames
        ({ machine with store }.setThread thread (.running (rest answer) frames))
  | worked {β : Type} (work : σ -> Store -> β × σ) (rest : β -> Program σ (Except Fault Unit))
      (frames : List (Frame σ)) :
      Turn code machine thread (.host work rest) frames
        ({ machine with host := (work machine.host machine.store).2 }.setThread thread
          (.running (rest (work machine.host machine.store).1) frames))
  /-- It initialises a class that has no initializer. -/
  | settled {cls : ClassId} {rest : Option String -> Program σ (Except Fault Unit)}
      {frames : List (Frame σ)} (none_ : (machine.store.hierarchy.row cls).initializer = none) :
      Turn code machine thread (.initialise cls rest) frames
        ({ machine with store := machine.store.settle cls .done }.setThread thread
          (.running (rest none) frames))
  /-- It enters an initializer. -/
  | entered {cls : ClassId} {rest : Option String -> Program σ (Except Fault Unit)}
      {frames : List (Frame σ)} (initializer : CodeId)
      (has : (machine.store.hierarchy.row cls).initializer = some initializer) :
      Turn code machine thread (.initialise cls rest) frames
        (machine.setThread thread
          (.running (code.initializer initializer cls).run ({ cls, resume := rest } :: frames)))
  | escalated (foreign : CodeId) (cls : ClassId)
      (rest : Except Fault Representation -> Program σ (Except Fault Unit))
      (frames : List (Frame σ)) :
      Turn code machine thread (.escalate foreign cls rest) frames
        (machine.setThread thread (.running ((code.escalation foreign cls).run.bind rest) frames))
  | forked (body : CodeId) (rest : ThreadId -> Program σ (Except Fault Unit))
      (frames : List (Frame σ)) :
      Turn code machine thread (.fork body rest) frames
        ((machine.start (code.body body)).2.setThread thread
          (.running (rest (machine.start (code.body body)).1) frames))
  | joined {awaited : ThreadId} {rest : Option String -> Program σ (Except Fault Unit)}
      {frames : List (Frame σ)} (message : Option String)
      (heard : machine.ending? awaited = some message) :
      Turn code machine thread (.join awaited rest) frames
        (machine.setThread thread (.running (rest message) frames))
  /-- It panics, and the classes of all its frames fail. -/
  | panicked (message : String) (frames : List (Frame σ)) :
      Turn code machine thread (.panic message) frames
        ({ machine with store := unwind machine.store frames }.setThread thread
          (.panicked message))

variable {code : HostCode σ} {machine next : Machine σ} {control : Program σ (Except Fault Unit)}
  {frames : List (Frame σ)}

/-- What a running thread does is the turn of its control. -/
theorem stepRunning_eq_some_iff :
    machine.stepRunning code thread control frames = some next ↔
      machine.Turn code thread control frames next := by
  constructor
  · intro stepped
    cases control with
    | done outcome =>
        cases frames with
        | nil =>
            cases stepped
            exact .ended outcome
        | cons frame outer =>
            cases outcome <;> cases stepped <;> exact .resumed _ frame outer
    | act action rest =>
        cases barred : action.isBarred machine.store with
        | true => simp [stepRunning, barred] at stepped
        | false =>
            simp only [stepRunning, barred, Bool.false_eq_true, if_false] at stepped
            split at stepped
            · cases stepped
            · rename_i answer store performed
              cases stepped
              exact .acted answer store performed barred
    | host work rest =>
        cases stepped
        exact .worked work rest frames
    | initialise cls rest =>
        simp only [stepRunning] at stepped
        split at stepped
        · rename_i none_
          cases stepped
          exact .settled none_
        · rename_i initializer has
          cases stepped
          exact .entered initializer has
    | escalate foreign cls rest =>
        cases stepped
        exact .escalated foreign cls rest frames
    | fork body rest =>
        cases stepped
        exact .forked body rest frames
    | join awaited rest =>
        simp only [stepRunning, Option.bind_eq_some_iff] at stepped
        obtain ⟨message, heard, stepped⟩ := stepped
        cases stepped
        exact .joined message heard
    | panic message =>
        cases stepped
        exact .panicked message frames
  · intro turn
    cases turn with
    | resumed outcome frame outer => cases outcome <;> rfl
    | acted answer store performed admitted =>
        simp only [stepRunning, performed, admitted, Bool.false_eq_true, if_false]
    | settled none_ => simp only [stepRunning, none_]
    | entered initializer has => simp only [stepRunning, has]
    | joined message heard => simp only [stepRunning, heard, Option.bind_some]
    | ended _ | worked _ _ _ | escalated _ _ _ _ | forked _ _ _ | panicked _ _ => rfl

/-- A step of a thread is a turn of it while it is running. -/
theorem step_eq_some_iff :
    machine.step code thread = some next ↔ exists control frames,
      machine.threads[thread.index]? = some (.running control frames) ∧
        machine.Turn code thread control frames next := by
  unfold Machine.step
  split
  · rename_i control frames found
    rw [stepRunning_eq_some_iff]
    constructor
    · exact fun turn => ⟨control, frames, found, turn⟩
    · rintro ⟨_, _, same, turn⟩
      cases found.symm.trans same
      exact turn
  all_goals
    rename_i other
    constructor
    · nofun
    · rintro ⟨_, _, found, -⟩
      cases other.symm.trans found

/-- A thread that is known to be running takes a turn of its own. -/
theorem turn_of_running (found : machine.threads[thread.index]? = some (.running control frames))
    (stepped : machine.step code thread = some next) :
    machine.Turn code thread control frames next := by
  obtain ⟨_, _, same, turn⟩ := step_eq_some_iff.mp stepped
  cases found.symm.trans same
  exact turn

namespace Turn

/-- What a thread does next concerns the store or host code, never both. -/
theorem store_or_host (turn : machine.Turn code thread control frames next) :
    next.store = machine.store ∨ next.host = machine.host := by
  cases turn with
  | worked _ _ _ => exact .inl rfl
  | _ => exact .inr rfl

/-- The turn of one thread changes nothing for another one. -/
theorem thread_other {state : Thread σ} (turn : machine.Turn code thread control frames next)
    (different : other ≠ thread) (found : machine.threads[other.index]? = some state) :
    next.threads[other.index]? = some state := by
  cases turn with
  | forked body _ _ =>
      exact (Machine.thread_other _ different).trans (thread_started (code.body body) found)
  | _ => exact (Machine.thread_other _ different).trans found

end Turn

end GuestTypes.Machine
