import Stftpu.Server.Listener
import Stftpu.Server.Resources
import Stftpu.Server.Slots

/-!
# The threads of the server

The listener and the tasks it creates, with the slots between them.  Where the listener and
a task make one call of `serverListenerLoop` and `serverTaskStart` to take or to release a
slot, the threads here go through the statements of that call, in any order with each
other: `server_try_create_operation_thread` puts the operation into the slot and creates
the task, the task reads it from there, and `server_task_release` detaches the thread
before it releases the slot.

* `serverProcess` — one step of one thread.
* `ListenerCalled`, `TaskReleased` — what a statement inside a call of several steps does.
* `task_origin` — a task behind a step was there before, or has just been created.
-/

namespace Stftpu

open Library

/-! ## The threads -/

/-- Inside the part of `server_try_create_operation_thread` that follows the parsing. -/
inductive SpawnPoint
  /-- `slot_data[acquired_slot_idx].op_data_ptr = new_op_data_ptr`. -/
  | storing
  /-- `malloc (sizeof (ServerTaskArgs_t))`. -/
  | allocating
  /-- `pthread_create`. -/
  | creating
  /-- The allocation failed, and `task_args` is written to. -/
  | crashed
  deriving DecidableEq, Repr

/-- The listener thread, with the statement it has reached in each of the calls that are
more than one step; these start afresh with every step of the loop. -/
structure ListenerThread where
  state : ListenerState
  acquire : AcquirePoint
  release : ReleasePoint
  spawn : SpawnPoint
  deriving DecidableEq, Repr

/-- The listener behind a step of its loop. -/
def ListenerThread.enter (state : ListenerState) : ListenerThread :=
  { state := state, acquire := .locking, release := .locking, spawn := .storing }

/-- A task thread. -/
structure TaskThread where
  /-- `task_args->task_slot_idx`. -/
  slot : Nat
  /-- `none` before the thread has read its slot. -/
  state : Option TaskState
  detached : Bool
  /-- The statement reached in `server_release_connection_slot`. -/
  release : ReleasePoint
  deriving DecidableEq, Repr

/-- A task thread just created. -/
def TaskThread.create (slot : Nat) : TaskThread :=
  { slot := slot, state := none, detached := false, release := .locking }

/-- The server between two steps; a task's number is its handle. -/
structure ServerProcess where
  listener : ListenerThread
  slots : ServerSlots
  tasks : List TaskThread

/-- `server_init_data` succeeded. -/
def ServerProcess.start : ServerProcess :=
  { listener := ListenerThread.enter ListenerState.start
    slots := serverInitSlotsData
    tasks := [] }

inductive ProcessMove
  /-- The listener makes a system call of its loop. -/
  | listener (e : Event)
  /-- The listener goes on inside a call that takes more than one step. -/
  | listenerCall
  /-- `malloc (sizeof (ServerTaskArgs_t))`. -/
  | taskArgs (allocated : Bool)
  /-- `pthread_create`. -/
  | create
  /-- `pthread_create` fails and leaves some value in the handle of the slot. -/
  | createFailed (handle : Option Nat)
  /-- A task reads its slot. -/
  | begin (k : Nat)
  /-- A task makes a system call. -/
  | task (k : Nat) (e : Event)
  /-- A task goes on in `server_task_release`. -/
  | taskRelease (k : Nat)
  deriving DecidableEq, Repr

/-- The system call made in a step of the server. -/
def ProcessMove.call : ProcessMove → Option Event
  | .listener e => some e
  | .task _ e => some e
  | _ => none

/-! ## The steps -/

namespace ListenerPoint

/-- The calls of the loop the listener makes in several steps. -/
def inCall : ListenerPoint → Bool
  | .acquiring => true
  | .releasing _ => true
  | .spawning _ _ => true
  | _ => false

end ListenerPoint

namespace TaskThread

/-- What a task reads from its slot before anything else. -/
def onBegin (task : TaskThread) (op : Option OperationData) : TaskThread :=
  { task with state := some (match op with | some op => .starting op | none => .fault) }

/-- A task behind a system call. -/
def enter (task : TaskThread) (state : TaskState) : TaskThread :=
  { task with state := some state, release := .locking }

/-- The thread has released its slot. -/
def ended (task : TaskThread) : Bool :=
  match task.state with
  | some (.ended _) => true
  | _ => false

/-- A task is live until it has released its slot. -/
def Live (task : TaskThread) : Prop :=
  task.ended = false

instance : DecidablePred Live := fun task => inferInstanceAs (Decidable (task.ended = false))

end TaskThread

namespace ServerProcess

/-- The control point of a task. -/
def taskState (s : ServerProcess) (k : Nat) : Option TaskState :=
  (s.tasks[k]?).bind TaskThread.state

def setTask (s : ServerProcess) (k : Nat) (task : TaskThread) : ServerProcess :=
  { s with tasks := s.tasks.set k task }

end ServerProcess

/-- One statement of the listener in `server_acquire_connection_slot`,
`server_release_connection_slot` or before the creation of a thread. -/
def listenerCall (host : Host) (mem : ListenerMemory) (s : ServerProcess) :
    Option ServerProcess :=
  match s.listener.state.point with
  | .acquiring => do
      let (slots, next) ← serverAcquireConnectionSlot .listener s.slots s.listener.acquire
      match next with
      | .inl point => some { s with slots := slots, listener.acquire := point }
      | .inr slot => do
          let state ← serverListenerLoop host mem s.listener.state (.acquire slot)
          some { s with slots := slots, listener := .enter state }
  | .releasing slot => do
      let (slots, next) ← serverReleaseConnectionSlot .listener slot s.slots s.listener.release
      match next with
      | .inl point => some { s with slots := slots, listener.release := point }
      | .inr () => do
          let state ← serverListenerLoop host mem s.listener.state .release
          some { s with slots := slots, listener := .enter state }
  | .spawning slot op =>
      match s.listener.spawn with
      | .storing =>
          some
            { s with
              slots.opDataPtr := Function.update s.slots.opDataPtr slot (some op)
              listener.spawn := .allocating }
      | _ => none
  | _ => none

/-- One statement of `server_task_release`; the last one is the unlock. -/
def serverTaskRelease (host : Host) (s : ServerProcess) (k : Nat) (task : TaskThread)
    (state : TaskState) : Option ServerProcess :=
  if task.detached then do
    let (slots, next) ← serverReleaseConnectionSlot (.task k) task.slot s.slots task.release
    match next with
    | .inl point => some { s.setTask k { task with release := point } with slots := slots }
    | .inr () => do
        let state ← serverTaskStart host state .release
        some { s.setTask k (task.enter state) with slots := slots }
  else
    some (s.setTask k { task with detached := true })

/-- One step of one thread of the server, as long as the listener has not ended the
process. -/
def serverProcess (host : Host) (mem : ListenerMemory) (s : ServerProcess) (m : ProcessMove) :
    Option ServerProcess :=
  if s.listener.state.point = .exited then
    none
  else
    match m with
    | .listener e =>
        if s.listener.state.point.inCall then
          none
        else
          (serverListenerLoop host mem s.listener.state e).map fun state =>
            { s with listener := .enter state }
    | .listenerCall => listenerCall host mem s
    | .taskArgs allocated =>
        match s.listener.state.point, s.listener.spawn with
        | .spawning _ _, .allocating =>
            some { s with listener.spawn := if allocated then .creating else .crashed }
        | _, _ => none
    | .create =>
        match s.listener.state.point, s.listener.spawn with
        | .spawning slot _, .creating =>
            (serverListenerLoop host mem s.listener.state (.create true)).map fun state =>
              { s with
                listener := .enter state
                slots.slotThreadHandles :=
                  Function.update s.slots.slotThreadHandles slot (some s.tasks.length)
                tasks := s.tasks ++ [.create slot] }
        | _, _ => none
    | .createFailed handle =>
        match s.listener.state.point, s.listener.spawn with
        | .spawning slot _, .creating =>
            (serverListenerLoop host mem s.listener.state (.create false)).map fun state =>
              { s with
                listener := .enter state
                slots.slotThreadHandles :=
                  Function.update s.slots.slotThreadHandles slot handle }
        | _, _ => none
    | .begin k => do
        let task ← s.tasks[k]?
        match task.state with
        | none => some (s.setTask k (task.onBegin (s.slots.opDataPtr task.slot)))
        | some _ => none
    | .task k e => do
        let task ← s.tasks[k]?
        match task.state with
        | none => none
        | some (.releasing _) => none
        | some state =>
            (serverTaskStart host state e).map fun state => s.setTask k (task.enter state)
    | .taskRelease k => do
        let task ← s.tasks[k]?
        match task.state with
        | some (.releasing result) => serverTaskRelease host s k task (.releasing result)
        | _ => none

section Steps

variable {host : Host} {mem : ListenerMemory} {s s' : ServerProcess} {e : Event} {k : Nat}

theorem listener_eq (h : serverProcess host mem s (.listener e) = some s') :
    s.listener.state.point.inCall = false ∧
      ∃ state, serverListenerLoop host mem s.listener.state e = some state ∧
        s' = { s with listener := .enter state } := by
  simp only [serverProcess] at h
  split at h
  · cases h
  · split at h
    · cases h
    · rename_i hcall
      obtain ⟨state, hstate, rfl⟩ := Option.map_eq_some_iff.mp h
      exact ⟨by simpa using hcall, state, hstate, rfl⟩

/-- All that a statement of the listener in one of its calls does. -/
inductive ListenerCalled (host : Host) (mem : ListenerMemory) (s s' : ServerProcess) : Prop
  | acquiring (slots : ServerSlots) (next : AcquirePoint)
      (hpoint : s.listener.state.point = .acquiring)
      (hcall : serverAcquireConnectionSlot .listener s.slots s.listener.acquire =
        some (slots, .inl next))
      (heq : s' = { s with slots := slots, listener.acquire := next })
  | acquired (slots : ServerSlots) (slot : Option Nat)
      (hpoint : s.listener.state.point = .acquiring)
      (hcall : serverAcquireConnectionSlot .listener s.slots s.listener.acquire =
        some (slots, .inr slot))
      (heq : s' =
        { s with
          slots := slots
          listener := .enter (s.listener.state.onAcquired host mem slot) })
  | releasing (slot : Nat) (slots : ServerSlots) (next : ReleasePoint)
      (hpoint : s.listener.state.point = .releasing slot)
      (hcall : serverReleaseConnectionSlot .listener slot s.slots s.listener.release =
        some (slots, .inl next))
      (heq : s' = { s with slots := slots, listener.release := next })
  | released (slot : Nat) (slots : ServerSlots)
      (hpoint : s.listener.state.point = .releasing slot)
      (hcall : serverReleaseConnectionSlot .listener slot s.slots s.listener.release =
        some (slots, .inr ()))
      (heq : s' = { s with slots := slots, listener := .enter s.listener.state.clear })
  | stored (slot : Nat) (op : OperationData)
      (hpoint : s.listener.state.point = .spawning slot op)
      (hspawn : s.listener.spawn = .storing)
      (heq : s' =
        { s with
          slots.opDataPtr := Function.update s.slots.opDataPtr slot (some op)
          listener.spawn := .allocating })

theorem listenerCall_eq (h : serverProcess host mem s .listenerCall = some s') :
    ListenerCalled host mem s s' := by
  simp only [serverProcess] at h
  split at h
  · cases h
  · unfold listenerCall at h
    split at h
    · rename_i hpoint
      obtain ⟨⟨slots, next⟩, hcall, hnext⟩ := Option.bind_eq_some_iff.mp h
      cases next with
      | inl next => exact .acquiring slots next hpoint hcall (Option.some.inj hnext).symm
      | inr slot =>
          simp only [serverListenerLoop, hpoint, Option.bind_eq_bind, Option.bind_some,
            Option.some.injEq] at hnext
          exact .acquired slots slot hpoint hcall hnext.symm
    · rename_i slot hpoint
      obtain ⟨⟨slots, next⟩, hcall, hnext⟩ := Option.bind_eq_some_iff.mp h
      cases next with
      | inl next => exact .releasing slot slots next hpoint hcall (Option.some.inj hnext).symm
      | inr returned =>
          simp only [serverListenerLoop, hpoint, Option.bind_eq_bind, Option.bind_some,
            Option.some.injEq] at hnext
          exact .released slot slots hpoint hcall hnext.symm
    · rename_i slot op hpoint
      split at h
      · rename_i hspawn
        exact .stored slot op hpoint hspawn (Option.some.inj h).symm
      · cases h
    · cases h

theorem taskArgs_eq {allocated : Bool}
    (h : serverProcess host mem s (.taskArgs allocated) = some s') :
    ∃ slot op, s.listener.state.point = .spawning slot op ∧ s.listener.spawn = .allocating ∧
      s' = { s with listener.spawn := if allocated then .creating else .crashed } := by
  simp only [serverProcess] at h
  split at h
  · cases h
  · split at h
    · rename_i slot op hpoint hspawn
      exact ⟨slot, op, hpoint, hspawn, (Option.some.inj h).symm⟩
    · cases h

theorem create_eq (h : serverProcess host mem s .create = some s') :
    ∃ slot op, s.listener.state.point = .spawning slot op ∧ s.listener.spawn = .creating ∧
      s' =
        { listener := .enter s.listener.state.clear
          slots :=
            { s.slots with
              slotThreadHandles :=
                Function.update s.slots.slotThreadHandles slot (some s.tasks.length) }
          tasks := s.tasks ++ [.create slot] } := by
  simp only [serverProcess] at h
  split at h
  · cases h
  · split at h
    · rename_i slot op hpoint hspawn
      refine ⟨slot, op, hpoint, hspawn, ?_⟩
      simp only [serverListenerLoop, hpoint, Option.map_some, Option.some.injEq] at h
      exact h.symm
    · cases h

theorem createFailed_eq {handle : Option Nat}
    (h : serverProcess host mem s (.createFailed handle) = some s') :
    ∃ slot op, s.listener.state.point = .spawning slot op ∧ s.listener.spawn = .creating ∧
      s' =
        { s with
          listener := .enter s.listener.state.clear
          slots :=
            { s.slots with
              slotThreadHandles := Function.update s.slots.slotThreadHandles slot handle } } := by
  simp only [serverProcess] at h
  split at h
  · cases h
  · split at h
    · rename_i slot op hpoint hspawn
      refine ⟨slot, op, hpoint, hspawn, ?_⟩
      simp only [serverListenerLoop, hpoint, Option.map_some, Option.some.injEq] at h
      exact h.symm
    · cases h

theorem begin_eq (h : serverProcess host mem s (.begin k) = some s') :
    ∃ task, s.tasks[k]? = some task ∧ task.state = none ∧
      s' = s.setTask k (task.onBegin (s.slots.opDataPtr task.slot)) := by
  simp only [serverProcess] at h
  split at h
  · cases h
  · obtain ⟨task, htask, hbegin⟩ := Option.bind_eq_some_iff.mp h
    split at hbegin
    · rename_i hstate
      exact ⟨task, htask, hstate, (Option.some.inj hbegin).symm⟩
    · cases hbegin

theorem task_eq (h : serverProcess host mem s (.task k e) = some s') :
    ∃ task state state', s.tasks[k]? = some task ∧ task.state = some state ∧
      (∀ result, state ≠ .releasing result) ∧ serverTaskStart host state e = some state' ∧
      s' = s.setTask k (task.enter state') := by
  simp only [serverProcess] at h
  split at h
  · cases h
  · obtain ⟨task, htask, hcall⟩ := Option.bind_eq_some_iff.mp h
    split at hcall
    · cases hcall
    · cases hcall
    · rename_i state hnot hstate
      obtain ⟨state', hstart, rfl⟩ := Option.map_eq_some_iff.mp hcall
      exact ⟨task, state, state', htask, hstate, fun result heq => hnot result (by rw [heq]),
        hstart, rfl⟩

/-- All that a statement of a task in `server_task_release` does. -/
inductive TaskReleased (s : ServerProcess) (k : Nat) (s' : ServerProcess) : Prop
  | detached (task : TaskThread) (result : Option Bool) (htask : s.tasks[k]? = some task)
      (hstate : task.state = some (.releasing result)) (hdetached : task.detached = false)
      (heq : s' = s.setTask k { task with detached := true })
  | releasing (task : TaskThread) (result : Option Bool) (slots : ServerSlots)
      (next : ReleasePoint) (htask : s.tasks[k]? = some task)
      (hstate : task.state = some (.releasing result)) (hdetached : task.detached = true)
      (hcall : serverReleaseConnectionSlot (.task k) task.slot s.slots task.release =
        some (slots, .inl next))
      (heq : s' = { s.setTask k { task with release := next } with slots := slots })
  | released (task : TaskThread) (result : Option Bool) (slots : ServerSlots)
      (htask : s.tasks[k]? = some task) (hstate : task.state = some (.releasing result))
      (hdetached : task.detached = true)
      (hcall : serverReleaseConnectionSlot (.task k) task.slot s.slots task.release =
        some (slots, .inr ()))
      (heq : s' = { s.setTask k (task.enter (.ended result)) with slots := slots })

theorem taskRelease_eq (h : serverProcess host mem s (.taskRelease k) = some s') :
    TaskReleased s k s' := by
  simp only [serverProcess] at h
  split at h
  · cases h
  · obtain ⟨task, htask, hcall⟩ := Option.bind_eq_some_iff.mp h
    split at hcall
    · rename_i result hstate
      unfold serverTaskRelease at hcall
      split at hcall
      · rename_i hdetached
        obtain ⟨⟨slots, next⟩, hrelease, hnext⟩ := Option.bind_eq_some_iff.mp hcall
        cases next with
        | inl next =>
            exact .releasing task result slots next htask hstate hdetached hrelease
              (Option.some.inj hnext).symm
        | inr returned =>
            exact .released task result slots htask hstate hdetached hrelease
              (Option.some.inj hnext).symm
      · rename_i hdetached
        exact .detached task result htask hstate (by simpa using hdetached)
          (Option.some.inj hcall).symm
    · cases hcall

end Steps

/-! ### What becomes of the listener -/

/-- All that a step of the server may do to the state of the listener. -/
inductive ListenerMoved (host : Host) (mem : ListenerMemory) (s : ServerProcess)
    (m : ProcessMove) (s' : ServerProcess) : Prop
  | stayed (heq : s'.listener.state = s.listener.state)
  | looped (e : Event) (hm : m = .listener e) (hcall : s.listener.state.point.inCall = false)
      (hloop : serverListenerLoop host mem s.listener.state e = some s'.listener.state)
  | acquired (slot : Option Nat) (hpoint : s.listener.state.point = .acquiring)
      (heq : s'.listener.state = s.listener.state.onAcquired host mem slot)
  | cleared (heq : s'.listener.state = s.listener.state.clear)

section ListenerMoves

variable {host : Host} {mem : ListenerMemory} {s s' : ServerProcess} {m : ProcessMove}

theorem listener_moved (hstep : serverProcess host mem s m = some s') :
    ListenerMoved host mem s m s' := by
  cases m with
  | listener e =>
      obtain ⟨hcall, state, hloop, rfl⟩ := listener_eq hstep
      exact .looped e rfl hcall hloop
  | listenerCall =>
      rcases listenerCall_eq hstep with ⟨_, _, _, _, rfl⟩ | ⟨_, slot, hpoint, _, rfl⟩ |
        ⟨_, _, _, _, _, rfl⟩ | ⟨_, _, _, _, rfl⟩ | ⟨_, _, _, _, rfl⟩
      · exact .stayed rfl
      · exact .acquired slot hpoint rfl
      · exact .stayed rfl
      · exact .cleared rfl
      · exact .stayed rfl
  | taskArgs allocated =>
      obtain ⟨_, _, _, _, rfl⟩ := taskArgs_eq hstep
      exact .stayed rfl
  | create =>
      obtain ⟨_, _, _, _, rfl⟩ := create_eq hstep
      exact .cleared rfl
  | createFailed handle =>
      obtain ⟨_, _, _, _, rfl⟩ := createFailed_eq hstep
      exact .cleared rfl
  | begin k =>
      obtain ⟨_, _, _, rfl⟩ := begin_eq hstep
      exact .stayed rfl
  | task k e =>
      obtain ⟨_, _, _, _, _, _, _, rfl⟩ := task_eq hstep
      exact .stayed rfl
  | taskRelease k =>
      rcases taskRelease_eq hstep with ⟨_, _, _, _, _, rfl⟩ | ⟨_, _, _, _, _, _, _, _, rfl⟩ |
        ⟨_, _, _, _, _, _, _, rfl⟩
      · exact .stayed rfl
      · exact .stayed rfl
      · exact .stayed rfl

/-- In its calls the listener leaves the tasks alone. -/
theorem tasks_listenerCall (hstep : serverProcess host mem s .listenerCall = some s') :
    s'.tasks = s.tasks := by
  rcases listenerCall_eq hstep with ⟨_, _, _, _, rfl⟩ | ⟨_, _, _, _, rfl⟩ |
    ⟨_, _, _, _, _, rfl⟩ | ⟨_, _, _, _, rfl⟩ | ⟨_, _, _, _, rfl⟩
  · rfl
  · rfl
  · rfl
  · rfl
  · rfl

/-- The listener's buffer stays clear for the next request, whoever takes the step. -/
theorem cleared_process (h : s.listener.state.Cleared)
    (hstep : serverProcess host mem s m = some s') : s'.listener.state.Cleared := by
  cases listener_moved hstep with
  | stayed heq =>
      rw [heq]
      exact h
  | looped e hm hcall hloop => exact ListenerState.cleared_step h hloop
  | acquired slot hpoint heq =>
      rw [heq]
      exact ListenerState.cleared_onAcquired slot
  | cleared heq =>
      rw [heq]
      exact ListenerState.cleared_clear

end ListenerMoves

/-! ### What becomes of a task -/

/-- All that a step of the server may do to a task that is there. -/
inductive TaskMoved (host : Host) (s : ServerProcess) (m : ProcessMove) (k : Nat)
    (task : TaskThread) : TaskThread → Prop
  | stayed : TaskMoved host s m k task task
  | began (hm : m = .begin k) (hstate : task.state = none) :
      TaskMoved host s m k task (task.onBegin (s.slots.opDataPtr task.slot))
  | called (e : Event) (state state' : TaskState) (hm : m = .task k e)
      (hstate : task.state = some state) (hnot : ∀ result, state ≠ .releasing result)
      (hcall : serverTaskStart host state e = some state') :
      TaskMoved host s m k task (task.enter state')
  | detached (result : Option Bool) (hm : m = .taskRelease k)
      (hstate : task.state = some (.releasing result)) :
      TaskMoved host s m k task { task with detached := true }
  | releasing (result : Option Bool) (next : ReleasePoint) (hm : m = .taskRelease k)
      (hstate : task.state = some (.releasing result)) (hdetached : task.detached = true) :
      TaskMoved host s m k task { task with release := next }
  | released (result : Option Bool) (hm : m = .taskRelease k)
      (hstate : task.state = some (.releasing result)) (hdetached : task.detached = true) :
      TaskMoved host s m k task (task.enter (.ended result))

section Moved

variable {host : Host} {s : ServerProcess} {m : ProcessMove} {k : Nat} {task task' : TaskThread}

/-- The operation of every transfer is where its control point says. -/
def TaskThread.Tidy (task : TaskThread) : Prop :=
  ∀ state, task.state = some state → state.Tidy

namespace TaskMoved

theorem slot (h : TaskMoved host s m k task task') : task'.slot = task.slot := by
  cases h <;> rfl

/-- A task that has begun does not begin again. -/
theorem begun (h : TaskMoved host s m k task task') (hbegun : task.state ≠ none) :
    task'.state ≠ none := by
  cases h with
  | stayed => exact hbegun
  | began hm hstate => exact absurd hstate hbegun
  | called e state state' hm hstate hnot hcall => exact Option.some_ne_none _
  | detached result hm hstate => exact hbegun
  | releasing result next hm hstate hdetached => exact hbegun
  | released result hm hstate hdetached => exact Option.some_ne_none _

theorem tidy (h : TaskMoved host s m k task task') (htidy : task.Tidy) : task'.Tidy := by
  cases h with
  | stayed => exact htidy
  | began hm hstate =>
      intro state heq
      obtain rfl := Option.some.inj heq
      cases s.slots.opDataPtr task.slot <;> trivial
  | called e state state' hm hstate hnot hcall =>
      intro state₁ heq
      obtain rfl := Option.some.inj heq
      exact (TaskState.accounts_step (htidy state hstate) hcall).tidy
  | detached result hm hstate => exact htidy
  | releasing result next hm hstate hdetached => exact htidy
  | released result hm hstate hdetached =>
      intro state heq
      obtain rfl := Option.some.inj heq
      trivial

/-- A task that has ended stays so. -/
theorem live (h : TaskMoved host s m k task task') (hlive : task'.Live) : task.Live := by
  cases h with
  | stayed => exact hlive
  | began hm hstate => simp [TaskThread.Live, TaskThread.ended, hstate]
  | called e state state' hm hstate hnot hcall =>
      unfold TaskThread.Live TaskThread.ended
      split
      · rename_i hended
        rw [hstate] at hended
        obtain rfl := Option.some.inj hended
        cases hcall
      · rfl
  | detached result hm hstate => exact hlive
  | releasing result next hm hstate hdetached => exact hlive
  | released result hm hstate hdetached => cases hlive

/-- A task ends behind `pthread_detach`, which is for good. -/
theorem detached_of_ended (h : TaskMoved host s m k task task') (htidy : task.Tidy)
    (hbefore : ¬ task.Live → task.detached = true) (hended : ¬ task'.Live) :
    task'.detached = true := by
  cases h with
  | stayed => exact hbefore hended
  | began hm hstate =>
      refine absurd ?_ hended
      cases hop : s.slots.opDataPtr task.slot <;> rfl
  | called e state state' hm hstate hnot hcall =>
      refine absurd ?_ hended
      cases state' with
      | ended result =>
          have hreleasing := (TaskState.accounts_step (htidy state hstate) hcall).ended result rfl
          exact absurd hreleasing (hnot result)
      | _ => rfl
  | detached result hm hstate => rfl
  | releasing result next hm hstate hdetached => exact hdetached
  | released result hm hstate hdetached => exact hdetached

end TaskMoved

end Moved

section Origin

variable {host : Host} {mem : ListenerMemory} {s s' : ServerProcess} {m : ProcessMove}
  {j k : Nat} {task task' : TaskThread}

/-- A task set in the list is that one, or one that stayed. -/
theorem TaskMoved.of_setTask (hj : s.tasks[j]? = some task)
    (hmoved : TaskMoved host s m j task task') {other : TaskThread}
    (hother : (s.setTask j task').tasks[k]? = some other) :
    ∃ before, s.tasks[k]? = some before ∧ TaskMoved host s m k before other := by
  have hlt : j < s.tasks.length := (List.getElem?_eq_some_iff.mp hj).1
  simp only [ServerProcess.setTask] at hother
  by_cases hk : j = k
  · subst hk
    rw [List.getElem?_set_self hlt] at hother
    obtain rfl := Option.some.inj hother
    exact ⟨task, hj, hmoved⟩
  · rw [List.getElem?_set_ne hk] at hother
    exact ⟨other, hother, .stayed⟩

theorem tasks_length_le (hstep : serverProcess host mem s m = some s') :
    s.tasks.length ≤ s'.tasks.length := by
  cases m with
  | listener e =>
      obtain ⟨_, _, _, rfl⟩ := listener_eq hstep
      exact le_refl _
  | listenerCall =>
      rw [tasks_listenerCall hstep]
  | taskArgs allocated =>
      obtain ⟨_, _, _, _, rfl⟩ := taskArgs_eq hstep
      exact le_refl _
  | create =>
      obtain ⟨_, _, _, _, rfl⟩ := create_eq hstep
      simp
  | createFailed handle =>
      obtain ⟨_, _, _, _, rfl⟩ := createFailed_eq hstep
      exact le_refl _
  | begin j =>
      obtain ⟨_, _, _, rfl⟩ := begin_eq hstep
      simp [ServerProcess.setTask]
  | task j e =>
      obtain ⟨_, _, _, _, _, _, _, rfl⟩ := task_eq hstep
      simp [ServerProcess.setTask]
  | taskRelease j =>
      rcases taskRelease_eq hstep with ⟨_, _, _, _, _, rfl⟩ | ⟨_, _, _, _, _, _, _, _, rfl⟩ |
        ⟨_, _, _, _, _, _, _, rfl⟩
      · simp [ServerProcess.setTask]
      · simp [ServerProcess.setTask]
      · simp [ServerProcess.setTask]

/-- A task behind a step was there before, or has just been created. -/
theorem task_origin (hstep : serverProcess host mem s m = some s')
    (htask : s'.tasks[k]? = some task') :
    (∃ task, s.tasks[k]? = some task ∧ TaskMoved host s m k task task') ∨
      ∃ slot op, m = .create ∧ k = s.tasks.length ∧
        s.listener.state.point = .spawning slot op ∧ s.listener.spawn = .creating ∧
        task' = .create slot := by
  cases m with
  | listener e =>
      obtain ⟨-, state, -, rfl⟩ := listener_eq hstep
      exact Or.inl ⟨task', htask, .stayed⟩
  | listenerCall =>
      rw [tasks_listenerCall hstep] at htask
      exact Or.inl ⟨task', htask, .stayed⟩
  | taskArgs allocated =>
      obtain ⟨-, -, -, -, rfl⟩ := taskArgs_eq hstep
      exact Or.inl ⟨task', htask, .stayed⟩
  | create =>
      obtain ⟨slot, op, hpoint, hspawn, rfl⟩ := create_eq hstep
      -- the new task stands behind the others
      rcases Nat.lt_or_ge k s.tasks.length with hlt | hge
      · rw [List.getElem?_append_left hlt] at htask
        exact Or.inl ⟨task', htask, .stayed⟩
      · rw [List.getElem?_append_right hge, List.getElem?_singleton] at htask
        split at htask
        · refine Or.inr ⟨slot, op, rfl, by omega, hpoint, hspawn, ?_⟩
          exact (Option.some.inj htask).symm
        · cases htask
  | createFailed handle =>
      obtain ⟨slot, op, -, -, rfl⟩ := createFailed_eq hstep
      exact Or.inl ⟨task', htask, .stayed⟩
  | begin j =>
      obtain ⟨task, hj, hstate, rfl⟩ := begin_eq hstep
      exact Or.inl (TaskMoved.of_setTask hj (.began rfl hstate) htask)
  | task j e =>
      obtain ⟨task, state, state', hj, hstate, hnot, hcall, rfl⟩ := task_eq hstep
      exact Or.inl (TaskMoved.of_setTask hj (.called e state state' rfl hstate hnot hcall) htask)
  | taskRelease j =>
      cases taskRelease_eq hstep with
      | detached task result hj hstate hdetached heq =>
          subst heq
          exact Or.inl (TaskMoved.of_setTask hj (.detached result rfl hstate) htask)
      | releasing task result slots next hj hstate hdetached hcall heq =>
          subst heq
          exact Or.inl (TaskMoved.of_setTask hj (.releasing result next rfl hstate hdetached) htask)
      | released task result slots hj hstate hdetached hcall heq =>
          subst heq
          exact Or.inl (TaskMoved.of_setTask hj (.released result rfl hstate hdetached) htask)

/-- No task is forgotten. -/
theorem task_kept (hstep : serverProcess host mem s m = some s')
    (htask : s.tasks[k]? = some task) :
    ∃ task', s'.tasks[k]? = some task' ∧ TaskMoved host s m k task task' := by
  have hlt : k < s.tasks.length := (List.getElem?_eq_some_iff.mp htask).1
  have hlength : s.tasks.length ≤ s'.tasks.length := tasks_length_le hstep
  obtain ⟨task', htask'⟩ : ∃ task', s'.tasks[k]? = some task' :=
    ⟨_, List.getElem?_eq_getElem (by omega)⟩
  rcases task_origin hstep htask' with ⟨before, hbefore, hmoved⟩ | ⟨slot, op, -, hk, -⟩
  · rw [htask] at hbefore
    obtain rfl := Option.some.inj hbefore
    exact ⟨task', htask', hmoved⟩
  · omega

end Origin

end Stftpu
