import Stftpu.Server.Process

/-!
# The slots over a run

What the threads of the server are doing with the slots, read off their control points.

* `ServerProcess.phase` — what each thread is doing.
* `SlotsOk.process` — every step of every thread keeps the slots in order.
* `slots_exclusive` — the slots over any run of the server.
-/

namespace Stftpu

open Library

/-! ## The slots of the threads -/

/-- The slot the listener has between the search and the end of the request. -/
def ListenerPoint.slot : ListenerPoint → Option Nat
  | .initializing slot _ => some slot
  | .rejecting slot _ _ _ => some slot
  | .closing slot _ => some slot
  | .releasing slot => some slot
  | .spawning slot _ => some slot
  | _ => none

def ListenerThread.phase (listener : ListenerThread) : SlotPhase :=
  match listener.state.point with
  | .acquiring => .acquiring listener.acquire
  | .releasing slot => .releasing slot listener.release
  | .initializing slot _ => .holding slot
  | .rejecting slot _ _ _ => .holding slot
  | .closing slot _ => .holding slot
  | .spawning slot _ => .holding slot
  | _ => .away

def TaskThread.phase (task : TaskThread) : SlotPhase :=
  match task.state with
  | some (.releasing _) => .releasing task.slot task.release
  | some (.ended _) => .away
  | _ => .holding task.slot

/-- What each thread is doing with the slots. -/
def ServerProcess.phase (s : ServerProcess) : ServerThread → SlotPhase
  | .listener => s.listener.phase
  | .task k => (s.tasks[k]?).elim .away TaskThread.phase

section Listener

variable {host : Host} {mem : ListenerMemory} {s s' : ListenerState} {e : Event} {i : Nat}

theorem phase_enter_critical (s : ListenerState) :
    (ListenerThread.enter s).phase.critical = false := by
  cases hpoint : s.point <;> simp [ListenerThread.enter, ListenerThread.phase, hpoint,
    SlotPhase.critical]

theorem phase_enter_slot (s : ListenerState) :
    (ListenerThread.enter s).phase.slot = s.point.slot := by
  cases hpoint : s.point <;> simp [ListenerThread.enter, ListenerThread.phase, hpoint,
    SlotPhase.slot, ListenerPoint.slot]

theorem slot_refuse (reply : ErrorReply) : (s.refuse reply).point.slot = none := by
  unfold ListenerState.refuse
  split <;> rfl

theorem slot_dispatch : (s.dispatch host mem).point.slot = none := by
  unfold ListenerState.dispatch
  split
  · rfl
  · split
    · rfl
    · split
      · rfl
      · split
        · rfl
        · exact slot_refuse _

/-- The listener has the slot it was given, or gave up. -/
theorem slot_onAcquired {slot : Option Nat}
    (h : (s.onAcquired host mem slot).point.slot = some i) : slot = some i := by
  unfold ListenerState.onAcquired at h
  split at h
  · rw [slot_refuse] at h
    cases h
  · split at h
    · cases h
    · exact h
    · exact h

theorem slot_freeOperationData {slot : Nat} {fd : Int} :
    (s.freeOperationData slot fd).point.slot = some slot := by
  unfold ListenerState.freeOperationData
  split <;> rfl

theorem slot_onInitialized {slot : Nat} {args : InitArguments} {socket : DataSocket}
    (h : (s.onInitialized slot args socket).point.slot = some i) : slot = i := by
  unfold ListenerState.onInitialized at h
  split at h
  · split at h <;> cases h
  · cases h
  · split at h
    · exact Option.some.inj h
    · rw [slot_freeOperationData] at h
      exact Option.some.inj h
  · exact Option.some.inj h

/-- Outside its calls the listener keeps its slot, or gives up. -/
theorem slot_step (hcall : s.point.inCall = false)
    (hstep : serverListenerLoop host mem s e = some s') (h : s'.point.slot = some i) :
    s.point.slot = some i := by
  cases loop_called hstep with
  | looping set hpoint => cases set <;> cases h
  | awaiting result hpoint => cases result <;> cases h
  | received set hpoint =>
      cases set with
      | true => cases h
      | false =>
          rw [if_neg Bool.false_ne_true, slot_dispatch] at h
          cases h
  | refusing reply ok hpoint => cases h
  | initializing slot args socket hpoint =>
      rw [hpoint, ← slot_onInitialized h]
      rfl
  | rejecting slot fd client reply ok hpoint =>
      rw [slot_freeOperationData] at h
      rw [hpoint]
      exact h
  | closing slot fd hpoint =>
      rw [hpoint]
      exact h
  | acquiring slot hpoint | releasing slot hpoint | spawning slot op ok hpoint =>
      -- the calls of several steps
      rw [hpoint] at hcall
      cases hcall

end Listener

section Tasks

variable {host : Host} {task : TaskThread} {state state' : TaskState} {e : Event} {i : Nat}

theorem phase_task_enter_critical (task : TaskThread) (state : TaskState) :
    (task.enter state).phase.critical = false := by
  cases state <;> rfl

theorem phase_task_slot (h : task.phase.slot = some i) : task.slot = i ∧ task.Live := by
  unfold TaskThread.phase at h
  unfold TaskThread.Live TaskThread.ended
  split at h
  · rename_i hstate
    rw [hstate]
    exact ⟨Option.some.inj h, rfl⟩
  · cases h
  · rename_i hnot
    refine ⟨Option.some.inj h, ?_⟩
    split
    · exact absurd ‹_› (hnot _)
    · rfl

theorem slot_phase_of_live (h : task.Live) : task.phase.slot = some task.slot := by
  unfold TaskThread.Live TaskThread.ended at h
  unfold TaskThread.phase
  cases hstate : task.state with
  | none => rfl
  | some state =>
      rw [hstate] at h
      cases state with
      | ended result => cases h
      | _ => rfl

end Tasks

/-! ## Every step keeps the slots in order -/

namespace ServerProcess

variable {s : ServerProcess} {slots : ServerSlots} {k : Nat} {task task' : TaskThread}

theorem phase_listener (s : ServerProcess) (slots : ServerSlots) (listener : ListenerThread) :
    { s with listener := listener, slots := slots : ServerProcess }.phase =
      Function.update s.phase .listener listener.phase := by
  funext t
  cases t with
  | listener => rw [Function.update_self]; rfl
  | task k => rw [Function.update_of_ne (by simp)]; rfl

theorem phase_of_task (h : s.tasks[k]? = some task) : s.phase (.task k) = task.phase := by
  simp [phase, h]

theorem phase_acquiring (hpoint : s.listener.state.point = .acquiring) :
    s.phase .listener = .acquiring s.listener.acquire := by
  simp [phase, ListenerThread.phase, hpoint]

theorem phase_releasing {slot : Nat} (hpoint : s.listener.state.point = .releasing slot) :
    s.phase .listener = .releasing slot s.listener.release := by
  simp [phase, ListenerThread.phase, hpoint]

theorem phase_task_releasing {result : Option Bool} (htask : s.tasks[k]? = some task)
    (hstate : task.state = some (.releasing result)) :
    s.phase (.task k) = .releasing task.slot task.release := by
  rw [phase_of_task htask, TaskThread.phase, hstate]

theorem phase_setTask (slots : ServerSlots) (task' : TaskThread) (h : s.tasks[k]? = some task) :
    { s.setTask k task' with slots := slots : ServerProcess }.phase =
      Function.update s.phase (.task k) task'.phase := by
  have hlt : k < s.tasks.length := (List.getElem?_eq_some_iff.mp h).1
  funext t
  cases t with
  | listener => rw [Function.update_of_ne (by simp)]; rfl
  | task j =>
      by_cases hj : j = k
      · subst hj
        simp [phase, setTask, hlt]
      · rw [Function.update_of_ne (by simp [hj])]
        simp [phase, setTask, List.getElem?_set_ne (Ne.symm hj)]

theorem phase_setTask_slots (task' : TaskThread) (h : s.tasks[k]? = some task) :
    (s.setTask k task').phase = Function.update s.phase (.task k) task'.phase :=
  phase_setTask s.slots task' h

/-- A task that is created takes the number behind the others. -/
theorem phase_append (s : ServerProcess) (slots : ServerSlots) (listener : ListenerThread)
    (task : TaskThread) :
    { listener := listener, slots := slots, tasks := s.tasks ++ [task] : ServerProcess }.phase =
      Function.update (Function.update s.phase .listener listener.phase)
        (.task s.tasks.length) task.phase := by
  funext t
  cases t with
  | listener => rw [Function.update_of_ne (by simp), Function.update_self]; rfl
  | task j =>
      by_cases hj : j = s.tasks.length
      · subst hj
        simp [phase]
      · rw [Function.update_of_ne (by simp [hj]), Function.update_of_ne (by simp)]
        rcases Nat.lt_or_gt_of_ne hj with hlt | hgt
        · simp [phase, List.getElem?_append_left hlt]
        · have hbehind : (s.tasks ++ [task]).length ≤ j := by simp; omega
          simp [phase, List.getElem?_eq_none hbehind, List.getElem?_eq_none (Nat.le_of_lt hgt)]

end ServerProcess

section Process

variable {host : Host} {mem : ListenerMemory} {s s' : ServerProcess} {m : ProcessMove}
  {e : Event} {k : Nat} {task : TaskThread}

namespace SlotsOk

/-- The listener behind a step of its loop has the slot it had, or none. -/
theorem entered {slots : ServerSlots} {phase : ServerThread → SlotPhase}
    (h : SlotsOk slots phase) (state : ListenerState)
    (hcrit : (phase .listener).critical = false)
    (hslot : ∀ i, state.point.slot = some i → (phase .listener).slot = some i) :
    SlotsOk slots (Function.update phase .listener (ListenerThread.enter state).phase) := by
  refine h.moved hcrit (phase_enter_critical state) ?_
  intro i hi
  rw [phase_enter_slot] at hi
  exact hslot i hi

/-- The fields of the slots that only the listener and the tasks' operations use. -/
theorem other_fields {slots slots' : ServerSlots} {phase : ServerThread → SlotPhase}
    (h : SlotsOk slots phase) (hcount : slots'.freeSlotsCount = slots.freeSlotsCount)
    (hmutex : slots'.slotsMutex = slots.slotsMutex)
    (hflags : slots'.slotOccupiedFlags = slots.slotOccupiedFlags) : SlotsOk slots' phase := by
  constructor
  case mutex => rw [hmutex]; exact h.mutex
  case count => rw [hcount, hmutex, hflags]; exact h.count
  case lt => exact h.lt
  case flagged => rw [hflags]; exact h.flagged
  case apart => exact h.apart
  case knows => rw [hflags]; exact h.knows

theorem listenerCall (h : SlotsOk s.slots s.phase) (hcalled : ListenerCalled host mem s s') :
    SlotsOk s'.slots s'.phase := by
  cases hcalled with
  | acquiring slots next hpoint hcall heq =>
      have hslots := h.acquire (ServerProcess.phase_acquiring hpoint) hcall
      subst heq
      rw [ServerProcess.phase_listener]
      simpa [ListenerThread.phase, SlotPhase.afterAcquire, hpoint] using hslots
  | acquired slots slot hpoint hcall heq =>
      have hslots := h.acquire (ServerProcess.phase_acquiring hpoint) hcall
      have hentered := hslots.entered (s.listener.state.onAcquired host mem slot) ?_ ?_
      · subst heq
        rw [ServerProcess.phase_listener]
        rwa [Function.update_idem] at hentered
      · cases slot <;> simp [SlotPhase.afterAcquire, SlotPhase.critical]
      · intro i hi
        simp [slot_onAcquired hi, SlotPhase.afterAcquire, SlotPhase.slot]
  | releasing slot slots next hpoint hcall heq =>
      have hslots := h.release (ServerProcess.phase_releasing hpoint) hcall
      subst heq
      rw [ServerProcess.phase_listener]
      simpa [ListenerThread.phase, SlotPhase.afterRelease, hpoint] using hslots
  | released slot slots hpoint hcall heq =>
      have hslots := h.release (ServerProcess.phase_releasing hpoint) hcall
      have hentered := hslots.entered s.listener.state.clear ?_ ?_
      · subst heq
        rw [ServerProcess.phase_listener]
        rwa [Function.update_idem] at hentered
      · simp [SlotPhase.afterRelease, SlotPhase.critical]
      · intro i hi
        cases hi
  | stored slot op hpoint hspawn heq =>
      -- `op_data_ptr` is no part of what the slots are accounted for
      have hphase := ServerProcess.phase_listener s
        { s.slots with opDataPtr := Function.update s.slots.opDataPtr slot (some op) }
        { s.listener with spawn := .allocating }
      have hsame : ({ s.listener with spawn := .allocating } : ListenerThread).phase =
        s.phase .listener := rfl
      subst heq
      rw [hphase, hsame, Function.update_eq_self]
      exact h.other_fields rfl rfl rfl

theorem taskRelease (h : SlotsOk s.slots s.phase) (hreleased : TaskReleased s k s') :
    SlotsOk s'.slots s'.phase := by
  cases hreleased with
  | detached task result htask hstate hdetached heq =>
      have hsame : ({ task with detached := true } : TaskThread).phase = s.phase (.task k) := by
        rw [ServerProcess.phase_of_task htask]
        rfl
      subst heq
      show SlotsOk s.slots _
      rw [ServerProcess.phase_setTask_slots _ htask, hsame, Function.update_eq_self]
      exact h
  | releasing task result slots next htask hstate hdetached hcall heq =>
      have hslots := h.release (ServerProcess.phase_task_releasing htask hstate) hcall
      subst heq
      rw [ServerProcess.phase_setTask slots _ htask]
      simpa [TaskThread.phase, SlotPhase.afterRelease, hstate] using hslots
  | released task result slots htask hstate hdetached hcall heq =>
      have hslots := h.release (ServerProcess.phase_task_releasing htask hstate) hcall
      subst heq
      rw [ServerProcess.phase_setTask slots _ htask]
      exact hslots

/-- A task at work keeps its slot. -/
theorem taskStep (h : SlotsOk s.slots s.phase) {task' : TaskThread}
    (htask : s.tasks[k]? = some task) (hbefore : task.phase = .holding task.slot)
    (hcrit : task'.phase.critical = false)
    (hslot : task'.slot = task.slot) : SlotsOk s.slots (s.setTask k task').phase := by
  have hphase := ServerProcess.phase_of_task htask
  rw [ServerProcess.phase_setTask_slots _ htask]
  refine h.moved ?_ hcrit ?_
  · rw [hphase, hbefore]
    rfl
  · intro i hi
    rw [hphase, hbefore, ← hslot, (phase_task_slot hi).1]
    rfl

/-- Every step of every thread keeps the slots in order. -/
theorem process (h : SlotsOk s.slots s.phase) (hstep : serverProcess host mem s m = some s') :
    SlotsOk s'.slots s'.phase := by
  cases m with
  | listener e =>
      obtain ⟨hcall, state, hloop, rfl⟩ := listener_eq hstep
      rw [ServerProcess.phase_listener]
      refine h.entered state ?_ ?_
      · cases hpoint : s.listener.state.point <;> simp_all [ServerProcess.phase,
          ListenerThread.phase, ListenerPoint.inCall, SlotPhase.critical]
      · intro i hi
        -- outside its calls the listener can only keep its slot
        have hslot := slot_step hcall hloop hi
        cases hpoint : s.listener.state.point <;> simp_all [ServerProcess.phase,
          ListenerThread.phase, ListenerPoint.slot, ListenerPoint.inCall, SlotPhase.slot]
  | listenerCall => exact h.listenerCall (listenerCall_eq hstep)
  | taskArgs allocated =>
      obtain ⟨slot, op, hpoint, hspawn, rfl⟩ := taskArgs_eq hstep
      have hphase := ServerProcess.phase_listener s s.slots
        { s.listener with spawn := if allocated then .creating else .crashed }
      rw [hphase]
      have hsame : ({ s.listener with spawn := if allocated then .creating else .crashed } :
        ListenerThread).phase = s.phase .listener := rfl
      rw [hsame, Function.update_eq_self]
      exact h
  | create =>
      obtain ⟨slot, op, hpoint, hspawn, rfl⟩ := create_eq hstep
      rw [ServerProcess.phase_append]
      -- the slot goes from the listener to the new task
      refine (h.handed (t := .listener) (u := .task s.tasks.length) (i := slot) ?_ ?_).other_fields
        rfl rfl rfl
      · simp [ServerProcess.phase, ListenerThread.phase, hpoint]
      · simp [ServerProcess.phase]
  | createFailed handle =>
      obtain ⟨slot, op, hpoint, hspawn, rfl⟩ := createFailed_eq hstep
      rw [ServerProcess.phase_listener]
      -- the listener goes on without the slot, which nobody has from now on
      refine (h.moved (t := .listener) ?_ rfl ?_).other_fields rfl rfl rfl
      · simp [ServerProcess.phase, ListenerThread.phase, hpoint, SlotPhase.critical]
      · intro i hi
        cases hi
  | begin k =>
      obtain ⟨task, htask, hstate, rfl⟩ := begin_eq hstep
      refine h.taskStep htask ?_ ?_ rfl
      · rw [TaskThread.phase, hstate]
      · cases hop : s.slots.opDataPtr task.slot <;> rfl
  | task k e =>
      obtain ⟨task, state, state', htask, hstate, hnot, hstart, rfl⟩ := task_eq hstep
      refine h.taskStep htask ?_ (phase_task_enter_critical task state') rfl
      rw [TaskThread.phase, hstate]
      cases state with
      | releasing result => exact absurd rfl (hnot result)
      | ended result => cases hstart
      | _ => rfl
  | taskRelease k =>
      exact h.taskRelease (taskRelease_eq hstep)

end SlotsOk

/-! ## The slots over a run -/

namespace ServerProcess

/-- The slot whose `op_data_ptr` a step writes. -/
def stores (s : ServerProcess) (m : ProcessMove) : Option Nat :=
  match m, s.listener.state.point, s.listener.spawn with
  | .listenerCall, .spawning slot _, .storing => some slot
  | _, _, _ => none

/-- `server_acquire_connection_slot` returns -1, and the request is turned away. -/
def TurnsAway (s : ServerProcess) (m : ProcessMove) : Prop :=
  m = .listenerCall ∧ s.listener.state.point = .acquiring ∧
    s.listener.acquire = .unlocking none

/-- Only the listener's store writes an operation into a slot. -/
theorem opDataPtr_step (hstep : serverProcess host mem s m = some s') {i : Nat}
    (h : s.stores m ≠ some i) : s'.slots.opDataPtr i = s.slots.opDataPtr i := by
  cases m with
  | listener e =>
      obtain ⟨-, state, -, rfl⟩ := listener_eq hstep
      rfl
  | listenerCall =>
      cases listenerCall_eq hstep with
      | acquiring slots next hpoint hcall heq =>
          subst heq
          exact congrFun (acquire_frame hcall).1 i
      | acquired slots slot hpoint hcall heq =>
          subst heq
          exact congrFun (acquire_frame hcall).1 i
      | releasing slot slots next hpoint hcall heq =>
          subst heq
          exact congrFun (release_frame hcall).1 i
      | released slot slots hpoint hcall heq =>
          subst heq
          exact congrFun (release_frame hcall).1 i
      | stored slot op hpoint hspawn heq =>
          subst heq
          have hne : i ≠ slot := by
            rintro rfl
            exact h (by simp [stores, hpoint, hspawn])
          exact Function.update_of_ne hne ..
  | taskArgs allocated =>
      obtain ⟨-, -, -, -, rfl⟩ := taskArgs_eq hstep
      rfl
  | create =>
      obtain ⟨-, -, -, -, rfl⟩ := create_eq hstep
      rfl
  | createFailed handle =>
      obtain ⟨-, -, -, -, rfl⟩ := createFailed_eq hstep
      rfl
  | begin k =>
      obtain ⟨-, -, -, rfl⟩ := begin_eq hstep
      rfl
  | task k e =>
      obtain ⟨-, -, -, -, -, -, -, rfl⟩ := task_eq hstep
      rfl
  | taskRelease k =>
      cases taskRelease_eq hstep with
      | detached task result htask hstate hdetached heq =>
          subst heq
          rfl
      | releasing task result slots next htask hstate hdetached hcall heq =>
          subst heq
          exact congrFun (release_frame hcall).1 i
      | released task result slots htask hstate hdetached hcall heq =>
          subst heq
          exact congrFun (release_frame hcall).1 i

theorem slotsOk_start : SlotsOk start.slots start.phase := by
  have hphase : start.phase = fun _ => .away := by
    funext t
    cases t <;> rfl
  rw [hphase]
  exact SlotsOk.init

/-- After every run the slots are in order. -/
theorem slotsOk_of_run {tr : List ProcessMove}
    (h : Run (serverProcess host mem) start tr s) : SlotsOk s.slots s.phase :=
  h.invariant (I := fun s => SlotsOk s.slots s.phase) (fun _ _ _ hs hstep => hs.process hstep)
    slotsOk_start

/-- Live tasks have slots of their own. -/
theorem slot_apart (h : SlotsOk s.slots s.phase) {j : Nat} {other : TaskThread}
    (htask : s.tasks[k]? = some task) (hother : s.tasks[j]? = some other) (hlive : task.Live)
    (hlive' : other.Live) (hslot : task.slot = other.slot) : k = j := by
  have heq : ServerThread.task k = ServerThread.task j := by
    apply h.apart _ _ task.slot
    · rw [phase_of_task htask, slot_phase_of_live hlive]
    · rw [phase_of_task hother, slot_phase_of_live hlive', hslot]
  exact ServerThread.task.inj heq

/-- The listener's slot is no live task's. -/
theorem slot_ne_listener (h : SlotsOk s.slots s.phase) (htask : s.tasks[k]? = some task)
    (hlive : task.Live) {slot : Nat} (hslot : s.listener.phase.slot = some slot) :
    slot ≠ task.slot := by
  rintro rfl
  have heq : ServerThread.listener = ServerThread.task k := by
    apply h.apart .listener (.task k) task.slot hslot
    rw [phase_of_task htask, slot_phase_of_live hlive]
  cases heq

theorem phase_of_stores {slot : Nat} (h : s.stores m = some slot) :
    s.listener.phase.slot = some slot := by
  unfold stores at h
  split at h
  · rename_i hpoint hspawn
    obtain rfl := Option.some.inj h
    simp [ListenerThread.phase, hpoint, SlotPhase.slot]
  · cases h

end ServerProcess

/-- The operation that is to be handed over is in its slot. -/
def ServerProcess.Stored (s : ServerProcess) : Prop :=
  ∀ slot op, s.listener.state.point = .spawning slot op → s.listener.spawn ≠ .storing →
    s.slots.opDataPtr slot = some op

theorem stored_step (h : s.Stored) (hstep : serverProcess host mem s m = some s') :
    s'.Stored := by
  intro slot op hpoint hspawn
  cases m with
  | listener e =>
      obtain ⟨-, state, -, rfl⟩ := listener_eq hstep
      exact absurd rfl hspawn
  | listenerCall =>
      rcases listenerCall_eq hstep with ⟨_, _, hpoint', _, rfl⟩ | ⟨_, _, _, _, rfl⟩ |
        ⟨_, _, _, hpoint', _, rfl⟩ | ⟨_, _, _, _, rfl⟩ | ⟨slot', op', hpoint', _, rfl⟩
      · rw [hpoint'] at hpoint
        cases hpoint
      · exact absurd rfl hspawn
      · rw [hpoint'] at hpoint
        cases hpoint
      · exact absurd rfl hspawn
      · rw [hpoint'] at hpoint
        obtain ⟨rfl, rfl⟩ := ListenerPoint.spawning.inj hpoint
        -- the store itself
        exact Function.update_self ..
  | taskArgs allocated =>
      obtain ⟨slot', op', hpoint', hspawn', rfl⟩ := taskArgs_eq hstep
      exact h slot op hpoint (by rw [hspawn']; simp)
  | create =>
      obtain ⟨_, _, _, _, rfl⟩ := create_eq hstep
      exact absurd rfl hspawn
  | createFailed handle =>
      obtain ⟨_, _, _, _, rfl⟩ := createFailed_eq hstep
      exact absurd rfl hspawn
  | begin k =>
      obtain ⟨_, _, _, rfl⟩ := begin_eq hstep
      exact h slot op hpoint hspawn
  | task k e =>
      obtain ⟨_, _, _, _, _, _, _, rfl⟩ := task_eq hstep
      exact h slot op hpoint hspawn
  | taskRelease k =>
      rcases taskRelease_eq hstep with ⟨_, _, _, _, _, rfl⟩ |
        ⟨_, _, _, _, _, _, _, hcall, rfl⟩ | ⟨_, _, _, _, _, _, hcall, rfl⟩
      · exact h slot op hpoint hspawn
      · exact (congrFun (release_frame hcall).1 slot).trans (h slot op hpoint hspawn)
      · exact (congrFun (release_frame hcall).1 slot).trans (h slot op hpoint hspawn)

/-- What holds of the threads after every step. -/
structure ProcessOk (s : ServerProcess) : Prop where
  slots : SlotsOk s.slots s.phase
  tidy : ∀ (k : Nat) task, s.tasks[k]? = some task → task.Tidy
  stored : s.Stored

theorem ProcessOk.start : ProcessOk ServerProcess.start where
  slots := ServerProcess.slotsOk_start
  tidy := by simp [ServerProcess.start]
  stored := by simp [ServerProcess.Stored, ServerProcess.start, ListenerThread.enter,
    ListenerState.start]

theorem ProcessOk.step (h : ProcessOk s) (hstep : serverProcess host mem s m = some s') :
    ProcessOk s' where
  slots := h.slots.process hstep
  tidy := by
    intro k task htask
    rcases task_origin hstep htask with ⟨before, hbefore, hmoved⟩ | ⟨slot, op, -, -, -, -, rfl⟩
    · exact hmoved.tidy (h.tidy k before hbefore)
    · simp [TaskThread.create, TaskThread.Tidy]
  stored := stored_step h.stored hstep

/-- In every state the server reaches with no thread between lock and unlock, the count is
that of the flags not set; live tasks have slots of their own; nothing is stored into the
slot of a live task; and a request is turned away only when every flag is set. -/
theorem slots_exclusive {tr : List ProcessMove}
    (hrun : Run (serverProcess host mem) ServerProcess.start tr s) :
    (s.slots.slotsMutex = none →
      s.slots.freeSlotsCount = unset serverMaxConnections s.slots.slotOccupiedFlags ∧
        0 ≤ s.slots.freeSlotsCount ∧ s.slots.freeSlotsCount ≤ serverMaxConnections) ∧
    (∀ (k j : Nat) (task other : TaskThread), s.tasks[k]? = some task →
      s.tasks[j]? = some other → task.Live → other.Live → task.slot = other.slot → k = j) ∧
    EveryStep (serverProcess host mem)
      (fun s m => ∀ task ∈ s.tasks, task.Live → s.stores m ≠ some task.slot ∧
        ∀ s' ∈ serverProcess host mem s m,
          s'.slots.opDataPtr task.slot = s.slots.opDataPtr task.slot)
      ServerProcess.start tr ∧
    EveryStep (serverProcess host mem)
      (fun s m => s.TurnsAway m →
        ∀ i < serverMaxConnections, s.slots.slotOccupiedFlags i = true)
      ServerProcess.start tr := by
  have hok := ServerProcess.slotsOk_of_run hrun
  refine ⟨?_, ?_, ?_, ?_⟩
  · intro hfree
    have hcount := hok.count_of_free hfree
    have hle : unset serverMaxConnections s.slots.slotOccupiedFlags ≤ serverMaxConnections :=
      unset_le
    exact ⟨hcount, by omega, by omega⟩
  · intro k j task other htask hother hlive hlive' hslot
    exact ServerProcess.slot_apart hok htask hother hlive hlive' hslot
  · rw [everyStep_iff]
    intro pre m post t _ hpre task hmem hlive
    obtain ⟨k, htask⟩ := List.getElem?_of_mem hmem
    have hstores : t.stores m ≠ some task.slot := by
      intro hstores
      exact ServerProcess.slot_ne_listener (ServerProcess.slotsOk_of_run hpre) htask hlive
        (ServerProcess.phase_of_stores hstores) rfl
    exact ⟨hstores, fun s' hstep => ServerProcess.opDataPtr_step hstep hstores⟩
  · rw [everyStep_iff]
    rintro pre m post t _ hpre ⟨-, hpoint, hacquire⟩
    -- between lock and unlock the flags do not change
    have hknows := (ServerProcess.slotsOk_of_run hpre).knows .listener
    simpa [ServerProcess.phase, ListenerThread.phase, hpoint, hacquire, SlotPhase.Knows]
      using hknows

end Process

section FixedRuns

/-- The listener gets the request for the deletion of `a` and finds the slot free. -/
def arrivalMoves (client : SockAddr) (slot : Nat) : List ProcessMove :=
  [.listener (.poll false),
    .listener (.recvfrom requestBufferSize (.datagram client ([0, 6] ++ ascii "a" ++ [0]))),
    .listener (.poll false)] ++
  List.replicate (slot + 6) .listenerCall

/-- The listener creates a task. -/
def spawnMoves : List ProcessMove :=
  [.listenerCall, .taskArgs true, .create]

/-- A request, from the look at the flag to the task for it. -/
def requestMoves (client : SockAddr) (slot : Nat) (fd : Int) (port : UInt16) :
    List ProcessMove :=
  arrivalMoves client slot ++ [.listener (.dataSocket (.bound fd port))] ++ spawnMoves

/-- The task removes the file, and releases its slot. -/
def removalMoves (client : SockAddr) : List ProcessMove :=
  [.begin 0, .task 0 (.poll false), .task 0 (.sendto client (ackPacket 0) true),
    .task 0 (.fopen (ascii "storage/a") .read none), .task 0 (.fclose 0),
    .task 0 (.remove (ascii "storage/a") none), .task 0 (.sendto client (ackPacket 1) true),
    .task 0 (.close 4)] ++
  List.replicate 5 (.taskRelease 0)

set_option maxRecDepth 4000 in
theorem slots_exclusive_two :
    ∃ s, Run (serverProcess littleHost .strict) .start
        (requestMoves (localhost 50001) 0 4 40001 ++ requestMoves (localhost 50002) 1 5 40002)
        s ∧
      s.tasks.length = 2 ∧ s.slots.freeSlotsCount = 3 ∧
      s.slots.freeSlotsCount = unset serverMaxConnections s.slots.slotOccupiedFlags ∧
      EveryStep (serverProcess littleHost .strict)
        (fun s m => s.TurnsAway m →
          ∀ i < serverMaxConnections, s.slots.slotOccupiedFlags i = true)
        .start
        (requestMoves (localhost 50001) 0 4 40001 ++
          requestMoves (localhost 50002) 1 5 40002) := by
  have hrun : ∃ s, Run (serverProcess littleHost .strict) .start
      (requestMoves (localhost 50001) 0 4 40001 ++ requestMoves (localhost 50002) 1 5 40002)
      s ∧ s.tasks.length = 2 ∧ s.slots.freeSlotsCount = 3 ∧ s.slots.slotsMutex = none :=
    exists_run_of_exec (by decide)
  obtain ⟨s, hrun, hlength, hcount, hfree⟩ := hrun
  obtain ⟨hmutex, -, -, hturned⟩ := slots_exclusive hrun
  exact ⟨s, hrun, hlength, hcount, (hmutex hfree).1, hturned⟩

end FixedRuns

end Stftpu
