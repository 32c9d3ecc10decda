import Stftpu.Server.SlotTable

/-!
# The end of the server

`server_start`: the storage location, the listener loop, a `pthread_join` for the handle of
each slot, and the end of the data.  The handle of a slot is zero until a task has been
created for it and stays behind when the task has ended; a task detaches itself before it
releases its slot.  A `pthread_join` of a thread that can be joined returns behind the end
of that thread; of any other handle the behaviour is undefined, and it returns at once here.

* `serverStart` — one step of the main thread, or of the server's threads.
* `shutdown_orderly` — the shutdown is orderly when each slot, as it is joined, has a task
  that has not detached itself.
-/

namespace Stftpu

open Library

/-- Where `server_start` is. -/
inductive MainPoint
  /-- `server_init_storage_location`. -/
  | storing
  /-- `server_listener_loop`. -/
  | serving
  /-- `pthread_join` of the handle of a slot, or the test of the loop behind the last. -/
  | joining (i : Nat)
  /-- In the `pthread_join` for a slot, of that task. -/
  | waiting (i : Nat) (k : Nat)
  /-- `server_deinit_slots_data`, and `free`. -/
  | deinitializing
  | ended
  deriving DecidableEq, Repr

/-- The server with its main thread; the listener runs on it. -/
structure ServerMain where
  point : MainPoint
  process : ServerProcess

/-- `server_init_data` succeeded. -/
def ServerMain.start : ServerMain :=
  { point := .storing, process := ServerProcess.start }

inductive MainMove
  /-- `server_init_storage_location` returned. -/
  | storage (ok : Bool)
  /-- A step of the listener or of a task. -/
  | process (m : ProcessMove)
  /-- The listener loop has returned. -/
  | listenerEnded
  /-- `pthread_join` is called. -/
  | join
  /-- `pthread_join` returns. -/
  | joined
  /-- The loop over the slots ends. -/
  | allJoined
  /-- `server_deinit_slots_data`. -/
  | deinit
  deriving DecidableEq, Repr

/-- `pthread_join` may be called with the handle: `pthread_create` created the thread, and it
has not been detached. -/
def ServerProcess.Joinable (s : ServerProcess) (k : Nat) : Prop :=
  (s.tasks[k]?).any (fun task => !task.detached) = true

instance (s : ServerProcess) : DecidablePred s.Joinable :=
  fun _ => inferInstanceAs (Decidable (_ = _))

/-- What `pthread_join` is called for. -/
def joinHandle (s : ServerProcess) (i : Nat) : Option Nat → MainPoint
  | some k => if s.Joinable k then .waiting i k else .joining (i + 1)
  | none => .joining (i + 1)

/-- A step of the listener, which runs on the main thread. -/
def ProcessMove.onMain : ProcessMove → Bool
  | .begin _ => false
  | .task _ _ => false
  | .taskRelease _ => false
  | _ => true

/-- One step of the main thread in `server_start`, or of the threads of the server. -/
def serverStart (host : Host) (mem : ListenerMemory) (s : ServerMain) (m : MainMove) :
    Option ServerMain :=
  match m with
  | .process m =>
      if s.point = .ended ∨ m.onMain = true ∧ s.point ≠ .serving then
        none
      else
        (serverProcess host mem s.process m).map fun process => { s with process := process }
  | .storage ok =>
      if s.point = .storing then
        some { s with point := if ok then .serving else .deinitializing }
      else
        none
  | .listenerEnded =>
      if s.point = .serving ∧ s.process.listener.state.point = .ended then
        some { s with point := .joining 0 }
      else
        none
  | .join =>
      match s.point with
      | .joining i =>
          if i < serverMaxConnections then
            some
              { s with point := joinHandle s.process i (s.process.slots.slotThreadHandles i) }
          else
            none
      | _ => none
  | .joined =>
      match s.point with
      | .waiting i k =>
          if (s.process.tasks[k]?).all (fun task => !decide task.Live) then
            some { s with point := .joining (i + 1) }
          else
            none
      | _ => none
  | .allJoined =>
      match s.point with
      | .joining i =>
          if i < serverMaxConnections then none else some { s with point := .deinitializing }
      | _ => none
  | .deinit =>
      if s.point = .deinitializing then some { s with point := .ended } else none

/-! ## Handles -/

section Handles

variable {host : Host} {mem : ListenerMemory} {s s' : ServerProcess} {m : ProcessMove}
  {k : Nat} {task : TaskThread}

/-- Only `pthread_create` writes a handle. -/
theorem handles_step (hstep : serverProcess host mem s m = some s') (hcreate : m ≠ .create)
    (hfailed : ∀ handle, m ≠ .createFailed handle) :
    s'.slots.slotThreadHandles = s.slots.slotThreadHandles := by
  cases m with
  | listener e =>
      obtain ⟨-, state, -, rfl⟩ := listener_eq hstep
      rfl
  | listenerCall =>
      rcases listenerCall_eq hstep with ⟨_, _, _, hcall, rfl⟩ | ⟨_, _, _, hcall, rfl⟩ |
        ⟨_, _, _, _, hcall, rfl⟩ | ⟨_, _, _, hcall, rfl⟩ | ⟨_, _, _, _, rfl⟩
      · exact (acquire_frame hcall).2
      · exact (acquire_frame hcall).2
      · exact (release_frame hcall).2
      · exact (release_frame hcall).2
      · rfl
  | taskArgs allocated =>
      obtain ⟨_, _, _, _, rfl⟩ := taskArgs_eq hstep
      rfl
  | create => exact absurd rfl hcreate
  | createFailed handle => exact absurd rfl (hfailed handle)
  | begin k =>
      obtain ⟨_, _, _, rfl⟩ := begin_eq hstep
      rfl
  | task k e =>
      obtain ⟨_, _, _, _, _, _, _, rfl⟩ := task_eq hstep
      rfl
  | taskRelease k =>
      rcases taskRelease_eq hstep with ⟨_, _, _, _, _, rfl⟩ | ⟨_, _, _, _, _, _, _, hcall, rfl⟩ |
        ⟨_, _, _, _, _, _, hcall, rfl⟩
      · rfl
      · exact (release_frame hcall).2
      · exact (release_frame hcall).2

/-- A handle that is written is that of the listener's slot. -/
theorem handle_written (hstep : serverProcess host mem s m = some s') (i : Nat) :
    s'.slots.slotThreadHandles i = s.slots.slotThreadHandles i ∨
      ∃ slot, s.listener.phase.slot = some slot ∧
        ∀ j, j ≠ slot → s'.slots.slotThreadHandles j = s.slots.slotThreadHandles j := by
  have hspawning : ∀ {slot op}, s.listener.state.point = .spawning slot op →
      s.listener.phase.slot = some slot := by
    intro slot op hpoint
    simp [ListenerThread.phase, hpoint, SlotPhase.slot]
  cases m with
  | create =>
      obtain ⟨slot, op, hpoint, -, rfl⟩ := create_eq hstep
      exact Or.inr ⟨slot, hspawning hpoint, fun j hj => Function.update_of_ne hj ..⟩
  | createFailed handle =>
      obtain ⟨slot, op, hpoint, -, rfl⟩ := createFailed_eq hstep
      exact Or.inr ⟨slot, hspawning hpoint, fun j hj => Function.update_of_ne hj ..⟩
  | _ => exact Or.inl (congrFun (handles_step hstep (by simp) (by simp)) i)

/-- What the handles and the tasks say of each other. -/
structure HandlesOk (s : ServerProcess) : Prop extends ProcessOk s where
  /-- The handle of a live task's slot is its own. -/
  live : ∀ k task, s.tasks[k]? = some task → task.Live →
    s.slots.slotThreadHandles task.slot = some k
  /-- A task that has ended has detached itself. -/
  ended : ∀ (k : Nat) task, s.tasks[k]? = some task → ¬ task.Live → task.detached = true

theorem HandlesOk.start : HandlesOk ServerProcess.start where
  toProcessOk := ProcessOk.start
  live := by simp [ServerProcess.start]
  ended := by simp [ServerProcess.start]

theorem HandlesOk.step (h : HandlesOk s) (hstep : serverProcess host mem s m = some s') :
    HandlesOk s' where
  toProcessOk := h.toProcessOk.step hstep
  live := by
    intro k task htask hlive
    rcases task_origin hstep htask with
      ⟨before, hbefore, hmoved⟩ | ⟨slot, op, rfl, rfl, hpoint, hspawn, rfl⟩
    · have hlive' := hmoved.live hlive
      have hhandle := h.live k before hbefore hlive'
      rw [hmoved.slot]
      rcases handle_written hstep before.slot with hsame | ⟨slot, hslot, hothers⟩
      · rw [hsame, hhandle]
      · -- the slot of the handle written is the listener's
        have hne := ServerProcess.slot_ne_listener h.slots hbefore hlive' hslot
        rw [hothers before.slot hne.symm, hhandle]
    · obtain ⟨slot', op', hpoint', -, rfl⟩ := create_eq hstep
      rw [hpoint] at hpoint'
      obtain ⟨rfl, rfl⟩ := ListenerPoint.spawning.inj hpoint'
      exact Function.update_self ..
  ended := by
    intro k task htask hended
    rcases task_origin hstep htask with ⟨before, hbefore, hmoved⟩ | ⟨slot, op, -, -, -, -, rfl⟩
    · exact hmoved.detached_of_ended (h.tidy k before hbefore) (h.ended k before hbefore) hended
    · exact absurd rfl hended

/-- A step of a task creates no task and writes no handle. -/
theorem step_of_task (hmain : m.onMain = false)
    (hstep : serverProcess host mem s m = some s') :
    s'.slots.slotThreadHandles = s.slots.slotThreadHandles ∧
      ∀ task' ∈ s'.tasks, ∃ task ∈ s.tasks, task'.slot = task.slot ∧
        (task'.Live → task.Live) := by
  have hcreate : m ≠ .create := by
    rintro rfl
    cases hmain
  have hfailed : ∀ handle, m ≠ .createFailed handle := by
    rintro handle rfl
    cases hmain
  refine ⟨handles_step hstep hcreate hfailed, ?_⟩
  intro task' hmem
  obtain ⟨k, htask'⟩ := List.getElem?_of_mem hmem
  rcases task_origin hstep htask' with ⟨task, htask, hmoved⟩ | ⟨slot, op, rfl, -⟩
  · exact ⟨task, List.mem_of_getElem? htask, hmoved.slot, hmoved.live⟩
  · exact absurd rfl hcreate

end Handles

/-! ## The shutdown -/

namespace ServerMain

/-- What is required of a step of the shutdown: `pthread_join` is called with the handle of
a thread that can be joined, and no task is still to access the slots when they are
destroyed. -/
def Orderly (s : ServerMain) (m : MainMove) : Prop :=
  match m, s.point with
  | .join, .joining i => ∃ k ∈ s.process.slots.slotThreadHandles i, s.process.Joinable k
  | .deinit, _ => ∀ task ∈ s.process.tasks, ¬ task.Live
  | _, _ => True

/-- A slot that is joined has a task that has not reached `pthread_detach`. -/
def Attended (s : ServerMain) (m : MainMove) : Prop :=
  match m, s.point with
  | .join, .joining i => ∃ task ∈ s.process.tasks, task.slot = i ∧ task.detached = false
  | _, _ => True

instance (s : ServerMain) : DecidablePred s.Attended := fun m => by
  unfold Attended
  cases m with
  | join => cases s.point with
    | joining i =>
        exact inferInstanceAs
          (Decidable (∃ task ∈ s.process.tasks, task.slot = i ∧ task.detached = false))
    | _ => exact isTrue trivial
  | _ => exact isTrue trivial

/-- What holds of the main thread and the tasks as long as the shutdown is orderly. -/
structure Ok (s : ServerMain) : Prop where
  handles : HandlesOk s.process
  /-- The slots before the one that is joined have no live tasks. -/
  joining : ∀ i, s.point = .joining i → ∀ task ∈ s.process.tasks, task.Live → i ≤ task.slot
  waiting : ∀ i k, s.point = .waiting i k → s.process.slots.slotThreadHandles i = some k ∧
    ∀ task ∈ s.process.tasks, task.Live → i ≤ task.slot
  storing : s.point = .storing → s.process.tasks = []
  deinitializing : s.point = .deinitializing → ∀ task ∈ s.process.tasks, ¬ task.Live

section Steps

variable {host : Host} {mem : ListenerMemory} {s s' : ServerMain} {m : MainMove}

theorem Ok.start : Ok ServerMain.start where
  handles := HandlesOk.start
  joining := by simp [ServerMain.start]
  waiting := by simp [ServerMain.start]
  storing := fun _ => rfl
  deinitializing := by simp [ServerMain.start]

/-- An orderly step leaves it so. -/
theorem Ok.step (h : s.Ok) (horderly : s.Orderly m) (hstep : serverStart host mem s m = some s') :
    s'.Ok := by
  cases m with
  | process m =>
      simp only [serverStart] at hstep
      split at hstep
      · cases hstep
      · rename_i hallowed
        obtain ⟨process, hprocess, rfl⟩ := Option.map_eq_some_iff.mp hstep
        have hhandles := h.handles.step hprocess
        have htask : ∀ {point}, s.point = point → point ≠ .serving → m.onMain = false := by
          rintro point rfl hpoint
          by_contra hmain
          exact hallowed (Or.inr ⟨by simpa using hmain, hpoint⟩)
        refine ⟨hhandles, ?_, ?_, ?_, ?_⟩
        · intro i hpoint task hmem hlive
          obtain ⟨-, horigin⟩ := step_of_task (htask hpoint (by simp)) hprocess
          obtain ⟨before, hbefore, hslot, hlive'⟩ := horigin task hmem
          rw [hslot]
          exact h.joining i hpoint before hbefore (hlive' hlive)
        · intro i k hpoint
          obtain ⟨hsame, horigin⟩ := step_of_task (htask hpoint (by simp)) hprocess
          obtain ⟨hhandle, hlive⟩ := h.waiting i k hpoint
          refine ⟨by rw [hsame, hhandle], ?_⟩
          intro task hmem hlive₁
          obtain ⟨before, hbefore, hslot, hlive'⟩ := horigin task hmem
          rw [hslot]
          exact hlive before hbefore (hlive' hlive₁)
        · intro hpoint
          obtain ⟨-, horigin⟩ := step_of_task (htask hpoint (by simp)) hprocess
          apply List.eq_nil_iff_forall_not_mem.mpr
          intro task hmem
          obtain ⟨before, hbefore, -⟩ := horigin task hmem
          rw [h.storing hpoint] at hbefore
          cases hbefore
        · intro hpoint task hmem hlive
          obtain ⟨-, horigin⟩ := step_of_task (htask hpoint (by simp)) hprocess
          obtain ⟨before, hbefore, -, hlive'⟩ := horigin task hmem
          exact h.deinitializing hpoint before hbefore (hlive' hlive)
  | storage ok =>
      simp only [serverStart] at hstep
      split at hstep
      · rename_i hpoint
        obtain rfl := Option.some.inj hstep
        have hnone := h.storing hpoint
        cases ok with
        | true => exact ⟨h.handles, by simp, by simp, by simp, by simp⟩
        | false => exact ⟨h.handles, by simp, by simp, by simp, by simp [hnone]⟩
      · cases hstep
  | listenerEnded =>
      simp only [serverStart] at hstep
      split at hstep
      · obtain rfl := Option.some.inj hstep
        refine ⟨h.handles, ?_, by simp, by simp, by simp⟩
        intro i hpoint task _ _
        obtain rfl := MainPoint.joining.inj hpoint
        exact Nat.zero_le _
      · cases hstep
  | join =>
      simp only [serverStart] at hstep
      split at hstep
      · rename_i i hpoint
        split at hstep
        · obtain rfl := Option.some.inj hstep
          simp only [Orderly, hpoint] at horderly
          obtain ⟨k, hhandle, hjoinable⟩ := horderly
          have hwaits : joinHandle s.process i (s.process.slots.slotThreadHandles i) =
              .waiting i k := by
            rw [Option.mem_def.mp hhandle, joinHandle, if_pos hjoinable]
          rw [hwaits]
          refine ⟨h.handles, by simp, ?_, by simp, by simp⟩
          intro j l hpoint'
          obtain ⟨rfl, rfl⟩ := MainPoint.waiting.inj hpoint'
          exact ⟨hhandle, h.joining i hpoint⟩
        · cases hstep
      · cases hstep
  | joined =>
      simp only [serverStart] at hstep
      split at hstep
      · rename_i i k hpoint
        split at hstep
        · rename_i hdone
          obtain rfl := Option.some.inj hstep
          refine ⟨h.handles, ?_, by simp, by simp, by simp⟩
          intro j hpoint' task hmem hlive
          obtain rfl := MainPoint.joining.inj hpoint'
          obtain ⟨hhandle, hle⟩ := h.waiting i k hpoint
          have hi := hle task hmem hlive
          -- the live task of the slot is the one that was waited for
          have hne : task.slot ≠ i := by
            rintro rfl
            obtain ⟨l, htask⟩ := List.getElem?_of_mem hmem
            have hown := h.handles.live l task htask hlive
            rw [hhandle] at hown
            obtain rfl := Option.some.inj hown
            rw [htask] at hdone
            simp [hlive] at hdone
          omega
        · cases hstep
      · cases hstep
  | allJoined =>
      simp only [serverStart] at hstep
      split at hstep
      · rename_i i hpoint
        split at hstep
        · cases hstep
        · rename_i hall
          obtain rfl := Option.some.inj hstep
          refine ⟨h.handles, by simp, by simp, by simp, ?_⟩
          intro _ task hmem hlive
          obtain ⟨k, htask⟩ := List.getElem?_of_mem hmem
          have hle := h.joining i hpoint task hmem hlive
          have hlt : task.slot < serverMaxConnections := by
            apply h.handles.slots.lt (.task k)
            rw [ServerProcess.phase_of_task htask, slot_phase_of_live hlive]
          omega
      · cases hstep
  | deinit =>
      simp only [serverStart] at hstep
      split at hstep
      · obtain rfl := Option.some.inj hstep
        exact ⟨h.handles, by simp, by simp, by simp, by simp⟩
      · cases hstep

/-- A slot whose task has not detached itself has the handle of that task. -/
theorem Ok.orderly_of_attended (h : s.Ok) (hattended : s.Attended m)
    (hstep : serverStart host mem s m = some s') : s.Orderly m := by
  cases m with
  | join =>
      cases hpoint : s.point with
      | joining i =>
          simp only [Attended, hpoint] at hattended
          obtain ⟨task, hmem, rfl, hdetached⟩ := hattended
          obtain ⟨k, htask⟩ := List.getElem?_of_mem hmem
          have hlive : task.Live := by
            by_contra hnot
            rw [h.handles.ended k task htask hnot] at hdetached
            cases hdetached
          simp only [Orderly, hpoint]
          refine ⟨k, h.handles.live k task htask hlive, ?_⟩
          simp [ServerProcess.Joinable, htask, hdetached]
      | _ => simp [Orderly, hpoint]
  | deinit =>
      simp only [serverStart] at hstep
      split at hstep
      · rename_i hpoint
        exact h.deinitializing hpoint
      · cases hstep
  | _ => exact trivial

/-- The main thread itself leaves the server's threads alone. -/
theorem process_of_main (hmain : ∀ move, m ≠ .process move)
    (hstep : serverStart host mem s m = some s') : s'.process = s.process := by
  cases m with
  | process move => exact absurd rfl (hmain move)
  | storage ok | listenerEnded | deinit =>
      simp only [serverStart] at hstep
      split at hstep
      · obtain rfl := Option.some.inj hstep
        rfl
      · cases hstep
  | join | joined =>
      simp only [serverStart] at hstep
      split at hstep
      · split at hstep
        · obtain rfl := Option.some.inj hstep
          rfl
        · cases hstep
      · cases hstep
  | allJoined =>
      simp only [serverStart] at hstep
      split at hstep
      · split at hstep
        · cases hstep
        · obtain rfl := Option.some.inj hstep
          rfl
      · cases hstep

/-- Every handle is that of a task created for its slot. -/
def Handed (s : ServerMain) : Prop :=
  ∀ i, ∀ k ∈ s.process.slots.slotThreadHandles i,
    ∃ task, s.process.tasks[k]? = some task ∧ task.slot = i

theorem Handed.start : Handed ServerMain.start := by
  simp [Handed, ServerMain.start, ServerProcess.start, serverInitSlotsData]

theorem Handed.step (h : s.Handed) (hcreated : ∀ handle, m ≠ .process (.createFailed handle))
    (hstep : serverStart host mem s m = some s') : s'.Handed := by
  by_cases hm : ∃ move, m = .process move
  · obtain ⟨move, rfl⟩ := hm
    simp only [serverStart] at hstep
    split at hstep
    · cases hstep
    · obtain ⟨process, hprocess, rfl⟩ := Option.map_eq_some_iff.mp hstep
      -- a task stays at its number, with its slot
      have hkept : ∀ {i k : Nat},
          (∃ task : TaskThread, s.process.tasks[k]? = some task ∧ task.slot = i) →
          ∃ task : TaskThread, process.tasks[k]? = some task ∧ task.slot = i := by
        rintro i k ⟨task, htask, rfl⟩
        obtain ⟨task', htask', hmoved⟩ := task_kept hprocess htask
        exact ⟨task', htask', hmoved.slot⟩
      intro i k hhandle
      by_cases hcreate : move = .create
      · subst hcreate
        obtain ⟨slot, op, -, -, rfl⟩ := create_eq hprocess
        change k ∈ Function.update s.process.slots.slotThreadHandles slot
          (some s.process.tasks.length) i at hhandle
        -- the handle written is that of the task just created
        by_cases hi : i = slot
        · subst hi
          rw [Function.update_self] at hhandle
          obtain rfl := Option.some.inj hhandle
          exact ⟨.create i, by simp, rfl⟩
        · rw [Function.update_of_ne hi] at hhandle
          exact hkept (h i k hhandle)
      · have hsame := handles_step hprocess hcreate (fun handle hfailed =>
          hcreated handle (by rw [hfailed]))
        simp only [hsame] at hhandle
        exact hkept (h i k hhandle)
  · -- the main thread itself leaves the server's threads alone
    have hsame := process_of_main (fun move heq => hm ⟨move, heq⟩) hstep
    unfold Handed
    rw [hsame]
    exact h

theorem Handed.attended_of_orderly (h : s.Handed) (horderly : s.Orderly m) : s.Attended m := by
  cases m with
  | join =>
      cases hpoint : s.point with
      | joining i =>
          simp only [Orderly, hpoint] at horderly
          obtain ⟨k, hhandle, hjoinable⟩ := horderly
          obtain ⟨task, htask, hslot⟩ := h i k hhandle
          simp only [Attended, hpoint]
          refine ⟨task, List.mem_of_getElem? htask, hslot, ?_⟩
          simpa [ServerProcess.Joinable, htask] using hjoinable
      | _ => simp [Attended, hpoint]
  | _ => exact trivial

end Steps

end ServerMain

/-- A run in which every slot that is joined has a task that has not reached
`pthread_detach` is orderly; and where every `pthread_create` succeeds, only such a run
is. -/
theorem shutdown_orderly_iff {host : Host} {mem : ListenerMemory} {tr : List MainMove}
    {s : ServerMain} (hrun : Run (serverStart host mem) .start tr s) :
    (EveryStep (serverStart host mem) ServerMain.Attended .start tr →
      EveryStep (serverStart host mem) ServerMain.Orderly .start tr) ∧
    ((∀ handle, .process (.createFailed handle) ∉ tr) →
      EveryStep (serverStart host mem) ServerMain.Orderly .start tr →
      EveryStep (serverStart host mem) ServerMain.Attended .start tr) := by
  constructor
  · -- an induction on the run, with what the attended steps have kept
    suffices h : EveryStep (serverStart host mem) ServerMain.Attended .start tr →
        EveryStep (serverStart host mem) ServerMain.Orderly .start tr ∧ s.Ok from
      fun hattended => (h hattended).1
    induction hrun with
    | nil => exact fun _ => ⟨trivial, ServerMain.Ok.start⟩
    | snoc hrun hstep ih =>
        intro hattended
        rw [everyStep_snoc_iff hrun] at hattended ⊢
        obtain ⟨horderly, hok⟩ := ih hattended.1
        have hlast := hok.orderly_of_attended hattended.2 hstep
        exact ⟨⟨horderly, hlast⟩, hok.step hlast hstep⟩
  · -- the other way, with the handles that `pthread_create` has written
    suffices h : (∀ handle, .process (.createFailed handle) ∉ tr) → s.Handed ∧
        (EveryStep (serverStart host mem) ServerMain.Orderly .start tr →
          EveryStep (serverStart host mem) ServerMain.Attended .start tr) from
      fun hcreated => (h hcreated).2
    induction hrun with
    | nil => exact fun _ => ⟨ServerMain.Handed.start, fun _ => trivial⟩
    | snoc hrun hstep ih =>
        intro hcreated
        obtain ⟨hhanded, hback⟩ := ih fun handle hmem => hcreated handle (by simp [hmem])
        refine ⟨hhanded.step ?_ hstep, ?_⟩
        · rintro handle rfl
          exact hcreated handle (by simp)
        · rw [everyStep_snoc_iff hrun, everyStep_snoc_iff hrun]
          rintro ⟨horderly, hlast⟩
          exact ⟨hback horderly, hhanded.attended_of_orderly hlast⟩

section FixedRuns

/-- A task that has just been created sees that the server is to end. -/
def leaveMoves (k : Nat) : List MainMove :=
  [.process (.begin k), .process (.task k (.poll true))] ++
    List.replicate 5 (.process (.taskRelease k))

/-- Five requests, and the end of the server before any of their tasks has begun. -/
def fiveRequests : List MainMove :=
  [.storage true] ++
  (List.range 5).flatMap (fun i =>
    (requestMoves (localhost 50001) i (4 + i) (40001 + UInt16.ofNat i)).map .process) ++
  [.process (.listener (.poll true)), .listenerEnded] ++
  (List.range 5).flatMap (fun i => [.join] ++ leaveMoves i ++ [.joined]) ++
  [.allJoined, .deinit]

set_option maxRecDepth 8000 in
theorem shutdown_orderly_five :
    ∃ s, Run (serverStart littleHost .strict) .start fiveRequests s ∧ s.point = .ended ∧
      EveryStep (serverStart littleHost .strict) ServerMain.Orderly .start fiveRequests := by
  have hrun : ∃ s, Run (serverStart littleHost .strict) .start fiveRequests s ∧
      s.point = .ended := exists_run_of_exec (by decide)
  obtain ⟨s, hrun, hpoint⟩ := hrun
  exact ⟨s, hrun, hpoint, (shutdown_orderly_iff hrun).1 (by decide)⟩

/-- Without a request, `pthread_join` is called with a handle that is zero. -/
theorem shutdown_joins_zero :
    ¬ ∀ (tr : List MainMove) (s : ServerMain), Run (serverStart littleHost .strict) .start tr s →
      EveryStep (serverStart littleHost .strict) ServerMain.Orderly .start tr := by
  intro hall
  have hrun : ∃ s, Run (serverStart littleHost .strict) .start
      [.storage true, .process (.listener (.poll true)), .listenerEnded] s ∧
      s.point = .joining 0 ∧ s.process.slots.slotThreadHandles 0 = none :=
    exists_run_of_exec (by decide)
  obtain ⟨s, hrun, hpoint, hhandle⟩ := hrun
  have hjoin : serverStart littleHost .strict s .join = some { s with point := .joining 1 } := by
    simp [serverStart, hpoint, hhandle, joinHandle, serverMaxConnections]
  have horderly := (hall _ _ (hrun.snoc hjoin)).last hrun
  simp [ServerMain.Orderly, hpoint, hhandle] at horderly

end FixedRuns

end Stftpu
