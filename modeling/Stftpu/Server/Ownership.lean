import Stftpu.Server.Accounts

/-!
# The requests of a run

The accounts of every request, kept beside the threads of the server.

* `ledgerStep` — a step of the server, with what it takes and gives back.
* `Ledger.Ok` — what holds of the ledger after every step.
* `requests_settled` — as long as nothing goes wrong where a request passes from one owner to
  the next, every request that is over has given back once what it took.
-/

namespace Stftpu

open Library

/-! ## The ledger -/

/-- The server, with an account of every request for which a slot was acquired. -/
structure Ledger where
  process : ServerProcess
  /-- The request the listener has a slot for; empty when it has none. -/
  listener : Request
  /-- Those of the tasks. -/
  tasks : List Request
  /-- Those the listener has done with, without a task. -/
  dismissed : List Request

def Ledger.start : Ledger :=
  { process := ServerProcess.start
    listener := Request.empty
    tasks := []
    dismissed := [] }

namespace Ledger

/-- The entries a step of the server leads to. -/
def enter (s : Ledger) (m : ProcessMove) (process : ServerProcess) : Ledger :=
  match m with
  | .listener e =>
      { s with
        process := process
        listener :=
          s.listener.listenerCall e s.process.listener.state.point
            process.listener.state.point }
  | .listenerCall =>
      match s.process.listener.state.point, s.process.listener.acquire,
        s.process.listener.release with
      | .acquiring, .unlocking (some _), _ =>
          { s with process := process, listener := Request.accepted }
      | .releasing _, _, .unlocking =>
          { s with
            process := process
            listener := Request.empty
            dismissed := s.dismissed ++ [s.listener.release] }
      | _, _, _ => { s with process := process }
  | .create =>
      { s with process := process, listener := Request.empty, tasks := s.tasks ++ [s.listener] }
  | .createFailed _ =>
      { s with
        process := process
        listener := Request.empty
        dismissed := s.dismissed ++ [s.listener] }
  | .task k e =>
      match s.process.taskState k, process.taskState k with
      | some before, some after =>
          { s with
            process := process
            tasks := s.tasks.modify k fun r => r.taskCall e before after }
      | _, _ => { s with process := process }
  | .taskRelease k =>
      match process.taskState k with
      | some (.ended _) =>
          { s with process := process, tasks := s.tasks.modify k Request.release }
      | _ => { s with process := process }
  | _ => { s with process := process }

end Ledger

/-- One step of the server, and of its ledger. -/
def ledgerStep (host : Host) (mem : ListenerMemory) (s : Ledger) (m : ProcessMove) :
    Option Ledger :=
  (serverProcess host mem s.process m).map (s.enter m)

/-! ## What is required, and when -/

/-- The thread of a request has released its slot, or can go no further. -/
def TaskThread.Over (task : TaskThread) : Prop :=
  ¬ task.Live ∨ task.state = some .fault

namespace Ledger

/-- Nothing goes wrong where a request passes from one owner to the next: the listener is
prepared for its strings and its socket, the arguments of its task can be allocated and the
task created, and what the task does is granted. -/
def Provided (host : Host) (mem : ListenerMemory) (s : Ledger) (m : ProcessMove) : Prop :=
  match m with
  | .listenerCall =>
      match s.process.listener.acquire with
      | .unlocking (some _) => (serverParseRequestData host mem s.process.listener.state).isSome
      | _ => True
  | .listener (.dataSocket socket) => s.process.listener.state.point.Prepared socket
  | .taskArgs allocated => allocated = true
  | .createFailed _ => False
  | .task k e => ∀ t ∈ s.process.taskState k, t.granted e
  | _ => True

/-- A step uses nothing that its request has given back. -/
def Safe (s : Ledger) (m : ProcessMove) : Prop :=
  match m with
  | .begin k => ∀ r ∈ s.tasks[k]?, r.slot.One ∧ r.operation.One ∧ r.socket.One
  | .task k e => ∀ r ∈ s.tasks[k]?, r.slot.One ∧ r.operation.One ∧ r.socket.One ∧
      (e.OnFile → r.files.returned < r.files.taken)
  | .taskRelease k => ∀ r ∈ s.tasks[k]?, r.slot.One
  | _ =>
      (s.process.listener.state.point.slot ≠ none → s.listener.slot.One) ∧
        (s.process.listener.state.point.dataSocket ≠ none →
          s.listener.operation.One ∧ s.listener.socket.One)

/-- Every request that is over is settled. -/
structure AllSettled (s : Ledger) : Prop where
  dismissed : ∀ r ∈ s.dismissed, r.Settled
  tasks : ∀ (k : Nat) task r, s.process.tasks[k]? = some task → s.tasks[k]? = some r →
    task.Over → r.Settled
  /-- The listener can go on with the request it has a slot for. -/
  listener : s.listener.slot.One → s.process.listener.spawn ≠ .crashed ∧
    ∀ cause, s.process.listener.state.point ≠ .fault cause

end Ledger

/-! ## The accounts of the threads -/

/-- The listener works on a request, and its accounts are right. -/
structure ListenerThread.RequestOk (host : Host) (listener : ListenerThread) (r : Request) :
    Prop where
  /-- It looks for a slot for a request only. -/
  requested : listener.state.point = .acquiring →
    requestOperation (listener.state.incomingOpcode host) ≠ none
  point : listener.state.point.RequestOk r
  spawn : listener.spawn ≠ .crashed

/-- The accounts of a task, with the operation data in its slot. -/
def TaskThread.RequestOk (task : TaskThread) (opData : Option OperationData) (r : Request) :
    Prop :=
  match task.state with
  | none => ∃ op, opData = some op ∧ 0 < op.dataSocket ∧ r.Held 0
  | some t => t.RequestOk r

/-- The accounts of all tasks. -/
structure ServerProcess.TasksOk (process : ServerProcess) (tasks : List Request) : Prop where
  length : tasks.length = process.tasks.length
  task : ∀ (k : Nat) task r, process.tasks[k]? = some task → tasks[k]? = some r →
    task.RequestOk (process.slots.opDataPtr task.slot) r

/-- What holds of the ledger after every step. -/
structure Ledger.Ok (host : Host) (s : Ledger) : Prop extends ProcessOk s.process where
  listener : s.process.listener.RequestOk host s.listener
  tasks : s.process.TasksOk s.tasks
  dismissed : ∀ r ∈ s.dismissed, r.Settled

section Tasks

variable {host : Host} {mem : ListenerMemory} {s s' : ServerProcess} {m : ProcessMove}
  {k : Nat} {task task' : TaskThread} {tasks : List Request} {opData opData' : Option OperationData}
  {r : Request}

/-- Once it has been read, the slot does not matter. -/
theorem TaskThread.RequestOk.of_live (h : task.RequestOk opData r)
    (hop : task.Live → opData' = opData) : task.RequestOk opData' r := by
  unfold TaskThread.RequestOk at h ⊢
  cases hstate : task.state with
  | none =>
      rw [hstate] at h
      rw [hop (by simp [TaskThread.Live, TaskThread.ended, hstate])]
      exact h
  | some t =>
      rw [hstate] at h
      exact h

namespace ServerProcess.TasksOk

/-- A step of the listener that leaves the tasks as they are. -/
theorem kept (h : s.TasksOk tasks) (hok : ProcessOk s)
    (hstep : serverProcess host mem s m = some s') (htasks : s'.tasks = s.tasks) :
    s'.TasksOk tasks where
  length := by rw [htasks]; exact h.length
  task := by
    intro k task r htask hr
    rw [htasks] at htask
    refine (h.task k task r htask hr).of_live ?_
    intro hlive
    refine ServerProcess.opDataPtr_step hstep ?_
    intro hstores
    exact ServerProcess.slot_ne_listener hok.slots htask hlive
      (ServerProcess.phase_of_stores hstores) rfl

/-- A step of a task, with the entries it makes. -/
theorem moved (h : s.TasksOk tasks) (s' : ServerProcess) (task' : TaskThread)
    (f : Request → Request) (htask : s.tasks[k]? = some task)
    (htasks : s'.tasks = s.tasks.set k task') (hslot : task'.slot = task.slot)
    (hslots : s'.slots.opDataPtr = s.slots.opDataPtr)
    (hr : ∀ r, task.RequestOk (s.slots.opDataPtr task.slot) r →
      task'.RequestOk (s.slots.opDataPtr task.slot) (f r)) :
    s'.TasksOk (tasks.modify k f) where
  length := by rw [htasks, List.length_modify, List.length_set]; exact h.length
  task := by
    intro j other r hother hr'
    have hlt : k < s.tasks.length := (List.getElem?_eq_some_iff.mp htask).1
    rw [htasks] at hother
    rw [hslots]
    by_cases hj : k = j
    · subst hj
      rw [List.getElem?_set_self hlt] at hother
      obtain rfl := Option.some.inj hother
      rw [List.getElem?_modify_eq] at hr'
      obtain ⟨before, hbefore, rfl⟩ := Option.map_eq_some_iff.mp hr'
      rw [hslot]
      exact hr before (h.task k task before htask hbefore)
    · rw [List.getElem?_set_ne hj] at hother
      rw [List.getElem?_modify_ne _ _ hj] at hr'
      exact h.task j other r hother hr'

/-- A task is created, and takes over the request of the listener. -/
theorem created (h : s.TasksOk tasks) {op : OperationData} (htasks : s'.tasks = s.tasks ++ [task])
    (hslots : s'.slots.opDataPtr = s.slots.opDataPtr) (hstate : task.state = none)
    (hop : s.slots.opDataPtr task.slot = some op) (hfd : 0 < op.dataSocket) (hheld : r.Held 0) :
    s'.TasksOk (tasks ++ [r]) where
  length := by rw [htasks, List.length_append, List.length_append, h.length]; rfl
  task := by
    intro j other r' hother hr'
    rw [htasks] at hother
    rw [hslots]
    rcases Nat.lt_or_ge j s.tasks.length with hlt | hge
    · rw [List.getElem?_append_left hlt] at hother
      rw [List.getElem?_append_left (by rw [h.length]; exact hlt)] at hr'
      exact h.task j other r' hother hr'
    · rw [List.getElem?_append_right hge] at hother
      rw [List.getElem?_append_right (by rw [h.length]; exact hge), h.length] at hr'
      obtain rfl : task = other := by
        rw [List.getElem?_singleton] at hother
        split at hother
        · exact Option.some.inj hother
        · cases hother
      obtain rfl : r = r' := by
        rw [List.getElem?_singleton] at hr'
        split at hr'
        · exact Option.some.inj hr'
        · cases hr'
      simp only [TaskThread.RequestOk, hstate]
      exact ⟨op, hop, hfd, hheld⟩

end ServerProcess.TasksOk

end Tasks

/-! ## The ledger over a run -/

namespace Ledger

section Steps

variable {host : Host} {mem : ListenerMemory} {s s' : Ledger} {m : ProcessMove}

theorem Ok.start : Ledger.start.Ok host where
  toProcessOk := ProcessOk.start
  listener := ⟨by simp [Ledger.start, ServerProcess.start, ListenerThread.enter,
    ListenerState.start], rfl, by simp [Ledger.start, ServerProcess.start, ListenerThread.enter]⟩
  tasks := ⟨rfl, by simp [Ledger.start, ServerProcess.start]⟩
  dismissed := by simp [Ledger.start]

/-- The listener behind a step that leaves its control point alone, or ends a request. -/
theorem requestOk_clear (state : ListenerState) :
    (ListenerThread.enter state.clear).RequestOk host .empty :=
  ⟨by simp [ListenerThread.enter, ListenerState.clear], rfl, by simp [ListenerThread.enter]⟩

theorem Ok.listenerStep {e : Event} {process : ServerProcess} (h : s.Ok host)
    (hprovided : s.Provided host mem (.listener e))
    (hstep : serverProcess host mem s.process (.listener e) = some process) :
    (s.enter (.listener e) process).Ok host := by
  have hprocess := h.toProcessOk.step hstep
  have htasks := h.tasks.kept h.toProcessOk hstep (by
    obtain ⟨-, state, -, rfl⟩ := listener_eq hstep
    rfl)
  obtain ⟨hcall, state, hloop, rfl⟩ := listener_eq hstep
  refine ⟨hprocess, ⟨requested_step hloop, ?_, by simp [enter, ListenerThread.enter]⟩, htasks,
    h.dismissed⟩
  refine requestOk_step hcall hloop h.listener.point ?_
  rintro socket rfl
  exact hprovided

theorem parsed_of_provided {slot : Nat} (h : s.Provided host mem .listenerCall)
    (hacquire : s.process.listener.acquire = .unlocking (some slot)) :
    (serverParseRequestData host mem s.process.listener.state).isSome := by
  simpa [Provided, hacquire] using h

theorem Ok.listenerCall {process : ServerProcess} (h : s.Ok host)
    (hprovided : s.Provided host mem .listenerCall)
    (hstep : serverProcess host mem s.process .listenerCall = some process) :
    (s.enter .listenerCall process).Ok host := by
  have hprocess := h.toProcessOk.step hstep
  have htasks := h.tasks.kept h.toProcessOk hstep (tasks_listenerCall hstep)
  cases listenerCall_eq hstep with
  | acquiring slots next hpoint hcall heq =>
      -- the search is still going on, so nothing is acquired yet
      have henter : s.enter .listenerCall process = { s with process := process } := by
        unfold enter
        simp only [hpoint]
        split
        · rename_i hacquire
          cases (acquire_next hcall _).mpr hacquire
        · cases ‹ListenerPoint.acquiring = .releasing _›
        · rfl
      rw [henter]
      subst heq
      exact ⟨hprocess, ⟨h.listener.requested, h.listener.point, h.listener.spawn⟩, htasks,
        h.dismissed⟩
  | acquired slots slot hpoint hcall heq =>
      have hacquire := (acquire_next hcall slot).mp rfl
      cases slot with
      | none =>
          -- the slots are full: the request is refused with nothing acquired
          have henter : s.enter .listenerCall process = { s with process := process } := by
            simp only [enter, hpoint, hacquire]
          rw [henter]
          subst heq
          have hempty : s.listener = .empty := by
            have hlistener := h.listener.point
            rw [hpoint] at hlistener
            exact hlistener
          refine ⟨hprocess, ⟨?_, ?_, by simp [ListenerThread.enter]⟩, htasks, h.dismissed⟩
          · intro hacquiring
            rcases refuse_point (s := s.process.listener.state) ListenerState.noSlotReply with
              hp | hp <;> rw [ListenerThread.enter, ListenerState.onAcquired, hp] at hacquiring <;>
              cases hacquiring
          · rcases refuse_point (s := s.process.listener.state) ListenerState.noSlotReply with
              hp | hp <;> rw [ListenerThread.enter, ListenerState.onAcquired, hp] <;> exact hempty
      | some slot =>
          -- a slot is found, and with it a new account is opened
          have henter : s.enter .listenerCall process =
              { s with process := process, listener := Request.accepted } := by
            simp only [enter, hpoint, hacquire]
          rw [henter]
          subst heq
          obtain ⟨args, hargs⟩ := onAcquired_point (h.listener.requested hpoint)
            (parsed_of_provided hprovided hacquire) slot
          refine ⟨hprocess, ⟨?_, ?_, by simp [ListenerThread.enter]⟩, htasks, h.dismissed⟩
          · intro hacquiring
            rw [ListenerThread.enter, hargs] at hacquiring
            cases hacquiring
          · rw [ListenerThread.enter, hargs]
            rfl
  | releasing slot slots next hpoint hcall heq =>
      -- the release is still going on, so the account stays
      have henter : s.enter .listenerCall process = { s with process := process } := by
        unfold enter
        simp only [hpoint]
        split
        · cases ‹ListenerPoint.releasing _ = .acquiring›
        · rename_i hrelease
          cases (release_next hcall).mpr hrelease
        · rfl
      rw [henter]
      subst heq
      exact ⟨hprocess, ⟨h.listener.requested, h.listener.point, h.listener.spawn⟩, htasks,
        h.dismissed⟩
  | released slot slots hpoint hcall heq =>
      -- the release ends: the account is closed and put with the dismissed ones
      have hrelease := (release_next hcall).mp rfl
      have henter : s.enter .listenerCall process =
          { s with
            process := process
            listener := Request.empty
            dismissed := s.dismissed ++ [s.listener.release] } := by
        simp only [enter, hpoint, hrelease]
      rw [henter]
      subst heq
      have hleaving : s.listener.Leaving := by
        have hlistener := h.listener.point
        rw [hpoint] at hlistener
        exact hlistener
      refine ⟨hprocess, requestOk_clear _, htasks, ?_⟩
      intro r hr
      rcases List.mem_append.mp hr with hr | hr
      · exact h.dismissed r hr
      · rw [List.mem_singleton.mp hr]
        exact Request.settled_release hleaving
  | stored slot op hpoint hspawn heq =>
      -- the store of the operation changes no account
      have henter : s.enter .listenerCall process = { s with process := process } := by
        simp only [enter, hpoint]
      rw [henter]
      subst heq
      exact ⟨hprocess, ⟨h.listener.requested, h.listener.point, by simp⟩, htasks, h.dismissed⟩

theorem Ok.taskArgs {allocated : Bool} {process : ServerProcess} (h : s.Ok host)
    (hprovided : s.Provided host mem (.taskArgs allocated))
    (hstep : serverProcess host mem s.process (.taskArgs allocated) = some process) :
    (s.enter (.taskArgs allocated) process).Ok host := by
  have hprocess := h.toProcessOk.step hstep
  have htasks := h.tasks.kept h.toProcessOk hstep (by
    obtain ⟨_, _, _, _, rfl⟩ := taskArgs_eq hstep
    rfl)
  obtain ⟨slot, op, hpoint, hspawn, rfl⟩ := taskArgs_eq hstep
  obtain rfl : allocated = true := hprovided
  exact ⟨hprocess, ⟨h.listener.requested, h.listener.point, by simp [enter]⟩, htasks, h.dismissed⟩

theorem Ok.create {process : ServerProcess} (h : s.Ok host)
    (hstep : serverProcess host mem s.process .create = some process) :
    (s.enter .create process).Ok host := by
  have hprocess := h.toProcessOk.step hstep
  obtain ⟨slot, op, hpoint, hspawn, rfl⟩ := create_eq hstep
  have hlistener := h.listener.point
  rw [hpoint] at hlistener
  obtain ⟨hfd, hheld⟩ := hlistener
  -- what the listener stored is what the task will read
  have hop := h.stored slot op hpoint (by rw [hspawn]; simp)
  exact ⟨hprocess, requestOk_clear _, h.tasks.created rfl rfl rfl hop hfd hheld, h.dismissed⟩

theorem Ok.begin {k : Nat} {process : ServerProcess} (h : s.Ok host)
    (hstep : serverProcess host mem s.process (.begin k) = some process) :
    (s.enter (.begin k) process).Ok host := by
  have hprocess := h.toProcessOk.step hstep
  obtain ⟨task, htask, hstate, rfl⟩ := begin_eq hstep
  have hmoved := h.tasks.moved
    (s.process.setTask k (task.onBegin (s.process.slots.opDataPtr task.slot)))
    (task.onBegin (s.process.slots.opDataPtr task.slot)) id htask rfl rfl rfl ?_
  · rw [List.modify_id] at hmoved
    exact ⟨hprocess, h.listener, hmoved, h.dismissed⟩
  · intro r hr
    simp only [TaskThread.RequestOk, hstate] at hr
    obtain ⟨op, hop, hfd, hheld⟩ := hr
    simp only [TaskThread.RequestOk, TaskThread.onBegin, hop]
    refine ⟨trivial, ?_, by simp, by simp⟩
    intro op' hop'
    obtain rfl := Option.some.inj hop'
    exact ⟨hfd, hheld⟩

theorem Ok.task {k : Nat} {e : Event} {process : ServerProcess} (h : s.Ok host)
    (hprovided : s.Provided host mem (.task k e))
    (hstep : serverProcess host mem s.process (.task k e) = some process) :
    (s.enter (.task k e) process).Ok host := by
  have hprocess := h.toProcessOk.step hstep
  obtain ⟨task, t, t', htask, hstate, hnot, hcall, rfl⟩ := task_eq hstep
  have hlt : k < s.process.tasks.length := (List.getElem?_eq_some_iff.mp htask).1
  have hbefore : s.process.taskState k = some t := by
    simp [ServerProcess.taskState, htask, hstate]
  have hafter : (s.process.setTask k (task.enter t')).taskState k = some t' := by
    simp [ServerProcess.taskState, ServerProcess.setTask, hlt, TaskThread.enter]
  have hmoved := h.tasks.moved (s.process.setTask k (task.enter t')) (task.enter t')
    (fun r => r.taskCall e t t') htask rfl rfl rfl ?_
  · have henter : s.enter (.task k e) (s.process.setTask k (task.enter t')) =
        { s with
          process := s.process.setTask k (task.enter t')
          tasks := s.tasks.modify k fun r => r.taskCall e t t' } := by
      simp only [enter, hbefore, hafter]
    rw [henter]
    exact ⟨hprocess, h.listener, hmoved, h.dismissed⟩
  · intro r hr
    simp only [TaskThread.RequestOk, hstate] at hr
    exact hr.step (h.tidy k task htask t hstate) (hprovided t hbefore) hnot hcall

theorem Ok.taskRelease {k : Nat} {process : ServerProcess} (h : s.Ok host)
    (hstep : serverProcess host mem s.process (.taskRelease k) = some process) :
    (s.enter (.taskRelease k) process).Ok host := by
  have hprocess := h.toProcessOk.step hstep
  -- before the unlock nothing is entered
  have hsame : ∀ task task' result slots, s.process.tasks[k]? = some task →
      task.state = some (.releasing result) → task'.state = task.state →
      task'.slot = task.slot → slots.opDataPtr = s.process.slots.opDataPtr →
      process = { s.process.setTask k task' with slots := slots } →
      (s.enter (.taskRelease k) process).Ok host := by
    rintro task task' result slots htask hstate hstate' hslot hslots rfl
    have hlt : k < s.process.tasks.length := (List.getElem?_eq_some_iff.mp htask).1
    have hafter : ({ s.process.setTask k task' with slots := slots } : ServerProcess).taskState k =
        some (.releasing result) := by
      simp [ServerProcess.taskState, ServerProcess.setTask, hlt, hstate', hstate]
    have hmoved := h.tasks.moved { s.process.setTask k task' with slots := slots } task' id htask
      rfl hslot hslots ?_
    · rw [List.modify_id] at hmoved
      simp only [enter, hafter]
      exact ⟨hprocess, h.listener, hmoved, h.dismissed⟩
    · intro r hr
      simp only [TaskThread.RequestOk, hstate'] at hr ⊢
      exact hr
  cases taskRelease_eq hstep with
  | detached task result htask hstate hdetached heq =>
      exact hsame task { task with detached := true } result s.process.slots htask hstate rfl rfl
        rfl heq
  | releasing task result slots next htask hstate hdetached hcall heq =>
      exact hsame task { task with release := next } result slots htask hstate rfl rfl
        (release_frame hcall).1 heq
  | released task result slots htask hstate hdetached hcall heq =>
      have hlt : k < s.process.tasks.length := (List.getElem?_eq_some_iff.mp htask).1
      have hafter : process.taskState k = some (.ended result) := by
        simp [heq, ServerProcess.taskState, ServerProcess.setTask, hlt, TaskThread.enter]
      have hmoved := h.tasks.moved process (task.enter (.ended result)) Request.release htask
        (by rw [heq]; rfl) rfl (by rw [heq]; exact (release_frame hcall).1) ?_
      · simp only [enter, hafter]
        exact ⟨hprocess, by rw [heq]; exact h.listener, hmoved, h.dismissed⟩
      · intro r hr
        simp only [TaskThread.RequestOk, hstate] at hr
        simp only [TaskThread.RequestOk, TaskThread.enter]
        refine ⟨trivial, by simp [TaskState.operation], by simp, ?_⟩
        intro result' _
        exact Request.settled_release (hr.leaving result rfl)

/-- Every step keeps the accounts right. -/
theorem Ok.step (h : s.Ok host) (hprovided : s.Provided host mem m)
    (hstep : ledgerStep host mem s m = some s') : s'.Ok host := by
  obtain ⟨process, hprocess, rfl⟩ := Option.map_eq_some_iff.mp hstep
  cases m with
  | listener e => exact h.listenerStep hprovided hprocess
  | listenerCall => exact h.listenerCall hprovided hprocess
  | taskArgs allocated => exact h.taskArgs hprovided hprocess
  | create => exact h.create hprocess
  | createFailed handle => exact hprovided.elim
  | begin k => exact h.begin hprocess
  | task k e => exact h.task hprovided hprocess
  | taskRelease k => exact h.taskRelease hprocess

/-- A step uses only what its request holds. -/
theorem Ok.safe (h : s.Ok host) (hstep : ledgerStep host mem s m = some s') : s.Safe m := by
  have hlistener : (s.process.listener.state.point.slot ≠ none → s.listener.slot.One) ∧
      (s.process.listener.state.point.dataSocket ≠ none →
        s.listener.operation.One ∧ s.listener.socket.One) :=
    ⟨slot_of_requestOk h.listener.point, socket_of_requestOk h.listener.point⟩
  obtain ⟨process, hprocess, rfl⟩ := Option.map_eq_some_iff.mp hstep
  cases m with
  | begin k =>
      intro r hr
      obtain ⟨task, htask, hstate, -⟩ := begin_eq hprocess
      have haccounts := h.tasks.task k task r htask hr
      simp only [TaskThread.RequestOk, hstate] at haccounts
      obtain ⟨op, -, -, hheld⟩ := haccounts
      exact ⟨hheld.slot, hheld.operation, hheld.socket⟩
  | task k e =>
      intro r hr
      obtain ⟨task, t, t', htask, hstate, hnot, hcall, -⟩ := task_eq hprocess
      have haccounts := h.tasks.task k task r htask hr
      simp only [TaskThread.RequestOk, hstate] at haccounts
      -- a task that makes a call has its operation, and so all that it holds
      obtain ⟨op, hop⟩ := TaskState.operation_of_allocated haccounts.allocated hnot
        (by rintro result rfl; cases hcall)
      obtain ⟨-, hheld⟩ := haccounts.held op hop
      refine ⟨hheld.slot, hheld.operation, hheld.socket, ?_⟩
      intro hon
      have hopen := (TaskState.accounts_step (h.tidy k task htask t hstate) hcall).uses hon
      have hfiles : r.files.taken = r.files.returned + t.files := hheld.files
      omega
  | taskRelease k =>
      intro r hr
      -- whatever the call of the release, the task is at its release
      have hreleasing : ∃ task result, s.process.tasks[k]? = some task ∧
          task.state = some (.releasing result) := by
        cases taskRelease_eq hprocess with
        | detached task result htask hstate hdetached heq => exact ⟨task, result, htask, hstate⟩
        | releasing task result slots next htask hstate hdetached hcall heq =>
            exact ⟨task, result, htask, hstate⟩
        | released task result slots htask hstate hdetached hcall heq =>
            exact ⟨task, result, htask, hstate⟩
      obtain ⟨task, result, htask, hstate⟩ := hreleasing
      have haccounts := h.tasks.task k task r htask hr
      simp only [TaskThread.RequestOk, hstate] at haccounts
      exact (haccounts.leaving result rfl).slot
  | _ => exact hlistener

theorem Ok.allSettled (h : s.Ok host) : s.AllSettled where
  dismissed := h.dismissed
  tasks := by
    intro k task r htask hr hover
    have haccounts := h.tasks.task k task r htask hr
    unfold TaskThread.RequestOk at haccounts
    rcases hover with hended | hfault
    · unfold TaskThread.Live TaskThread.ended at hended
      cases hstate : task.state with
      | none => simp [hstate] at hended
      | some t =>
          rw [hstate] at haccounts hended
          cases t with
          | ended result => exact haccounts.ended result rfl
          | _ => exact absurd rfl hended
    · rw [hfault] at haccounts
      exact haccounts.allocated.elim
  listener := by
    intro hone
    refine ⟨h.listener.spawn, ?_⟩
    intro cause hfault
    have hempty := h.listener.point
    rw [hfault] at hempty
    rw [show s.listener = .empty from hempty] at hone
    cases hone.1

/-! ### The slots -/

theorem phase_of_not_inCall {listener : ListenerThread}
    (h : listener.state.point.inCall = false) :
    listener.phase.flagged = listener.state.point.slot := by
  unfold ListenerThread.phase
  cases hpoint : listener.state.point with
  | acquiring => rw [hpoint] at h; cases h
  | releasing slot => rw [hpoint] at h; cases h
  | spawning slot op => rw [hpoint] at h; cases h
  | _ => rfl

theorem flagged_enter (state : ListenerState) :
    (ListenerThread.enter state).phase.flagged = state.point.slot := by
  rw [SlotPhase.flagged_of_not_critical (phase_enter_critical state), phase_enter_slot]

/-- A task before the release of its slot. -/
theorem phase_holding {task : TaskThread} {t : TaskState} (hstate : task.state = some t)
    (hreleasing : ∀ result, t ≠ .releasing result) (hended : ∀ result, t ≠ .ended result) :
    task.phase = .holding task.slot := by
  unfold TaskThread.phase
  rw [hstate]
  cases t with
  | releasing result => exact absurd rfl (hreleasing result)
  | ended result => exact absurd rfl (hended result)
  | _ => rfl

theorem flagged_of_live {task : TaskThread} (hlive : task.Live)
    (hrelease : task.release = .locking) : task.phase.flagged = some task.slot := by
  rw [← slot_phase_of_live hlive]
  apply SlotPhase.flagged_of_not_critical
  unfold TaskThread.phase
  split
  · rw [hrelease]
    rfl
  · rfl
  · rfl

theorem step_not_exited {s s' : ServerProcess} (h : serverProcess host mem s m = some s') :
    s.listener.state.point ≠ .exited := by
  unfold serverProcess at h
  split at h
  · cases h
  · assumption

/-- Unless the listener has ended the process, every flag is some thread's. -/
def Owned (s : Ledger) : Prop :=
  s.process.listener.state.point ≠ .exited → SlotsOwned s.process.slots s.process.phase

theorem owned_start : Ledger.start.Owned := by
  intro _
  have hphase : ServerProcess.start.phase = fun _ => .away := by
    funext t
    cases t <;> rfl
  change SlotsOwned serverInitSlotsData ServerProcess.start.phase
  rw [hphase]
  exact SlotsOwned.init

theorem Owned.listenerCall {process : ServerProcess} (h : s.Ok host)
    (howned : SlotsOwned s.process.slots s.process.phase)
    (hprovided : s.Provided host mem .listenerCall)
    (hstep : serverProcess host mem s.process .listenerCall = some process) :
    SlotsOwned process.slots process.phase := by
  cases listenerCall_eq hstep with
  | acquiring slots next hpoint hcall heq =>
      have hslots := howned.acquire (ServerProcess.phase_acquiring hpoint) hcall
      subst heq
      rw [ServerProcess.phase_listener]
      simpa [ListenerThread.phase, SlotPhase.afterAcquire, hpoint] using hslots
  | acquired slots slot hpoint hcall heq =>
      have hslots := howned.acquire (ServerProcess.phase_acquiring hpoint) hcall
      have hacquire := (acquire_next hcall slot).mp rfl
      -- the slot that was found is the one the listener goes on with
      have hentered : SlotsOwned slots (Function.update
          (Function.update s.process.phase .listener (SlotPhase.afterAcquire (.inr slot))) .listener
          (ListenerThread.enter (s.process.listener.state.onAcquired host mem slot)).phase) := by
        refine hslots.moved rfl ?_
        intro i hi
        rw [Function.update_self] at hi
        cases slot with
        | none => cases hi
        | some slot =>
            obtain ⟨args, hargs⟩ := onAcquired_point (h.listener.requested hpoint)
              (parsed_of_provided hprovided hacquire) slot
            rw [flagged_enter, hargs]
            exact hi
      subst heq
      rw [ServerProcess.phase_listener]
      rwa [Function.update_idem] at hentered
  | releasing slot slots next hpoint hcall heq =>
      have hslots := howned.release (ServerProcess.phase_releasing hpoint) hcall
      subst heq
      rw [ServerProcess.phase_listener]
      simpa [ListenerThread.phase, SlotPhase.afterRelease, hpoint] using hslots
  | released slot slots hpoint hcall heq =>
      have hslots := howned.release (ServerProcess.phase_releasing hpoint) hcall
      subst heq
      rw [ServerProcess.phase_listener]
      exact hslots
  | stored slot op hpoint hspawn heq =>
      subst heq
      rw [ServerProcess.phase_listener]
      refine howned.moved rfl ?_
      intro i hi
      exact hi

theorem enter_process (process : ServerProcess) : (s.enter m process).process = process := by
  unfold enter
  split
  · rfl
  · split <;> rfl
  · rfl
  · rfl
  · split <;> rfl
  · split <;> rfl
  · rfl

theorem Owned.step (howned : s.Owned) (h : s.Ok host) (hprovided : s.Provided host mem m)
    (hstep : ledgerStep host mem s m = some s') : s'.Owned := by
  have hok' := h.step hprovided hstep
  obtain ⟨process, hprocess, rfl⟩ := Option.map_eq_some_iff.mp hstep
  have hbefore := howned (step_not_exited hprocess)
  intro hne
  rw [enter_process] at hne ⊢
  cases m with
  | listener e =>
      obtain ⟨hcall, state, hloop, rfl⟩ := listener_eq hprocess
      rw [ServerProcess.phase_listener]
      refine hbefore.moved rfl ?_
      intro i hi
      change s.process.listener.phase.flagged = some i at hi
      rw [phase_of_not_inCall hcall] at hi
      rw [flagged_enter]
      -- outside its calls the listener's slot can only stay
      exact slot_kept h.listener.point hok'.listener.point rfl hne
        (fun j hj => slot_step hcall hloop hj) hi
  | listenerCall => exact Owned.listenerCall h hbefore hprovided hprocess
  | taskArgs allocated =>
      obtain ⟨slot, op, hpoint, hspawn, rfl⟩ := taskArgs_eq hprocess
      rw [ServerProcess.phase_listener]
      exact hbefore.moved rfl fun i hi => hi
  | create =>
      obtain ⟨slot, op, hpoint, hspawn, rfl⟩ := create_eq hprocess
      rw [ServerProcess.phase_append]
      have ht : s.process.phase .listener = .holding slot := by
        simp [ServerProcess.phase, ListenerThread.phase, hpoint]
      exact hbefore.handed ht (by simp [ServerProcess.phase]) rfl
  | createFailed handle => exact hprovided.elim
  | begin k =>
      obtain ⟨task, htask, hstate, rfl⟩ := begin_eq hprocess
      rw [ServerProcess.phase_setTask_slots _ htask]
      refine hbefore.moved rfl ?_
      intro i hi
      rw [ServerProcess.phase_of_task htask, TaskThread.phase, hstate] at hi
      rw [← hi]
      cases hop : s.process.slots.opDataPtr task.slot <;> rfl
  | task k e =>
      obtain ⟨task, t, t', htask, hstate, hnot, hcall, rfl⟩ := task_eq hprocess
      -- neither before the call nor behind it is the task at its end, so its slot stays
      have hended : ∀ result, t ≠ .ended result := by
        rintro result rfl
        cases hcall
      have hended' : ∀ result, t' ≠ .ended result := by
        rintro result rfl
        exact hnot result
          ((TaskState.accounts_step (h.tidy k task htask t hstate) hcall).ended result rfl)
      rw [ServerProcess.phase_setTask_slots _ htask]
      refine hbefore.moved rfl ?_
      intro i hi
      rw [ServerProcess.phase_of_task htask, phase_holding hstate hnot hended] at hi
      rw [← hi]
      refine flagged_of_live ?_ rfl
      unfold TaskThread.Live TaskThread.ended TaskThread.enter
      cases t' with
      | ended result => exact absurd rfl (hended' result)
      | _ => rfl
  | taskRelease k =>
      cases taskRelease_eq hprocess with
      | detached task result htask hstate hdetached heq =>
          rw [heq, ServerProcess.phase_setTask_slots _ htask]
          refine hbefore.moved rfl ?_
          intro i hi
          rwa [ServerProcess.phase_of_task htask] at hi
      | releasing task result slots next htask hstate hdetached hcall heq =>
          have hslots := hbefore.release (ServerProcess.phase_task_releasing htask hstate) hcall
          rw [heq, ServerProcess.phase_setTask slots _ htask]
          simpa [TaskThread.phase, SlotPhase.afterRelease, hstate] using hslots
      | released task result slots htask hstate hdetached hcall heq =>
          have hslots := hbefore.release (ServerProcess.phase_task_releasing htask hstate) hcall
          rw [heq, ServerProcess.phase_setTask slots _ htask]
          exact hslots

end Steps

end Ledger

/-! ### Every run -/

/-- No thread works on a request. -/
def ServerProcess.AtRest (s : ServerProcess) : Prop :=
  s.listener.phase = .away ∧ s.listener.state.point ≠ .exited ∧ ∀ task ∈ s.tasks, ¬ task.Live

section Runs

variable {host : Host} {mem : ListenerMemory} {s : Ledger} {tr : List ProcessMove}

theorem phase_of_atRest {process : ServerProcess} (h : process.AtRest) (t : ServerThread) :
    process.phase t = .away := by
  obtain ⟨hlistener, -, htasks⟩ := h
  cases t with
  | listener => exact hlistener
  | task k =>
      cases htask : process.tasks[k]? with
      | none => simp [ServerProcess.phase, htask]
      | some task =>
          have hended := htasks task (List.mem_of_getElem? htask)
          rw [ServerProcess.phase_of_task htask]
          unfold TaskThread.Live TaskThread.ended at hended
          unfold TaskThread.phase
          cases hstate : task.state with
          | none => simp [hstate] at hended
          | some t =>
              rw [hstate] at hended
              cases t with
              | ended result => rfl
              | _ => exact absurd rfl hended

/-- The ledger is kept beside every run of the server. -/
theorem exists_ledger {process : ServerProcess}
    (h : Run (serverProcess host mem) ServerProcess.start tr process) :
    ∃ s, Run (ledgerStep host mem) Ledger.start tr s ∧ s.process = process := by
  have hstep : ∀ s m, serverProcess host mem (Ledger.process s) m =
      (ledgerStep host mem s m).map Ledger.process := by
    intro s m
    simp [ledgerStep, Option.map_map, Function.comp_def, Ledger.enter_process]
  rcases Run.embedded (s := Ledger.start) (ledgerStep host mem) Ledger.process Ledger.process
    (fun _ => False) hstep (fun s _ => rfl) h with
    ⟨s, hrun, heq⟩ | ⟨_, _, _, _, _, hfinished, _⟩
  · exact ⟨s, hrun, heq.symm⟩
  · exact hfinished.elim

/-- In every run whose steps are provided, each request that is over has given back once what
it took, nothing is used behind that, and with no thread at work all slots are free. -/
theorem requests_settled (hrun : Run (ledgerStep host mem) Ledger.start tr s)
    (hprovided : EveryStep (ledgerStep host mem) (Ledger.Provided host mem) Ledger.start tr) :
    s.AllSettled ∧ EveryStep (ledgerStep host mem) Ledger.Safe Ledger.start tr ∧
      (s.process.AtRest → s.process.slots.freeSlotsCount = serverMaxConnections) := by
  have hinvariant : ∀ tr s, Run (ledgerStep host mem) Ledger.start tr s →
      EveryStep (ledgerStep host mem) (Ledger.Provided host mem) Ledger.start tr →
      s.Ok host ∧ s.Owned := by
    intro tr s hrun hprovided
    refine hrun.invariant_of_everyStep (I := fun s => s.Ok host ∧ s.Owned) ?_ hprovided
      ⟨Ledger.Ok.start, Ledger.owned_start⟩
    rintro t m u ⟨hok, howned⟩ hm hstep
    exact ⟨hok.step hm hstep, howned.step hok hm hstep⟩
  obtain ⟨hok, howned⟩ := hinvariant tr s hrun hprovided
  refine ⟨hok.allSettled, ?_, ?_⟩
  · rw [everyStep_iff]
    rintro pre m post t rfl hpre
    obtain ⟨t', u, hpre', hstep, -⟩ := hrun.step_at
    obtain rfl := hpre'.deterministic hpre
    exact (hinvariant pre t' hpre hprovided.of_append).1.safe hstep
  · intro hrest
    exact (howned hrest.2.1).freeSlotsCount_eq hok.slots (phase_of_atRest hrest)

end Runs

section FixedRuns

instance (point : ListenerPoint) : DecidablePred point.Prepared := by
  intro socket
  unfold ListenerPoint.Prepared
  refine @instDecidableAnd _ _ ?_ ?_ <;> split <;> infer_instance

instance (host : Host) (mem : ListenerMemory) (s : Ledger) :
    DecidablePred (s.Provided host mem) := by
  intro m
  unfold Ledger.Provided
  split <;> try split
  all_goals infer_instance

set_option maxRecDepth 8000 in
theorem requests_settled_removal :
    ∃ s, Run (ledgerStep littleHost .strict) .start
        (requestMoves (localhost 50001) 0 4 40001 ++ removalMoves (localhost 50001)) s ∧
      s.AllSettled ∧ s.process.slots.freeSlotsCount = 5 := by
  have hrun : ∃ s, Run (ledgerStep littleHost .strict) .start
      (requestMoves (localhost 50001) 0 4 40001 ++ removalMoves (localhost 50001)) s ∧
      s.process.listener.phase = .away ∧ s.process.listener.state.point ≠ .exited ∧
      ∀ task ∈ s.process.tasks, ¬ task.Live := exists_run_of_exec (by decide)
  obtain ⟨s, hrun, hrest⟩ := hrun
  obtain ⟨hsettled, -, hfree⟩ := requests_settled hrun (by decide)
  exact ⟨s, hrun, hsettled, hfree hrest⟩

/-- A task that finds `should_terminate` set keeps its operation data and its socket. -/
def abandonMoves : List ProcessMove :=
  [.begin 0, .task 0 (.poll true)] ++ List.replicate 5 (.taskRelease 0)

set_option maxRecDepth 8000 in
theorem requests_unsettled_terminated :
    ¬ ∀ (tr : List ProcessMove) (s : Ledger), Run (ledgerStep littleHost .strict) .start tr s →
      s.AllSettled := by
  intro hall
  have hrun : ∃ s, Run (ledgerStep littleHost .strict) .start
      (requestMoves (localhost 50001) 0 4 40001 ++ abandonMoves) s ∧
      (∃ task, s.process.tasks[0]? = some task ∧ ¬ task.Live) ∧
      ∃ r, s.tasks[0]? = some r ∧ ¬ r.operation.Once := exists_run_of_exec (by decide)
  obtain ⟨s, hrun, ⟨task, htask, hended⟩, r, hr, hkept⟩ := hrun
  exact hkept ((hall _ s hrun).tasks 0 task r htask hr (Or.inl hended)).operation

end FixedRuns

end Stftpu
