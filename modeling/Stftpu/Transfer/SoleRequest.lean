import Stftpu.Conversation
import Stftpu.Server.Service
import Stftpu.Transfer.PerfectDeletion

/-!
# The server and the one request it gets

From the arrival of a request at an idle server with a free slot to the creation of its task,
and at the task's end the release of the slot, whatever the request is for, where the system
grants what the server asks of it.

* `Event.granted`, `ProcessMove.granted` — a call that succeeds.
* `ListenerState.Parses` — the listener makes a task of what it has received for a request.
* `ListenerThread.Listening.step`, `ListenerThread.Requested.step` — the listener until the
  request arrives, and on its way to the task.
* `release_step` — a task that releases its slot.
* `ListenerThread.Requested.enabled`, `taskRelease_enabled` — neither is held up.
-/

namespace Stftpu

open Library

/-- The system does what the call asks for; files that are opened for reading apart. -/
def Event.granted : Event → Bool
  | .poll set => !set
  | .malloc _ block => block.isSome
  | .fopen _ .write error => error.isNone
  | .fread size bytes eof => eof || !bytes.isEmpty && bytes.length == size
  | .fwrite bytes count _ => count == bytes.length
  | .fclose lost => lost == 0
  | .sendto _ _ ok => ok
  | .recvfrom _ (.failed _) => false
  | .dataSocket .exits => false
  | _ => true

def ProcessMove.granted : ProcessMove → Bool
  | .listener e => e.granted
  | .taskArgs allocated => allocated
  | .createFailed _ => false
  | .task _ e => e.granted
  | _ => true

/-- Nothing is sent or received in this step. -/
def ProcessMove.Silent (m : ProcessMove) : Prop :=
  ∀ e, m.call = some e → e.usesSocket = false

theorem undisturbed_of_granted {e : Event} (h : e.granted = true) : Undisturbed e := by
  cases e with
  | poll set => simpa [Event.granted, Undisturbed] using h
  | fread size bytes eof =>
      rintro ⟨rfl, rfl⟩
      cases h
  | fwrite bytes count kept => simpa [Event.granted, Undisturbed] using h
  | _ => trivial

@[simp] theorem granted_fclose (lost : Nat) : (Event.fclose lost).granted = true ↔ lost = 0 := by
  simp [Event.granted]

/-- No read fails, so none stops inside a block. -/
theorem readsWhole_of_granted {e : Event} (h : e.granted = true) : e.ReadsWhole := by
  cases e with
  | fread size bytes eof =>
      rintro rfl
      simp only [Event.granted, Bool.false_or, Bool.and_eq_true, beq_iff_eq] at h
      exact Or.inr h.2
  | _ => trivial

theorem ProcessMove.undisturbed_of_granted {m : ProcessMove} (h : m.granted = true) :
    m.undisturbed = true := by
  cases m with
  | listener e =>
      cases e with
      | dataSocket result =>
          cases result with
          | exits => cases h
          | bound fd port => rfl
      | poll set => exact h
      | sendto peer packet ok => exact h
      | _ => rfl
  | task k e =>
      cases e with
      | poll set => exact h
      | sendto peer packet ok => exact h
      | _ => rfl
  | taskArgs allocated => exact h
  | createFailed handle => cases h
  | _ => rfl

theorem ProcessMove.silent_of_call {m : ProcessMove} (h : m.call = none) : m.Silent := by
  intro e he
  rw [h] at he
  cases he

theorem ProcessMove.silent_listener {e : Event} (h : e.usesSocket = false) :
    (ProcessMove.listener e).Silent := by
  intro e' he
  obtain rfl := Option.some.inj he
  exact h

/-! ## Steps left -/

/-- The task a step belongs to. -/
def ProcessMove.taskIndex : ProcessMove → Option Nat
  | .begin k => some k
  | .task k _ => some k
  | .taskRelease k => some k
  | _ => none

/-- The listener waits for a request. -/
def ListenerThread.Listening (listener : ListenerThread) : Prop :=
  listener.state.point = .looping ∨ listener.state.point = .awaiting

/-- Steps left of the listener until it waits in `recvfrom`. -/
def listenTurns (listener : ListenerThread) : Nat :=
  match listener.state.point with
  | .looping => 1
  | _ => 0

/-- Steps left until the task for a request is created. -/
def parseTurns (listener : ListenerThread) : Nat :=
  match listener.state.point with
  | .received => 32
  | .acquiring => 21 + acquireTurns listener.acquire
  | .initializing _ _ => 21
  | .spawning _ _ =>
      match listener.spawn with
      | .storing => 20
      | .allocating => 19
      | .creating => 18
      | .crashed => 0
  | _ => 0

/-- Only a live task makes a step. -/
theorem live_of_taskIndex {host : Host} {mem : ListenerMemory} {s s' : ServerProcess}
    {m : ProcessMove} {k : Nat} (hstep : serverProcess host mem s m = some s')
    (hk : m.taskIndex = some k) : ∃ task, s.tasks[k]? = some task ∧ task.Live := by
  cases m with
  | begin j =>
      obtain rfl := Option.some.inj hk
      obtain ⟨task, htask, hstate, -⟩ := begin_eq hstep
      exact ⟨task, htask, by simp [TaskThread.Live, TaskThread.ended, hstate]⟩
  | task j e =>
      obtain rfl := Option.some.inj hk
      obtain ⟨task, state, state', htask, hstate, -, hcall, -⟩ := task_eq hstep
      refine ⟨task, htask, ?_⟩
      unfold TaskThread.Live TaskThread.ended
      rw [hstate]
      cases state with
      | ended result => cases hcall
      | _ => rfl
  | taskRelease j =>
      obtain rfl := Option.some.inj hk
      rcases taskRelease_eq hstep with ⟨task, _, htask, hstate, _, _⟩ |
        ⟨task, _, _, _, htask, hstate, _, _, _⟩ | ⟨task, _, _, htask, hstate, _, _, _⟩
      · exact ⟨task, htask, by simp [TaskThread.Live, TaskThread.ended, hstate]⟩
      · exact ⟨task, htask, by simp [TaskThread.Live, TaskThread.ended, hstate]⟩
      · exact ⟨task, htask, by simp [TaskThread.Live, TaskThread.ended, hstate]⟩
  | _ => cases hk

/-- The mutex is free, or belongs to the only thread that can be at work. -/
theorem mutex_cases {slots : ServerSlots} {phase : ServerThread → SlotPhase} {t : ServerThread}
    (hok : SlotsOk slots phase) (hothers : ∀ u, u ≠ t → (phase u).critical = false) :
    slots.slotsMutex = none ∨ (phase t).critical = true := by
  cases hmutex : slots.slotsMutex with
  | none => exact Or.inl rfl
  | some u =>
      have hcritical := (hok.mutex u).mp hmutex
      by_cases hu : u = t
      · exact Or.inr (hu ▸ hcritical)
      · rw [hothers u hu] at hcritical
        cases hcritical

/-! ## The listener -/

/-- The listener has received a request and has not created its task yet. -/
def ListenerThread.Requested (taken : ListenerState → Prop) (listener : ListenerThread)
    (slots : ServerSlots) : Prop :=
  match listener.state.point with
  | .received => taken listener.state ∧ slots.HasFree
  | .acquiring => Finds slots listener.acquire
  | .initializing _ _ => True
  | .spawning _ _ => listener.spawn ≠ .crashed
  | _ => False

/-- What the listener takes for a request comes to a task: it is dispatched, parsed and
accepted. -/
structure ListenerState.Parses (host : Host) (mem : ListenerMemory)
    (taken : ListenerState → Prop) (s : ListenerState) : Prop where
  dispatched : s.point = .received → taken s →
    s.dispatch host mem = { s with point := .acquiring }
  acquired : s.point = .acquiring → ∀ slot, ∃ args,
    s.onAcquired host mem (some slot) = { s with point := .initializing slot args }
  initialized : ∀ slot args, s.point = .initializing slot args → ∀ fd port, ∃ op,
    s.onInitialized slot args (.bound fd port) = { s with point := .spawning slot op }

section Listener

variable {taken : ListenerState → Prop} {host : Host} {mem : ListenerMemory}
  {p p' : ServerProcess} {m : ProcessMove}

/-- The listener takes a step while it waits. -/
theorem ListenerThread.Listening.step (h : p.listener.Listening) (hindex : m.taskIndex = none)
    (hquiet : m.undisturbed = true) (hstep : serverProcess host mem p m = some p') :
    p'.slots = p.slots ∧ p'.tasks = p.tasks ∧
      (m.Silent ∧ p'.listener.Listening ∧ listenTurns p'.listener < listenTurns p.listener ∨
        ∃ result, m = .listener (.recvfrom requestBufferSize result) ∧
          p'.listener = .enter (p.listener.state.onReceived result)) := by
  cases m with
  | listener e =>
      obtain ⟨-, state, hloop, rfl⟩ := listener_eq hstep
      refine ⟨rfl, rfl, ?_⟩
      cases loop_called hloop with
      | looping set hpoint =>
          simp only [ProcessMove.undisturbed, Bool.not_eq_true'] at hquiet
          subst hquiet
          refine Or.inl ⟨ProcessMove.silent_listener rfl, Or.inr rfl, ?_⟩
          simp [listenTurns, hpoint, ListenerThread.enter]
      | awaiting result hpoint => exact Or.inr ⟨result, rfl, rfl⟩
      | _ =>
          rename_i hpoint
          simp [ListenerThread.Listening, hpoint] at h
  | listenerCall =>
      rcases listenerCall_eq hstep with ⟨_, _, hpoint, _, _⟩ | ⟨_, _, hpoint, _, _⟩ |
        ⟨_, _, _, hpoint, _, _⟩ | ⟨_, _, hpoint, _, _⟩ | ⟨_, _, hpoint, _, _⟩
      all_goals simp [ListenerThread.Listening, hpoint] at h
  | taskArgs allocated =>
      obtain ⟨_, _, hpoint, _, _⟩ := taskArgs_eq hstep
      simp [ListenerThread.Listening, hpoint] at h
  | create =>
      obtain ⟨_, _, hpoint, _, _⟩ := create_eq hstep
      simp [ListenerThread.Listening, hpoint] at h
  | createFailed handle => cases hquiet
  | _ => cases hindex

/-- The listener on its way from the request to the task. -/
theorem ListenerThread.Requested.step (h : p.listener.Requested taken p.slots)
    (hparses : p.listener.state.Parses host mem taken) (hok : ProcessOk p)
    (hindex : m.taskIndex = none) (hquiet : m.undisturbed = true)
    (hstep : serverProcess host mem p m = some p') :
    m.Silent ∧
      (p'.tasks = p.tasks ∧ p'.listener.Requested taken p'.slots ∧
          parseTurns p'.listener < parseTurns p.listener ∨
        ∃ slot, p'.tasks = p.tasks ++ [.create slot] ∧ p'.listener.Listening ∧
          parseTurns p.listener = 18) := by
  cases m with
  | listener e =>
      obtain ⟨hcall, state, hloop, rfl⟩ := listener_eq hstep
      cases loop_called hloop with
      | received set hpoint =>
          simp only [ListenerThread.Requested, hpoint] at h
          simp only [ProcessMove.undisturbed, Bool.not_eq_true'] at hquiet
          subst hquiet
          refine ⟨ProcessMove.silent_listener rfl, Or.inl ?_⟩
          simp only [Bool.false_eq_true, if_false, hparses.dispatched hpoint h.1]
          refine ⟨trivial, h.2, ?_⟩
          simp [parseTurns, hpoint, ListenerThread.enter, acquireTurns]
      | initializing slot args socket hpoint =>
          cases socket with
          | exits => cases hquiet
          | bound fd port =>
              obtain ⟨op, hinit⟩ := hparses.initialized slot args hpoint fd port
              refine ⟨ProcessMove.silent_listener rfl, Or.inl ?_⟩
              rw [hinit]
              refine ⟨rfl, by simp [ListenerThread.Requested, ListenerThread.enter], ?_⟩
              simp [parseTurns, hpoint, ListenerThread.enter]
      | acquiring slot hpoint =>
          rw [hpoint] at hcall
          cases hcall
      | spawning slot op ok hpoint =>
          rw [hpoint] at hcall
          cases hcall
      | _ =>
          rename_i hpoint
          simp [ListenerThread.Requested, hpoint] at h
  | listenerCall =>
      refine ⟨ProcessMove.silent_of_call rfl, Or.inl ?_⟩
      cases listenerCall_eq hstep with
      | acquiring slots next hpoint hcall heq =>
          rw [ListenerThread.Requested, hpoint] at h
          rcases acquire_finds hok.slots (ServerProcess.phase_acquiring hpoint) h hcall with
            ⟨point, hnext, hfinds, hturns⟩ | ⟨slot, hnext⟩
          · obtain rfl := Sum.inl.inj hnext
            rw [heq]
            refine ⟨rfl, by simpa only [ListenerThread.Requested, hpoint] using hfinds, ?_⟩
            simp only [parseTurns, hpoint]
            omega
          · cases hnext
      | acquired slots slot hpoint hcall heq =>
          rw [ListenerThread.Requested, hpoint] at h
          rcases acquire_finds hok.slots (ServerProcess.phase_acquiring hpoint) h hcall with
            ⟨point, hnext, -, -⟩ | ⟨found, hnext⟩
          · cases hnext
          · obtain rfl := Sum.inr.inj hnext
            obtain ⟨args, hargs⟩ := hparses.acquired hpoint found
            rw [heq, hargs]
            refine ⟨rfl, trivial, ?_⟩
            have hpositive : 0 < acquireTurns p.listener.acquire := by
              cases p.listener.acquire <;> simp [acquireTurns]
            simp only [parseTurns, hpoint, ListenerThread.enter]
            omega
      | releasing slot slots next hpoint hcall heq =>
          simp [ListenerThread.Requested, hpoint] at h
      | released slot slots hpoint hcall heq => simp [ListenerThread.Requested, hpoint] at h
      | stored slot op hpoint hspawn heq =>
          rw [heq]
          refine ⟨rfl, by simp [ListenerThread.Requested, hpoint], ?_⟩
          simp [parseTurns, hpoint, hspawn]
  | taskArgs allocated =>
      obtain ⟨slot, op, hpoint, hspawn, heq⟩ := taskArgs_eq hstep
      obtain rfl : allocated = true := hquiet
      refine ⟨ProcessMove.silent_of_call rfl, Or.inl ?_⟩
      rw [heq]
      refine ⟨rfl, by simp [ListenerThread.Requested, hpoint], ?_⟩
      simp [parseTurns, hpoint, hspawn]
  | create =>
      obtain ⟨slot, op, hpoint, hspawn, heq⟩ := create_eq hstep
      refine ⟨ProcessMove.silent_of_call rfl, Or.inr ⟨slot, ?_, ?_, ?_⟩⟩
      · rw [heq]
      · rw [heq]
        exact Or.inl rfl
      · simp [parseTurns, hpoint, hspawn]
  | createFailed handle => cases hquiet
  | _ => cases hindex

end Listener

/-! ### Requests for a transfer and for a deletion -/

namespace TransferRequest

variable {r : TransferRequest} {host : Host} {mem : ListenerMemory} {s : ListenerState}

theorem packet_pos (r : TransferRequest) : 0 < r.packet.length := by
  have htwo := two_le_of_requestOperation r.opcode
  omega

theorem taken_onReceived (h : s.requestBuffer = Buffer.zero requestBufferSize)
    (source : SockAddr) : r.Taken (s.onReceived (.datagram source r.packet)) where
  length := by
    have hfits := r.fits
    simp only [ListenerState.onReceived]
    omega
  buffer := by
    simp only [ListenerState.onReceived, h]

/-- The dump of the request stays inside the buffer, and a slot is looked for. -/
theorem dispatch_taken (h : r.Taken s) : s.dispatch host mem = { s with point := .acquiring } := by
  have hpos := r.packet_pos
  obtain ⟨dump, hdump⟩ := readBytes_contents mem s r.fits
  have hopcode : s.incomingOpcode host = opcodeOf r.packet := incomingOpcode_cleared host h.buffer
  have hbytes : ¬ s.bytesReceived ≤ 0 := by
    rw [h.length]
    omega
  have hcount : s.bytesReceived.toNat = r.packet.length := by
    rw [h.length]
    rfl
  simp only [ListenerState.dispatch, hbytes, if_false, hcount, hdump, hopcode, r.opcode]

/-- The request is parsed, whichever slot was found. -/
theorem onAcquired_taken (host : Host) (mem : ListenerMemory) (h : r.Taken s) (slot : Nat) :
    ∃ args, s.onAcquired host mem (some slot) = { s with point := .initializing slot args } := by
  obtain ⟨args, hparse, -⟩ :=
    serverParseRequestData_cleared host mem h.buffer h.length r.fits r.opcode
  exact ⟨args, by simp only [ListenerState.onAcquired, hparse]⟩

theorem onInitialized_bound (s : ListenerState) (slot : Nat) {args : InitArguments}
    {source : SockAddr} (hargs : ArgumentsMatch args source r.packet) (fd : Int) (port : UInt16) :
    ∃ op, s.onInitialized slot args (.bound fd port) = { s with point := .spawning slot op } := by
  obtain ⟨op, hinit, -⟩ := r.accepted args source hargs fd port
  exact ⟨op, by simp only [ListenerState.onInitialized, hinit]⟩

theorem parses_of_listenerFor (host : Host) (mem : ListenerMemory) (h : r.ListenerFor s) :
    s.Parses host mem r.Taken where
  dispatched := fun _ htaken => dispatch_taken htaken
  acquired := by
    intro hpoint slot
    rw [ListenerFor, hpoint] at h
    exact onAcquired_taken host mem h slot
  initialized := by
    intro slot args hpoint fd port
    rw [ListenerFor, hpoint] at h
    obtain ⟨source, hargs⟩ := h
    exact onInitialized_bound s slot hargs fd port

end TransferRequest

theorem DeleteRequest.parses_of_listenerFor {d : DeleteRequest} {s : ListenerState} (host : Host)
    (mem : ListenerMemory) (h : d.ListenerFor s) : s.Parses host mem d.Taken where
  dispatched := fun _ htaken => dispatch_taken htaken
  acquired := by
    intro hpoint slot
    rw [ListenerFor, hpoint] at h
    obtain ⟨args, hargs, -⟩ := onAcquired_taken host mem h slot
    exact ⟨args, hargs⟩
  initialized := by
    intro slot args hpoint fd port
    rw [ListenerFor, hpoint] at h
    obtain ⟨op, hinit, -⟩ := onInitialized_bound s slot fd port h.1 h.2.1 h.2.2
    exact ⟨op, hinit⟩

/-! ## The task's release of its slot -/

/-- Steps left of a task that releases its slot. -/
def TaskThread.releaseLeft (task : TaskThread) : Nat :=
  if task.detached then 1 + releaseTurns task.release else 6

section Release

variable {host : Host} {mem : ListenerMemory} {p p' : ServerProcess} {k : Nat}
  {task : TaskThread}

theorem release_step (hstep : serverProcess host mem p (.taskRelease k) = some p')
    (htask : p.tasks[k]? = some task) :
    ∃ result task', task.state = some (.releasing result) ∧ p'.listener = p.listener ∧
      p'.tasks = p.tasks.set k task' ∧
      (task'.state = some (.releasing result) ∧ task'.releaseLeft < task.releaseLeft ∨
        task'.state = some (.ended result)) := by
  cases taskRelease_eq hstep with
  | detached before result hbefore hstate hdetached heq =>
      obtain rfl := Option.some.inj (htask.symm.trans hbefore)
      refine ⟨result, { task with detached := true }, hstate, by rw [heq]; rfl,
        by rw [heq]; rfl, Or.inl ⟨hstate, ?_⟩⟩
      have hturns : releaseTurns task.release ≤ 4 := by
        cases task.release <;> simp [releaseTurns]
      simp only [TaskThread.releaseLeft, hdetached, if_true, Bool.false_eq_true, if_false]
      omega
  | releasing before result slots next hbefore hstate hdetached hcall heq =>
      obtain rfl := Option.some.inj (htask.symm.trans hbefore)
      refine ⟨result, { task with release := next }, hstate, by rw [heq]; rfl,
        by rw [heq]; rfl, Or.inl ⟨hstate, ?_⟩⟩
      have hturns := release_turns hcall
      simp only [TaskThread.releaseLeft, hdetached, if_true]
      omega
  | released before result slots hbefore hstate hdetached hcall heq =>
      obtain rfl := Option.some.inj (htask.symm.trans hbefore)
      exact ⟨result, task.enter (.ended result), hstate, by rw [heq]; rfl, by rw [heq]; rfl,
        Or.inr rfl⟩

/-- A task that has ended has nothing to do with the mutex. -/
theorem phase_of_not_live (h : ∀ task, p.tasks[k]? = some task → ¬ task.Live) :
    (p.phase (.task k)).critical = false := by
  simp only [ServerProcess.phase]
  cases htask : p.tasks[k]? with
  | none => rfl
  | some task =>
      obtain ⟨result, hstate⟩ := DeleteRequest.ended_of_not_live (h task htask)
      simp [TaskThread.phase, hstate, SlotPhase.critical]

/-- The listener, the only thread at work, goes on. -/
theorem ListenerThread.Requested.enabled {taken : ListenerState → Prop} (host : Host)
    (mem : ListenerMemory) (h : p.listener.Requested taken p.slots) (hok : ProcessOk p)
    (hended : ∀ task ∈ p.tasks, ¬ task.Live) :
    ∃ m, m.granted = true ∧ m.Silent ∧ m.taskIndex = none ∧
      (serverProcess host mem p m).isSome = true := by
  cases hpoint : p.listener.state.point with
  | received =>
      refine ⟨.listener (.poll false), rfl, ProcessMove.silent_listener rfl, rfl, ?_⟩
      simp [serverProcess, serverListenerLoop, ListenerPoint.inCall, hpoint]
  | acquiring =>
      have hothers : ∀ u, u ≠ .listener → (p.phase u).critical = false := by
        intro u hu
        cases u with
        | listener => exact absurd rfl hu
        | task k =>
            apply phase_of_not_live
            intro task htask
            exact hended task (List.mem_of_getElem? htask)
      -- the mutex is free, or the listener has it
      have hmutex : p.slots.slotsMutex = none ∨ p.listener.acquire ≠ .locking := by
        rcases mutex_cases hok.slots hothers with hfree | hcritical
        · exact Or.inl hfree
        · right
          intro hlocking
          rw [ServerProcess.phase_acquiring hpoint, hlocking] at hcritical
          cases hcritical
      obtain ⟨⟨slots, next⟩, hcall⟩ := acquire_enabled (t := .listener) hmutex
      refine ⟨.listenerCall, rfl, ProcessMove.silent_of_call rfl, rfl, ?_⟩
      cases next <;> simp [serverProcess, listenerCall, hpoint, hcall, serverListenerLoop]
  | initializing slot args =>
      refine ⟨.listener (.dataSocket (.bound 1 1)), rfl, ProcessMove.silent_listener rfl, rfl, ?_⟩
      simp [serverProcess, serverListenerLoop, ListenerPoint.inCall, hpoint]
  | spawning slot op =>
      simp only [ListenerThread.Requested, hpoint] at h
      cases hspawn : p.listener.spawn with
      | storing =>
          refine ⟨.listenerCall, rfl, ProcessMove.silent_of_call rfl, rfl, ?_⟩
          simp [serverProcess, listenerCall, hpoint, hspawn]
      | allocating =>
          refine ⟨.taskArgs true, rfl, ProcessMove.silent_of_call rfl, rfl, ?_⟩
          simp [serverProcess, hpoint, hspawn]
      | creating =>
          refine ⟨.create, rfl, ProcessMove.silent_of_call rfl, rfl, ?_⟩
          simp [serverProcess, hpoint, hspawn, serverListenerLoop]
      | crashed => exact absurd hspawn h
  | _ => simp [ListenerThread.Requested, hpoint] at h

/-- The task, the only thread at work beside a listener that waits, releases its slot. -/
theorem taskRelease_enabled (host : Host) (mem : ListenerMemory) (hok : ProcessOk p)
    (hlistening : p.listener.Listening)
    (htask : p.tasks[k]? = some task) {result : Option Bool}
    (hstate : task.state = some (.releasing result))
    (hended : ∀ j, j ≠ k → ∀ other, p.tasks[j]? = some other → ¬ other.Live) :
    (serverProcess host mem p (.taskRelease k)).isSome = true := by
  have hexited : p.listener.state.point ≠ .exited := by
    rcases hlistening with hpoint | hpoint
    · simp [hpoint]
    · simp [hpoint]
  have hphase := ServerProcess.phase_task_releasing htask hstate
  have hothers : ∀ u, u ≠ .task k → (p.phase u).critical = false := by
    intro u hu
    cases u with
    | listener =>
        rcases hlistening with hpoint | hpoint
        · simp [ServerProcess.phase, ListenerThread.phase, hpoint, SlotPhase.critical]
        · simp [ServerProcess.phase, ListenerThread.phase, hpoint, SlotPhase.critical]
    | task j =>
        apply phase_of_not_live
        apply hended
        rintro rfl
        exact hu rfl
  -- the mutex is free, or this task has it
  have hmutex : p.slots.slotsMutex = none ∨ task.release ≠ .locking := by
    rcases mutex_cases hok.slots hothers with hfree | hcritical
    · exact Or.inl hfree
    · right
      intro hlocking
      rw [hphase, hlocking] at hcritical
      cases hcritical
  obtain ⟨⟨slots, next⟩, hcall⟩ := release_enabled (t := .task k) task.slot hmutex
  cases hdetached : task.detached with
  | false => simp [serverProcess, hexited, htask, hstate, serverTaskRelease, hdetached]
  | true =>
      cases next <;>
        simp [serverProcess, hexited, htask, hstate, serverTaskRelease, hdetached, hcall,
          serverTaskStart]

end Release

end Stftpu
