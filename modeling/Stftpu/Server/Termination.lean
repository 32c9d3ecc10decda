import Stftpu.Server.Arrivals
import Stftpu.Server.FaultIsolation
import Stftpu.Transfer.Interruption
import Stftpu.Transfer.PerfectDeletion

/-!
# The server behind a signal

`initialize_signal_handler` hooks `signal_handler` up to three signals, each of which sets
`should_terminate`, and nothing clears it.  `left` counts the steps a thread may still take
once the flag is set; every step of every thread takes one away, but for a datagram taken in
by `tftp_receive_file`.  The listener is left with one request at most, and that one's task
finds the flag set before it does anything.

* `signalledServer` — the threads of the server, and the signals.
* `left_process` — one step with the flag set.
* `rest_or_step` — a server that is not at rest can take a step.
* `shutdown_bounded` — from a signal to the rest of the whole server.
-/

namespace Stftpu

open Library

/-! ## Signals -/

inductive Signal
  | sighup
  | sigint
  | sigterm
  | other (signum : Nat)
  deriving DecidableEq, Repr

/-- `initialize_signal_handler` hooks the handler up to these. -/
def Signal.hooked : Signal → Bool
  | .sighup => true
  | .sigint => true
  | .sigterm => true
  | .other _ => false

/-- `signal_handler`: `should_terminate` behind it. -/
def signalHandler (shouldTerminate : Bool) : Signal → Bool
  | .sigint => true
  | .sigterm => true
  | .sighup => true
  | .other _ => shouldTerminate

/-- The server, with the flag its threads share with the handler. -/
structure SignalledServer where
  process : ServerProcess
  shouldTerminate : Bool

/-- `initialize_signal_handler` has cleared the flag, and `server_init_data` succeeded. -/
def SignalledServer.start : SignalledServer :=
  { process := ServerProcess.start, shouldTerminate := false }

inductive SignalMove
  /-- A signal is delivered. -/
  | signal (signum : Signal)
  /-- A step of one thread. -/
  | process (m : ProcessMove)
  deriving DecidableEq, Repr

/-- A look at `should_terminate` in this step finds the value. -/
def ProcessMove.finds (value : Bool) : ProcessMove → Bool
  | .listener e => e.finds value
  | .task _ e => e.finds value
  | _ => true

/-- One step of one thread, or a signal.  What other signals do is not the program's. -/
def signalledServer (host : Host) (mem : ListenerMemory) (s : SignalledServer) :
    SignalMove → Option SignalledServer
  | .signal signum =>
      if signum.hooked then
        some { s with shouldTerminate := signalHandler s.shouldTerminate signum }
      else
        none
  | .process m =>
      if m.finds s.shouldTerminate then
        (serverProcess host mem s.process m).map fun process => { s with process := process }
      else
        none

theorem signalHandler_hooked {signum : Signal} (h : signum.hooked = true)
    (shouldTerminate : Bool) : signalHandler shouldTerminate signum = true := by
  cases signum with
  | other signum => cases h
  | sighup | sigint | sigterm => rfl

/-- A step of a thread. -/
def SignalMove.ofThread : SignalMove → Bool
  | .signal _ => false
  | .process _ => true

/-- A task takes a datagram in. -/
def SignalMove.taskReceives : SignalMove → Bool
  | .process (.task _ e) => e.receives
  | _ => false

/-! ## What a task has left -/

namespace TaskState

/-- Steps left at most, the flag being set. -/
def left : TaskState → Nat
  | .starting _ => 6
  | .allocating _ => 17
  | .filling s => s.left + 11
  | .acknowledging _ _ _ => 11
  | .receiving _ s => s.left + 8
  | .closingPartial _ => 8
  | .removingPartial _ => 7
  | .transmitting _ s => s.left + 7
  | .deleting .acknowledging _ => 11
  | .deleting .opening _ => 10
  | .deleting .closing _ => 9
  | .deleting .removing _ => 8
  | .deleting .confirming _ => 7
  | .deleting (.failing _) _ => 7
  | .closingFile _ _ => 7
  | .closingSocket _ _ => 6
  | .releasing _ => 5
  | .ended _ => 0
  | .fault => 0

/-- Inside a function the task calls, that function has not returned. -/
def InCall : TaskState → Prop
  | .filling s => 0 < s.left
  | .receiving _ s => 0 < s.left
  | .transmitting _ s => 0 < s.left
  | _ => True

variable {host : Host} {t t' : TaskState} {e : Event}

theorem left_freeOperationData (op : OperationData) (result : Option Bool) :
    (freeOperationData op result).left ≤ 6 := by
  unfold freeOperationData
  split
  · exact le_refl _
  · simp [left]

theorem left_freeTransferData (op : OperationData) (fileOpen : Bool) (result : Option Bool) :
    (freeTransferData op fileOpen result).left ≤ 7 := by
  unfold freeTransferData
  split
  · exact le_refl _
  · exact le_trans (left_freeOperationData op result) (by omega)

theorem left_afterFill (s : FillState) : (afterFill s).left ≤ s.left + 11 := by
  unfold afterFill
  split
  · split
    · simp [left]
    · simp [left, TransmitState.start, TransmitState.left]
  · split
    · exact le_trans (left_freeTransferData s.op s.fileOpen none) (by omega)
    · exact Nat.zero_le _
  · exact le_refl _

theorem left_afterReceive {b : BlockSize} (s : ReceiveState b) :
    (afterReceive s).left ≤ s.left + 8 := by
  unfold afterReceive
  split
  · split
    · simp [left]
    · simp [left]
  · exact Nat.zero_le _
  · exact le_refl _

theorem left_afterTransmit {b : BlockSize} (s : TransmitState b) :
    (afterTransmit s).left ≤ s.left + 7 := by
  unfold afterTransmit
  split
  · simp [left]
  · exact le_refl _

theorem left_failDelete (op : OperationData) (reply : ErrorReply) :
    (failDelete op reply).left ≤ 7 := by
  unfold failDelete
  split
  · exact le_refl _
  · exact le_trans (left_freeOperationData op _) (by omega)

/-- `server_delete_file` never looks at the flag, and has no loop. -/
theorem left_delete {point : DeletePoint} {op : OperationData}
    (hstep : serverDeleteFile host point op e = some t') :
    t'.left < (TaskState.deleting point op).left := by
  cases delete_called hstep with
  | acknowledging ok => simp [left]
  | opened => simp [left]
  | missing errno =>
      apply lt_of_le_of_lt (left_failDelete op _)
      simp [left]
  | closing => simp [left]
  | removed => simp [left]
  | kept errno =>
      apply lt_of_le_of_lt (left_failDelete op _)
      simp [left]
  | confirming ok =>
      apply lt_of_le_of_lt (left_freeOperationData op _)
      simp [left]
  | failing reply ok =>
      apply lt_of_le_of_lt (left_freeOperationData op _)
      simp [left]

theorem left_step (hset : e.finds true = true) (hstep : serverTaskStart host t e = some t') :
    t'.left < t.left + [e].countP Event.receives := by
  have hless : t'.left < t.left → t'.left < t.left + [e].countP Event.receives :=
    fun h => Nat.lt_add_right _ h
  cases task_called hstep with
  | starting op set =>
      obtain rfl : set = true := by simpa [Event.finds] using hset
      apply hless
      simp [left]
  | allocating op block =>
      apply hless
      have hstart := FillState.left_start op block.isSome (op.operationId = .receive)
      exact lt_of_le_of_lt (left_afterFill _) (by simp only [left]; omega)
  | filling s s' hs =>
      apply hless
      have hfill := FillState.left_step hs
      exact lt_of_le_of_lt (left_afterFill s') (by simp only [left]; omega)
  | acknowledging b op tx ok =>
      apply hless
      cases ok with
      | true => simp [onAcknowledged, left, ReceiveState.start, ReceiveState.left]
      | false => simp [onAcknowledged, left]
  | receiving b s s' hs =>
      have hreceive := ReceiveState.left_step hset hs
      exact lt_of_le_of_lt (left_afterReceive s') (by simp only [left]; omega)
  | closingPartial op =>
      apply hless
      simp [left]
  | removingPartial op error =>
      apply hless
      exact lt_of_le_of_lt (left_freeOperationData op _) (by simp [left])
  | transmitting b s s' hs =>
      apply hless
      have htransmit := TransmitState.left_step hset hs
      exact lt_of_le_of_lt (left_afterTransmit s') (by simp only [left]; omega)
  | deleting point op hdelete =>
      apply hless
      exact left_delete hdelete
  | closingFile op result =>
      apply hless
      exact lt_of_le_of_lt (left_freeOperationData op _) (by simp [left])
  | closingSocket op result =>
      apply hless
      simp [left]
  | releasing result =>
      apply hless
      simp [left]

theorem inCall_freeOperationData (op : OperationData) (result : Option Bool) :
    (freeOperationData op result).InCall := by
  unfold freeOperationData
  split <;> trivial

theorem inCall_freeTransferData (op : OperationData) (fileOpen : Bool) (result : Option Bool) :
    (freeTransferData op fileOpen result).InCall := by
  unfold freeTransferData
  split
  · trivial
  · exact inCall_freeOperationData op result

theorem inCall_afterFill (s : FillState) : (afterFill s).InCall := by
  unfold afterFill
  split
  · split
    · trivial
    · simp [InCall, TransmitState.start, TransmitState.left]
  · split
    · exact inCall_freeTransferData s.op s.fileOpen none
    · trivial
  · rename_i hready hfailed
    simp only [InCall, FillState.left]
    split
    case h_7 b tx hpoint => exact absurd hpoint (hready b tx)
    case h_8 hpoint => exact absurd hpoint hfailed
    all_goals omega

theorem inCall_afterReceive {b : BlockSize} (s : ReceiveState b) : (afterReceive s).InCall := by
  unfold afterReceive
  split
  · split <;> trivial
  · trivial
  · rename_i hreturned hfault
    simp only [InCall, ReceiveState.left]
    split
    case h_7 exit hpoint => exact absurd hpoint (hreturned exit)
    case h_8 hpoint => exact absurd hpoint hfault
    all_goals omega

theorem inCall_afterTransmit {b : BlockSize} (s : TransmitState b) :
    (afterTransmit s).InCall := by
  unfold afterTransmit
  split
  · trivial
  · rename_i hreturned
    simp only [InCall, TransmitState.left]
    split
    case h_8 exit hpoint => exact absurd hpoint (hreturned exit)
    all_goals omega

theorem inCall_dispatch (op : OperationData) : (dispatch op).InCall := by
  unfold dispatch
  split
  · trivial
  · trivial
  · trivial
  · exact inCall_freeOperationData op none
  · exact inCall_freeOperationData op none

theorem inCall_failDelete (op : OperationData) (reply : ErrorReply) :
    (failDelete op reply).InCall := by
  unfold failDelete
  split
  · trivial
  · exact inCall_freeOperationData op _

theorem inCall_step (hstep : serverTaskStart host t e = some t') : t'.InCall := by
  cases task_called hstep with
  | starting op set =>
      cases set with
      | true => trivial
      | false => exact inCall_dispatch op
  | allocating op block => exact inCall_afterFill _
  | filling s s' hs => exact inCall_afterFill s'
  | acknowledging b op tx ok =>
      cases ok with
      | true => simp [onAcknowledged, InCall, ReceiveState.start, ReceiveState.left]
      | false => trivial
  | receiving b s s' hs => exact inCall_afterReceive s'
  | transmitting b s s' hs => exact inCall_afterTransmit s'
  | removingPartial op error => exact inCall_freeOperationData op _
  | deleting point op hdelete =>
      cases delete_called hdelete with
      | missing errno => exact inCall_failDelete op _
      | kept errno => exact inCall_failDelete op _
      | confirming ok => exact inCall_freeOperationData op _
      | failing reply ok => exact inCall_freeOperationData op _
      | _ => trivial
  | closingFile op result => exact inCall_freeOperationData op result
  | _ => trivial

/-- The calls of `server_delete_file` are all answered. -/
theorem delete_enabled (host : Host) (point : DeletePoint) (op : OperationData) :
    ∃ e, e.finds true = true ∧ e.receives = false ∧
      (serverDeleteFile host point op e).isSome = true := by
  cases point with
  | acknowledging =>
      exact ⟨.sendto op.peerAddress (ackPacket 0) true, rfl, rfl, by simp [serverDeleteFile]⟩
  | opening => exact ⟨.fopen op.path .read none, rfl, rfl, by simp [serverDeleteFile]⟩
  | closing => exact ⟨.fclose 0, rfl, rfl, by simp [serverDeleteFile]⟩
  | removing => exact ⟨.remove op.path none, rfl, rfl, by simp [serverDeleteFile]⟩
  | confirming =>
      exact ⟨.sendto op.peerAddress (ackPacket 1) true, rfl, rfl, by simp [serverDeleteFile]⟩
  | failing reply =>
      exact ⟨.sendto op.peerAddress (errorPacket reply) true, rfl, rfl, by simp [serverDeleteFile]⟩

/-- Until it has ended a task can make a call. -/
theorem enabled (host : Host) (hcall : t.InCall) (h : 0 < t.left) :
    ∃ e, e.finds true = true ∧ e.receives = false ∧
      (serverTaskStart host t e).isSome = true := by
  cases t with
  | starting op => exact ⟨.poll true, rfl, rfl, rfl⟩
  | allocating op => exact ⟨.malloc sizeofTransferData none, rfl, rfl, by simp [serverTaskStart]⟩
  | filling s =>
      obtain ⟨e, hset, hquiet, hs⟩ := FillState.enabled host hcall
      exact ⟨e, hset, hquiet, by simpa [serverTaskStart] using hs⟩
  | acknowledging b op tx =>
      exact ⟨.sendto op.peerAddress (ackPacket 0) true, rfl, rfl, by simp [serverTaskStart]⟩
  | receiving b s =>
      obtain ⟨e, hset, hquiet, hs⟩ := ReceiveState.enabled host hcall
      exact ⟨e, hset, hquiet, by simpa [serverTaskStart] using hs⟩
  | closingPartial op => exact ⟨.fclose 0, rfl, rfl, rfl⟩
  | removingPartial op => exact ⟨.remove op.path none, rfl, rfl, by simp [serverTaskStart]⟩
  | transmitting b s =>
      obtain ⟨e, hset, hquiet, hs⟩ := TransmitState.enabled host hcall
      exact ⟨e, hset, hquiet, by simpa [serverTaskStart] using hs⟩
  | deleting point op => exact delete_enabled host point op
  | closingFile op result => exact ⟨.fclose 0, rfl, rfl, rfl⟩
  | closingSocket op result =>
      exact ⟨.close op.dataSocket, rfl, rfl, by simp [serverTaskStart]⟩
  | releasing result => exact ⟨.release, rfl, rfl, rfl⟩
  | ended result => cases h
  | fault => cases h

end TaskState

/-! ## What the threads have left -/

/-- Every statement of the search comes closer to its end. -/
theorem acquire_turns {slots slots' : ServerSlots} {t : ServerThread} {point next : AcquirePoint}
    (hstep : serverAcquireConnectionSlot t slots point = some (slots', .inl next)) :
    acquireTurns next < acquireTurns point := by
  cases acquire_eq hstep with
  | locked slots' hlock => decide
  | counted hcount => decide
  | full hcount => decide
  | occupied i hi hset =>
      simp only [acquireTurns]
      omega
  | found i hi hfree =>
      simp only [acquireTurns]
      omega
  | exhausted i hi =>
      simp only [acquireTurns]
      omega
  | marked i => simp [acquireTurns]
  | taken i => simp [acquireTurns]

/-- Steps left of the listener, the flag being set, and of the task it may still create. -/
def ListenerThread.left (listener : ListenerThread) : Nat :=
  match listener.state.point with
  | .looping => 1
  | .awaiting => 2
  | .received => 1
  | .refusing _ => 2
  | .acquiring => acquireTurns listener.acquire + 12
  | .initializing _ _ => 12
  | .rejecting _ _ _ _ => 7
  | .closing _ _ => 6
  | .releasing _ => releaseTurns listener.release + 1
  | .spawning _ _ =>
      match listener.spawn with
      | .storing => 11
      | .allocating => 10
      | .creating => 9
      | .crashed => 0
  | .ended => 0
  | .exited => 0
  | .fault _ => 0

/-- Steps left of a task, the flag being set. -/
def TaskThread.left (task : TaskThread) : Nat :=
  match task.state with
  | none => 7
  | some (.releasing _) => (if task.detached then 0 else 1) + releaseTurns task.release
  | some state => state.left

/-- Steps left of all threads. -/
def ServerProcess.left (s : ServerProcess) : Nat :=
  s.listener.left + (s.tasks.map TaskThread.left).sum

/-- Inside a function a task calls, that function has not returned. -/
def ServerProcess.InCalls (s : ServerProcess) : Prop :=
  ∀ (k : Nat) task, s.tasks[k]? = some task → ∀ state, task.state = some state → state.InCall

section Threads

variable {host : Host} {mem : ListenerMemory} {s s' : ServerProcess} {m : ProcessMove} {k : Nat}

theorem left_refuse (state : ListenerState) (reply : ErrorReply) :
    (ListenerThread.enter (state.refuse reply)).left ≤ 2 := by
  unfold ListenerState.refuse
  split
  · exact le_refl _
  · simp [ListenerThread.left, ListenerThread.enter, ListenerState.clear]

theorem left_onAcquired (state : ListenerState) (slot : Option Nat) :
    (ListenerThread.enter (state.onAcquired host mem slot)).left ≤ 12 := by
  unfold ListenerState.onAcquired
  split
  · exact le_trans (left_refuse state _) (by omega)
  · split
    · exact Nat.zero_le _
    · simp [ListenerThread.left, ListenerThread.enter, releaseTurns]
    · exact le_refl _

theorem left_freeing (state : ListenerState) (slot : Nat) (fd : Int) :
    (ListenerThread.enter (state.freeOperationData slot fd)).left ≤ 6 := by
  unfold ListenerState.freeOperationData
  split
  · exact le_refl _
  · simp [ListenerThread.left, ListenerThread.enter, releaseTurns]

theorem left_onInitialized (state : ListenerState) (slot : Nat) (args : InitArguments)
    (socket : DataSocket) :
    (ListenerThread.enter (state.onInitialized slot args socket)).left ≤ 11 := by
  unfold ListenerState.onInitialized
  split
  · split <;> exact Nat.zero_le _
  · exact Nat.zero_le _
  · split
    · simp [ListenerThread.left, ListenerThread.enter]
    · exact le_trans (left_freeing state slot _) (by omega)
  · exact le_refl _

/-- The listener's own steps, in its loop. -/
theorem left_loop {state : ListenerState} {e : Event} (hset : e.finds true = true)
    (hcall : s.listener.state.point.inCall = false)
    (hloop : serverListenerLoop host mem s.listener.state e = some state) :
    (ListenerThread.enter state).left < s.listener.left := by
  cases loop_called hloop with
  | looping set hpoint =>
      obtain rfl : set = true := by simpa [Event.finds] using hset
      simp [ListenerThread.left, ListenerThread.enter, hpoint]
  | awaiting result hpoint =>
      cases result with
      | datagram source bytes =>
          simp [ListenerThread.left, ListenerThread.enter, ListenerState.onReceived, hpoint]
      | failed errno =>
          simp [ListenerThread.left, ListenerThread.enter, ListenerState.onReceived, hpoint]
  | received set hpoint =>
      obtain rfl : set = true := by simpa [Event.finds] using hset
      simp [ListenerThread.left, ListenerThread.enter, hpoint]
  | refusing reply ok hpoint =>
      simp [ListenerThread.left, ListenerThread.enter, ListenerState.clear, hpoint]
  | initializing slot args socket hpoint =>
      apply lt_of_le_of_lt (left_onInitialized s.listener.state slot args socket)
      simp [ListenerThread.left, hpoint]
  | rejecting slot fd client reply ok hpoint =>
      apply lt_of_le_of_lt (left_freeing s.listener.state slot fd)
      simp [ListenerThread.left, hpoint]
  | closing slot fd hpoint =>
      simp [ListenerThread.left, ListenerThread.enter, releaseTurns, hpoint]
  | acquiring slot hpoint => rw [hpoint] at hcall; cases hcall
  | releasing slot hpoint => rw [hpoint] at hcall; cases hcall
  | spawning slot op ok hpoint => rw [hpoint] at hcall; cases hcall

/-- The listener's own steps, in the calls of its loop. -/
theorem left_called (hcalled : ListenerCalled host mem s s') :
    s'.listener.left < s.listener.left := by
  cases hcalled with
  | acquiring slots next hpoint hcall heq =>
      have hturns := acquire_turns hcall
      rw [heq]
      simp only [ListenerThread.left, hpoint]
      omega
  | acquired slots slot hpoint hcall heq =>
      have hpositive : 0 < acquireTurns s.listener.acquire := by
        cases s.listener.acquire <;> simp [acquireTurns]
      rw [heq]
      apply lt_of_le_of_lt (left_onAcquired s.listener.state slot)
      simp only [ListenerThread.left, hpoint]
      omega
  | releasing slot slots next hpoint hcall heq =>
      have hturns := release_turns hcall
      rw [heq]
      simp only [ListenerThread.left, hpoint]
      omega
  | released slot slots hpoint hcall heq =>
      have hpositive : 0 < releaseTurns s.listener.release := by
        cases s.listener.release <;> decide
      have hafter : (ListenerThread.enter s.listener.state.clear).left = 1 := rfl
      rw [heq, hafter]
      simp only [ListenerThread.left, hpoint]
      omega
  | stored slot op hpoint hspawn heq =>
      rw [heq]
      simp [ListenerThread.left, hpoint, hspawn]

/-- A task behind a call has as much left as its control point. -/
theorem left_enter (task : TaskThread) (state : TaskState) :
    (task.enter state).left ≤ state.left := by
  cases state with
  | releasing result =>
      show (if task.detached then 0 else 1) + 4 ≤ 5
      split
      · decide
      · decide
  | _ => exact le_refl _

theorem left_of_state {task : TaskThread} {state : TaskState} (hstate : task.state = some state)
    (hnot : ∀ result, state ≠ .releasing result) : task.left = state.left := by
  unfold TaskThread.left
  rw [hstate]
  cases state with
  | releasing result => exact absurd rfl (hnot result)
  | _ => rfl

/-- One task of the list is replaced. -/
theorem left_setTask {task : TaskThread} (htask : s.tasks[k]? = some task)
    (task' : TaskThread) :
    (s.setTask k task').left + task.left = s.left + task'.left := by
  have hsum : ∀ (tasks : List TaskThread) (k : Nat), tasks[k]? = some task →
      ((tasks.set k task').map TaskThread.left).sum + task.left =
        (tasks.map TaskThread.left).sum + task'.left := by
    intro tasks
    induction tasks with
    | nil => simp
    | cons first rest ih =>
        intro k hk
        cases k with
        | zero =>
            obtain rfl : first = task := by simpa using hk
            simp only [List.set_cons_zero, List.map_cons, List.sum_cons]
            omega
        | succ k =>
            have hrest := ih k (by simpa using hk)
            simp only [List.set_cons_succ, List.map_cons, List.sum_cons]
            omega
  have htasks := hsum s.tasks k htask
  simp only [ServerProcess.left, ServerProcess.setTask]
  omega

/-- Every step takes one away, but for a datagram that a task takes in. -/
theorem left_process (hset : m.finds true = true)
    (hstep : serverProcess host mem s m = some s') :
    s'.left < s.left + [SignalMove.process m].countP SignalMove.taskReceives := by
  have hless : s'.left < s.left →
      s'.left < s.left + [SignalMove.process m].countP SignalMove.taskReceives :=
    fun h => Nat.lt_add_right _ h
  cases m with
  | listener e =>
      obtain ⟨hcall, state, hloop, rfl⟩ := listener_eq hstep
      have hlistener := left_loop hset hcall hloop
      apply hless
      simp only [ServerProcess.left]
      omega
  | listenerCall =>
      have hlistener := left_called (listenerCall_eq hstep)
      have htasks := tasks_listenerCall hstep
      apply hless
      simp only [ServerProcess.left, htasks]
      omega
  | taskArgs allocated =>
      obtain ⟨slot, op, hpoint, hspawn, rfl⟩ := taskArgs_eq hstep
      apply hless
      cases allocated with
      | true => simp [ServerProcess.left, ListenerThread.left, hpoint, hspawn]
      | false => simp [ServerProcess.left, ListenerThread.left, hpoint, hspawn]
  | create =>
      -- the new task takes over what the listener has left for it
      obtain ⟨slot, op, hpoint, hspawn, rfl⟩ := create_eq hstep
      have hlistener : s.listener.left = 9 := by simp [ListenerThread.left, hpoint, hspawn]
      have hafter : (ListenerThread.enter s.listener.state.clear).left = 1 := rfl
      have htask : (TaskThread.create slot).left = 7 := rfl
      apply hless
      simp only [ServerProcess.left, List.map_append, List.sum_append, List.map_singleton,
        List.sum_singleton]
      omega
  | createFailed handle =>
      obtain ⟨slot, op, hpoint, hspawn, rfl⟩ := createFailed_eq hstep
      have hlistener : s.listener.left = 9 := by simp [ListenerThread.left, hpoint, hspawn]
      have hafter : (ListenerThread.enter s.listener.state.clear).left = 1 := rfl
      apply hless
      simp only [ServerProcess.left]
      omega
  | begin k =>
      obtain ⟨task, htask, hstate, rfl⟩ := begin_eq hstep
      have hbefore : task.left = 7 := by simp [TaskThread.left, hstate]
      have hafter : (task.onBegin (s.slots.opDataPtr task.slot)).left ≤ 6 := by
        cases hop : s.slots.opDataPtr task.slot with
        | none => exact Nat.zero_le _
        | some op => exact le_refl _
      have hsum := left_setTask htask (task.onBegin (s.slots.opDataPtr task.slot))
      apply hless
      omega
  | task k e =>
      obtain ⟨task, state, state', htask, hstate, hnot, hcall, rfl⟩ := task_eq hstep
      have hbefore := left_of_state hstate hnot
      have hafter := left_enter task state'
      have hcalled := TaskState.left_step hset hcall
      have hsum := left_setTask htask (task.enter state')
      have hcount : [SignalMove.process (.task k e)].countP SignalMove.taskReceives =
          [e].countP Event.receives := rfl
      rw [hcount]
      omega
  | taskRelease k =>
      apply hless
      cases taskRelease_eq hstep with
      | detached task result htask hstate hdetached heq =>
          have hsum := left_setTask htask { task with detached := true }
          have hbefore : task.left = 1 + releaseTurns task.release := by
            simp [TaskThread.left, hstate, hdetached]
          have hafter : ({ task with detached := true } : TaskThread).left =
              releaseTurns task.release := by
            simp [TaskThread.left, hstate]
          rw [heq]
          omega
      | releasing task result slots next htask hstate hdetached hcall heq =>
          have hturns := release_turns hcall
          have hsum := left_setTask htask { task with release := next }
          have hbefore : task.left = releaseTurns task.release := by
            simp [TaskThread.left, hstate, hdetached]
          have hafter : ({ task with release := next } : TaskThread).left = releaseTurns next := by
            simp [TaskThread.left, hstate, hdetached]
          rw [heq]
          show (s.setTask k { task with release := next }).left < s.left
          omega
      | released task result slots htask hstate hdetached hcall heq =>
          have hpositive : 0 < releaseTurns task.release := by
            cases task.release <;> decide
          have hsum := left_setTask htask (task.enter (.ended result))
          have hbefore : task.left = releaseTurns task.release := by
            simp [TaskThread.left, hstate, hdetached]
          have hafter : (task.enter (.ended result)).left = 0 := rfl
          rw [heq]
          show (s.setTask k (task.enter (.ended result))).left < s.left
          omega

theorem inCalls_step (h : s.InCalls) (hstep : serverProcess host mem s m = some s') :
    s'.InCalls := by
  intro k task' htask' state' hstate'
  rcases task_origin hstep htask' with ⟨task, htask, hmoved⟩ | ⟨slot, op, -, -, -, -, rfl⟩
  · cases hmoved with
    | stayed => exact h k _ htask state' hstate'
    | began hm hstate =>
        obtain rfl := Option.some.inj hstate'
        split <;> trivial
    | called e state state₁ hm hstate hnot hcall =>
        obtain rfl := Option.some.inj hstate'
        exact TaskState.inCall_step hcall
    | detached result hm hstate => exact h k task htask state' hstate'
    | releasing result next hm hstate hdetached => exact h k task htask state' hstate'
    | released result hm hstate hdetached =>
        obtain rfl := Option.some.inj hstate'
        trivial
  · cases hstate'

end Threads

/-! ## How much that is at most -/

section Bounds

variable {host : Host} {s : ServerProcess}

theorem TaskState.left_le (t : TaskState) : t.left ≤ 18 := by
  cases t with
  | filling s =>
      simp only [left, FillState.left]
      split <;> omega
  | receiving b s =>
      simp only [left, ReceiveState.left, maxRetryCount]
      split <;> omega
  | transmitting b s =>
      simp only [left, TransmitState.left]
      split <;> omega
  | deleting point op => cases point <;> simp [left]
  | _ => simp [left]

theorem TaskThread.left_le (task : TaskThread) : task.left ≤ 18 := by
  cases hstate : task.state with
  | none => simp [left, hstate]
  | some state =>
      by_cases hreleasing : ∃ result, state = .releasing result
      · obtain ⟨result, rfl⟩ := hreleasing
        have hturns : releaseTurns task.release ≤ 4 := by
          cases task.release <;> simp [releaseTurns]
        simp only [left, hstate]
        split <;> omega
      · rw [left_of_state hstate fun result heq => hreleasing ⟨result, heq⟩]
        exact state.left_le

/-- A task that has released its slot has nothing left. -/
theorem TaskThread.left_of_not_live {task : TaskThread} (h : ¬ task.Live) : task.left = 0 := by
  unfold Live ended at h
  split at h
  · rename_i result hstate
    simp [left, hstate, TaskState.left]
  · exact absurd rfl h

theorem ListenerThread.left_le (listener : ListenerThread) : listener.left ≤ 22 := by
  have hacquire : acquireTurns listener.acquire ≤ 10 := by
    cases listener.acquire <;> simp [acquireTurns, serverMaxConnections]
    omega
  have hrelease : releaseTurns listener.release ≤ 4 := by
    cases listener.release <;> simp [releaseTurns]
  unfold left
  split
  case h_10 => split <;> omega
  all_goals omega

/-- No more tasks are live than there are slots. -/
theorem live_le (h : SlotsOk s.slots s.phase) :
    s.tasks.countP (fun task => decide task.Live) ≤ serverMaxConnections := by
  have hslots : ((s.tasks.filter fun task => decide task.Live).map TaskThread.slot).Nodup := by
    rw [List.Nodup, List.pairwise_map, List.pairwise_filter, List.pairwise_iff_getElem]
    intro i j hi hj hlt hlive hlive' hslot
    have heq := ServerProcess.slot_apart h (List.getElem?_eq_getElem hi)
      (List.getElem?_eq_getElem hj) (of_decide_eq_true hlive) (of_decide_eq_true hlive') hslot
    omega
  have hrange : ∀ slot ∈ (s.tasks.filter fun task => decide task.Live).map TaskThread.slot,
      slot ∈ List.range serverMaxConnections := by
    intro slot hslot
    obtain ⟨task, hmem, rfl⟩ := List.mem_map.mp hslot
    obtain ⟨hmem, hlive⟩ := List.mem_filter.mp hmem
    obtain ⟨k, htask⟩ := List.getElem?_of_mem hmem
    rw [List.mem_range]
    apply h.lt (.task k)
    rw [ServerProcess.phase_of_task htask]
    exact slot_phase_of_live (of_decide_eq_true hlive)
  have hle := (List.subperm_of_subset hslots hrange).length_le
  rw [List.length_map, List.length_range] at hle
  rw [List.countP_eq_length_filter]
  exact hle

theorem left_le (h : SlotsOk s.slots s.phase) : s.left ≤ serverMaxConnections * 18 + 22 := by
  have hsum : ∀ tasks : List TaskThread, (tasks.map TaskThread.left).sum ≤
      tasks.countP (fun task => decide task.Live) * 18 := by
    intro tasks
    induction tasks with
    | nil => simp
    | cons task rest ih =>
        rw [List.map_cons, List.sum_cons, List.countP_cons]
        by_cases hlive : task.Live
        · have htask : task.left ≤ 18 := task.left_le
          rw [if_pos (decide_eq_true hlive)]
          omega
        · rw [TaskThread.left_of_not_live hlive]
          omega
  have htasks := hsum s.tasks
  have hlive := live_le h
  have hlistener : s.listener.left ≤ 22 := s.listener.left_le
  unfold ServerProcess.left
  omega

end Bounds

/-! ## At rest -/

/-- The listener has left its loop, or is stuck behind a memory error. -/
def ListenerThread.Resting (listener : ListenerThread) : Prop :=
  match listener.state.point with
  | .ended => True
  | .fault _ => True
  | .spawning _ _ => listener.spawn = .crashed
  | _ => False

/-- The task has released its slot, or is stuck behind a memory error. -/
def TaskThread.Resting (task : TaskThread) : Prop :=
  match task.state with
  | some (.ended _) => True
  | some .fault => True
  | _ => False

/-- The process has exited, or all its threads are at rest. -/
def ServerProcess.Resting (s : ServerProcess) : Prop :=
  s.listener.state.point = .exited ∨
    s.listener.Resting ∧ ∀ task ∈ s.tasks, task.Resting

section Rest

variable {host : Host} {mem : ListenerMemory} {s : ServerProcess} {k : Nat} {task : TaskThread}

theorem ListenerThread.resting_of_left {listener : ListenerThread} (h : listener.left = 0)
    (hexited : listener.state.point ≠ .exited) : listener.Resting := by
  unfold left at h
  unfold Resting
  cases hpoint : listener.state.point with
  | ended => trivial
  | fault cause => trivial
  | exited => exact absurd hpoint hexited
  | spawning slot op =>
      rw [hpoint] at h
      cases hspawn : listener.spawn with
      | crashed => rfl
      | _ => simp [hspawn] at h
  | _ => simp [hpoint] at h

theorem TaskThread.resting_of_left (h : task.left = 0) : task.Resting := by
  unfold Resting
  cases hstate : task.state with
  | none => simp [left, hstate] at h
  | some state =>
      cases state with
      | ended result => trivial
      | fault => trivial
      | releasing result =>
          have hpositive : 0 < releaseTurns task.release := by
            cases task.release <;> decide
          simp only [left, hstate] at h
          omega
      | deleting point op => cases point <;> simp [left, hstate, TaskState.left] at h
      | _ => simp [left, hstate, TaskState.left] at h

/-- The listener goes on, unless a task has the mutex. -/
theorem listener_enabled (h : SlotsOk s.slots s.phase)
    (hmutex : ∀ k, s.slots.slotsMutex ≠ some (.task k)) (hleft : 0 < s.listener.left) :
    ∃ m : ProcessMove, m.finds true = true ∧ (SignalMove.process m).taskReceives = false ∧
      (serverProcess host mem s m).isSome = true := by
  -- the mutex is free, or it is the listener's, which is then past the lock
  have hown : s.slots.slotsMutex = none ∨ s.listener.phase.critical = true := by
    cases hm : s.slots.slotsMutex with
    | none => exact Or.inl rfl
    | some t =>
        cases t with
        | listener => exact Or.inr ((h.mutex .listener).mp hm)
        | task k => exact absurd hm (hmutex k)
  cases hpoint : s.listener.state.point with
  | looping =>
      refine ⟨.listener (.poll true), rfl, rfl, ?_⟩
      simp [serverProcess, serverListenerLoop, hpoint, ListenerPoint.inCall]
  | awaiting =>
      refine ⟨.listener (.recvfrom requestBufferSize (.failed (.other 4))), rfl, rfl, ?_⟩
      simp [serverProcess, serverListenerLoop, hpoint, ListenerPoint.inCall]
  | received =>
      refine ⟨.listener (.poll true), rfl, rfl, ?_⟩
      simp [serverProcess, serverListenerLoop, hpoint, ListenerPoint.inCall]
  | refusing reply =>
      refine ⟨.listener (.sendto s.listener.state.clientAddress (errorPacket reply) true), rfl,
        rfl, ?_⟩
      simp [serverProcess, serverListenerLoop, hpoint, ListenerPoint.inCall]
  | acquiring =>
      have hlock : s.slots.slotsMutex = none ∨ s.listener.acquire ≠ .locking := by
        apply hown.imp_right
        intro hcritical hlocking
        simp [ListenerThread.phase, hpoint, hlocking, SlotPhase.critical] at hcritical
      obtain ⟨⟨slots, next⟩, hcall⟩ := acquire_enabled (t := .listener) hlock
      refine ⟨.listenerCall, rfl, rfl, ?_⟩
      cases next with
      | inl point => simp [serverProcess, listenerCall, hpoint, hcall]
      | inr slot => simp [serverProcess, listenerCall, serverListenerLoop, hpoint, hcall]
  | initializing slot args =>
      refine ⟨.listener (.dataSocket .exits), rfl, rfl, ?_⟩
      simp [serverProcess, serverListenerLoop, hpoint, ListenerPoint.inCall]
  | rejecting slot fd client reply =>
      refine ⟨.listener (.sendto client (errorPacket reply) true), rfl, rfl, ?_⟩
      simp [serverProcess, serverListenerLoop, hpoint, ListenerPoint.inCall]
  | closing slot fd =>
      refine ⟨.listener (.close fd), rfl, rfl, ?_⟩
      simp [serverProcess, serverListenerLoop, hpoint, ListenerPoint.inCall]
  | releasing slot =>
      have hlock : s.slots.slotsMutex = none ∨ s.listener.release ≠ .locking := by
        apply hown.imp_right
        intro hcritical hlocking
        simp [ListenerThread.phase, hpoint, hlocking, SlotPhase.critical] at hcritical
      obtain ⟨⟨slots, next⟩, hcall⟩ := release_enabled (t := .listener) slot hlock
      refine ⟨.listenerCall, rfl, rfl, ?_⟩
      cases next with
      | inl point => simp [serverProcess, listenerCall, hpoint, hcall]
      | inr returned => simp [serverProcess, listenerCall, serverListenerLoop, hpoint, hcall]
  | spawning slot op =>
      cases hspawn : s.listener.spawn with
      | storing =>
          refine ⟨.listenerCall, rfl, rfl, ?_⟩
          simp [serverProcess, listenerCall, hpoint, hspawn]
      | allocating =>
          refine ⟨.taskArgs true, rfl, rfl, ?_⟩
          simp [serverProcess, hpoint, hspawn]
      | creating =>
          refine ⟨.create, rfl, rfl, ?_⟩
          simp [serverProcess, serverListenerLoop, hpoint, hspawn]
      | crashed => simp [ListenerThread.left, hpoint, hspawn] at hleft
  | ended => simp [ListenerThread.left, hpoint] at hleft
  | exited => simp [ListenerThread.left, hpoint] at hleft
  | fault cause => simp [ListenerThread.left, hpoint] at hleft

/-- A task goes on while the mutex is free. -/
theorem task_enabled (hexited : s.listener.state.point ≠ .exited)
    (hfree : s.slots.slotsMutex = none) (htask : s.tasks[k]? = some task)
    (hcall : ∀ state, task.state = some state → state.InCall) (hleft : 0 < task.left) :
    ∃ m : ProcessMove, m.finds true = true ∧ (SignalMove.process m).taskReceives = false ∧
      (serverProcess host mem s m).isSome = true := by
  cases hstate : task.state with
  | none =>
      refine ⟨.begin k, rfl, rfl, ?_⟩
      simp [serverProcess, hexited, htask, hstate]
  | some state =>
      by_cases hreleasing : ∃ result, state = .releasing result
      · obtain ⟨result, rfl⟩ := hreleasing
        refine ⟨.taskRelease k, rfl, rfl, ?_⟩
        have hprocess : serverProcess host mem s (.taskRelease k) =
            serverTaskRelease host s k task (.releasing result) := by
          simp [serverProcess, hexited, htask, hstate]
        rw [hprocess, serverTaskRelease]
        split
        · obtain ⟨⟨slots, next⟩, hrelease⟩ :
              ∃ next, serverReleaseConnectionSlot (.task k) task.slot s.slots task.release =
                some next := release_enabled task.slot (Or.inl hfree)
          cases next with
          | inl point => simp [hrelease]
          | inr returned => simp [hrelease, serverTaskStart]
        · rfl
      · have hnot : ∀ result, state ≠ .releasing result :=
          fun result heq => hreleasing ⟨result, heq⟩
        rw [left_of_state hstate hnot] at hleft
        obtain ⟨e, hset, hquiet, hstart⟩ := TaskState.enabled host (hcall state hstate) hleft
        refine ⟨.task k e, hset, hquiet, ?_⟩
        have hprocess : serverProcess host mem s (.task k e) =
            (serverTaskStart host state e).map fun state => s.setTask k (task.enter state) := by
          simp only [serverProcess, hexited, if_false, htask, Option.bind_eq_bind,
            Option.bind_some, hstate]
        rw [hprocess, Option.isSome_map]
        exact hstart

variable (host mem) in
/-- A server that is not at rest can take a step, with the flag set and nothing arriving. -/
theorem rest_or_step (h : SlotsOk s.slots s.phase) (hcalls : s.InCalls) :
    s.Resting ∨ ∃ m : ProcessMove, m.finds true = true ∧
      (SignalMove.process m).taskReceives = false ∧
        (serverProcess host mem s m).isSome = true := by
  by_cases hexited : s.listener.state.point = .exited
  · exact Or.inl (Or.inl hexited)
  · by_cases howner : ∃ k, s.slots.slotsMutex = some (.task k)
    · -- the task that has the mutex comes first
      obtain ⟨k, hmutex⟩ := howner
      obtain ⟨p, hstep, -⟩ : ∃ p, serverProcess host mem s (.taskRelease k) = some p ∧
          p.holding < s.holding := holder_step h hexited hmutex
      exact Or.inr ⟨.taskRelease k, rfl, rfl, by rw [hstep]; rfl⟩
    · have hmutex : ∀ k, s.slots.slotsMutex ≠ some (.task k) :=
        fun k heq => howner ⟨k, heq⟩
      by_cases hlistener : 0 < s.listener.left
      · exact Or.inr (listener_enabled h hmutex hlistener)
      · have hnone : s.listener.left = 0 := by omega
        have hrest : s.listener.Resting := ListenerThread.resting_of_left hnone hexited
        have hfree : s.slots.slotsMutex = none := by
          cases hm : s.slots.slotsMutex with
          | none => rfl
          | some t =>
              cases t with
              | task k => exact absurd hm (hmutex k)
              | listener =>
                  -- it would still have the unlock before it
                  have hcritical : s.listener.phase.critical = true := (h.mutex .listener).mp hm
                  unfold ListenerThread.Resting at hrest
                  unfold ListenerThread.phase at hcritical
                  cases hpoint : s.listener.state.point with
                  | acquiring => rw [hpoint] at hrest; exact hrest.elim
                  | releasing slot => rw [hpoint] at hrest; exact hrest.elim
                  | _ => simp [hpoint, SlotPhase.critical] at hcritical
        by_cases htasks : ∀ task ∈ s.tasks, task.left = 0
        · refine Or.inl (Or.inr ⟨hrest, ?_⟩)
          intro task hmem
          exact TaskThread.resting_of_left (htasks task hmem)
        · push Not at htasks
          obtain ⟨task, hmem, hleft⟩ := htasks
          obtain ⟨k, htask⟩ := List.getElem?_of_mem hmem
          exact Or.inr
            (task_enabled hexited hfree htask (hcalls k task htask) (Nat.pos_of_ne_zero hleft))

end Rest

/-! ## From the signal on -/

/-- A request the listener is about to make a task for. -/
def ListenerState.onItsWay (s : ListenerState) : Nat :=
  match s.point with
  | .acquiring => 1
  | .initializing _ _ => 1
  | .spawning _ _ => 1
  | _ => 0

/-- The task has not looked at the flag, or has found it set. -/
def TaskThread.Unlooked (task : TaskThread) : Prop :=
  match task.state with
  | none => True
  | some (.starting _) => True
  | some (.releasing _) => True
  | some (.ended _) => True
  | some .fault => True
  | _ => False

/-- The task of that number is not there yet, or has nothing done. -/
def ServerProcess.Unlooked (s : ServerProcess) (k : Nat) : Prop :=
  ∀ task, s.tasks[k]? = some task → task.Unlooked

section Signalled

variable {host : Host} {mem : ListenerMemory} {s s' : ServerProcess} {m : ProcessMove} {k : Nat}

theorem onItsWay_le (state : ListenerState) : state.onItsWay ≤ 1 := by
  unfold ListenerState.onItsWay
  split <;> omega

/-- With the flag set the listener takes up no new request. -/
theorem onItsWay_loop {state state' : ListenerState} {e : Event} (hset : e.finds true = true)
    (hloop : serverListenerLoop host mem state e = some state') :
    state'.onItsWay ≤ state.onItsWay := by
  cases loop_called hloop with
  | looping set hpoint =>
      obtain rfl : set = true := by simpa [Event.finds] using hset
      exact Nat.zero_le _
  | awaiting result hpoint => cases result <;> exact Nat.zero_le _
  | received set hpoint =>
      obtain rfl : set = true := by simpa [Event.finds] using hset
      exact Nat.zero_le _
  | acquiring slot hpoint =>
      have hone : state.onItsWay = 1 := by simp [ListenerState.onItsWay, hpoint]
      rw [hone]
      exact onItsWay_le _
  | initializing slot args socket hpoint =>
      have hone : state.onItsWay = 1 := by simp [ListenerState.onItsWay, hpoint]
      rw [hone]
      exact onItsWay_le _
  | rejecting slot fd client reply ok hpoint =>
      unfold ListenerState.freeOperationData
      split <;> exact Nat.zero_le _
  | refusing reply ok hpoint => exact Nat.zero_le _
  | closing slot fd hpoint => exact Nat.zero_le _
  | releasing slot hpoint => exact Nat.zero_le _
  | spawning slot op ok hpoint => exact Nat.zero_le _

theorem onItsWay_process (hset : m.finds true = true)
    (hstep : serverProcess host mem s m = some s') :
    s'.tasks.length + s'.listener.state.onItsWay ≤
      s.tasks.length + s.listener.state.onItsWay := by
  by_cases hm : m = .create
  · subst hm
    obtain ⟨slot, op, hpoint, hspawn, rfl⟩ := create_eq hstep
    have hone : s.listener.state.onItsWay = 1 := by simp [ListenerState.onItsWay, hpoint]
    have hnone : (ListenerThread.enter s.listener.state.clear).state.onItsWay = 0 := rfl
    rw [hone, hnone, List.length_append, List.length_singleton]
  · rw [ServerProcess.tasks_length_step hm hstep]
    apply Nat.add_le_add_left
    cases listener_moved hstep with
    | stayed heq => rw [heq]
    | looped e he hcall hloop =>
        subst he
        exact onItsWay_loop hset hloop
    | acquired slot hpoint heq =>
        have hone : s.listener.state.onItsWay = 1 := by simp [ListenerState.onItsWay, hpoint]
        rw [hone]
        exact onItsWay_le _
    | cleared heq =>
        rw [heq]
        exact Nat.zero_le _

/-- A task that has not looked at the flag finds it set, and goes. -/
theorem unlooked_process (h : s.Unlooked k) (hset : m.finds true = true)
    (hstep : serverProcess host mem s m = some s') :
    s'.Unlooked k ∧ ∀ e, m = .task k e → e = .poll true := by
  constructor
  · intro task' htask'
    rcases task_origin hstep htask' with ⟨task, htask, hmoved⟩ | ⟨slot, op, -, -, -, -, rfl⟩
    · have hbefore := h task htask
      cases hmoved with
      | stayed => exact hbefore
      | began hm hstate =>
          unfold TaskThread.onBegin
          cases s.slots.opDataPtr _ <;> trivial
      | called e state state' hm hstate hnot hcall =>
          unfold TaskThread.Unlooked at hbefore
          rw [hstate] at hbefore
          cases task_called hcall with
          | starting op set =>
              subst hm
              obtain rfl : set = true := by simpa [ProcessMove.finds, Event.finds] using hset
              trivial
          | releasing result => trivial
          | _ => exact hbefore.elim
      | detached result hm hstate => exact hbefore
      | releasing result next hm hstate hdetached => exact hbefore
      | released result hm hstate hdetached => trivial
    · trivial
  · rintro e rfl
    obtain ⟨task, state, state', htask, hstate, hnot, hcall, -⟩ := task_eq hstep
    have hbefore := h task htask
    unfold TaskThread.Unlooked at hbefore
    rw [hstate] at hbefore
    cases task_called hcall with
    | starting op set =>
        obtain rfl : set = true := by simpa [ProcessMove.finds, Event.finds] using hset
        rfl
    | releasing result => exact absurd rfl (hnot result)
    | _ => exact hbefore.elim

variable {t t' : SignalledServer} {move : SignalMove}

/-- A step is a thread's, which looks at the flag as it is, or a signal. -/
theorem signalled_eq (hstep : signalledServer host mem t move = some t') :
    (∃ m, move = .process m ∧ m.finds t.shouldTerminate = true ∧
      serverProcess host mem t.process m = some t'.process ∧
        t'.shouldTerminate = t.shouldTerminate) ∨
    (∃ signum, move = .signal signum) ∧ t'.process = t.process ∧ t'.shouldTerminate = true := by
  cases move with
  | signal signum =>
      obtain ⟨hhooked, hnext⟩ := Option.ite_none_right_eq_some.mp hstep
      obtain rfl := Option.some.inj hnext
      exact Or.inr ⟨⟨signum, rfl⟩, rfl, signalHandler_hooked hhooked t.shouldTerminate⟩
  | process m =>
      obtain ⟨hfinds, hnext⟩ := Option.ite_none_right_eq_some.mp hstep
      obtain ⟨process, hprocess, rfl⟩ := Option.map_eq_some_iff.mp hnext
      exact Or.inl ⟨m, rfl, hfinds, hprocess, rfl⟩

/-- What holds of the slots and of the tasks at any time. -/
structure SignalledServer.Ok (t : SignalledServer) : Prop where
  slots : SlotsOk t.process.slots t.process.phase
  calls : t.process.InCalls

theorem signalled_ok (h : t.Ok) (hstep : signalledServer host mem t move = some t') : t'.Ok := by
  rcases signalled_eq hstep with ⟨m, -, -, hprocess, -⟩ | ⟨-, heq, -⟩
  · exact ⟨h.slots.process hprocess, inCalls_step h.calls hprocess⟩
  · constructor
    · rw [heq]
      exact h.slots
    · rw [heq]
      exact h.calls

theorem ok_of_run {moves : List SignalMove}
    (hrun : Run (signalledServer host mem) SignalledServer.start moves t) : t.Ok := by
  refine hrun.invariant (fun _ _ _ h hstep => signalled_ok h hstep)
    ⟨ServerProcess.slotsOk_start, ?_⟩
  intro k task htask
  simp [SignalledServer.start, ServerProcess.start] at htask

/-- What holds from the signal on. -/
structure SignalledServer.Ending (before t : SignalledServer) : Prop extends t.Ok where
  flag : t.shouldTerminate = true
  tasks : t.process.tasks.length + t.process.listener.state.onItsWay ≤
    before.process.tasks.length + before.process.listener.state.onItsWay
  unlooked : ∀ k, before.process.Unlooked k → t.process.Unlooked k

theorem SignalledServer.Ending.step {before : SignalledServer} (h : before.Ending t)
    (hstep : signalledServer host mem t move = some t') :
    before.Ending t' ∧ [move].countP SignalMove.ofThread + t'.process.left ≤
      t.process.left + [move].countP SignalMove.taskReceives := by
  have hok := signalled_ok h.toOk hstep
  rcases signalled_eq hstep with ⟨m, rfl, hfinds, hprocess, hflag⟩ | ⟨⟨signum, rfl⟩, heq, hflag⟩
  · rw [h.flag] at hfinds
    have hleft := left_process hfinds hprocess
    have hcount : [SignalMove.process m].countP SignalMove.ofThread = 1 := rfl
    refine ⟨⟨hok, hflag.trans h.flag, (onItsWay_process hfinds hprocess).trans h.tasks, ?_⟩, ?_⟩
    · intro k hk
      exact (unlooked_process (h.unlooked k hk) hfinds hprocess).1
    · omega
  · refine ⟨⟨hok, hflag, ?_, ?_⟩, ?_⟩
    · rw [heq]
      exact h.tasks
    · rw [heq]
      exact h.unlooked
    · rw [heq]
      exact le_of_eq (Nat.add_comm _ _)

/-- As long as it is not at rest, the server comes closer to it. -/
theorem SignalledServer.Ending.lower {before : SignalledServer} (h : before.Ending t) :
    t.process.Resting ∨ ∃ moves t', Run (signalledServer host mem) t moves t' ∧
      before.Ending t' ∧ t'.process.left < t.process.left := by
  rcases rest_or_step host mem h.slots h.calls with
    hrest | ⟨m, hfinds, hquiet, hsome⟩
  · exact Or.inl hrest
  · obtain ⟨process, hprocess⟩ := Option.isSome_iff_exists.mp hsome
    have hstep : signalledServer host mem t (.process m) =
        some { t with process := process } := by
      simp [signalledServer, h.flag, hfinds, hprocess]
    obtain ⟨hafter, hleft⟩ := h.step hstep
    have hcount : [SignalMove.process m].countP SignalMove.ofThread = 1 := rfl
    have hnone : [SignalMove.process m].countP SignalMove.taskReceives = 0 := by
      rw [List.countP_singleton, hquiet]
      rfl
    refine Or.inr ⟨_, _, Run.single hstep, hafter, ?_⟩
    omega

/-- Once a signal has set the flag it stays set, and the server comes to rest: all threads
together take a bounded number of steps, besides those that bring a task a datagram, at most
one more task is created, a task that had not looked at the flag does nothing but look at
it, no thread can be left waiting for another before the rest, and the rest can be reached
from anywhere on the way. -/
theorem shutdown_bounded {history moves : List SignalMove}
    (hrun : Run (signalledServer host mem) SignalledServer.start history t)
    (hset : t.shouldTerminate = true) (hmore : Run (signalledServer host mem) t moves t') :
    t'.shouldTerminate = true ∧
    moves.countP SignalMove.ofThread ≤
      serverMaxConnections * 18 + 22 + moves.countP SignalMove.taskReceives ∧
    t'.process.tasks.length ≤ t.process.tasks.length + 1 ∧
    (∀ k e, .process (.task k e) ∈ moves → t.process.Unlooked k → e = .poll true) ∧
    ((∀ m, signalledServer host mem t' (.process m) = none) → t'.process.Resting) ∧
    ∃ rest t'', Run (signalledServer host mem) t' rest t'' ∧ t''.process.Resting := by
  have hok := ok_of_run hrun
  have hstart : t.Ending t := ⟨hok, hset, le_refl _, fun _ h => h⟩
  obtain ⟨hending, hbalance⟩ := hmore.countP_balance (I := t.Ending)
    (f := fun t => t.process.left) (fun _ _ _ h hstep => h.step hstep) hstart
  have hleft := left_le hok.slots
  refine ⟨hending.flag, by omega, ?_, ?_, ?_, ?_⟩
  · have htasks := hending.tasks
    have hone := onItsWay_le t.process.listener.state
    omega
  · intro k e hmem hunlooked
    obtain ⟨pre, post, rfl⟩ := List.append_of_mem hmem
    obtain ⟨u, u', hpre, hstep, -⟩ := hmore.step_at
    have hthere : t.Ending u :=
      hpre.invariant (I := t.Ending) (fun _ _ _ h hstep => (h.step hstep).1) hstart
    rcases signalled_eq hstep with ⟨m, hm, hfinds, hprocess, -⟩ | ⟨⟨signum, hm⟩, -, -⟩
    · obtain rfl := SignalMove.process.inj hm
      rw [hthere.flag] at hfinds
      exact (unlooked_process (hthere.unlooked k hunlooked) hfinds hprocess).2 e rfl
    · cases hm
  · intro hstuck
    rcases rest_or_step host mem hending.slots hending.calls with
      hrest | ⟨m, hfinds, -, hsome⟩
    · exact hrest
    · have hnone := hstuck m
      simp only [signalledServer, hending.flag, hfinds, if_true, Option.map_eq_none_iff] at hnone
      rw [hnone] at hsome
      cases hsome
  · have hlower : ∀ u, t.Ending u → u.process.Resting ∨ ∃ moves u',
        Run (signalledServer host mem) u moves u' ∧ t.Ending u' ∧
          u'.process.left < u.process.left := fun _ h => h.lower
    obtain ⟨rest, t'', hrest, -, hgoal⟩ :=
      exists_run_of_rank (fun t => t.process.left) hlower hending
    exact ⟨rest, t'', hrest, hgoal⟩

end Signalled

section FixedRuns

/-- A task has been created and has not begun when the signal comes. -/
def signalHistory : List SignalMove :=
  (requestMoves (localhost 50001) 0 4 40001).map SignalMove.process ++ [.signal .sigterm]

def signalMoves : List SignalMove :=
  [.process (.begin 0), .process (.task 0 (.poll true)), .process (.listener (.poll true))] ++
    List.replicate 5 (.process (.taskRelease 0))

set_option maxRecDepth 4000 in
theorem shutdown_bounded_sigterm :
    ∃ t t', Run (signalledServer littleHost .strict) .start signalHistory t ∧
      Run (signalledServer littleHost .strict) t signalMoves t' ∧
      t'.shouldTerminate = true ∧ t'.process.tasks.length ≤ t.process.tasks.length + 1 ∧
      ∃ rest t'', Run (signalledServer littleHost .strict) t' rest t'' ∧
        t''.process.Resting := by
  obtain ⟨t', hboth, -⟩ : ∃ t', Run (signalledServer littleHost .strict) .start
      (signalHistory ++ signalMoves) t' ∧ True := exists_run_of_exec (by decide)
  obtain ⟨t, hrun, hset⟩ : ∃ t, Run (signalledServer littleHost .strict) .start signalHistory t ∧
      t.shouldTerminate = true := exists_run_of_exec (by decide)
  obtain ⟨u, hpre, hmore⟩ := hboth.split
  obtain rfl := hrun.deterministic hpre
  obtain ⟨hflag, -, htasks, -, -, hrest⟩ := shutdown_bounded hrun hset hmore
  exact ⟨t, t', hrun, hmore, hflag, htasks, hrest⟩

end FixedRuns

end Stftpu
