import Stftpu.Server.Grammar
import Stftpu.Server.SlotTable

/-!
# What the datagrams at port 69 lead to

Each datagram the listener receives is dealt with once: it starts one operation thread, or it
is answered with one ERROR packet, or it is dropped.

* `ListenerState.pending`, `ListenerState.asking` — the datagram, and the request, the
  listener still has to deal with.
* `arrivals_bound` — over any run of all threads of the server.
-/

namespace Stftpu

open Library

/-- A datagram that is not empty arrives at port 69. -/
def ProcessMove.isArrival : ProcessMove → Bool
  | .listener (.recvfrom _ (.datagram _ bytes)) => decide (bytes ≠ [])
  | _ => false

/-- A datagram with the opcode of a request arrives there. -/
def ProcessMove.isRequest : ProcessMove → Bool
  | .listener (.recvfrom _ (.datagram _ bytes)) => (requestOperation (opcodeOf bytes)).isSome
  | _ => false

/-- The listener sends a packet. -/
def ProcessMove.isReply : ProcessMove → Bool
  | .listener (.sendto _ _ _) => true
  | _ => false

namespace ListenerState

/-- A datagram is still to be dealt with. -/
def pending (s : ListenerState) : Nat :=
  match s.point with
  | .received => if 0 < s.bytesReceived then 1 else 0
  | .refusing _ => 1
  | .acquiring => 1
  | .initializing _ _ => 1
  | .rejecting _ _ _ _ => 1
  | .spawning _ _ => 1
  | _ => 0

/-- A request is still to become an operation thread. -/
def asking (host : Host) (s : ListenerState) : Nat :=
  match s.point with
  | .received => if (requestOperation (s.incomingOpcode host)).isSome then 1 else 0
  | .acquiring => 1
  | .initializing _ _ => 1
  | .spawning _ _ => 1
  | _ => 0

section Steps

variable {host : Host} {mem : ListenerMemory} {s s' : ListenerState} {e : Event}

theorem pending_clear : s.clear.pending = 0 := rfl

theorem asking_clear : s.clear.asking host = 0 := rfl

theorem asking_refuse (reply : ErrorReply) : (s.refuse reply).asking host = 0 := by
  unfold refuse
  split
  · rfl
  · exact asking_clear

theorem pending_le_one : s.pending ≤ 1 := by
  unfold pending
  split
  · split
    · exact le_refl 1
    · exact Nat.zero_le 1
  all_goals omega

theorem pending_freeOperationData (slot : Nat) (fd : Int) :
    (s.freeOperationData slot fd).pending = 0 := by
  unfold freeOperationData
  split <;> rfl

theorem asking_freeOperationData (slot : Nat) (fd : Int) :
    (s.freeOperationData slot fd).asking host = 0 := by
  unfold freeOperationData
  split <;> rfl

/-- A datagram without any bytes is not dealt with. -/
theorem pending_dispatch (hpoint : s.point = .received) :
    (s.dispatch host mem).pending ≤ s.pending := by
  by_cases hnone : s.bytesReceived ≤ 0
  · unfold dispatch
    rw [if_pos hnone]
    exact Nat.zero_le _
  · have hpending : s.pending = 1 := by
      simp only [pending, hpoint]
      rw [if_pos (by omega)]
    rw [hpending]
    exact pending_le_one

/-- The `switch` lets only requests through. -/
theorem asking_dispatch (hpoint : s.point = .received) :
    (s.dispatch host mem).asking host ≤ s.asking host := by
  unfold dispatch
  split
  · exact Nat.zero_le _
  · split
    · exact Nat.zero_le _
    · split
      · rename_i operation hsome
        have hasking : s.asking host = 1 := by simp [asking, hpoint, hsome]
        rw [hasking]
        exact le_refl 1
      · split
        · exact Nat.zero_le _
        · rw [asking_refuse]
          exact Nat.zero_le _

theorem asking_onAcquired (slot : Option Nat) : (s.onAcquired host mem slot).asking host ≤ 1 := by
  unfold onAcquired
  split
  · rw [asking_refuse]
    exact Nat.zero_le 1
  · split
    · exact Nat.zero_le 1
    · exact Nat.zero_le 1
    · exact le_refl 1

theorem asking_onInitialized (slot : Nat) (args : InitArguments) (socket : DataSocket) :
    (s.onInitialized slot args socket).asking host ≤ 1 := by
  unfold onInitialized
  split
  · split
    · exact Nat.zero_le 1
    · exact Nat.zero_le 1
  · exact Nat.zero_le 1
  · split
    · exact Nat.zero_le 1
    · rw [asking_freeOperationData]
      exact Nat.zero_le 1
  · exact le_refl 1

/-- What is received is pending exactly when it has bytes. -/
theorem pending_onReceived (size : Nat) (result : RecvResult) :
    (s.onReceived result).pending ≤
      [ProcessMove.listener (.recvfrom size result)].countP ProcessMove.isArrival := by
  rw [List.countP_singleton]
  cases result with
  | failed errno => exact Nat.zero_le _
  | datagram source bytes =>
      by_cases hempty : bytes = []
      · simp [pending, onReceived, hempty]
      · simp only [ProcessMove.isArrival, hempty, ne_eq, not_false_eq_true, decide_true, if_true]
        exact pending_le_one

/-- The opcode looked at is the datagram's. -/
theorem asking_onReceived (hzero : s.requestBuffer = Buffer.zero requestBufferSize) (size : Nat)
    (result : RecvResult) :
    (s.onReceived result).asking host ≤
      [ProcessMove.listener (.recvfrom size result)].countP ProcessMove.isRequest := by
  have hasking : ∀ bytes, (s.onReceived result).requestBuffer =
      (Buffer.zero requestBufferSize).receive bytes →
      (s.onReceived result).asking host =
        if (requestOperation (opcodeOf bytes)).isSome then 1 else 0 := by
    intro bytes hbytes
    have hpoint : (s.onReceived result).point = .received := by
      cases result <;> rfl
    simp only [asking, hpoint, incomingOpcode_cleared host hbytes]
  rw [List.countP_singleton]
  cases result with
  | failed errno =>
      have hempty : (s.onReceived (.failed errno)).requestBuffer =
          (Buffer.zero requestBufferSize).receive [] := by
        apply Buffer.ext
        simp [onReceived, hzero, Buffer.receive_bytes]
      have hnone : requestOperation (opcodeOf []) = none := by decide
      rw [hasking [] hempty, hnone]
      exact Nat.zero_le _
  | datagram source bytes =>
      have hbytes : (s.onReceived (.datagram source bytes)).requestBuffer =
          (Buffer.zero requestBufferSize).receive bytes := by
        simp only [onReceived, hzero]
      rw [hasking bytes hbytes]
      exact le_refl _

/-- A step of the loop sends at most what it had to deal with. -/
theorem pending_step (hstep : serverListenerLoop host mem s e = some s') :
    [ProcessMove.listener e].countP ProcessMove.isReply + s'.pending ≤
      s.pending + [ProcessMove.listener e].countP ProcessMove.isArrival := by
  cases loop_called hstep with
  | looping set hpoint =>
      cases set with
      | true => exact Nat.zero_le _
      | false => exact Nat.zero_le _
  | awaiting result hpoint =>
      have hreceived := pending_onReceived (s := s) requestBufferSize result
      simp only [List.countP_singleton, ProcessMove.isReply, Bool.false_eq_true, if_false]
        at hreceived ⊢
      omega
  | received set hpoint =>
      cases set with
      | true => exact Nat.zero_le _
      | false =>
          have hdispatch : (s.dispatch host mem).pending ≤ s.pending := pending_dispatch hpoint
          simp only [List.countP_singleton, ProcessMove.isReply, ProcessMove.isArrival,
            Bool.false_eq_true, if_false]
          omega
  | refusing reply ok hpoint =>
      rw [pending_clear]
      simp [pending, hpoint, ProcessMove.isReply]
  | acquiring slot hpoint =>
      have hone : (s.onAcquired host mem slot).pending ≤ 1 := pending_le_one
      simp only [List.countP_singleton, ProcessMove.isReply, ProcessMove.isArrival,
        Bool.false_eq_true, if_false, pending, hpoint] at hone ⊢
      omega
  | initializing slot args socket hpoint =>
      have hone : (s.onInitialized slot args socket).pending ≤ 1 := pending_le_one
      simp only [List.countP_singleton, ProcessMove.isReply, ProcessMove.isArrival,
        Bool.false_eq_true, if_false, pending, hpoint] at hone ⊢
      omega
  | rejecting slot fd client reply ok hpoint =>
      rw [pending_freeOperationData]
      simp [pending, hpoint, ProcessMove.isReply]
  | closing slot fd hpoint => exact Nat.zero_le _
  | releasing slot hpoint => exact Nat.zero_le _
  | spawning slot op ok hpoint => exact Nat.zero_le _

/-- A step of the loop that receives no request finds none to deal with. -/
theorem asking_step (hcleared : s.Cleared) (hstep : serverListenerLoop host mem s e = some s') :
    s'.asking host ≤
      s.asking host + [ProcessMove.listener e].countP ProcessMove.isRequest := by
  cases loop_called hstep with
  | looping set hpoint =>
      cases set with
      | true => exact Nat.zero_le _
      | false => exact Nat.zero_le _
  | awaiting result hpoint =>
      rw [Cleared, hpoint] at hcleared
      exact (asking_onReceived hcleared requestBufferSize result).trans (Nat.le_add_left _ _)
  | received set hpoint =>
      cases set with
      | true => exact Nat.zero_le _
      | false => exact (asking_dispatch hpoint).trans (Nat.le_add_right _ _)
  | refusing reply ok hpoint => exact Nat.zero_le _
  | acquiring slot hpoint =>
      have hone : s.asking host = 1 := by simp [asking, hpoint]
      have hnext : (s.onAcquired host mem slot).asking host ≤ 1 := asking_onAcquired slot
      omega
  | initializing slot args socket hpoint =>
      have hone : s.asking host = 1 := by simp [asking, hpoint]
      have hnext : (s.onInitialized slot args socket).asking host ≤ 1 :=
        asking_onInitialized slot args socket
      omega
  | rejecting slot fd client reply ok hpoint =>
      rw [asking_freeOperationData]
      exact Nat.zero_le _
  | closing slot fd hpoint => exact Nat.zero_le _
  | releasing slot hpoint => exact Nat.zero_le _
  | spawning slot op ok hpoint => exact Nat.zero_le _

end Steps

end ListenerState

namespace ServerProcess

/-- The operation threads, with the one the listener may still start. -/
def served (s : ServerProcess) : Nat :=
  s.tasks.length + s.listener.state.pending

def requested (host : Host) (s : ServerProcess) : Nat :=
  s.tasks.length + s.listener.state.asking host

section Steps

variable {host : Host} {mem : ListenerMemory} {s s' : ServerProcess} {m : ProcessMove}

/-- Only `pthread_create` adds a thread. -/
theorem tasks_length_step (hm : m ≠ .create) (hstep : serverProcess host mem s m = some s') :
    s'.tasks.length = s.tasks.length := by
  have hset : ∀ k task, (s.setTask k task).tasks.length = s.tasks.length := by
    intro k task
    exact List.length_set
  cases m with
  | listener e =>
      obtain ⟨-, state, -, rfl⟩ := listener_eq hstep
      rfl
  | listenerCall => rw [tasks_listenerCall hstep]
  | taskArgs allocated =>
      obtain ⟨slot, op, -, -, rfl⟩ := taskArgs_eq hstep
      rfl
  | create => exact absurd rfl hm
  | createFailed handle =>
      obtain ⟨slot, op, -, -, rfl⟩ := createFailed_eq hstep
      rfl
  | begin k =>
      obtain ⟨task, -, -, rfl⟩ := begin_eq hstep
      exact hset _ _
  | task k e =>
      obtain ⟨task, state, state', -, -, -, -, rfl⟩ := task_eq hstep
      exact hset _ _
  | taskRelease k =>
      cases taskRelease_eq hstep with
      | detached task result htask hstate hdetached heq =>
          rw [heq]
          exact hset _ _
      | releasing task result slots next htask hstate hdetached hcall heq =>
          rw [heq]
          exact hset _ _
      | released task result slots htask hstate hdetached hcall heq =>
          rw [heq]
          exact hset _ _

/-- Behind a call of several steps nothing more is to be dealt with than before it. -/
theorem called_step (hm : ∀ e, m ≠ .listener e) (hstep : serverProcess host mem s m = some s') :
    s'.listener.state.pending ≤ s.listener.state.pending ∧
      s'.listener.state.asking host ≤ s.listener.state.asking host := by
  cases listener_moved hstep with
  | stayed heq =>
      rw [heq]
      exact ⟨le_refl _, le_refl _⟩
  | looped e heq hcall hloop => exact absurd heq (hm e)
  | acquired slot hpoint heq =>
      rw [heq]
      have hpending : s.listener.state.pending = 1 := by
        simp [ListenerState.pending, hpoint]
      have hasking : s.listener.state.asking host = 1 := by
        simp [ListenerState.asking, hpoint]
      rw [hpending, hasking]
      exact ⟨ListenerState.pending_le_one, ListenerState.asking_onAcquired slot⟩
  | cleared heq =>
      rw [heq]
      exact ⟨Nat.zero_le _, Nat.zero_le _⟩

/-- The creation of a thread deals with the request. -/
theorem create_step (hstep : serverProcess host mem s .create = some s') :
    s'.served = s.served ∧ s'.requested host = s.requested host := by
  obtain ⟨slot, op, hpoint, -, rfl⟩ := create_eq hstep
  have hpending : s.listener.state.pending = 1 := by
    simp [ListenerState.pending, hpoint]
  have hasking : s.listener.state.asking host = 1 := by
    simp [ListenerState.asking, hpoint]
  constructor
  · simp [served, hpending, ListenerThread.enter, ListenerState.pending_clear]
  · simp [requested, hasking, ListenerThread.enter, ListenerState.asking_clear]

/-- A datagram is dealt with by a thread or by a packet, not by both. -/
theorem served_step (hstep : serverProcess host mem s m = some s') :
    [m].countP ProcessMove.isReply + s'.served ≤ s.served + [m].countP ProcessMove.isArrival := by
  cases m with
  | listener e =>
      have hlength := tasks_length_step (by simp) hstep
      obtain ⟨-, state, hloop, rfl⟩ := listener_eq hstep
      have hpending := ListenerState.pending_step hloop
      show _ + (s.tasks.length + state.pending) ≤ s.tasks.length + s.listener.state.pending + _
      omega
  | create =>
      have hserved := (create_step hstep).1
      simp only [List.countP_singleton, ProcessMove.isReply, ProcessMove.isArrival,
        Bool.false_eq_true, if_false]
      omega
  | _ =>
      have hlength := tasks_length_step (by simp) hstep
      have hpending := (called_step (by simp) hstep).1
      simp only [List.countP_singleton, ProcessMove.isReply, ProcessMove.isArrival,
        Bool.false_eq_true, if_false, served]
      omega

/-- Only a request leads to a thread. -/
theorem requested_step (hcleared : s.listener.state.Cleared)
    (hstep : serverProcess host mem s m = some s') :
    s'.requested host ≤ s.requested host + [m].countP ProcessMove.isRequest := by
  cases m with
  | listener e =>
      obtain ⟨-, state, hloop, rfl⟩ := listener_eq hstep
      have hasking := ListenerState.asking_step hcleared hloop
      show s.tasks.length + state.asking host ≤
        s.tasks.length + s.listener.state.asking host + _
      omega
  | create =>
      rw [(create_step hstep).2]
      exact Nat.le_add_right _ _
  | _ =>
      have hlength := tasks_length_step (by simp) hstep
      have hasking := (called_step (by simp) hstep).2
      simp only [requested]
      omega

/-- How many threads a run may have started. -/
theorem requested_run {tr : List ProcessMove} (h : Run (serverProcess host mem) s tr s')
    (hcleared : s.listener.state.Cleared) :
    s'.requested host ≤ s.requested host + tr.countP ProcessMove.isRequest := by
  have hbalance := h.countP_balance (I := fun s => s.listener.state.Cleared) (f := requested host)
    (p := fun _ => false) (q := ProcessMove.isRequest)
    (fun t m u ht hs => ⟨cleared_process ht hs, by simpa using requested_step ht hs⟩) hcleared
  have hle := hbalance.2
  omega

end Steps

end ServerProcess

/-- Over any run of all threads of the server, no more operation threads are started than
requests arrive at port 69, and what is sent from there and the threads together are no more
than the datagrams that arrive. -/
theorem arrivals_bound {host : Host} {mem : ListenerMemory} {tr : List ProcessMove}
    {s : ServerProcess} (h : Run (serverProcess host mem) .start tr s) :
    s.tasks.length ≤ tr.countP ProcessMove.isRequest ∧
      tr.countP ProcessMove.isReply + s.tasks.length ≤ tr.countP ProcessMove.isArrival := by
  constructor
  · have hrequested := ServerProcess.requested_run h rfl
    have hstart : ServerProcess.start.requested host = 0 := rfl
    unfold ServerProcess.requested at hrequested hstart
    omega
  · have hserved := (h.countP_balance (I := fun _ => True) (f := ServerProcess.served)
      (p := ProcessMove.isReply) (q := ProcessMove.isArrival)
      (fun t m u _ hs => ⟨trivial, ServerProcess.served_step hs⟩) trivial).2
    have hstart : ServerProcess.start.served = 0 := rfl
    unfold ServerProcess.served at hserved hstart
    omega

section FixedRuns

/-- A request, and a datagram that is none. -/
def requestAndStray : List ProcessMove :=
  requestMoves (localhost 50001) 0 4 40001 ++
    [.listener (.poll false),
      .listener (.recvfrom requestBufferSize (.datagram (localhost 50002) (ackPacket 0))),
      .listener (.poll false),
      .listener (.sendto (localhost 50002)
        (errorPacket (ListenerState.illegalOpcodeReply (ascii "ACK"))) true)]

set_option maxRecDepth 4000 in
/-- The one starts a thread, the other is answered. -/
theorem arrivals_bound_two :
    ∃ s, Run (serverProcess littleHost .strict) .start requestAndStray s ∧ s.tasks.length = 1 ∧
      s.tasks.length ≤ requestAndStray.countP ProcessMove.isRequest ∧
      requestAndStray.countP ProcessMove.isReply + s.tasks.length ≤
        requestAndStray.countP ProcessMove.isArrival := by
  have hrun : ∃ s, Run (serverProcess littleHost .strict) .start requestAndStray s ∧
      s.tasks.length = 1 := exists_run_of_exec (by decide)
  obtain ⟨s, hs, hlength⟩ := hrun
  exact ⟨s, hs, hlength, arrivals_bound hs⟩

end FixedRuns

end Stftpu
