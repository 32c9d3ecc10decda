import Stftpu.Server.RoundTrip
import Stftpu.Server.SlotTable

/-!
# The server and one client's request for a transfer

What the threads of the server can be at when the only request that arrives is one client's
for one transfer, however often and from wherever it arrives, and beside it packets that are
no requests.  Each time, the request is parsed to the same operation, and each task it starts
begins with that operation.

* `TransferRequest` — a datagram that asks for a transfer, and the operation it comes to.
* `TransferRequest.ListenerFor` — where the listener can be.
* `TransferRequest.ServerFor` — what holds of the threads; what the tasks do with the operation
  is left open.
-/

namespace Stftpu

open Library

/-- A request for a transfer, and what the server makes of it. -/
structure TransferRequest where
  packet : List UInt8
  operation : OperationId
  path : List UInt8
  blockSize : BlockSize
  opcode : requestOperation (opcodeOf packet) = some operation
  fits : packet.length + 2 ≤ requestBufferSize
  name_le : (requestField 0 packet).length ≤ tftpFilenameMax
  /-- `tftp_init_operation_data` accepts it. -/
  accepted : ∀ args source, ArgumentsMatch args source packet → ∀ fd port, ∃ op,
    tftpInitOperationData (.bound fd port) args = some (.created op) ∧
      op.operationId = operation ∧ op.path = path ∧ op.blockSize.toNat = blockSize.val

namespace TransferRequest

/-- An operation for it. -/
structure Serves (r : TransferRequest) (op : OperationData) : Prop where
  operation : op.operationId = r.operation
  path : op.path = r.path
  size : op.blockSize.toNat = r.blockSize.val

/-- What can arrive at the requests socket: the request, or what is none. -/
def Heard (r : TransferRequest) (bytes : List UInt8) : Prop :=
  bytes = r.packet ∨ requestOperation (opcodeOf bytes) = none

/-- No other request arrives in a step of the server. -/
def Reaches (r : TransferRequest) : ProcessMove → Prop
  | .listener (.recvfrom _ (.datagram _ bytes)) => r.Heard bytes
  | _ => True

/-! ## The listener -/

/-- The request is in the buffer, and nothing else. -/
structure Taken (r : TransferRequest) (s : ListenerState) : Prop where
  length : s.bytesReceived = r.packet.length
  buffer : s.requestBuffer = (Buffer.zero requestBufferSize).receive r.packet

/-- A datagram that is no request is in the buffer. -/
def Stray (s : ListenerState) : Prop :=
  ∃ bytes, requestOperation (opcodeOf bytes) = none ∧
    s.requestBuffer = (Buffer.zero requestBufferSize).receive bytes

/-- Where the listener can be. -/
def ListenerFor (r : TransferRequest) (s : ListenerState) : Prop :=
  match s.point with
  | .looping => s.requestBuffer = Buffer.zero requestBufferSize
  | .awaiting => s.requestBuffer = Buffer.zero requestBufferSize
  | .received => s.Cleared ∧ (0 < s.bytesReceived → r.Taken s ∨ Stray s)
  | .acquiring => r.Taken s
  | .initializing _ args => ∃ source, ArgumentsMatch args source r.packet
  | .rejecting _ _ _ _ => False
  | .closing _ _ => False
  | .releasing _ => False
  | .spawning _ op => r.Serves op
  | _ => True

section Listener

variable {r : TransferRequest} {host : Host} {mem : ListenerMemory} {s s' : ListenerState}
  {e : Event}

theorem listenerFor_clear : r.ListenerFor s.clear := rfl

theorem listenerFor_refuse (reply : ErrorReply) : r.ListenerFor (s.refuse reply) := by
  unfold ListenerState.refuse
  split
  · trivial
  · exact listenerFor_clear

theorem listenerFor_onReceived (h : s.requestBuffer = Buffer.zero requestBufferSize)
    {result : RecvResult} (hheard : ∀ source bytes, result = .datagram source bytes →
      r.Heard bytes) : r.ListenerFor (s.onReceived result) := by
  have hcleared := ListenerState.cleared_onReceived h result
  cases result with
  | failed errno => exact ⟨hcleared, by simp [ListenerState.onReceived]⟩
  | datagram source bytes =>
      refine ⟨hcleared, ?_⟩
      intro _
      rcases hheard source bytes rfl with rfl | hnone
      · left
        have hfits := r.fits
        refine ⟨?_, ?_⟩
        · simp only [ListenerState.onReceived]
          omega
        · simp only [ListenerState.onReceived, h]
      · exact Or.inr ⟨bytes, hnone, by simp only [ListenerState.onReceived, h]⟩

/-- A request goes on to the search for a slot, and what is none is refused. -/
theorem listenerFor_dispatch (hpoint : s.point = .received) (h : r.ListenerFor s) :
    r.ListenerFor (s.dispatch host mem) := by
  rw [ListenerFor, hpoint] at h
  obtain ⟨hcleared, hbuffer⟩ := h
  unfold ListenerState.dispatch
  split
  · rename_i hnone
    simp only [ListenerState.Cleared, hpoint] at hcleared
    exact hcleared hnone
  · rename_i hsome
    split
    · trivial
    · rcases hbuffer (by omega) with htaken | ⟨bytes, hnone, hbytes⟩
      · rw [incomingOpcode_cleared host htaken.buffer, r.opcode]
        exact ⟨htaken.length, htaken.buffer⟩
      · rw [incomingOpcode_cleared host hbytes, hnone]
        simp only []
        split
        · trivial
        · exact listenerFor_refuse _

/-- The request is parsed field by field. -/
theorem listenerFor_onAcquired (h : r.Taken s) (slot : Option Nat) :
    r.ListenerFor (s.onAcquired host mem slot) := by
  cases slot with
  | none => exact listenerFor_refuse _
  | some slot =>
      obtain ⟨args, hparse, hoperation, hpeer, hpath, hmode, hblocksize⟩ :=
        serverParseRequestData_cleared host mem h.buffer h.length r.fits r.opcode
      rw [List.take_of_length_le r.name_le] at hpath
      simp only [ListenerState.onAcquired, hparse]
      exact ⟨s.clientAddress,
        { operation := by rw [hoperation, r.opcode]
          peer := hpeer
          path := hpath
          mode := by rw [hoperation]; exact hmode
          blocksize := by rw [hoperation]; exact hblocksize }⟩

theorem listenerFor_onInitialized {slot : Nat} {args : InitArguments} {socket : DataSocket}
    {source : SockAddr} (hargs : ArgumentsMatch args source r.packet) :
    r.ListenerFor (s.onInitialized slot args socket) := by
  cases socket with
  | exits =>
      have hinit : tftpInitOperationData .exits args = some .exits := by
        unfold tftpInitOperationData
        rw [hargs.path]
        rfl
      simp only [ListenerState.onInitialized, hinit]
      trivial
  | bound fd port =>
      obtain ⟨op, hinit, hoperation, hpath, hsize⟩ := r.accepted args source hargs fd port
      simp only [ListenerState.onInitialized, hinit]
      exact ⟨hoperation, hpath, hsize⟩

/-- Every step of the listener's loop. -/
theorem listenerFor_step (h : r.ListenerFor s) (hreaches : r.Reaches (.listener e))
    (hstep : serverListenerLoop host mem s e = some s') : r.ListenerFor s' := by
  cases loop_called hstep with
  | looping set hpoint =>
      rw [ListenerFor, hpoint] at h
      cases set with
      | true => trivial
      | false => exact h
  | awaiting result hpoint =>
      rw [ListenerFor, hpoint] at h
      refine listenerFor_onReceived h ?_
      rintro source bytes rfl
      exact hreaches
  | received set hpoint =>
      cases set with
      | true => trivial
      | false => exact listenerFor_dispatch hpoint h
  | refusing reply ok hpoint => exact listenerFor_clear
  | acquiring slot hpoint =>
      rw [ListenerFor, hpoint] at h
      exact listenerFor_onAcquired h slot
  | initializing slot args socket hpoint =>
      rw [ListenerFor, hpoint] at h
      obtain ⟨source, hargs⟩ := h
      exact listenerFor_onInitialized hargs
  | rejecting slot fd client reply ok hpoint =>
      rw [ListenerFor, hpoint] at h
      -- a request that is accepted is never turned down
      exact h.elim
  | closing slot fd hpoint =>
      rw [ListenerFor, hpoint] at h
      exact h.elim
  | releasing slot hpoint => exact listenerFor_clear
  | spawning slot op ok hpoint => exact listenerFor_clear

theorem listenerFor_process {p p' : ServerProcess} {m : ProcessMove}
    (h : r.ListenerFor p.listener.state) (hreaches : r.Reaches m)
    (hstep : serverProcess host mem p m = some p') : r.ListenerFor p'.listener.state := by
  cases listener_moved hstep with
  | stayed heq =>
      rw [heq]
      exact h
  | looped e hm hcall hloop =>
      subst hm
      exact listenerFor_step h hreaches hloop
  | acquired slot hpoint heq =>
      rw [ListenerFor, hpoint] at h
      rw [heq]
      exact listenerFor_onAcquired h slot
  | cleared heq =>
      rw [heq]
      exact listenerFor_clear

end Listener

/-! ## All threads -/

/-- Where the threads of the server can be, with a condition on the tasks at work. -/
structure ServerFor (r : TransferRequest) (P : Nat → TaskState → Prop) (s : ServerProcess) :
    Prop extends ProcessOk s where
  listener : r.ListenerFor s.listener.state
  /-- A task that has not read its slot finds the operation there. -/
  waiting : ∀ (k : Nat) task, s.tasks[k]? = some task → task.state = none →
    ∃ op, s.slots.opDataPtr task.slot = some op ∧ r.Serves op
  running : ∀ (k : Nat) task t, s.tasks[k]? = some task → task.state = some t → P k t

section Threads

variable {r : TransferRequest} {host : Host} {mem : ListenerMemory} {s s' : ServerProcess}
  {m : ProcessMove} {P P' : Nat → TaskState → Prop}

/-- The slot of a task that has not read it is left alone. -/
theorem opDataPtr_waiting {k : Nat} {task : TaskThread} (h : ProcessOk s)
    (hstep : serverProcess host mem s m = some s') (htask : s.tasks[k]? = some task)
    (hstate : task.state = none) : s'.slots.opDataPtr task.slot = s.slots.opDataPtr task.slot := by
  refine ServerProcess.opDataPtr_step hstep ?_
  intro hstores
  have hlive : task.Live := by simp [TaskThread.Live, TaskThread.ended, hstate]
  exact ServerProcess.slot_ne_listener h.slots htask hlive
    (ServerProcess.phase_of_stores hstores) rfl

/-- Every step of every thread, where the calls of a task keep the condition. -/
theorem ServerFor.step (h : r.ServerFor P s) (hreaches : r.Reaches m)
    (hstep : serverProcess host mem s m = some s')
    (hkeeps : ∀ k t, (∀ e, m ≠ .task k e) → P k t → P' k t)
    (hbegins : ∀ k op, m = .begin k → r.Serves op → P' k (.starting op))
    (hcalls : ∀ k e t t', m = .task k e → P k t → serverTaskStart host t e = some t' → P' k t')
    (hends : ∀ k result, m = .taskRelease k → P' k (.ended result)) :
    r.ServerFor P' s' where
  toProcessOk := h.toProcessOk.step hstep
  listener := listenerFor_process h.listener hreaches hstep
  waiting := by
    intro k task' htask' hnone
    rcases task_origin hstep htask' with ⟨task, htask, hmoved⟩ |
      ⟨slot, op, rfl, -, hpoint, hspawn, rfl⟩
    · cases hmoved with
      | stayed =>
          rw [opDataPtr_waiting h.toProcessOk hstep htask hnone]
          exact h.waiting k task' htask hnone
      | began hm hstate => cases hnone
      | called e t t' hm hstate hnot hcall => cases hnone
      | detached result hm hstate =>
          rw [show task.state = none from hnone] at hstate
          cases hstate
      | releasing result next hm hstate hdetached =>
          rw [show task.state = none from hnone] at hstate
          cases hstate
      | released result hm hstate hdetached => cases hnone
    · have hlistener := h.listener
      rw [ListenerFor, hpoint] at hlistener
      have hop := h.stored slot op hpoint (by rw [hspawn]; simp)
      have hslots : s'.slots.opDataPtr slot = s.slots.opDataPtr slot :=
        ServerProcess.opDataPtr_step hstep (by simp [ServerProcess.stores])
      exact ⟨op, hslots.trans hop, hlistener⟩
  running := by
    intro k task' t' htask' hstate'
    rcases task_origin hstep htask' with ⟨task, htask, hmoved⟩ | ⟨slot, op, -, -, -, -, rfl⟩
    · cases hmoved with
      | stayed =>
          by_cases hcalled : ∃ e, m = .task k e
          · -- a call leads to the state behind it
            obtain ⟨e, rfl⟩ := hcalled
            obtain ⟨before, t, t₁, hbefore, hstate, -, hcall, rfl⟩ := task_eq hstep
            have hlt := (List.getElem?_eq_some_iff.mp hbefore).1
            rw [ServerProcess.setTask, List.getElem?_set_self hlt] at htask'
            obtain rfl := Option.some.inj htask'
            obtain rfl := Option.some.inj hstate'
            exact hcalls k e t t₁ rfl (h.running k before t hbefore hstate) hcall
          · exact hkeeps k t' (fun e hm => hcalled ⟨e, hm⟩) (h.running k task' t' htask hstate')
      | began hm hstate =>
          obtain ⟨op, hop, hserves⟩ := h.waiting k task htask hstate
          simp only [TaskThread.onBegin, hop] at hstate'
          obtain rfl := Option.some.inj hstate'
          exact hbegins k op hm hserves
      | called e t t₁ hm hstate hnot hcall =>
          obtain rfl := Option.some.inj hstate'
          exact hcalls k e t t₁ hm (h.running k task t htask hstate) hcall
      | detached result hm hstate =>
          exact hkeeps k t' (by simp [hm]) (h.running k task t' htask hstate')
      | releasing result next hm hstate hdetached =>
          exact hkeeps k t' (by simp [hm]) (h.running k task t' htask hstate')
      | released result hm hstate hdetached =>
          obtain rfl := Option.some.inj hstate'
          exact hends k result hm
    · cases hstate'

end Threads

end TransferRequest

end Stftpu
