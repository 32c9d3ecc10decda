import Stftpu.ErrorPackets
import Stftpu.Server.Provenance

/-!
# An ERROR packet is the last word

`tftp_send_error` is followed by `return false` wherever it is called, so whoever has sent an
ERROR packet is done with its peer, and none goes to the port that requests are sent to: two
servers never answer each other's errors.

* `LastWord` — a step that sends an ERROR packet ends in a state of its own kind.
* `Guarded`, `Parted` — of each party: what is known before its ERROR packet, and after.
* `server_error_last` — over the runs of all threads of the server.
-/

namespace Stftpu

open Library

/-- `sendto` or `recvfrom`. -/
def Event.usesSocket : Event → Bool
  | .sendto _ _ _ => true
  | .recvfrom _ _ => true
  | _ => false

/-- The `sendto` of an ERROR packet goes where errors are forwarded to, and `P` holds
behind it. -/
def LastWord (e : Event) (P : Prop) : Prop :=
  ∀ peer packet ok, e = .sendto peer packet ok → opcodeOf packet = TFTPOpcode.error.code →
    forwardsErrors peer = true ∧ P

section LastWords

variable {e : Event} {P : Prop} {peer : SockAddr} {packet : List UInt8} {ok : Bool}

theorem lastWord_of_ne (h : ∀ peer packet ok, e ≠ .sendto peer packet ok) : LastWord e P := by
  intro peer packet ok he
  exact absurd he (h peer packet ok)

/-- Any other packet is no last word. -/
theorem lastWord_of_opcode (h : opcodeOf packet ≠ TFTPOpcode.error.code) :
    LastWord (.sendto peer packet ok) P := by
  intro peer' packet' ok' he hopcode
  obtain ⟨-, rfl, -⟩ := Event.sendto.inj he
  exact absurd hopcode h

theorem lastWord_ack (k : UInt16) : LastWord (.sendto peer (ackPacket k) ok) P := by
  apply lastWord_of_opcode
  rw [opcodeOf_ackPacket]
  decide

theorem lastWord_error (hforwards : forwardsErrors peer = true) (h : P) :
    LastWord (.sendto peer packet ok) P := by
  intro peer' packet' ok' he _
  obtain ⟨rfl, -, -⟩ := Event.sendto.inj he
  exact ⟨hforwards, h⟩

theorem LastWord.mono {Q : Prop} (h : LastWord e P) (hPQ : P → Q) : LastWord e Q := by
  intro peer packet ok he hopcode
  obtain ⟨hforwards, hP⟩ := h peer packet ok he hopcode
  exact ⟨hforwards, hPQ hP⟩

end LastWords

/-! ## The functions -/

/-- An ERROR packet about to be sent has a peer to go to. -/
def FillState.Guarded (s : FillState) : Prop :=
  s.sending.isSome = true → forwardsErrors s.op.peerAddress = true

def ReceiveState.Guarded {b : BlockSize} (s : ReceiveState b) : Prop :=
  s.sending.isSome = true → forwardsErrors s.op.peerAddress = true

def TransmitState.Forwards {b : BlockSize} (s : TransmitState b) : Prop :=
  s.sending.isSome = true → forwardsErrors s.op.peerAddress = true

/-- The packet buffer is in order besides. -/
structure TransmitState.Guarded {b : BlockSize} (s : TransmitState b) : Prop where
  forwards : s.Forwards
  framed : s.Framed

namespace FillState

variable {host : Host} {s s' : FillState} {e : Event}

theorem guarded_of_sending (h : s.sending = none) : s.Guarded := by
  intro hsome
  rw [h] at hsome
  cases hsome

theorem guarded_fail (reply : ErrorReply) : (s.fail reply).Guarded := by
  unfold fail
  split
  · rename_i hforwards
    exact fun _ => hforwards
  · exact guarded_of_sending rfl

theorem guarded_start (op : OperationData) (allocated receiver : Bool) :
    (start op allocated receiver).Guarded := by
  cases allocated with
  | true =>
      apply guarded_of_sending
      cases receiver <;> rfl
  | false => exact guarded_fail _

theorem guarded_checkBlockSize : s.checkBlockSize.Guarded := by
  unfold checkBlockSize
  split
  · exact guarded_of_sending rfl
  · split
    · exact guarded_of_sending rfl
    · exact guarded_fail _

theorem guarded_onAllocated {b : BlockSize} (data : Option (Buffer (dataPacketMaxSize b)))
    (response : Option (Buffer responsePacketMaxSize)) :
    (s.onAllocated host b data response).Guarded := by
  unfold onAllocated
  split
  · exact guarded_of_sending rfl
  · exact guarded_fail _

theorem guarded_step (hstep : tftpFillTransferData host s e = some s') : s'.Guarded := by
  cases hpoint : s.point with
  | probing =>
      obtain ⟨error, -, ⟨-, rfl⟩ | ⟨-, rfl⟩⟩ := fill_probing hpoint hstep
      · exact guarded_of_sending rfl
      · exact guarded_of_sending rfl
  | describing =>
      obtain ⟨timestamp, -, rfl⟩ := fill_describing hpoint hstep
      exact guarded_fail _
  | opening =>
      obtain ⟨error, -, ⟨-, rfl⟩ | ⟨errno, -, rfl⟩⟩ := fill_opening hpoint hstep
      · exact guarded_checkBlockSize
      · exact guarded_fail _
  | allocatingData b =>
      obtain ⟨block, data, -, -, rfl⟩ := fill_allocatingData hpoint hstep
      exact guarded_of_sending rfl
  | allocatingResponse b data =>
      obtain ⟨block, response, -, -, rfl⟩ := fill_allocatingResponse hpoint hstep
      exact guarded_onAllocated data response
  | failing reply =>
      obtain ⟨ok, -, rfl⟩ := fill_failing hpoint hstep
      exact guarded_of_sending rfl
  | ready b tx =>
      rw [fill_ready hpoint] at hstep
      cases hstep
  | failed =>
      rw [fill_failed hpoint] at hstep
      cases hstep

/-- Behind its ERROR packet the function has returned `false`. -/
theorem lastWord_step (h : s.Guarded) (hstep : tftpFillTransferData host s e = some s') :
    LastWord e (s'.point = .failed) := by
  cases hpoint : s.point with
  | failing reply =>
      have hforwards := h (by simp [sending, hpoint])
      obtain ⟨ok, rfl, rfl⟩ := fill_failing hpoint hstep
      exact lastWord_error hforwards rfl
  | _ =>
      apply lastWord_of_ne
      intro peer packet ok he
      subst he
      simp [tftpFillTransferData, hpoint] at hstep

end FillState

namespace ReceiveState

variable {b : BlockSize} {host : Host} {s s' : ReceiveState b} {e : Event}

theorem guarded_of_sending (h : s.sending = none) : s.Guarded := by
  intro hsome
  rw [h] at hsome
  cases hsome

theorem guarded_fail (reply : ErrorReply) : (s.fail reply).Guarded := by
  unfold fail
  split
  · rename_i hforwards
    exact fun _ => hforwards
  · exact guarded_of_sending rfl

theorem guarded_missed : s.missed.Guarded := by
  unfold missed
  split
  · exact guarded_of_sending rfl
  · exact guarded_fail _

theorem guarded_onPacket (hpoint : s.point = .awaiting) (result : RecvResult) :
    (s.onPacket host result).Guarded := by
  cases result with
  | failed errno => exact guarded_missed
  | datagram source bytes =>
      simp only [onPacket]
      split
      · split
        · exact guarded_of_sending rfl
        · split
          · apply guarded_of_sending
            simp only [accept]
            split <;> rfl
          · apply guarded_of_sending
            simp [sending, received, hpoint]
      · exact guarded_missed

theorem guarded_step (hstep : tftpReceiveFile host s e = some s') : s'.Guarded := by
  cases hpoint : s.point with
  | entry =>
      obtain ⟨set, -, rfl⟩ := receive_entry hpoint hstep
      cases set with
      | true => exact guarded_fail _
      | false => exact guarded_of_sending rfl
  | nextBlock =>
      obtain ⟨set, -, rfl⟩ := receive_nextBlock hpoint hstep
      cases set with
      | true => exact guarded_fail _
      | false => exact guarded_of_sending rfl
  | awaiting =>
      obtain ⟨result, -, rfl⟩ := receive_awaiting hpoint hstep
      exact guarded_onPacket hpoint result
  | writing payload =>
      obtain ⟨count, kept, -, -, rfl⟩ := receive_writing hpoint hstep
      unfold onWritten
      split
      · exact guarded_fail _
      · exact guarded_of_sending rfl
  | acknowledging =>
      obtain ⟨ok, -, rfl⟩ := receive_acknowledging hpoint hstep
      apply guarded_of_sending
      unfold onAcknowledged outerTest
      split <;> rfl
  | failing reply =>
      obtain ⟨ok, -, rfl⟩ := receive_failing hpoint hstep
      exact guarded_of_sending rfl
  | returned exit =>
      rw [receive_returned hpoint] at hstep
      cases hstep
  | fault =>
      rw [receive_fault hpoint] at hstep
      cases hstep

theorem lastWord_step (h : s.Guarded) (hstep : tftpReceiveFile host s e = some s') :
    LastWord e (s'.point = .returned .failure) := by
  cases hpoint : s.point with
  | acknowledging =>
      obtain ⟨ok, rfl, -⟩ := receive_acknowledging hpoint hstep
      exact lastWord_ack _
  | failing reply =>
      have hforwards := h (by simp [sending, hpoint])
      obtain ⟨ok, rfl, rfl⟩ := receive_failing hpoint hstep
      exact lastWord_error hforwards rfl
  | _ =>
      apply lastWord_of_ne
      intro peer packet ok he
      subst he
      simp [tftpReceiveFile, hpoint] at hstep

end ReceiveState

namespace TransmitState

variable {b : BlockSize} {host : Host} {s s' : TransmitState b} {e : Event}

theorem forwards_of_sending (h : s.sending = none) : s.Forwards := by
  intro hsome
  rw [h] at hsome
  cases hsome

theorem forwards_fail (reply : ErrorReply) : (s.fail reply).Forwards := by
  unfold fail
  split
  · rename_i hforwards
    exact fun _ => hforwards
  · exact forwards_of_sending rfl

theorem forwards_outerTest : s.outerTest.Forwards := by
  apply forwards_of_sending
  unfold outerTest
  split <;> rfl

theorem forwards_innerTest : s.innerTest.Forwards := by
  unfold innerTest
  split
  · exact forwards_of_sending rfl
  · exact forwards_outerTest

theorem forwards_retry : s.retry.Forwards := by
  unfold retry
  split
  · exact forwards_fail _
  · exact forwards_innerTest

theorem forwards_onResponse (result : RecvResult) : (s.onResponse host result).Forwards := by
  cases result with
  | failed errno =>
      simp only [onResponse]
      split
      · exact forwards_retry
      · exact forwards_fail _
  | datagram source bytes =>
      simp only [onResponse]
      split
      · exact forwards_of_sending rfl
      · split
        · exact forwards_outerTest
        · exact forwards_retry

theorem forwards_step (hstep : tftpTransmitFile host s e = some s') : s'.Forwards := by
  cases hpoint : s.point with
  | entry =>
      obtain ⟨set, -, rfl⟩ := transmit_entry hpoint hstep
      cases set with
      | true => exact forwards_fail _
      | false => exact forwards_outerTest
  | nextBlock =>
      obtain ⟨set, -, rfl⟩ := transmit_nextBlock hpoint hstep
      cases set with
      | true => exact forwards_fail _
      | false => exact forwards_of_sending rfl
  | reading =>
      obtain ⟨bytes, eof, -, -, rfl⟩ := transmit_reading hpoint hstep
      unfold onRead
      split
      · exact forwards_fail _
      · exact forwards_innerTest
  | attempt =>
      obtain ⟨set, -, rfl⟩ := transmit_attempt hpoint hstep
      cases set with
      | true => exact forwards_fail _
      | false => exact forwards_of_sending rfl
  | sending =>
      obtain ⟨ok, -, rfl⟩ := transmit_sending hpoint hstep
      unfold onSent
      split
      · exact forwards_of_sending rfl
      · exact forwards_fail _
  | awaiting =>
      obtain ⟨result, -, rfl⟩ := transmit_awaiting hpoint hstep
      exact forwards_onResponse result
  | failing reply =>
      obtain ⟨ok, -, rfl⟩ := transmit_failing hpoint hstep
      exact forwards_of_sending rfl
  | returned exit =>
      rw [transmit_returned hpoint] at hstep
      cases hstep

theorem guarded_step (h : s.Guarded) (hstep : tftpTransmitFile host s e = some s') :
    s'.Guarded :=
  ⟨forwards_step hstep, framed_step h.framed hstep⟩

theorem lastWord_step (h : s.Guarded) (hstep : tftpTransmitFile host s e = some s') :
    LastWord e (s'.point = .returned .failure) := by
  cases hpoint : s.point with
  | sending =>
      obtain ⟨ok, rfl, -⟩ := transmit_sending hpoint hstep
      have hframed := h.framed
      simp only [Framed, hpoint] at hframed
      apply lastWord_of_opcode
      rw [outgoing_eq hframed.1, opcodeOf_dataPacket]
      decide
  | failing reply =>
      have hforwards := h.forwards (by simp [TransmitState.sending, hpoint])
      obtain ⟨ok, rfl, rfl⟩ := transmit_failing hpoint hstep
      exact lastWord_error hforwards rfl
  | _ =>
      apply lastWord_of_ne
      intro peer packet ok he
      subst he
      simp [tftpTransmitFile, hpoint] at hstep

end TransmitState

/-! ## Tasks -/

namespace TaskState

variable {host : Host} {t t' : TaskState} {e : Event} {op : OperationData}

def Guarded : TaskState → Prop
  | .filling s => s.Guarded
  | .receiving _ s => s.Guarded
  | .transmitting _ s => s.Guarded
  | .deleting (.failing _) op => forwardsErrors op.peerAddress = true
  | _ => True

/-- Nothing is left but to close, to remove and to release. -/
def Parted : TaskState → Prop
  | .closingPartial _ => True
  | .removingPartial _ => True
  | .closingFile _ _ => True
  | .closingSocket _ _ => True
  | .releasing _ => True
  | .ended _ => True
  | .fault => True
  | _ => False

theorem Parted.guarded (h : t.Parted) : t.Guarded := by
  cases t <;> trivial

theorem parted_freeOperationData (result : Option Bool) :
    (freeOperationData op result).Parted := by
  unfold freeOperationData
  split <;> trivial

theorem parted_freeTransferData (fileOpen : Bool) (result : Option Bool) :
    (freeTransferData op fileOpen result).Parted := by
  unfold freeTransferData
  split
  · trivial
  · exact parted_freeOperationData result

theorem parted_afterFill {s : FillState} (h : s.point = .failed) : (afterFill s).Parted := by
  simp only [afterFill, h]
  split
  · exact parted_freeTransferData _ _
  · trivial

theorem parted_afterReceive {b : BlockSize} {s : ReceiveState b} {exit : Exit}
    (h : s.point = .returned exit) : (afterReceive s).Parted := by
  simp only [afterReceive, h]
  split <;> trivial

theorem parted_afterTransmit {b : BlockSize} {s : TransmitState b} {exit : Exit}
    (h : s.point = .returned exit) : (afterTransmit s).Parted := by
  simp only [afterTransmit, h]
  trivial

theorem guarded_afterFill {s : FillState} (h : s.Guarded) : (afterFill s).Guarded := by
  cases hpoint : s.point with
  | failed => exact (parted_afterFill hpoint).guarded
  | ready b tx =>
      simp only [afterFill, hpoint]
      split
      · trivial
      · exact ⟨TransmitState.forwards_of_sending rfl, trivial⟩
  | _ =>
      simp only [afterFill, hpoint]
      exact h

theorem guarded_dispatch : (dispatch op).Guarded := by
  unfold dispatch
  split
  · trivial
  · trivial
  · trivial
  · exact (parted_freeOperationData _).guarded
  · exact (parted_freeOperationData _).guarded

theorem guarded_failDelete (reply : ErrorReply) : (failDelete op reply).Guarded := by
  unfold failDelete
  split
  · rename_i hforwards
    exact hforwards
  · exact (parted_freeOperationData _).guarded

theorem guarded_step (h : t.Guarded) (hstep : serverTaskStart host t e = some t') :
    t'.Guarded := by
  cases task_called hstep with
  | starting op set =>
      cases set with
      | true => trivial
      | false => exact guarded_dispatch
  | allocating op block => exact guarded_afterFill (FillState.guarded_start _ _ _)
  | filling s s' hs => exact guarded_afterFill (FillState.guarded_step hs)
  | acknowledging b op tx ok =>
      cases ok with
      | true => exact ReceiveState.guarded_of_sending rfl
      | false => trivial
  | receiving b s s' hs =>
      unfold afterReceive
      split
      · split <;> trivial
      · trivial
      · exact ReceiveState.guarded_step hs
  | transmitting b s s' hs =>
      unfold afterTransmit
      split
      · trivial
      · exact TransmitState.guarded_step h hs
  | deleting point op hdelete =>
      cases delete_called hdelete with
      | missing errno => exact guarded_failDelete _
      | kept errno => exact guarded_failDelete _
      | confirming ok => exact (parted_freeOperationData _).guarded
      | failing reply ok => exact (parted_freeOperationData _).guarded
      | _ => trivial
  | removingPartial op error => exact (parted_freeOperationData _).guarded
  | closingFile op result => exact (parted_freeOperationData _).guarded
  | _ => trivial

/-- An ERROR packet leaves the task nothing to say. -/
theorem lastWord_step (h : t.Guarded) (hstep : serverTaskStart host t e = some t') :
    LastWord e t'.Parted := by
  cases task_called hstep with
  | filling s s' hs => exact (FillState.lastWord_step h hs).mono parted_afterFill
  | acknowledging b op tx ok => exact lastWord_ack _
  | receiving b s s' hs => exact (ReceiveState.lastWord_step h hs).mono parted_afterReceive
  | transmitting b s s' hs =>
      exact (TransmitState.lastWord_step h hs).mono parted_afterTransmit
  | deleting point op hdelete =>
      cases delete_called hdelete with
      | acknowledging ok => exact lastWord_ack _
      | confirming ok => exact lastWord_ack _
      | failing reply ok => exact lastWord_error h (parted_freeOperationData _)
      | _ =>
          apply lastWord_of_ne
          simp
  | _ =>
      apply lastWord_of_ne
      simp

/-- A task that is done with its peer uses its socket no more. -/
theorem parted_step (h : t.Parted) (hstep : serverTaskStart host t e = some t') :
    t'.Parted ∧ e.usesSocket = false := by
  cases task_called hstep with
  | closingPartial op => exact ⟨trivial, rfl⟩
  | removingPartial op error => exact ⟨parted_freeOperationData _, rfl⟩
  | closingFile op result => exact ⟨parted_freeOperationData _, rfl⟩
  | closingSocket op result => exact ⟨trivial, rfl⟩
  | releasing result => exact ⟨trivial, rfl⟩
  | _ => cases h

end TaskState

/-! ## The server -/

/-- An ERROR packet of the listener has a peer to go to. -/
def ListenerState.Guarded (s : ListenerState) : Prop :=
  match s.point with
  | .refusing _ => forwardsErrors s.clientAddress = true
  | .rejecting _ _ client _ => forwardsErrors client = true
  | _ => True

namespace ListenerState

variable {host : Host} {mem : ListenerMemory} {s s' : ListenerState} {e : Event}

theorem guarded_refuse (reply : ErrorReply) : (s.refuse reply).Guarded := by
  unfold refuse
  split
  · rename_i hforwards
    exact hforwards
  · trivial

theorem guarded_dispatch : (s.dispatch host mem).Guarded := by
  unfold dispatch
  split
  · trivial
  · split
    · trivial
    · split
      · trivial
      · split
        · trivial
        · exact guarded_refuse _

theorem guarded_onAcquired (slot : Option Nat) : (s.onAcquired host mem slot).Guarded := by
  unfold onAcquired
  split
  · exact guarded_refuse _
  · split <;> trivial

theorem guarded_freeOperationData (slot : Nat) (fd : Int) :
    (s.freeOperationData slot fd).Guarded := by
  unfold freeOperationData
  split <;> trivial

theorem guarded_onInitialized (slot : Nat) (args : InitArguments) (socket : DataSocket) :
    (s.onInitialized slot args socket).Guarded := by
  unfold onInitialized
  split
  · split <;> trivial
  · trivial
  · split
    · rename_i hforwards
      exact hforwards
    · exact guarded_freeOperationData _ _
  · trivial

theorem guarded_step (hstep : serverListenerLoop host mem s e = some s') : s'.Guarded := by
  cases loop_called hstep with
  | looping set hpoint => cases set <;> trivial
  | awaiting result hpoint => cases result <;> trivial
  | received set hpoint =>
      cases set with
      | true => trivial
      | false => exact guarded_dispatch
  | refusing reply ok hpoint => trivial
  | acquiring slot hpoint => exact guarded_onAcquired slot
  | initializing slot args socket hpoint => exact guarded_onInitialized slot args socket
  | rejecting slot fd client reply ok hpoint => exact guarded_freeOperationData slot fd
  | closing slot fd hpoint => trivial
  | releasing slot hpoint => trivial
  | spawning slot op ok hpoint => trivial

/-- The listener talks to many, so nothing but the address is known of its ERROR packets. -/
theorem lastWord_step (h : s.Guarded) (hstep : serverListenerLoop host mem s e = some s') :
    LastWord e True := by
  cases loop_called hstep with
  | refusing reply ok hpoint =>
      simp only [Guarded, hpoint] at h
      exact lastWord_error h trivial
  | rejecting slot fd client reply ok hpoint =>
      simp only [Guarded, hpoint] at h
      exact lastWord_error h trivial
  | _ => exact lastWord_of_ne (by simp)

end ListenerState

/-- Every thread's ERROR packet has a peer to go to. -/
structure ServerProcess.Guarded (s : ServerProcess) : Prop where
  listener : s.listener.state.Guarded
  tasks : ∀ (k : Nat) task, s.tasks[k]? = some task → ∀ state, task.state = some state →
    state.Guarded

/-- The task is done with its peer. -/
def ServerProcess.TaskParted (k : Nat) (s : ServerProcess) : Prop :=
  ∃ task state, s.tasks[k]? = some task ∧ task.state = some state ∧ state.Parted

section Process

variable {host : Host} {mem : ListenerMemory} {s s' : ServerProcess} {m : ProcessMove}

theorem guarded_process (h : s.Guarded) (hstep : serverProcess host mem s m = some s') :
    s'.Guarded where
  listener := by
    cases listener_moved hstep with
    | stayed heq =>
        rw [heq]
        exact h.listener
    | looped e hm hcall hloop => exact ListenerState.guarded_step hloop
    | acquired slot hpoint heq =>
        rw [heq]
        exact ListenerState.guarded_onAcquired slot
    | cleared heq =>
        rw [heq]
        trivial
  tasks := by
    intro k task' htask' state' hstate'
    rcases task_origin hstep htask' with ⟨task, htask, hmoved⟩ | ⟨slot, op, -, -, -, -, rfl⟩
    · have hbefore := h.tasks k task htask
      cases hmoved with
      | stayed => exact hbefore state' hstate'
      | began hm hstate =>
          obtain rfl := Option.some.inj hstate'
          cases s.slots.opDataPtr task.slot <;> trivial
      | called e state state₁ hm hstate hnot hcall =>
          obtain rfl := Option.some.inj hstate'
          exact TaskState.guarded_step (hbefore state hstate) hcall
      | detached result hm hstate => exact hbefore state' hstate'
      | releasing result next hm hstate hdetached => exact hbefore state' hstate'
      | released result hm hstate hdetached =>
          obtain rfl := Option.some.inj hstate'
          trivial
    · cases hstate'

theorem guarded_of_run {tr : List ProcessMove}
    (hrun : Run (serverProcess host mem) .start tr s) : s.Guarded := by
  apply hrun.invariant fun _ _ _ h hstep => guarded_process h hstep
  exact ⟨trivial, by simp [ServerProcess.start]⟩

/-- A task that is done with its peer stays so, whatever the other threads do. -/
theorem taskParted_process {k : Nat} (h : s.TaskParted k)
    (hstep : serverProcess host mem s m = some s') :
    s'.TaskParted k ∧ ¬ ∃ e, m = .task k e ∧ e.usesSocket = true := by
  obtain ⟨task, state, htask, hstate, hparted⟩ := h
  constructor
  · obtain ⟨task', htask', hmoved⟩ := task_kept hstep htask
    cases hmoved with
    | stayed => exact ⟨task, state, htask', hstate, hparted⟩
    | began hm hnone =>
        rw [hstate] at hnone
        cases hnone
    | called e before after hm hbefore hnot hcall =>
        obtain rfl := Option.some.inj (hstate.symm.trans hbefore)
        exact ⟨_, after, htask', rfl, (TaskState.parted_step hparted hcall).1⟩
    | detached result hm hbefore => exact ⟨_, state, htask', hstate, hparted⟩
    | releasing result next hm hbefore hdetached => exact ⟨_, state, htask', hstate, hparted⟩
    | released result hm hbefore hdetached => exact ⟨_, .ended result, htask', rfl, trivial⟩
  · rintro ⟨e, rfl, huses⟩
    obtain ⟨task', state₁, state', htask', hstate₁, -, hcall, -⟩ := task_eq hstep
    obtain rfl := Option.some.inj (htask.symm.trans htask')
    obtain rfl := Option.some.inj (hstate.symm.trans hstate₁)
    rw [(TaskState.parted_step hparted hcall).2] at huses
    cases huses

theorem port_of_forwards {peer : SockAddr} (h : forwardsErrors peer = true) :
    peer.port ≠ 69 := by
  simpa [forwardsErrors] using h

/-- Whatever the threads do, no ERROR packet of the server goes to the requests port, and a
task that has sent one neither sends nor receives anything more. -/
theorem server_error_last {pre post : List ProcessMove} {peer : SockAddr}
    {packet : List UInt8} {ok : Bool}
    (hrun : Run (serverProcess host mem) .start (pre ++ m :: post) s)
    (hsends : m.call = some (.sendto peer packet ok))
    (herror : opcodeOf packet = TFTPOpcode.error.code) :
    peer.port ≠ 69 ∧
      ∀ k, m = .task k (.sendto peer packet ok) → ∀ e, .task k e ∈ post →
        e.usesSocket = false := by
  obtain ⟨t, t', hpre, hstep, hpost⟩ := hrun.step_at
  have hguarded := guarded_of_run hpre
  cases m with
  | listener e =>
      obtain rfl := Option.some.inj hsends
      obtain ⟨-, state, hloop, -⟩ := listener_eq hstep
      obtain ⟨hforwards, -⟩ :=
        ListenerState.lastWord_step hguarded.listener hloop peer packet ok rfl herror
      exact ⟨port_of_forwards hforwards, by simp⟩
  | task k e =>
      obtain rfl := Option.some.inj hsends
      obtain ⟨task, state, state', htask, hstate, -, hcall, rfl⟩ := task_eq hstep
      obtain ⟨hforwards, hparted⟩ :=
        TaskState.lastWord_step (hguarded.tasks k task htask state hstate) hcall peer packet ok
          rfl herror
      refine ⟨port_of_forwards hforwards, ?_⟩
      intro k' hk e hmem
      obtain ⟨rfl, -⟩ := ProcessMove.task.inj hk
      have hlt : k < t.tasks.length := (List.getElem?_eq_some_iff.mp htask).1
      have hthere : (t.setTask k (task.enter state')).TaskParted k :=
        ⟨_, state', List.getElem?_set_self hlt, rfl, hparted⟩
      have hnever := hpost.never (fun _ _ _ h hstep => taskParted_process h hstep) hthere _ hmem
      cases huses : e.usesSocket with
      | false => rfl
      | true => exact absurd ⟨e, rfl, huses⟩ hnever
  | _ => cases hsends

end Process

section FixedRuns

/-- The reply to a request for the deletion of `a`, which is not there. -/
def refusedDeletionReply : ErrorReply :=
  { code := TFTPErrorCode.fileNotFound.code
    message := ascii "file not found: "
    item := some (ascii "a") }

/-- The request, up to the `fopen` that fails. -/
def refusalHistory : List ProcessMove :=
  deletionHistory ++ [.task 0 (.sendto (localhost 50001) (ackPacket 0) true),
    .task 0 (.fopen (ascii "storage/a") .read (some (.other 2)))]

set_option maxRecDepth 4000 in
theorem server_error_last_notFound :
    ∃ s, Run (serverProcess littleHost .strict) .start
        (refusalHistory ++
          .task 0 (.sendto (localhost 50001) (errorPacket refusedDeletionReply) true) ::
            [.task 0 (.close 4)]) s ∧
      (localhost 50001).port ≠ 69 ∧ (Event.close 4).usesSocket = false := by
  obtain ⟨s, hrun, -⟩ : ∃ s, Run (serverProcess littleHost .strict) .start
      (refusalHistory ++
        .task 0 (.sendto (localhost 50001) (errorPacket refusedDeletionReply) true) ::
          [.task 0 (.close 4)]) s ∧ True := exists_run_of_exec (by decide)
  obtain ⟨hport, hquiet⟩ := server_error_last hrun rfl (opcodeOf_errorPacket refusedDeletionReply)
  exact ⟨s, hrun, hport, hquiet 0 rfl (.close 4) (by simp)⟩

end FixedRuns

end Stftpu
