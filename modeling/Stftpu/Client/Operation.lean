import Stftpu.Client.Request
import Stftpu.Transfer.Await
import Stftpu.Transfer.Fill

/-!
# `client_start_operation`

The client's side of an operation: the request, the acknowledgements it waits for
and the transfer.  A control point of a function it calls is a control point of its
own.
-/

namespace Stftpu

open Library

/-- `client_start_operation` between two system calls. -/
inductive ClientState
  /-- `sendto` of the request. -/
  | requesting (op : OperationData) (packet : List UInt8)
  /-- `tftp_await_acknowledgement (0, op_data)`. -/
  | awaitingRequest (s : AwaitState)
  /-- `tftp_await_acknowledgement (1, op_data)`. -/
  | awaitingDeletion (s : AwaitState)
  /-- `malloc (sizeof (TransferData_t))`. -/
  | allocating (op : OperationData)
  | filling (s : FillState)
  | receiving (b : BlockSize) (s : ReceiveState b)
  | transmitting (b : BlockSize) (s : TransmitState b)
  /-- `fclose` in `tftp_free_transfer_data`. -/
  | closing (op : OperationData) (outcome : Bool)
  | returned (op : OperationData) (outcome : Bool)
  /-- `exit (EXIT_FAILURE)`. -/
  | exited
  /-- A memory error: bytes outside a block, or a null `TransferData_t`. -/
  | fault
  deriving DecidableEq, Repr

namespace ClientState

/-- The call of `client_start_operation`, up to `sendto` of the request. -/
def start (op : OperationData) : ClientState :=
  match sendRequestPacket op with
  | none => .fault
  | some .exits => .exited
  | some (.built packet) => .requesting op packet

/-- Past the request's acknowledgement. -/
def acknowledged (op : OperationData) : ClientState :=
  if op.operationId = .requestDelete then
    .awaitingDeletion (AwaitState.start 1 op)
  else
    .allocating op

/-- `tftp_free_transfer_data`. -/
def freeTransferData (op : OperationData) (fileOpen outcome : Bool) : ClientState :=
  if fileOpen then .closing op outcome else .returned op outcome

/-- What follows `sendto` of the request. -/
def onRequested (op : OperationData) (ok : Bool) : ClientState :=
  if ok then
    if op.operationId = .receive then
      acknowledged op
    else
      .awaitingRequest (AwaitState.start 0 op)
  else
    .returned op false

/-- What follows a step of the first wait. -/
def afterRequest (s : AwaitState) : ClientState :=
  match s.point with
  | .returned .success => acknowledged s.op
  | .returned _ => .returned s.op false
  | _ => .awaitingRequest s

/-- What follows a step of the second wait. -/
def afterDeletion (s : AwaitState) : ClientState :=
  match s.point with
  | .returned exit => .returned s.op exit.value
  | _ => .awaitingDeletion s

/-- What follows a step of `tftp_fill_transfer_data`. -/
def afterFill (s : FillState) : ClientState :=
  match s.point with
  | .ready b tx =>
      if s.receiver then
        .receiving b (ReceiveState.start s.op tx)
      else
        .transmitting b (TransmitState.start s.op tx)
  | .failed => if s.allocated then freeTransferData s.op s.fileOpen false else .fault
  | _ => .filling s

/-- What follows the allocation of the `TransferData_t`. -/
def onAllocated (op : OperationData) (allocated : Bool) : ClientState :=
  match op.operationId with
  | .receive => afterFill (FillState.start op allocated true)
  | .send => afterFill (FillState.start op allocated false)
  | _ => .fault

/-- What follows a step of `tftp_receive_file`. -/
def afterReceive {b : BlockSize} (s : ReceiveState b) : ClientState :=
  match s.point with
  | .returned exit => freeTransferData s.op true exit.value
  | .fault => .fault
  | _ => .receiving b s

/-- What follows a step of `tftp_transmit_file`. -/
def afterTransmit {b : BlockSize} (s : TransmitState b) : ClientState :=
  match s.point with
  | .returned exit => freeTransferData s.op true exit.value
  | _ => .transmitting b s

end ClientState

/-- One system call of `client_start_operation`. -/
def clientStartOperation (host : Host) (s : ClientState) (e : Event) : Option ClientState :=
  match s with
  | .requesting op packet =>
      match e with
      | .sendto peer sent ok =>
          if peer = op.peerAddress ∧ sent = packet then
            some (ClientState.onRequested op ok)
          else
            none
      | _ => none
  | .awaitingRequest s => (tftpAwaitAcknowledgement host s e).map ClientState.afterRequest
  | .awaitingDeletion s => (tftpAwaitAcknowledgement host s e).map ClientState.afterDeletion
  | .allocating op =>
      match e with
      | .malloc size block =>
          if size = sizeofTransferData then
            some (ClientState.onAllocated op block.isSome)
          else
            none
      | _ => none
  | .filling s => (tftpFillTransferData host s e).map ClientState.afterFill
  | .receiving _ s => (tftpReceiveFile host s e).map ClientState.afterReceive
  | .transmitting _ s => (tftpTransmitFile host s e).map ClientState.afterTransmit
  | .closing op outcome =>
      match e with
      | .fclose _ => some (.returned op outcome)
      | _ => none
  | .returned _ _ => none
  | .exited => none
  | .fault => none

/-! ### What a call does -/

/-- The control points of the client with the calls made at them, and where each call leads. -/
inductive ClientCalled (host : Host) : ClientState → Event → ClientState → Prop
  | requesting (op : OperationData) (packet : List UInt8) (ok : Bool) :
      ClientCalled host (.requesting op packet) (.sendto op.peerAddress packet ok)
        (ClientState.onRequested op ok)
  | awaitingRequest (s s' : AwaitState) {e : Event}
      (hs : tftpAwaitAcknowledgement host s e = some s') :
      ClientCalled host (.awaitingRequest s) e (ClientState.afterRequest s')
  | awaitingDeletion (s s' : AwaitState) {e : Event}
      (hs : tftpAwaitAcknowledgement host s e = some s') :
      ClientCalled host (.awaitingDeletion s) e (ClientState.afterDeletion s')
  | allocating (op : OperationData) (block : Option (List UInt8)) :
      ClientCalled host (.allocating op) (.malloc sizeofTransferData block)
        (ClientState.onAllocated op block.isSome)
  | filling (s s' : FillState) {e : Event} (hs : tftpFillTransferData host s e = some s') :
      ClientCalled host (.filling s) e (ClientState.afterFill s')
  | receiving (b : BlockSize) (s s' : ReceiveState b) {e : Event}
      (hs : tftpReceiveFile host s e = some s') :
      ClientCalled host (.receiving b s) e (ClientState.afterReceive s')
  | transmitting (b : BlockSize) (s s' : TransmitState b) {e : Event}
      (hs : tftpTransmitFile host s e = some s') :
      ClientCalled host (.transmitting b s) e (ClientState.afterTransmit s')
  | closing (op : OperationData) (outcome : Bool) {lost : Nat} :
      ClientCalled host (.closing op outcome) (.fclose lost) (.returned op outcome)

theorem client_called {host : Host} {c c' : ClientState} {e : Event}
    (hstep : clientStartOperation host c e = some c') : ClientCalled host c e c' := by
  cases c with
  | requesting op packet =>
      cases e with
      | sendto peer sent ok =>
          obtain ⟨⟨rfl, rfl⟩, hnext⟩ := Option.ite_none_right_eq_some.mp hstep
          obtain rfl := Option.some.inj hnext
          exact .requesting op _ ok
      | _ => cases hstep
  | awaitingRequest s =>
      obtain ⟨s', hs, rfl⟩ := Option.map_eq_some_iff.mp hstep
      exact .awaitingRequest s s' hs
  | awaitingDeletion s =>
      obtain ⟨s', hs, rfl⟩ := Option.map_eq_some_iff.mp hstep
      exact .awaitingDeletion s s' hs
  | allocating op =>
      cases e with
      | malloc size block =>
          obtain ⟨rfl, hnext⟩ := Option.ite_none_right_eq_some.mp hstep
          obtain rfl := Option.some.inj hnext
          exact .allocating op block
      | _ => cases hstep
  | filling s =>
      obtain ⟨s', hs, rfl⟩ := Option.map_eq_some_iff.mp hstep
      exact .filling s s' hs
  | receiving b s =>
      obtain ⟨s', hs, rfl⟩ := Option.map_eq_some_iff.mp hstep
      exact .receiving b s s' hs
  | transmitting b s =>
      obtain ⟨s', hs, rfl⟩ := Option.map_eq_some_iff.mp hstep
      exact .transmitting b s s' hs
  | closing op outcome =>
      cases e with
      | fclose lost =>
          obtain rfl := Option.some.inj hstep
          exact .closing op outcome
      | _ => cases hstep
  | returned op outcome => cases hstep
  | exited => cases hstep
  | fault => cases hstep

end Stftpu
