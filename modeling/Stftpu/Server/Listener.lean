import Stftpu.Library.Transition
import Stftpu.Operation

/-!
# The requests listener

`server_listener_loop` with `server_try_create_operation_thread` and
`server_parse_request_data`: one buffer for every request, cleared behind each one,
and strings read from it where their terminators happen to be.  What lies behind the
buffer and behind the table of opcode names is the environment's (`ListenerMemory`);
an access that memory does not answer leads to the control point `fault`.
-/

namespace Stftpu

open Library

/-! ## Requests -/

/-- `buffer_size`. -/
def requestBufferSize : Nat := sizeofPacket + tftpFilenameMax * 2

/-- `tftp_common.opcode_strings`. -/
def opcodeStrings : List (List UInt8) :=
  [ascii "NONE", ascii "RRQ", ascii "WRQ", ascii "DATA", ascii "ACK", ascii "ERROR", ascii "DRQ"]

/-- Memory that belongs to none of the blocks modelled. -/
structure ListenerMemory where
  /-- The bytes that can be read behind the request buffer. -/
  slack : List UInt8
  /-- The string found at an index behind the opcode names. -/
  beyondOpcodes : UInt16 → Option (List UInt8)

/-- A memory in which nothing but the blocks themselves can be read. -/
def ListenerMemory.strict : ListenerMemory :=
  { slack := [], beyondOpcodes := fun _ => none }

/-- `tftp_common.opcode_strings[opcode]`. -/
def opcodeString (mem : ListenerMemory) (opcode : UInt16) : Option (List UInt8) :=
  match opcodeStrings[opcode.toNat]? with
  | some text => some text
  | none => mem.beyondOpcodes opcode

/-- The server's operation for a request. -/
def requestOperation (opcode : UInt16) : Option OperationId :=
  if opcode = TFTPOpcode.rrq.code then some .send
  else if opcode = TFTPOpcode.wrq.code then some .receive
  else if opcode = TFTPOpcode.drq.code then some .handleDelete
  else none

/-! ## The state of the listener -/

/-- Where the model of a block ends. -/
inductive Fault
  /-- A read behind `request_buffer`. -/
  | requestBuffer
  /-- A read behind `opcode_strings`. -/
  | opcodeStrings
  /-- A write behind the block of the path. -/
  | path
  deriving DecidableEq, Repr

inductive ListenerPoint
  /-- The test of the loop. -/
  | looping
  /-- `recvfrom` on the requests socket. -/
  | awaiting
  /-- The look at `should_terminate` behind it. -/
  | received
  /-- `sendto` of an ERROR packet from the requests socket. -/
  | refusing (reply : ErrorReply)
  /-- `server_acquire_connection_slot`. -/
  | acquiring
  /-- `tftp_init_operation_data`. -/
  | initializing (slot : Nat) (args : InitArguments)
  /-- `sendto` of an ERROR packet from the data socket. -/
  | rejecting (slot : Nat) (fd : Int) (peer : SockAddr) (reply : ErrorReply)
  /-- `close` in `tftp_free_operation_data`. -/
  | closing (slot : Nat) (fd : Int)
  /-- `server_release_connection_slot`. -/
  | releasing (slot : Nat)
  /-- `pthread_create`. -/
  | spawning (slot : Nat) (op : OperationData)
  | ended
  /-- `exit (EXIT_FAILURE)`. -/
  | exited
  | fault (cause : Fault)
  deriving DecidableEq, Repr

/-- `ServerListenerData_t` and the control point of the listener thread. -/
structure ListenerState where
  point : ListenerPoint
  clientAddress : SockAddr
  bytesReceived : Int
  requestBuffer : Buffer requestBufferSize
  deriving DecidableEq, Repr

namespace ListenerState

/-- `server_init_listener_data` succeeded and the loop is entered. -/
def start : ListenerState :=
  { point := .looping
    clientAddress := { address := 0, port := 0 }
    bytesReceived := 0
    requestBuffer := Buffer.zero requestBufferSize }

/-- `request_buffer->request.contents`. -/
def contents (mem : ListenerMemory) (s : ListenerState) : CharPtr :=
  (s.requestBuffer.bytes ++ mem.slack).drop 2

/-- `ntohs (request_buffer->opcode)`. -/
def incomingOpcode (host : Host) (s : ListenerState) : UInt16 :=
  ntohs host.order (loadOpcode host s.requestBuffer)

/-- The end of the loop's body. -/
def clear (s : ListenerState) : ListenerState :=
  { s with point := .looping, requestBuffer := Buffer.zero requestBufferSize }

/-- `tftp_send_error (.., listener->requests_socket, &listener->client_address, ..)`. -/
def refuse (s : ListenerState) (reply : ErrorReply) : ListenerState :=
  if forwardsErrors s.clientAddress then { s with point := .refusing reply } else s.clear

end ListenerState

/-! ## `server_parse_request_data` -/

/-- The search for the block size option behind the mode: `idx` is the offset of the
mode string in the contents. -/
def blocksizeField (contents : CharPtr) (idx : Nat) (bytesReceived : Int) :
    Option (Option CharPtr) :=
  if (idx + 4 : Int) < bytesReceived then do
    let idx := idx + (← strlen (contents.drop idx)) + 1
    let isBlksize ← strcasecmpEq (contents.drop idx) tftpBlksizeString
    if isBlksize && ((idx + 4 : Int) < bytesReceived) then
      let idx := idx + (← strlen (contents.drop idx)) + 1
      some (some (contents.drop idx))
    else
      some none
  else
    some none

/-- The buffer the path is put together in. -/
def initialFilePath : List UInt8 :=
  serverStoragePath ++ List.replicate (tftpFilenameMax * 2 - serverStoragePath.length) 0

/-- `server_parse_request_data` up to its call of `tftp_init_operation_data`: the
arguments of the call, or `NULL`. -/
def serverParseRequestData (host : Host) (mem : ListenerMemory) (s : ListenerState) :
    Option (Option InitArguments) := do
  let contents := s.contents mem
  let filePath ← strncat initialFilePath contents tftpFilenameMax
  match requestOperation (s.incomingOpcode host) with
  | none => some none
  | some .handleDelete =>
      some (some
        { operation := .handleDelete
          peer := s.clientAddress
          filename := filePath
          mode := none
          blocksize := none })
  | some operation => do
      let idx := (← strlen contents) + 1
      let blocksize ← blocksizeField contents idx s.bytesReceived
      some (some
        { operation := operation
          peer := s.clientAddress
          filename := filePath
          mode := some (contents.drop idx)
          blocksize := blocksize })

/-! ## The loop -/

namespace ListenerState

/-- What follows `recvfrom`. -/
def onReceived (s : ListenerState) : RecvResult → ListenerState
  | .datagram source bytes =>
      { s with
        point := .received
        clientAddress := source
        bytesReceived := min bytes.length requestBufferSize
        requestBuffer := s.requestBuffer.receive bytes }
  | .failed _ => { s with point := .received, bytesReceived := -1 }

/-- The reply to an opcode that is no request. -/
def illegalOpcodeReply (text : List UInt8) : ErrorReply :=
  { code := TFTPErrorCode.illegalOperation.code
    message := ascii "received packet in requests socket with opcode "
    item := some text }

/-- The reply when no slot is free. -/
def noSlotReply : ErrorReply :=
  { code := TFTPErrorCode.outOfSpace.code
    message := ascii "Server exceeded maximal connection count. Try again later!"
    item := none }

/-- What follows the second look at `should_terminate`: the dump of the contents, which
starts behind the opcode and is as long as the datagram, and the `switch`. -/
def dispatch (host : Host) (mem : ListenerMemory) (s : ListenerState) : ListenerState :=
  if s.bytesReceived ≤ 0 then
    { s with point := .looping }
  else
    match readBytes (s.contents mem) s.bytesReceived.toNat with
    | none => { s with point := .fault .requestBuffer }
    | some _ =>
        match requestOperation (s.incomingOpcode host) with
        | some _ => { s with point := .acquiring }
        | none =>
            match opcodeString mem (s.incomingOpcode host) with
            | none => { s with point := .fault .opcodeStrings }
            | some text => s.refuse (illegalOpcodeReply text)

/-- What follows the search for a slot. -/
def onAcquired (host : Host) (mem : ListenerMemory) (s : ListenerState) :
    Option Nat → ListenerState
  | none => s.refuse noSlotReply
  | some slot =>
      match serverParseRequestData host mem s with
      | none => { s with point := .fault .requestBuffer }
      | some none => { s with point := .releasing slot }
      | some (some args) => { s with point := .initializing slot args }

/-- The start of `tftp_free_operation_data`. -/
def freeOperationData (s : ListenerState) (slot : Nat) (fd : Int) : ListenerState :=
  if fd > 0 then { s with point := .closing slot fd } else { s with point := .releasing slot }

/-- What `tftp_init_operation_data` leads to.  It reads the strings of the request, and
writes to the block of the path. -/
def onInitialized (s : ListenerState) (slot : Nat) (args : InitArguments)
    (socket : DataSocket) : ListenerState :=
  match tftpInitOperationData socket args with
  | none =>
      if (cstr args.filename).any (fun path => path.length + 1 < 65536) then
        { s with point := .fault .requestBuffer }
      else
        { s with point := .fault .path }
  | some .exits => { s with point := .exited }
  | some (.rejected fd reply) =>
      if forwardsErrors args.peer then
        { s with point := .rejecting slot fd args.peer reply }
      else
        s.freeOperationData slot fd
  | some (.created op) => { s with point := .spawning slot op }

end ListenerState

/-- One system call of `server_listener_loop`. -/
def serverListenerLoop (host : Host) (mem : ListenerMemory) (s : ListenerState) (e : Event) :
    Option ListenerState :=
  match s.point, e with
  | .looping, .poll set => some { s with point := if set then .ended else .awaiting }
  | .awaiting, .recvfrom size result =>
      if size = requestBufferSize then some (s.onReceived result) else none
  | .received, .poll set => some (if set then { s with point := .ended } else s.dispatch host mem)
  | .refusing reply, .sendto peer packet _ =>
      if peer = s.clientAddress ∧ packet = errorPacket reply then some s.clear else none
  | .acquiring, .acquire slot => some (s.onAcquired host mem slot)
  | .initializing slot args, .dataSocket result => some (s.onInitialized slot args result)
  | .rejecting slot fd client reply, .sendto peer packet _ =>
      if peer = client ∧ packet = errorPacket reply then some (s.freeOperationData slot fd)
      else none
  | .closing slot fd, .close closed =>
      if closed = fd then some { s with point := .releasing slot } else none
  | .releasing _, .release => some s.clear
  | .spawning _ _, .create _ => some s.clear
  | _, _ => none

/-! ### What a call does -/

/-- The control points of the listener with the calls made at them, and where each call leads. -/
inductive LoopCalled (host : Host) (mem : ListenerMemory) (s : ListenerState) :
    Event → ListenerState → Prop
  | looping (set : Bool) (hpoint : s.point = .looping) :
      LoopCalled host mem s (.poll set) { s with point := if set then .ended else .awaiting }
  | awaiting (result : RecvResult) (hpoint : s.point = .awaiting) :
      LoopCalled host mem s (.recvfrom requestBufferSize result) (s.onReceived result)
  | received (set : Bool) (hpoint : s.point = .received) :
      LoopCalled host mem s (.poll set)
        (if set then { s with point := .ended } else s.dispatch host mem)
  | refusing (reply : ErrorReply) (ok : Bool) (hpoint : s.point = .refusing reply) :
      LoopCalled host mem s (.sendto s.clientAddress (errorPacket reply) ok) s.clear
  | acquiring (slot : Option Nat) (hpoint : s.point = .acquiring) :
      LoopCalled host mem s (.acquire slot) (s.onAcquired host mem slot)
  | initializing (slot : Nat) (args : InitArguments) (socket : DataSocket)
      (hpoint : s.point = .initializing slot args) :
      LoopCalled host mem s (.dataSocket socket) (s.onInitialized slot args socket)
  | rejecting (slot : Nat) (fd : Int) (client : SockAddr) (reply : ErrorReply) (ok : Bool)
      (hpoint : s.point = .rejecting slot fd client reply) :
      LoopCalled host mem s (.sendto client (errorPacket reply) ok)
        (s.freeOperationData slot fd)
  | closing (slot : Nat) (fd : Int) (hpoint : s.point = .closing slot fd) :
      LoopCalled host mem s (.close fd) { s with point := .releasing slot }
  | releasing (slot : Nat) (hpoint : s.point = .releasing slot) :
      LoopCalled host mem s .release s.clear
  | spawning (slot : Nat) (op : OperationData) (ok : Bool)
      (hpoint : s.point = .spawning slot op) : LoopCalled host mem s (.create ok) s.clear

theorem loop_called {host : Host} {mem : ListenerMemory} {s s' : ListenerState} {e : Event}
    (hstep : serverListenerLoop host mem s e = some s') : LoopCalled host mem s e s' := by
  unfold serverListenerLoop at hstep
  split at hstep
  case h_1 set hpoint =>
    obtain rfl := Option.some.inj hstep
    exact .looping set hpoint
  case h_2 size result hpoint =>
    obtain ⟨rfl, hnext⟩ := Option.ite_none_right_eq_some.mp hstep
    obtain rfl := Option.some.inj hnext
    exact .awaiting result hpoint
  case h_3 set hpoint =>
    obtain rfl := Option.some.inj hstep
    exact .received set hpoint
  case h_4 reply peer packet ok hpoint =>
    obtain ⟨⟨rfl, rfl⟩, hnext⟩ := Option.ite_none_right_eq_some.mp hstep
    obtain rfl := Option.some.inj hnext
    exact .refusing reply ok hpoint
  case h_5 slot hpoint =>
    obtain rfl := Option.some.inj hstep
    exact .acquiring slot hpoint
  case h_6 slot args socket hpoint =>
    obtain rfl := Option.some.inj hstep
    exact .initializing slot args socket hpoint
  case h_7 slot fd client reply peer packet ok hpoint =>
    obtain ⟨⟨rfl, rfl⟩, hnext⟩ := Option.ite_none_right_eq_some.mp hstep
    obtain rfl := Option.some.inj hnext
    exact .rejecting slot fd _ reply ok hpoint
  case h_8 slot fd closed hpoint =>
    obtain ⟨rfl, hnext⟩ := Option.ite_none_right_eq_some.mp hstep
    obtain rfl := Option.some.inj hnext
    exact .closing slot _ hpoint
  case h_9 slot hpoint =>
    obtain rfl := Option.some.inj hstep
    exact .releasing slot hpoint
  case h_10 slot op ok hpoint =>
    obtain rfl := Option.some.inj hstep
    exact .spawning slot op ok hpoint
  case h_11 => cases hstep

/-! ### The buffer is cleared behind every request -/

namespace ListenerState

variable {host : Host} {mem : ListenerMemory} {s s' : ListenerState} {e : Event}

/-- Wherever the next `recvfrom` is still to come, the buffer is zero. -/
def Cleared (s : ListenerState) : Prop :=
  match s.point with
  | .looping | .awaiting => s.requestBuffer = Buffer.zero requestBufferSize
  | .received => s.bytesReceived ≤ 0 → s.requestBuffer = Buffer.zero requestBufferSize
  | _ => True

theorem cleared_clear : s.clear.Cleared := rfl

theorem cleared_refuse (reply : ErrorReply) : (s.refuse reply).Cleared := by
  unfold refuse
  split
  · trivial
  · exact cleared_clear

theorem cleared_onReceived (h : s.requestBuffer = Buffer.zero requestBufferSize)
    (result : RecvResult) : (s.onReceived result).Cleared := by
  cases result with
  | failed errno => exact fun _ => h
  | datagram source bytes =>
      intro hnone
      have hempty : bytes = [] := by
        simp only [onReceived, requestBufferSize, sizeofPacket, tftpFilenameMax] at hnone
        exact List.length_eq_zero_iff.mp (by omega)
      apply Buffer.ext
      simp [onReceived, h, hempty, Buffer.receive_bytes]

theorem cleared_dispatch (hpoint : s.point = .received) (h : s.Cleared) :
    (s.dispatch host mem).Cleared := by
  unfold dispatch
  split
  · rename_i hnone
    simp only [Cleared, hpoint] at h
    exact h hnone
  · split
    · trivial
    · split
      · trivial
      · split
        · trivial
        · exact cleared_refuse _

theorem cleared_onAcquired (slot : Option Nat) : (s.onAcquired host mem slot).Cleared := by
  unfold onAcquired
  split
  · exact cleared_refuse _
  · split <;> trivial

theorem cleared_freeOperationData (slot : Nat) (fd : Int) :
    (s.freeOperationData slot fd).Cleared := by
  unfold freeOperationData
  split <;> trivial

theorem cleared_onInitialized (slot : Nat) (args : InitArguments) (socket : DataSocket) :
    (s.onInitialized slot args socket).Cleared := by
  unfold onInitialized
  split
  · split <;> trivial
  · trivial
  · split
    · trivial
    · exact cleared_freeOperationData _ _
  · trivial

/-- Every step keeps the buffer clear for the next request. -/
theorem cleared_step (h : s.Cleared) (hstep : serverListenerLoop host mem s e = some s') :
    s'.Cleared := by
  cases loop_called hstep with
  | looping set hpoint =>
      rw [Cleared, hpoint] at h
      cases set with
      | true => trivial
      | false => exact h
  | awaiting result hpoint =>
      rw [Cleared, hpoint] at h
      exact cleared_onReceived h result
  | received set hpoint =>
      cases set with
      | true => trivial
      | false => exact cleared_dispatch hpoint h
  | refusing reply ok hpoint => exact cleared_clear
  | acquiring slot hpoint => exact cleared_onAcquired slot
  | initializing slot args socket hpoint => exact cleared_onInitialized slot args socket
  | rejecting slot fd client reply ok hpoint => exact cleared_freeOperationData slot fd
  | closing slot fd hpoint => trivial
  | releasing slot hpoint => exact cleared_clear
  | spawning slot op ok hpoint => exact cleared_clear

/-- A receive and the look at `should_terminate` behind it. -/
theorem run_dispatch (host : Host) (mem : ListenerMemory) (hpoint : s.point = .awaiting)
    (result : RecvResult) :
    Run (serverListenerLoop host mem) s [.recvfrom requestBufferSize result, .poll false]
      ((s.onReceived result).dispatch host mem) := by
  have hreceived : (s.onReceived result).point = .received := by
    cases result <;> rfl
  refine Run.cons (t := s.onReceived result) ?_ (Run.single ?_)
  · simp [serverListenerLoop, hpoint]
  · simp [serverListenerLoop, hreceived]

/-- Whatever was received before, the buffer is zero at every `recvfrom`. -/
theorem buffer_zero_of_run {tr : List Event}
    (h : Run (serverListenerLoop host mem) start tr s) (hpoint : s.point = .awaiting) :
    s.requestBuffer = Buffer.zero requestBufferSize := by
  have hcleared : s.Cleared := h.invariant (fun _ _ _ hI hs => cleared_step hI hs) rfl
  simp only [Cleared, hpoint] at hcleared
  exact hcleared

end ListenerState

end Stftpu
