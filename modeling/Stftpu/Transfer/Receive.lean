import Stftpu.Transfer.Transmit

/-!
# `tftp_receive_file`

The receiving side of a transfer, over the same `TransferData`.  Datagrams land in
the data packet buffer, which is never cleared, and the payload of an accepted one
is written from there; a length that reaches past the buffer is a memory error and
leads to the control point `fault`.
-/

namespace Stftpu

open Library

inductive ReceivePoint
  /-- The first look at `should_terminate`. -/
  | entry
  /-- The look at `should_terminate` that opens the outer loop. -/
  | nextBlock
  /-- `recvfrom` of the next DATA packet. -/
  | awaiting
  /-- `fwrite` of the payload. -/
  | writing (payload : List UInt8)
  /-- `sendto` of the ACK. -/
  | acknowledging
  /-- `sendto` of an ERROR packet, the function about to return `false`. -/
  | failing (reply : ErrorReply)
  | returned (exit : Exit)
  /-- `fwrite` was asked for bytes behind the buffer. -/
  | fault
  deriving DecidableEq, Repr

/-- `tftp_receive_file` between two system calls. -/
structure ReceiveState (b : BlockSize) where
  point : ReceivePoint
  op : OperationData
  tx : TransferData b
  prevBlockNumber : UInt16
  deriving DecidableEq, Repr

namespace ReceiveState

variable {b : BlockSize}

/-- The call of `tftp_receive_file`. -/
def start (op : OperationData) (tx : TransferData b) : ReceiveState b :=
  { point := .entry, op := op, tx := tx, prevBlockNumber := 0 }

/-- `tftp_send_error (..)` followed by `return false`. -/
def fail (s : ReceiveState b) (reply : ErrorReply) : ReceiveState b :=
  if forwardsErrors s.op.peerAddress then
    { s with point := .failing reply }
  else
    { s with point := .returned .failure }

/-- What precedes the outer loop. -/
def begin (s : ReceiveState b) : ReceiveState b :=
  { s with point := .nextBlock, tx := { s.tx with currentBlockNumber := 1 } }

/-- The length handed to `fwrite`: the subtraction is made in `size_t`. -/
def payloadSize (s : ReceiveState b) : Nat :=
  ((s.tx.bytesReceived - sizeofPacket) % (2 ^ 64 : Int)).toNat

/-- The packet is the awaited block: its payload is written next. -/
def accept (s : ReceiveState b) : ReceiveState b :=
  let data := s.tx.dataPacket.bytes.drop sizeofPacket
  if s.payloadSize ≤ data.length then
    { s with point := .writing (data.take s.payloadSize) }
  else
    { s with point := .fault }

/-- Nothing was received. -/
def missed (s : ReceiveState b) : ReceiveState b :=
  if s.tx.resendCounter < maxRetryCount then
    { s with
      point := .awaiting
      tx := { s.tx with resendCounter := s.tx.resendCounter + 1 } }
  else
    s.fail
      { code := TFTPErrorCode.undefined.code
        message := ascii "Timed out waiting for data packet"
        item := none }

/-- `ntohs (packet->opcode) == TFTP_ERROR`. -/
def looksLikeError (host : Host) (s : ReceiveState b) : Bool :=
  ntohs host.order (loadOpcode host s.tx.dataPacket) = TFTPOpcode.error.code

/-- `ntohs (packet->opcode) == TFTP_DATA` and the number of the awaited block. -/
def looksAwaited (host : Host) (s : ReceiveState b) : Bool :=
  ntohs host.order (loadOpcode host s.tx.dataPacket) = TFTPOpcode.data.code &&
    ntohs host.order (loadBlockNumber host s.tx.dataPacket) = s.tx.currentBlockNumber

/-- `recvfrom` of a datagram: the source replaces the peer, the bytes replace the
front of the data packet buffer. -/
def received (s : ReceiveState b) (source : SockAddr) (bytes : List UInt8) :
    ReceiveState b :=
  { s with
    op := { s.op with peerAddress := source }
    tx := { s.tx with
      bytesReceived := min bytes.length (dataPacketMaxSize b)
      dataPacket := s.tx.dataPacket.receive bytes } }

/-- What follows `recvfrom`. -/
def onPacket (host : Host) (s : ReceiveState b) : RecvResult → ReceiveState b
  | .failed _ => { s with tx := { s.tx with bytesReceived := -1 } }.missed
  | .datagram source bytes =>
      let s := s.received source bytes
      if s.tx.bytesReceived > 0 then
        if s.looksLikeError host then
          { s with point := .returned .peerError }
        else if s.looksAwaited host then
          s.accept
        else
          s
      else
        s.missed

/-- What follows `fwrite`. -/
def onWritten (s : ReceiveState b) (count : Nat) : ReceiveState b :=
  if count = 0 then
    s.fail
      { code := TFTPErrorCode.undefined.code
        message := ascii "Writing to file failed"
        item := none }
  else
    { s with point := .acknowledging }

/-- The test of the outer loop, and the return behind it. -/
def outerTest (s : ReceiveState b) : ReceiveState b :=
  if s.tx.bytesReceived = dataPacketMaxSize b then
    { s with point := .nextBlock }
  else
    { s with point := .returned .success }

/-- What follows `tftp_send_ack`, whose result is not looked at. -/
def onAcknowledged (s : ReceiveState b) : ReceiveState b :=
  { s with
    prevBlockNumber := s.prevBlockNumber + 1
    tx := { s.tx with
      resendCounter := 0
      currentBlockNumber := s.tx.currentBlockNumber + 1 } }.outerTest

end ReceiveState

/-- One system call of `tftp_receive_file`. -/
def tftpReceiveFile {b : BlockSize} (host : Host) (s : ReceiveState b) (e : Event) :
    Option (ReceiveState b) :=
  match s.point, e with
  | .entry, .poll set => some (if set then s.fail (terminationReply host) else s.begin)
  | .nextBlock, .poll set =>
      some (if set then s.fail (terminationReply host) else { s with point := .awaiting })
  | .awaiting, .recvfrom size result =>
      if size = dataPacketMaxSize b then some (s.onPacket host result) else none
  | .writing payload, .fwrite bytes count _ =>
      if bytes = payload ∧ count ≤ payload.length then some (s.onWritten count) else none
  | .acknowledging, .sendto peer packet _ =>
      if peer = s.op.peerAddress ∧ packet = ackPacket s.tx.currentBlockNumber then
        some s.onAcknowledged
      else
        none
  | .failing reply, .sendto peer packet _ =>
      if peer = s.op.peerAddress ∧ packet = errorPacket reply then
        some { s with point := .returned .failure }
      else
        none
  | _, _ => none

/-! ### What a step does at each control point -/

section Steps

variable {b : BlockSize} {host : Host} {s s' : ReceiveState b} {e : Event}

theorem receive_entry (hpoint : s.point = .entry) (h : tftpReceiveFile host s e = some s') :
    ∃ set, e = .poll set ∧ s' = if set then s.fail (terminationReply host) else s.begin := by
  unfold tftpReceiveFile at h
  rw [hpoint] at h
  cases e with
  | poll set => exact ⟨set, rfl, (Option.some.inj h).symm⟩
  | _ => cases h

theorem receive_nextBlock (hpoint : s.point = .nextBlock)
    (h : tftpReceiveFile host s e = some s') :
    ∃ set, e = .poll set ∧
      s' = if set then s.fail (terminationReply host) else { s with point := .awaiting } := by
  unfold tftpReceiveFile at h
  rw [hpoint] at h
  cases e with
  | poll set => exact ⟨set, rfl, (Option.some.inj h).symm⟩
  | _ => cases h

theorem receive_awaiting (hpoint : s.point = .awaiting)
    (h : tftpReceiveFile host s e = some s') :
    ∃ result, e = .recvfrom (dataPacketMaxSize b) result ∧ s' = s.onPacket host result := by
  unfold tftpReceiveFile at h
  rw [hpoint] at h
  cases e with
  | recvfrom size result =>
      obtain ⟨hsize, hnext⟩ := Option.ite_none_right_eq_some.mp h
      exact ⟨result, by rw [hsize], (Option.some.inj hnext).symm⟩
  | _ => cases h

/-- It receives nowhere else. -/
theorem receive_recvfrom {size : Nat} {result : RecvResult}
    (h : tftpReceiveFile host s (.recvfrom size result) = some s') :
    s.point = .awaiting ∧ s' = s.onPacket host result := by
  cases hpoint : s.point with
  | awaiting =>
      obtain ⟨result', he, heq⟩ := receive_awaiting hpoint h
      obtain ⟨-, rfl⟩ := Event.recvfrom.inj he
      exact ⟨rfl, heq⟩
  | _ => simp [tftpReceiveFile, hpoint] at h

theorem receive_writing {payload : List UInt8} (hpoint : s.point = .writing payload)
    (h : tftpReceiveFile host s e = some s') :
    ∃ count kept, e = .fwrite payload count kept ∧ count ≤ payload.length ∧
      s' = s.onWritten count := by
  unfold tftpReceiveFile at h
  rw [hpoint] at h
  cases e with
  | fwrite bytes count kept =>
      obtain ⟨⟨rfl, hcount⟩, hnext⟩ := Option.ite_none_right_eq_some.mp h
      exact ⟨count, kept, rfl, hcount, (Option.some.inj hnext).symm⟩
  | _ => cases h

theorem receive_acknowledging (hpoint : s.point = .acknowledging)
    (h : tftpReceiveFile host s e = some s') :
    ∃ ok, e = .sendto s.op.peerAddress (ackPacket s.tx.currentBlockNumber) ok ∧
      s' = s.onAcknowledged := by
  unfold tftpReceiveFile at h
  rw [hpoint] at h
  cases e with
  | sendto peer packet ok =>
      obtain ⟨⟨rfl, rfl⟩, hnext⟩ := Option.ite_none_right_eq_some.mp h
      exact ⟨ok, rfl, (Option.some.inj hnext).symm⟩
  | _ => cases h

theorem receive_failing {reply : ErrorReply} (hpoint : s.point = .failing reply)
    (h : tftpReceiveFile host s e = some s') :
    ∃ ok, e = .sendto s.op.peerAddress (errorPacket reply) ok ∧
      s' = { s with point := .returned .failure } := by
  unfold tftpReceiveFile at h
  rw [hpoint] at h
  cases e with
  | sendto peer packet ok =>
      obtain ⟨⟨rfl, rfl⟩, hnext⟩ := Option.ite_none_right_eq_some.mp h
      exact ⟨ok, rfl, (Option.some.inj hnext).symm⟩
  | _ => cases h

theorem receive_returned {exit : Exit} (hpoint : s.point = .returned exit) :
    tftpReceiveFile host s e = none := by
  unfold tftpReceiveFile
  rw [hpoint]

theorem receive_fault (hpoint : s.point = .fault) : tftpReceiveFile host s e = none := by
  unfold tftpReceiveFile
  rw [hpoint]

theorem receive_fopen {path : List UInt8} {mode : OpenMode} {error : Option Errno} :
    tftpReceiveFile host s (.fopen path mode error) = none := by
  cases hpoint : s.point <;> simp [tftpReceiveFile, hpoint]

theorem receive_remove {path : List UInt8} {error : Option Errno} :
    tftpReceiveFile host s (.remove path error) = none := by
  cases hpoint : s.point <;> simp [tftpReceiveFile, hpoint]

/-- What it sends, and where. -/
theorem receive_sendto {peer : SockAddr} {packet : List UInt8} {ok : Bool}
    (h : tftpReceiveFile host s (.sendto peer packet ok) = some s') :
    peer = s.op.peerAddress ∧
      (s.point = .acknowledging ∧ packet = ackPacket s.tx.currentBlockNumber ∨
        ∃ reply, s.point = .failing reply ∧ packet = errorPacket reply) := by
  cases hpoint : s.point with
  | acknowledging =>
      obtain ⟨ok', he, -⟩ := receive_acknowledging hpoint h
      obtain ⟨rfl, rfl, -⟩ := Event.sendto.inj he
      exact ⟨rfl, Or.inl ⟨rfl, rfl⟩⟩
  | failing reply =>
      obtain ⟨ok', he, -⟩ := receive_failing hpoint h
      obtain ⟨rfl, rfl, -⟩ := Event.sendto.inj he
      exact ⟨rfl, Or.inr ⟨reply, rfl, rfl⟩⟩
  | _ => simp [tftpReceiveFile, hpoint] at h

/-- The function sends nothing but ACK and ERROR packets. -/
theorem receive_sent {peer : SockAddr} {packet : List UInt8} {ok : Bool}
    (h : tftpReceiveFile host s (.sendto peer packet ok) = some s') :
    opcodeOf packet = TFTPOpcode.ack.code ∨ opcodeOf packet = TFTPOpcode.error.code := by
  obtain ⟨-, ⟨-, rfl⟩ | ⟨reply, -, rfl⟩⟩ := receive_sendto h
  · exact Or.inl (opcodeOf_ackPacket _)
  · exact Or.inr (opcodeOf_errorPacket reply)

end Steps

/-! ### Where the computation between two calls can lead -/

namespace ReceiveState

variable {b : BlockSize} (host : Host) (s : ReceiveState b)

theorem fail_point (reply : ErrorReply) :
    (s.fail reply).point = .failing reply ∨ (s.fail reply).point = .returned .failure := by
  unfold fail
  split
  · exact Or.inl rfl
  · exact Or.inr rfl

@[simp] theorem fail_op (reply : ErrorReply) : (s.fail reply).op = s.op := by
  unfold fail
  split <;> rfl

@[simp] theorem fail_tx (reply : ErrorReply) : (s.fail reply).tx = s.tx := by
  unfold fail
  split <;> rfl

@[simp] theorem fail_prev (reply : ErrorReply) :
    (s.fail reply).prevBlockNumber = s.prevBlockNumber := by
  unfold fail
  split <;> rfl

theorem outerTest_point :
    s.outerTest.point = .nextBlock ∨ s.outerTest.point = .returned .success := by
  unfold outerTest
  split
  · exact Or.inl rfl
  · exact Or.inr rfl

@[simp] theorem outerTest_op : s.outerTest.op = s.op := by
  unfold outerTest
  split <;> rfl

@[simp] theorem outerTest_tx : s.outerTest.tx = s.tx := by
  unfold outerTest
  split <;> rfl

@[simp] theorem outerTest_prev : s.outerTest.prevBlockNumber = s.prevBlockNumber := by
  unfold outerTest
  split <;> rfl

@[simp] theorem onAcknowledged_op : s.onAcknowledged.op = s.op := by
  simp [onAcknowledged]

@[simp] theorem missed_op : s.missed.op = s.op := by
  unfold missed
  split <;> simp

@[simp] theorem accept_op : s.accept.op = s.op := by
  simp only [accept]
  split <;> rfl

@[simp] theorem onWritten_op (count : Nat) : (s.onWritten count).op = s.op := by
  unfold onWritten
  split <;> simp

theorem onPacket_path (result : RecvResult) :
    (s.onPacket host result).op.path = s.op.path := by
  cases result with
  | failed errno => simp [onPacket]
  | datagram source bytes =>
      have hpath : (s.received source bytes).op.path = s.op.path := rfl
      simp only [onPacket]
      split
      · split
        · exact hpath
        · split
          · rw [accept_op, hpath]
          · exact hpath
      · rw [missed_op, hpath]

@[simp] theorem received_point (source : SockAddr) (bytes : List UInt8) :
    (s.received source bytes).point = s.point := rfl

@[simp] theorem received_currentBlockNumber (source : SockAddr) (bytes : List UInt8) :
    (s.received source bytes).tx.currentBlockNumber = s.tx.currentBlockNumber := rfl

/-- With a whole header, the tests see the datagram's own fields. -/
theorem looksLikeError_received (source : SockAddr) {bytes : List UInt8}
    (hlen : sizeofPacket ≤ bytes.length) :
    (s.received source bytes).looksLikeError host =
      decide (opcodeOf bytes = TFTPOpcode.error.code) := by
  simp only [sizeofPacket] at hlen
  have hopcode := ntohs_loadOpcode_receive host s.tx.dataPacket bytes (by omega)
    (by simp [dataPacketMaxSize, sizeofPacket]; omega)
  simp [looksLikeError, received, hopcode]

theorem looksAwaited_received (source : SockAddr) {bytes : List UInt8}
    (hlen : sizeofPacket ≤ bytes.length) :
    (s.received source bytes).looksAwaited host =
      decide (opcodeOf bytes = TFTPOpcode.data.code ∧
        blockNumberOf bytes = s.tx.currentBlockNumber) := by
  simp only [sizeofPacket] at hlen
  have hopcode := ntohs_loadOpcode_receive host s.tx.dataPacket bytes (by omega)
    (by simp [dataPacketMaxSize, sizeofPacket]; omega)
  have hblock := ntohs_loadBlockNumber_receive host s.tx.dataPacket bytes hlen
    (by simp [dataPacketMaxSize, sizeofPacket])
  simp [looksAwaited, received, hopcode, hblock]

/-- The length handed to `fwrite`, as long as a header was received. -/
theorem payloadSize_received (source : SockAddr) {bytes : List UInt8}
    (hlen : sizeofPacket ≤ bytes.length) :
    (s.received source bytes).payloadSize =
      min bytes.length (dataPacketMaxSize b) - sizeofPacket := by
  have hb := b.le_max
  simp only [payloadSize, received, sizeofPacket, dataPacketMaxSize, tftpBlksizeMax] at *
  omega

/-- A datagram with a whole header is accepted with its own payload, as far as the buffer
held it. -/
theorem accept_received (source : SockAddr) {bytes : List UInt8}
    (hlen : sizeofPacket ≤ bytes.length) :
    (s.received source bytes).accept =
      { s.received source bytes with
        point := .writing ((bytes.drop sizeofPacket).take b.val) } := by
  have hsize := s.payloadSize_received source hlen
  have hbytes : (s.received source bytes).tx.dataPacket.bytes =
      bytes.take (dataPacketMaxSize b) ++ s.tx.dataPacket.bytes.drop bytes.length := by
    simp only [received]
    rw [Buffer.receive_bytes]
  have hheader : sizeofPacket ≤ (bytes.take (dataPacketMaxSize b)).length := by
    rw [List.length_take, dataPacketMaxSize]
    omega
  have hcut : (bytes.take (dataPacketMaxSize b)).drop sizeofPacket =
      (bytes.drop sizeofPacket).take b.val := by
    rw [List.drop_take, dataPacketMaxSize, Nat.add_sub_cancel_left]
  have hdrop : (s.received source bytes).tx.dataPacket.bytes.drop sizeofPacket =
      (bytes.drop sizeofPacket).take b.val ++ s.tx.dataPacket.bytes.drop bytes.length := by
    rw [hbytes, List.drop_append_of_le_length hheader, hcut]
  have hlength : ((bytes.drop sizeofPacket).take b.val).length =
      min bytes.length (dataPacketMaxSize b) - sizeofPacket := by
    rw [List.length_take, List.length_drop, dataPacketMaxSize]
    omega
  unfold accept
  simp only [hsize, hdrop, ← hlength, List.take_left]
  rw [if_pos]
  simp

/-- The buffer holds the whole payload of a datagram it has room for. -/
theorem take_payload {bytes : List UInt8} (hfit : bytes.length ≤ dataPacketMaxSize b) :
    (bytes.drop sizeofPacket).take b.val = bytes.drop sizeofPacket := by
  rw [dataPacketMaxSize] at hfit
  rw [List.take_of_length_le]
  rw [List.length_drop]
  omega

theorem onPacket_error (source : SockAddr) {bytes : List UInt8}
    (hlen : sizeofPacket ≤ bytes.length) (hop : opcodeOf bytes = TFTPOpcode.error.code) :
    s.onPacket host (.datagram source bytes) =
      { s.received source bytes with point := .returned .peerError } := by
  have hpos : (s.received source bytes).tx.bytesReceived > 0 := by
    simp only [received, sizeofPacket, dataPacketMaxSize] at *
    omega
  simp only [onPacket, hpos, if_true, s.looksLikeError_received host source hlen, hop,
    decide_true]

/-- What a datagram with a whole header leads to: a return on an ERROR packet, the
write of the awaited block's payload, or nothing. -/
theorem onPacket_header (source : SockAddr) {bytes : List UInt8}
    (hlen : sizeofPacket ≤ bytes.length) :
    s.onPacket host (.datagram source bytes) =
      if opcodeOf bytes = TFTPOpcode.error.code then
        { s.received source bytes with point := .returned .peerError }
      else if opcodeOf bytes = TFTPOpcode.data.code ∧
          blockNumberOf bytes = s.tx.currentBlockNumber then
        { s.received source bytes with point := .writing ((bytes.drop sizeofPacket).take b.val) }
      else
        s.received source bytes := by
  have hpos : (s.received source bytes).tx.bytesReceived > 0 := by
    simp only [received, sizeofPacket, dataPacketMaxSize] at *
    omega
  simp only [onPacket, hpos, if_true, s.looksLikeError_received host source hlen,
    s.looksAwaited_received host source hlen, decide_eq_true_eq, s.accept_received source hlen]

/-- A datagram that fits the buffer is written with its whole payload. -/
theorem onPacket_datagram (source : SockAddr) {bytes : List UInt8}
    (hlen : sizeofPacket ≤ bytes.length) (hfit : bytes.length ≤ dataPacketMaxSize b) :
    s.onPacket host (.datagram source bytes) =
      if opcodeOf bytes = TFTPOpcode.error.code then
        { s.received source bytes with point := .returned .peerError }
      else if opcodeOf bytes = TFTPOpcode.data.code ∧
          blockNumberOf bytes = s.tx.currentBlockNumber then
        { s.received source bytes with point := .writing (bytes.drop sizeofPacket) }
      else
        s.received source bytes := by
  rw [s.onPacket_header host source hlen, take_payload hfit]

/-- The function keeps the path it was given. -/
theorem step_path {s s' : ReceiveState b} {e : Event}
    (h : tftpReceiveFile host s e = some s') : s'.op.path = s.op.path := by
  cases hpoint : s.point with
  | entry =>
      obtain ⟨set, -, rfl⟩ := receive_entry hpoint h
      cases set <;> simp [begin]
  | nextBlock =>
      obtain ⟨set, -, rfl⟩ := receive_nextBlock hpoint h
      cases set <;> simp
  | awaiting =>
      obtain ⟨result, -, rfl⟩ := receive_awaiting hpoint h
      exact s.onPacket_path host result
  | writing payload =>
      obtain ⟨count, kept, -, -, rfl⟩ := receive_writing hpoint h
      rw [onWritten_op]
  | acknowledging =>
      obtain ⟨ok, -, rfl⟩ := receive_acknowledging hpoint h
      rw [onAcknowledged_op]
  | failing reply =>
      obtain ⟨ok, -, rfl⟩ := receive_failing hpoint h
      rfl
  | returned exit =>
      rw [receive_returned hpoint] at h
      cases h
  | fault =>
      rw [receive_fault hpoint] at h
      cases h

end ReceiveState

end Stftpu
