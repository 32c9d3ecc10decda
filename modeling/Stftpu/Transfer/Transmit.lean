import Stftpu.Common
import Stftpu.Library.Transition

/-!
# `tftp_transmit_file`

The sending side of a transfer.  `TransferData` is the structure both sides share.
The control points are the system calls of the function; the loop tests are made
by the computation that leads to the next call (`outerTest`, `innerTest`).  The
file size, the block count and the clock are only printed and are left out.
-/

namespace Stftpu

open Library

/-- `data_packet_max_size` for a block size. -/
def dataPacketMaxSize (b : BlockSize) : Nat := sizeofPacket + b.val

/-- `response_packet_max_size`. -/
def responsePacketMaxSize : Nat := sizeofPacket + 32

/-- `TransferData_t` behind `tftp_fill_transfer_data`: the counters and the two
packet buffers.  The file is the environment's. -/
structure TransferData (b : BlockSize) where
  resendCounter : Nat
  currentBlockNumber : UInt16
  bytesReceived : Int
  bytesSent : Int
  latestFileBytesRead : Nat
  totalFileBytesTransmitted : Nat
  responsePacket : Buffer responsePacketMaxSize
  dataPacket : Buffer (dataPacketMaxSize b)
  deriving DecidableEq, Repr

inductive TransmitPoint
  /-- The first look at `should_terminate`. -/
  | entry
  /-- The look at `should_terminate` that opens the outer loop. -/
  | nextBlock
  /-- `fread` of the next block. -/
  | reading
  /-- The look at `should_terminate` that opens the retry loop. -/
  | attempt
  /-- `sendto` of the DATA packet. -/
  | sending
  /-- `recvfrom` of the response. -/
  | awaiting
  /-- `sendto` of an ERROR packet, the function about to return `false`. -/
  | failing (reply : ErrorReply)
  | returned (exit : Exit)
  deriving DecidableEq, Repr

/-- `tftp_transmit_file` between two system calls. -/
structure TransmitState (b : BlockSize) where
  point : TransmitPoint
  op : OperationData
  tx : TransferData b
  deriving DecidableEq, Repr

namespace TransmitState

variable {b : BlockSize}

/-- The call of `tftp_transmit_file`. -/
def start (op : OperationData) (tx : TransferData b) : TransmitState b :=
  { point := .entry, op := op, tx := tx }

/-- `tftp_send_error (..)` followed by `return false`. -/
def fail (s : TransmitState b) (reply : ErrorReply) : TransmitState b :=
  if forwardsErrors s.op.peerAddress then
    { s with point := .failing reply }
  else
    { s with point := .returned .failure }

/-- The test of the outer `while` loop, and the return behind it. -/
def outerTest (s : TransmitState b) : TransmitState b :=
  if s.tx.bytesSent = dataPacketMaxSize b then
    { s with point := .nextBlock }
  else
    { s with point := .returned .success }

/-- The test of the retry loop. -/
def innerTest (s : TransmitState b) : TransmitState b :=
  if s.tx.resendCounter < maxRetryCount then
    { s with point := .attempt }
  else
    s.outerTest

/-- What precedes the outer loop. -/
def begin (s : TransmitState b) : TransmitState b :=
  { s with tx := { s.tx with
      dataPacket := s.tx.dataPacket.store 0 (wire16 TFTPOpcode.data.code)
      bytesSent := dataPacketMaxSize b } }.outerTest

/-- The head of the outer loop, up to `fread`. -/
def startBlock (s : TransmitState b) : TransmitState b :=
  let blockNumber := s.tx.currentBlockNumber + 1
  { s with
    point := .reading
    tx := { s.tx with
      currentBlockNumber := blockNumber
      resendCounter := 0
      dataPacket := s.tx.dataPacket.store 2 (wire16 blockNumber) } }

/-- What follows `fread`. -/
def onRead (s : TransmitState b) (bytes : List UInt8) (eof : Bool) : TransmitState b :=
  let s := { s with tx := { s.tx with
    latestFileBytesRead := bytes.length
    dataPacket := s.tx.dataPacket.store sizeofPacket bytes } }
  if bytes.length = 0 ∧ eof = false then
    s.fail { code := TFTPErrorCode.undefined.code, message := ascii "File error", item := none }
  else
    s.innerTest

/-- The DATA packet handed to `sendto`. -/
def outgoing (s : TransmitState b) : List UInt8 :=
  s.tx.dataPacket.bytes.take (sizeofPacket + s.tx.latestFileBytesRead)

/-- What follows `sendto`, which sends a datagram whole or not at all. -/
def onSent (s : TransmitState b) (ok : Bool) : TransmitState b :=
  if ok then
    { s with
      point := .awaiting
      tx := { s.tx with
        bytesSent := sizeofPacket + s.tx.latestFileBytesRead
        totalFileBytesTransmitted :=
          if s.tx.resendCounter = 0 then
            s.tx.totalFileBytesTransmitted + s.tx.latestFileBytesRead
          else
            s.tx.totalFileBytesTransmitted } }
  else
    { s with tx := { s.tx with bytesSent := -1 } }.fail
      { code := TFTPErrorCode.undefined.code, message := ascii "Socket tx error", item := none }

/-- The end of the retry loop's body. -/
def retry (s : TransmitState b) : TransmitState b :=
  if s.tx.resendCounter > maxRetryCount then
    s.fail
      { code := TFTPErrorCode.undefined.code
        message := ascii "Timed out waiting for acknowledgement"
        item := none }
  else
    { s with tx := { s.tx with resendCounter := s.tx.resendCounter + 1 } }.innerTest

/-- `ntohs (response->opcode == TFTP_ERROR)`: the comparison is made on the value
as loaded, and the conversion is applied to its outcome. -/
def looksLikeError (host : Host) (s : TransmitState b) : Bool :=
  ntohs host.order (if loadOpcode host s.tx.responsePacket = TFTPOpcode.error.code then 1 else 0)
    != 0

/-- `ntohs (response->opcode) == TFTP_ACK` and the number of the current block. -/
def looksLikeAck (host : Host) (s : TransmitState b) : Bool :=
  ntohs host.order (loadOpcode host s.tx.responsePacket) = TFTPOpcode.ack.code &&
    ntohs host.order (loadBlockNumber host s.tx.responsePacket) = s.tx.currentBlockNumber

/-- `recvfrom` of a datagram: the source replaces the peer, the bytes replace the
front of the response buffer. -/
def received (s : TransmitState b) (source : SockAddr) (bytes : List UInt8) :
    TransmitState b :=
  { s with
    op := { s.op with peerAddress := source }
    tx := { s.tx with
      bytesReceived := min bytes.length responsePacketMaxSize
      responsePacket := s.tx.responsePacket.receive bytes } }

/-- What follows `recvfrom`. -/
def onResponse (host : Host) (s : TransmitState b) : RecvResult → TransmitState b
  | .failed errno =>
      let s := { s with tx := { s.tx with bytesReceived := -1 } }
      if errno = .ETIMEDOUT then
        s.retry
      else
        s.fail
          { code := TFTPErrorCode.undefined.code, message := ascii "Socket rx error", item := none }
  | .datagram source bytes =>
      let s := s.received source bytes
      if s.looksLikeError host then
        { s with point := .returned .peerError }
      else if s.looksLikeAck host then
        s.outerTest
      else
        s.retry

end TransmitState

/-- One system call of `tftp_transmit_file`. -/
def tftpTransmitFile {b : BlockSize} (host : Host) (s : TransmitState b) (e : Event) :
    Option (TransmitState b) :=
  match s.point, e with
  | .entry, .poll set => some (if set then s.fail (terminationReply host) else s.begin)
  | .nextBlock, .poll set =>
      some (if set then s.fail (terminationReply host) else s.startBlock)
  | .reading, .fread size bytes eof =>
      if size = b.val ∧ bytes.length ≤ size then some (s.onRead bytes eof) else none
  | .attempt, .poll set =>
      some (if set then s.fail (terminationReply host) else { s with point := .sending })
  | .sending, .sendto peer packet ok =>
      if peer = s.op.peerAddress ∧ packet = s.outgoing then some (s.onSent ok) else none
  | .awaiting, .recvfrom size result =>
      if size = responsePacketMaxSize then some (s.onResponse host result) else none
  | .failing reply, .sendto peer packet _ =>
      if peer = s.op.peerAddress ∧ packet = errorPacket reply then
        some { s with point := .returned .failure }
      else
        none
  | _, _ => none

/-! ### What a step does at each control point -/

section Steps

variable {b : BlockSize} {host : Host} {s s' : TransmitState b} {e : Event}

theorem transmit_entry (hpoint : s.point = .entry) (h : tftpTransmitFile host s e = some s') :
    ∃ set, e = .poll set ∧ s' = if set then s.fail (terminationReply host) else s.begin := by
  unfold tftpTransmitFile at h
  rw [hpoint] at h
  cases e with
  | poll set => exact ⟨set, rfl, (Option.some.inj h).symm⟩
  | _ => cases h

theorem transmit_nextBlock (hpoint : s.point = .nextBlock)
    (h : tftpTransmitFile host s e = some s') :
    ∃ set, e = .poll set ∧
      s' = if set then s.fail (terminationReply host) else s.startBlock := by
  unfold tftpTransmitFile at h
  rw [hpoint] at h
  cases e with
  | poll set => exact ⟨set, rfl, (Option.some.inj h).symm⟩
  | _ => cases h

theorem transmit_reading (hpoint : s.point = .reading)
    (h : tftpTransmitFile host s e = some s') :
    ∃ bytes eof, e = .fread b.val bytes eof ∧ bytes.length ≤ b.val ∧
      s' = s.onRead bytes eof := by
  unfold tftpTransmitFile at h
  rw [hpoint] at h
  cases e with
  | fread size bytes eof =>
      obtain ⟨⟨rfl, hlen⟩, hnext⟩ := Option.ite_none_right_eq_some.mp h
      exact ⟨bytes, eof, rfl, hlen, (Option.some.inj hnext).symm⟩
  | _ => cases h

theorem transmit_attempt (hpoint : s.point = .attempt)
    (h : tftpTransmitFile host s e = some s') :
    ∃ set, e = .poll set ∧
      s' = if set then s.fail (terminationReply host) else { s with point := .sending } := by
  unfold tftpTransmitFile at h
  rw [hpoint] at h
  cases e with
  | poll set => exact ⟨set, rfl, (Option.some.inj h).symm⟩
  | _ => cases h

theorem transmit_sending (hpoint : s.point = .sending)
    (h : tftpTransmitFile host s e = some s') :
    ∃ ok, e = .sendto s.op.peerAddress s.outgoing ok ∧ s' = s.onSent ok := by
  unfold tftpTransmitFile at h
  rw [hpoint] at h
  cases e with
  | sendto peer packet ok =>
      obtain ⟨⟨rfl, rfl⟩, hnext⟩ := Option.ite_none_right_eq_some.mp h
      exact ⟨ok, rfl, (Option.some.inj hnext).symm⟩
  | _ => cases h

theorem transmit_awaiting (hpoint : s.point = .awaiting)
    (h : tftpTransmitFile host s e = some s') :
    ∃ result, e = .recvfrom responsePacketMaxSize result ∧ s' = s.onResponse host result := by
  unfold tftpTransmitFile at h
  rw [hpoint] at h
  cases e with
  | recvfrom size result =>
      obtain ⟨hsize, hnext⟩ := Option.ite_none_right_eq_some.mp h
      exact ⟨result, by rw [hsize], (Option.some.inj hnext).symm⟩
  | _ => cases h

/-- It receives nowhere else. -/
theorem transmit_recvfrom {size : Nat} {result : RecvResult}
    (h : tftpTransmitFile host s (.recvfrom size result) = some s') :
    s.point = .awaiting ∧ s' = s.onResponse host result := by
  cases hpoint : s.point with
  | awaiting =>
      obtain ⟨result', he, heq⟩ := transmit_awaiting hpoint h
      obtain ⟨-, rfl⟩ := Event.recvfrom.inj he
      exact ⟨rfl, heq⟩
  | _ => simp [tftpTransmitFile, hpoint] at h

theorem transmit_failing {reply : ErrorReply} (hpoint : s.point = .failing reply)
    (h : tftpTransmitFile host s e = some s') :
    ∃ ok, e = .sendto s.op.peerAddress (errorPacket reply) ok ∧
      s' = { s with point := .returned .failure } := by
  unfold tftpTransmitFile at h
  rw [hpoint] at h
  cases e with
  | sendto peer packet ok =>
      obtain ⟨⟨rfl, rfl⟩, hnext⟩ := Option.ite_none_right_eq_some.mp h
      exact ⟨ok, rfl, (Option.some.inj hnext).symm⟩
  | _ => cases h

theorem transmit_returned {exit : Exit} (hpoint : s.point = .returned exit) :
    tftpTransmitFile host s e = none := by
  unfold tftpTransmitFile
  rw [hpoint]

/-- What it sends, and where. -/
theorem transmit_sendto {peer : SockAddr} {packet : List UInt8} {ok : Bool}
    (h : tftpTransmitFile host s (.sendto peer packet ok) = some s') :
    peer = s.op.peerAddress ∧
      (s.point = .sending ∧ packet = s.outgoing ∨
        ∃ reply, s.point = .failing reply ∧ packet = errorPacket reply) := by
  cases hpoint : s.point with
  | sending =>
      obtain ⟨ok', he, -⟩ := transmit_sending hpoint h
      obtain ⟨rfl, rfl, -⟩ := Event.sendto.inj he
      exact ⟨rfl, Or.inl ⟨rfl, rfl⟩⟩
  | failing reply =>
      obtain ⟨ok', he, -⟩ := transmit_failing hpoint h
      obtain ⟨rfl, rfl, -⟩ := Event.sendto.inj he
      exact ⟨rfl, Or.inr ⟨reply, rfl, rfl⟩⟩
  | _ => simp [tftpTransmitFile, hpoint] at h

theorem transmit_fopen {path : List UInt8} {mode : OpenMode} {error : Option Errno} :
    tftpTransmitFile host s (.fopen path mode error) = none := by
  cases hpoint : s.point <;> simp [tftpTransmitFile, hpoint]

theorem transmit_remove {path : List UInt8} {error : Option Errno} :
    tftpTransmitFile host s (.remove path error) = none := by
  cases hpoint : s.point <;> simp [tftpTransmitFile, hpoint]

end Steps

/-! ### Where the computation between two calls can lead -/

namespace TransmitState

variable {b : BlockSize} (host : Host) (s : TransmitState b)

theorem fail_point (reply : ErrorReply) :
    (s.fail reply).point = .failing reply ∨ (s.fail reply).point = .returned .failure := by
  unfold fail
  split
  · exact Or.inl rfl
  · exact Or.inr rfl

@[simp] theorem fail_op (reply : ErrorReply) : (s.fail reply).op = s.op := by
  unfold fail
  split <;> rfl

@[simp] theorem fail_tx (reply : ErrorReply) : (s.fail reply).tx = s.tx := by
  unfold fail
  split <;> rfl

theorem outerTest_point :
    s.outerTest.point = .nextBlock ∨ s.outerTest.point = .returned .success := by
  unfold outerTest
  split
  · exact Or.inl rfl
  · exact Or.inr rfl

@[simp] theorem outerTest_op : s.outerTest.op = s.op := by
  unfold outerTest
  split <;> rfl

@[simp] theorem outerTest_tx : s.outerTest.tx = s.tx := by
  unfold outerTest
  split <;> rfl

theorem innerTest_lt (h : s.tx.resendCounter < maxRetryCount) :
    s.innerTest = { s with point := .attempt } := by
  simp [innerTest, h]

theorem innerTest_ge (h : ¬ s.tx.resendCounter < maxRetryCount) :
    s.innerTest = s.outerTest := by
  simp [innerTest, h]

@[simp] theorem innerTest_op : s.innerTest.op = s.op := by
  unfold innerTest
  split <;> simp

@[simp] theorem innerTest_tx : s.innerTest.tx = s.tx := by
  unfold innerTest
  split <;> simp

@[simp] theorem retry_op : s.retry.op = s.op := by
  unfold retry
  split <;> simp

@[simp] theorem retry_total :
    s.retry.tx.totalFileBytesTransmitted = s.tx.totalFileBytesTransmitted := by
  unfold retry
  split <;> simp

/-- The comparison inside the retry loop never fires: the loop test keeps the
counter below the limit. -/
theorem retry_of_lt (h : s.tx.resendCounter < maxRetryCount) :
    s.retry =
      { s with tx := { s.tx with resendCounter := s.tx.resendCounter + 1 } }.innerTest := by
  have hle : ¬ s.tx.resendCounter > maxRetryCount := by omega
  simp [retry, hle]

@[simp] theorem received_resendCounter (source : SockAddr) (bytes : List UInt8) :
    (s.received source bytes).tx.resendCounter = s.tx.resendCounter := rfl

@[simp] theorem received_currentBlockNumber (source : SockAddr) (bytes : List UInt8) :
    (s.received source bytes).tx.currentBlockNumber = s.tx.currentBlockNumber := rfl

@[simp] theorem received_responsePacket (source : SockAddr) (bytes : List UInt8) :
    (s.received source bytes).tx.responsePacket = s.tx.responsePacket.receive bytes := rfl

/-- Converting the outcome of the comparison changes nothing: the test fires when
the opcode as loaded, not as sent, is 5. -/
theorem looksLikeError_iff :
    s.looksLikeError host = true ↔
      loadOpcode host s.tx.responsePacket = TFTPOpcode.error.code := by
  unfold looksLikeError
  by_cases h : loadOpcode host s.tx.responsePacket = TFTPOpcode.error.code
  · simp only [h, if_true, iff_true]
    cases host.order <;> decide
  · simp only [h, if_false, iff_false]
    cases host.order <;> decide

/-- An ACK of the current block is taken for one, whatever the buffer held, and never
for an ERROR. -/
theorem looksLikeAck_of_ack (source : SockAddr) {bytes : List UInt8}
    (hlen : sizeofPacket ≤ bytes.length) (hop : opcodeOf bytes = TFTPOpcode.ack.code)
    (hnum : blockNumberOf bytes = s.tx.currentBlockNumber) :
    (s.received source bytes).looksLikeError host = false ∧
      (s.received source bytes).looksLikeAck host = true := by
  have hlen2 : 2 ≤ bytes.length := by
    simp only [sizeofPacket] at hlen
    omega
  have hopcode := ntohs_loadOpcode_receive host s.tx.responsePacket bytes hlen2 (by decide)
  have hblock := ntohs_loadBlockNumber_receive host s.tx.responsePacket bytes
    (by simpa [sizeofPacket] using hlen) (by decide)
  refine ⟨?_, ?_⟩
  · rw [Bool.eq_false_iff, Ne, looksLikeError_iff]
    intro hload
    rw [received_responsePacket] at hload
    rw [hload, hop] at hopcode
    revert hopcode
    cases host.order <;> decide
  · simp [looksLikeAck, hopcode, hblock, hop, hnum]

theorem onResponse_ack {source : SockAddr} {bytes : List UInt8}
    (hlen : sizeofPacket ≤ bytes.length) (hop : opcodeOf bytes = TFTPOpcode.ack.code)
    (hnum : blockNumberOf bytes = s.tx.currentBlockNumber) :
    s.onResponse host (.datagram source bytes) = (s.received source bytes).outerTest := by
  obtain ⟨herror, hack⟩ := s.looksLikeAck_of_ack host source hlen hop hnum
  simp [onResponse, herror, hack]

/-- What a response leads to: a return on an ERROR packet, the outer loop test,
another round of the retry loop, or a failure. -/
theorem onResponse_cases (result : RecvResult) :
    (∃ source bytes, result = .datagram source bytes ∧
        ((s.received source bytes).looksLikeError host = true ∧
          s.onResponse host result =
            { s.received source bytes with point := .returned .peerError } ∨
        (s.received source bytes).looksLikeError host = false ∧
          (s.received source bytes).looksLikeAck host = true ∧
          s.onResponse host result = (s.received source bytes).outerTest ∨
        (s.received source bytes).looksLikeError host = false ∧
          (s.received source bytes).looksLikeAck host = false ∧
          s.onResponse host result = (s.received source bytes).retry)) ∨
      ∃ errno, result = .failed errno ∧
        (errno = .ETIMEDOUT ∧
          s.onResponse host result =
            { s with tx := { s.tx with bytesReceived := -1 } }.retry ∨
        errno ≠ .ETIMEDOUT ∧ ∃ reply,
          s.onResponse host result =
            { s with tx := { s.tx with bytesReceived := -1 } }.fail reply) := by
  cases result with
  | datagram source bytes =>
      refine Or.inl ⟨source, bytes, rfl, ?_⟩
      cases herror : (s.received source bytes).looksLikeError host with
      | true => exact Or.inl ⟨rfl, by simp [onResponse, herror]⟩
      | false =>
          cases hack : (s.received source bytes).looksLikeAck host with
          | true => exact Or.inr (Or.inl ⟨rfl, rfl, by simp [onResponse, herror, hack]⟩)
          | false => exact Or.inr (Or.inr ⟨rfl, rfl, by simp [onResponse, herror, hack]⟩)
  | failed errno =>
      refine Or.inr ⟨errno, rfl, ?_⟩
      by_cases herrno : errno = .ETIMEDOUT
      · exact Or.inl ⟨herrno, by simp [onResponse, herrno]⟩
      · exact Or.inr ⟨herrno, _, if_neg herrno⟩

end TransmitState

/-! ### The outgoing packet -/

namespace TransmitState

variable {b : BlockSize} {host : Host} {s s' : TransmitState b} {e : Event}

/-- The payload of the block being sent. -/
def payload (s : TransmitState b) : List UInt8 :=
  (s.tx.dataPacket.bytes.drop sizeofPacket).take s.tx.latestFileBytesRead

/-- The header of the packet buffer at each control point, and the bound of the
resend counter inside the retry loop. -/
def Framed (s : TransmitState b) : Prop :=
  match s.point with
  | .nextBlock => s.tx.dataPacket.bytes.take 2 = wire16 TFTPOpcode.data.code
  | .reading =>
      s.tx.dataPacket.bytes.take sizeofPacket = dataPacket s.tx.currentBlockNumber [] ∧
        s.tx.resendCounter = 0
  | .attempt | .sending | .awaiting =>
      s.tx.dataPacket.bytes.take sizeofPacket = dataPacket s.tx.currentBlockNumber [] ∧
        s.tx.resendCounter < maxRetryCount
  | _ => True

/-- A framed packet buffer sends the current block. -/
theorem outgoing_eq
    (h : s.tx.dataPacket.bytes.take sizeofPacket = dataPacket s.tx.currentBlockNumber []) :
    s.outgoing = dataPacket s.tx.currentBlockNumber s.payload := by
  rw [outgoing, List.take_add, h]
  simp [dataPacket, payload]

theorem header_of_frame
    (h : s.tx.dataPacket.bytes.take sizeofPacket = dataPacket s.tx.currentBlockNumber []) :
    s.tx.dataPacket.bytes.take 2 = wire16 TFTPOpcode.data.code := by
  have htake : (s.tx.dataPacket.bytes.take sizeofPacket).take 2 =
      s.tx.dataPacket.bytes.take 2 := by
    rw [List.take_take, min_eq_left (by decide)]
  rw [← htake, h]
  rfl

theorem framed_fail (reply : ErrorReply) : (s.fail reply).Framed := by
  rcases s.fail_point reply with h | h
  · simp [Framed, h]
  · simp [Framed, h]

theorem framed_outerTest
    (h : s.tx.dataPacket.bytes.take 2 = wire16 TFTPOpcode.data.code) :
    s.outerTest.Framed := by
  rcases s.outerTest_point with hp | hp
  · simpa [Framed, hp] using h
  · simp [Framed, hp]

theorem framed_innerTest
    (h : s.tx.dataPacket.bytes.take sizeofPacket = dataPacket s.tx.currentBlockNumber []) :
    s.innerTest.Framed := by
  by_cases hlt : s.tx.resendCounter < maxRetryCount
  · rw [s.innerTest_lt hlt]
    exact ⟨h, hlt⟩
  · rw [s.innerTest_ge hlt]
    exact framed_outerTest (header_of_frame h)

theorem framed_retry
    (h : s.tx.dataPacket.bytes.take sizeofPacket = dataPacket s.tx.currentBlockNumber []) :
    s.retry.Framed := by
  unfold retry
  split
  · exact framed_fail _
  · exact framed_innerTest (s := { s with
      tx := { s.tx with resendCounter := s.tx.resendCounter + 1 } }) h

theorem framed_startBlock
    (h : s.tx.dataPacket.bytes.take 2 = wire16 TFTPOpcode.data.code) :
    s.startBlock.Framed := by
  refine ⟨?_, rfl⟩
  have hstore := s.tx.dataPacket.store_take 2
    (wire16 (s.tx.currentBlockNumber + 1)) (by simp [dataPacketMaxSize, sizeofPacket])
  rw [h] at hstore
  simpa [startBlock, sizeofPacket, dataPacket] using hstore

theorem onRead_frame {bytes : List UInt8}
    (h : s.tx.dataPacket.bytes.take sizeofPacket = dataPacket s.tx.currentBlockNumber []) :
    (s.tx.dataPacket.store sizeofPacket bytes).bytes.take sizeofPacket =
      dataPacket s.tx.currentBlockNumber [] := by
  rw [Buffer.store_take_of_le _ _ (le_refl _) (by simp [dataPacketMaxSize, sizeofPacket]), h]

/-- The payload of the packet is what was read. -/
theorem onRead_payload {bytes : List UInt8} (hlen : bytes.length ≤ b.val) :
    ((s.tx.dataPacket.store sizeofPacket bytes).bytes.drop sizeofPacket).take bytes.length =
      bytes := by
  have hstore := s.tx.dataPacket.store_take sizeofPacket bytes
    (by simp only [dataPacketMaxSize]; omega)
  have hfront : (s.tx.dataPacket.bytes.take sizeofPacket).length = sizeofPacket := by
    rw [List.length_take, s.tx.dataPacket.length_eq, dataPacketMaxSize]
    omega
  rw [List.take_drop, hstore]
  exact List.drop_left' hfront

theorem framed_onRead {bytes : List UInt8} {eof : Bool}
    (h : s.tx.dataPacket.bytes.take sizeofPacket = dataPacket s.tx.currentBlockNumber []) :
    (s.onRead bytes eof).Framed := by
  unfold onRead
  split
  · exact framed_fail _
  · exact framed_innerTest (onRead_frame h)

theorem framed_onSent {ok : Bool} (hpoint : s.point = .sending) (h : s.Framed) :
    (s.onSent ok).Framed := by
  unfold onSent
  split
  · simpa [Framed, hpoint] using h
  · exact framed_fail _

theorem framed_onResponse {result : RecvResult} (hpoint : s.point = .awaiting)
    (h : s.Framed) : (s.onResponse host result).Framed := by
  have hframe : s.tx.dataPacket.bytes.take sizeofPacket =
      dataPacket s.tx.currentBlockNumber [] := by
    simp only [Framed, hpoint] at h
    exact h.1
  rcases s.onResponse_cases host result with
    ⟨source, bytes, -, ⟨-, heq⟩ | ⟨-, -, heq⟩ | ⟨-, -, heq⟩⟩ |
    ⟨errno, -, ⟨-, heq⟩ | ⟨-, reply, heq⟩⟩
  · rw [heq]
    trivial
  · rw [heq]
    exact framed_outerTest (header_of_frame (s := s.received source bytes) hframe)
  · rw [heq]
    exact framed_retry (s := s.received source bytes) hframe
  · rw [heq]
    exact framed_retry (s := { s with tx := { s.tx with bytesReceived := -1 } }) hframe
  · rw [heq]
    exact framed_fail _

/-- Every step keeps the frame. -/
theorem framed_step (h : s.Framed) (hstep : tftpTransmitFile host s e = some s') :
    s'.Framed := by
  cases hpoint : s.point with
  | entry =>
      obtain ⟨set, rfl, rfl⟩ := transmit_entry hpoint hstep
      cases set with
      | true => exact framed_fail _
      | false =>
          -- the opcode is written here, once for all blocks
          refine framed_outerTest ?_
          simpa using s.tx.dataPacket.store_take 0
            (wire16 TFTPOpcode.data.code) (by simp [dataPacketMaxSize, sizeofPacket]; omega)
  | nextBlock =>
      obtain ⟨set, rfl, rfl⟩ := transmit_nextBlock hpoint hstep
      cases set with
      | true => exact framed_fail _
      | false =>
          simp only [Framed, hpoint] at h
          exact framed_startBlock h
  | reading =>
      obtain ⟨bytes, eof, rfl, -, rfl⟩ := transmit_reading hpoint hstep
      simp only [Framed, hpoint] at h
      exact framed_onRead h.1
  | attempt =>
      obtain ⟨set, rfl, rfl⟩ := transmit_attempt hpoint hstep
      cases set with
      | true => exact framed_fail _
      | false => simpa [Framed, hpoint] using h
  | sending =>
      obtain ⟨ok, rfl, rfl⟩ := transmit_sending hpoint hstep
      exact framed_onSent hpoint h
  | awaiting =>
      obtain ⟨result, rfl, rfl⟩ := transmit_awaiting hpoint hstep
      exact framed_onResponse hpoint h
  | failing reply =>
      obtain ⟨ok, rfl, rfl⟩ := transmit_failing hpoint hstep
      trivial
  | returned exit =>
      rw [transmit_returned hpoint] at hstep
      cases hstep

theorem framed_run {op : OperationData} {tx : TransferData b} {tr : List Event}
    (h : Run (tftpTransmitFile host) (start op tx) tr s) : s.Framed :=
  h.invariant (fun _ _ _ hI hs => framed_step hI hs) trivial

/-- A function about to return `false`. -/
def Doomed (s : TransmitState b) : Prop :=
  (∃ reply, s.point = .failing reply) ∨ s.point = .returned .failure ∨
    s.point = .returned .peerError

theorem doomed_fail (reply : ErrorReply) : (s.fail reply).Doomed := by
  rcases s.fail_point reply with h | h
  · exact Or.inl ⟨reply, h⟩
  · exact Or.inr (Or.inl h)

theorem doomed_step (h : s.Doomed) (hstep : tftpTransmitFile host s e = some s') :
    s'.Doomed := by
  rcases h with ⟨reply, hp⟩ | hp | hp
  · obtain ⟨ok, -, rfl⟩ := transmit_failing hp hstep
    exact Or.inr (Or.inl rfl)
  · rw [transmit_returned hp] at hstep
    cases hstep
  · rw [transmit_returned hp] at hstep
    cases hstep

theorem not_doomed_of_success (h : s.point = .returned .success) : ¬ s.Doomed := by
  rintro (⟨reply, hp⟩ | hp | hp)
  · rw [h] at hp
    cases hp
  · rw [h] at hp
    cases hp
  · rw [h] at hp
    cases hp

end TransmitState

end Stftpu
