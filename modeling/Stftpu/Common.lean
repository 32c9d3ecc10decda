import Stftpu.Library.Bytes
import Stftpu.Library.CString

/-!
# Data common to client and server

The constants and structures of `tftp_common.h`, the packets both sides build, and
the system calls their functions make.

A function that blocks or touches the outside world is modelled by its control
points.  At each of them one system call is pending, and an `Event` is that call
together with what the system answered; the code between two calls is plain
computation.  A trace of events is what `strace` would show, console output left
out.
-/

namespace Stftpu

open Library

/-! ## Constants and enumerations -/

inductive TFTPOpcode
  | none
  | rrq
  | wrq
  | data
  | ack
  | error
  | drq
  deriving DecidableEq, Repr

def TFTPOpcode.code : TFTPOpcode → UInt16
  | .none => 0
  | .rrq => 1
  | .wrq => 2
  | .data => 3
  | .ack => 4
  | .error => 5
  | .drq => 6

inductive TFTPTransferMode
  | unspecified
  | octet
  | netascii
  | mail
  deriving DecidableEq, Repr

inductive TFTPErrorCode
  | undefined
  | fileNotFound
  | accessViolation
  | outOfSpace
  | illegalOperation
  | unknownTransfer
  | fileExists
  | unknownUser
  deriving DecidableEq, Repr

def TFTPErrorCode.code : TFTPErrorCode → Int
  | .undefined => 0
  | .fileNotFound => 1
  | .accessViolation => 2
  | .outOfSpace => 3
  | .illegalOperation => 4
  | .unknownTransfer => 5
  | .fileExists => 6
  | .unknownUser => 7

inductive OperationId
  | undefined
  | receive
  | send
  | requestDelete
  | handleDelete
  deriving DecidableEq, Repr

def tftpBlksizeMin : Nat := 8
def tftpBlksizeDefault : Nat := 512
def tftpBlksizeMax : Nat := 65464
def tftpFilenameMax : Nat := 255
def tftpErrorMessageMaxLength : Nat := 128

/-- `sizeof (Packet_t)`: an opcode and one more sixteen-bit field. -/
def sizeofPacket : Nat := 4

/-- `TFTP_RESPONSE_PACKET_MAX_SIZE`. -/
def tftpResponsePacketMaxSize : Nat := sizeofPacket + tftpErrorMessageMaxLength

/-- `tftp_common.max_retry_count`. -/
def maxRetryCount : Nat := 5

/-- `tftp_common.transfer_mode_strings`. -/
def transferModeStrings : List (TFTPTransferMode × List UInt8) :=
  [(.octet, ascii "octet"), (.netascii, ascii "netascii"), (.mail, ascii "mail")]

def tftpBlksizeString : List UInt8 := ascii "blksize"

def serverStoragePath : List UInt8 := ascii "storage/"

/-! ## Addresses, errors and the host -/

/-- `struct sockaddr_in`, its port as a number. -/
structure SockAddr where
  address : UInt32
  port : UInt16
  deriving DecidableEq, Repr

/-- The values of `errno` the code or its callers tell apart. -/
inductive Errno
  | ETIMEDOUT
  | EAGAIN
  | ENOMEM
  | other (code : Nat)
  deriving DecidableEq, Repr

/-- What the functions take from the process they run in: the byte order of the
machine, `tftp_common.is_server` and the texts of `strerror`. -/
structure Host where
  order : ByteOrder
  isServer : Bool
  strerror : Errno → List UInt8

/-- `OperationData_t`. -/
structure OperationData where
  operationId : OperationId
  transferMode : TFTPTransferMode
  blockSize : UInt16
  pathLen : UInt16
  dataSocket : Int
  localAddress : SockAddr
  peerAddress : SockAddr
  path : List UInt8
  deriving DecidableEq, Repr

/-- A block size that passed the range check. -/
structure BlockSize where
  val : Nat
  min_le : tftpBlksizeMin ≤ val
  le_max : val ≤ tftpBlksizeMax
  deriving DecidableEq, Repr

theorem BlockSize.pos (b : BlockSize) : 0 < b.val := by
  have := b.min_le
  simp only [tftpBlksizeMin] at this
  omega

/-- The arguments of `tftp_send_error` that make up the packet. -/
structure ErrorReply where
  code : Int
  message : List UInt8
  item : Option (List UInt8)
  deriving DecidableEq, Repr

/-- How a function that returns `bool` ended: it returned `true`, it returned
`false` on a failure of its own, or it returned `false` on an ERROR packet. -/
inductive Exit
  | success
  | failure
  | peerError
  deriving DecidableEq, Repr

/-- The value returned. -/
def Exit.value : Exit → Bool
  | .success => true
  | .failure => false
  | .peerError => false

/-! ## Packets -/

/-- A DATA packet: the first `sizeof (Packet_t) + payload` bytes of the buffer. -/
def dataPacket (blockNumber : UInt16) (payload : List UInt8) : List UInt8 :=
  wire16 TFTPOpcode.data.code ++ wire16 blockNumber ++ payload

/-- The packet `tftp_send_ack` sends. -/
def ackPacket (blockNumber : UInt16) : List UInt8 :=
  wire16 TFTPOpcode.ack.code ++ wire16 blockNumber

/-- The packet `tftp_send_error` sends: message, item and two spare zero bytes. -/
def errorPacket (reply : ErrorReply) : List UInt8 :=
  wire16 TFTPOpcode.error.code ++ wire16 (UInt16.ofNat (reply.code % 65536).toNat) ++
    reply.message ++ reply.item.getD [] ++ [0, 0]

/-- `tftp_send_error` forwards nothing to the requests port. -/
def forwardsErrors (peer : SockAddr) : Bool :=
  peer.port != 69

/-- The opcode field of a datagram, in network order. -/
def opcodeOf (datagram : List UInt8) : UInt16 :=
  be16 (datagram.getD 0 0) (datagram.getD 1 0)

/-- The block number field of a datagram, in network order. -/
def blockNumberOf (datagram : List UInt8) : UInt16 :=
  be16 (datagram.getD 2 0) (datagram.getD 3 0)

/-- `response->opcode` as the machine loads it. -/
def loadOpcode {n : Nat} (host : Host) (packet : Buffer n) : UInt16 :=
  load16 host.order (packet.byte 0) (packet.byte 1)

/-- The second header field as the machine loads it. -/
def loadBlockNumber {n : Nat} (host : Host) (packet : Buffer n) : UInt16 :=
  load16 host.order (packet.byte 2) (packet.byte 3)

theorem opcodeOf_eq_of_take {datagram : List UInt8} {n : UInt16}
    (h : datagram.take 2 = wire16 n) : opcodeOf datagram = n := by
  have hget : ∀ i < 2, datagram.getD i 0 = (wire16 n).getD i 0 := by
    intro i hi
    rw [← h]
    simp [List.getD_eq_getElem?_getD, hi]
  rw [opcodeOf, hget 0 (by omega), hget 1 (by omega)]
  simp [wire16]

@[simp] theorem opcodeOf_dataPacket (k : UInt16) (payload : List UInt8) :
    opcodeOf (dataPacket k payload) = 3 := by
  simp [opcodeOf, dataPacket, wire16, TFTPOpcode.code]

@[simp] theorem opcodeOf_ackPacket (k : UInt16) : opcodeOf (ackPacket k) = 4 := by
  simp [opcodeOf, ackPacket, wire16, TFTPOpcode.code]

@[simp] theorem opcodeOf_errorPacket (reply : ErrorReply) :
    opcodeOf (errorPacket reply) = 5 := by
  simp [opcodeOf, errorPacket, wire16, TFTPOpcode.code]

theorem errorPacket_ne_ackPacket (reply : ErrorReply) (k : UInt16) :
    errorPacket reply ≠ ackPacket k := by
  intro heq
  have hopcode := congrArg opcodeOf heq
  rw [opcodeOf_errorPacket, opcodeOf_ackPacket] at hopcode
  exact absurd hopcode (by decide)

@[simp] theorem blockNumberOf_dataPacket (k : UInt16) (payload : List UInt8) :
    blockNumberOf (dataPacket k payload) = k := by
  simp [blockNumberOf, dataPacket, wire16]

@[simp] theorem blockNumberOf_ackPacket (k : UInt16) : blockNumberOf (ackPacket k) = k := by
  simp [blockNumberOf, ackPacket, wire16]

@[simp] theorem dataPacket_length (k : UInt16) (payload : List UInt8) :
    (dataPacket k payload).length = sizeofPacket + payload.length := by
  simp [dataPacket, wire16, sizeofPacket]
  omega

@[simp] theorem ackPacket_length (k : UInt16) : (ackPacket k).length = sizeofPacket := rfl

theorem errorPacket_length_ge (reply : ErrorReply) :
    sizeofPacket ≤ (errorPacket reply).length := by
  simp [errorPacket, wire16, sizeofPacket]

theorem dataPacket_drop (k : UInt16) (payload : List UInt8) :
    (dataPacket k payload).drop sizeofPacket = payload := rfl

/-- A datagram with a whole header is tested on its own bytes, whatever the buffer
held before. -/
theorem ntohs_loadOpcode_receive {n : Nat} (host : Host) (buf : Buffer n)
    (datagram : List UInt8) (hlen : 2 ≤ datagram.length) (hn : 2 ≤ n) :
    ntohs host.order (loadOpcode host (buf.receive datagram)) = opcodeOf datagram := by
  rw [loadOpcode, ntohs_load16, buf.receive_byte (by omega) (by omega),
    buf.receive_byte (by omega) (by omega), opcodeOf]

theorem ntohs_loadBlockNumber_receive {n : Nat} (host : Host) (buf : Buffer n)
    (datagram : List UInt8) (hlen : 4 ≤ datagram.length) (hn : 4 ≤ n) :
    ntohs host.order (loadBlockNumber host (buf.receive datagram)) =
      blockNumberOf datagram := by
  rw [loadBlockNumber, ntohs_load16, buf.receive_byte (by omega) (by omega),
    buf.receive_byte (by omega) (by omega), blockNumberOf]

/-- Whatever arrives, the tests see it with what stands behind it in the buffer. -/
theorem ntohs_loadOpcode_completed {n : Nat} (host : Host) (buf : Buffer n)
    (datagram : List UInt8) (hn : 2 ≤ n) :
    ntohs host.order (loadOpcode host (buf.receive datagram)) =
      opcodeOf (buf.completed datagram) := by
  rw [loadOpcode, ntohs_load16, buf.receive_byte_completed datagram (by omega),
    buf.receive_byte_completed datagram (by omega), opcodeOf]

theorem ntohs_loadBlockNumber_completed {n : Nat} (host : Host) (buf : Buffer n)
    (datagram : List UInt8) (hn : 4 ≤ n) :
    ntohs host.order (loadBlockNumber host (buf.receive datagram)) =
      blockNumberOf (buf.completed datagram) := by
  rw [loadBlockNumber, ntohs_load16, buf.receive_byte_completed datagram (by omega),
    buf.receive_byte_completed datagram (by omega), blockNumberOf]

/-! ## System calls -/

/-- What `recvfrom` came back with: a datagram, before it is cut at the size of the
buffer, or a failure. -/
inductive RecvResult
  | datagram (source : SockAddr) (bytes : List UInt8)
  | failed (errno : Errno)
  deriving DecidableEq, Repr

/-- The modes files are opened in: `"rb"` or `"r"`, and `"wb"`. -/
inductive OpenMode
  | read
  | write
  deriving DecidableEq, Repr

/-- How `tftp_init_bound_data_socket` ended.  A `bind` that fails forever is a call
that is never answered. -/
inductive DataSocket
  /-- `exit (EXIT_FAILURE)`: no socket, or an option refused. -/
  | exits
  | bound (fd : Int) (port : UInt16)
  deriving DecidableEq, Repr

/-- One answered system call. -/
inductive Event
  /-- `should_terminate` was read. -/
  | poll (set : Bool)
  /-- `malloc (size)` returned a block with some content, or `NULL`. -/
  | malloc (size : Nat) (block : Option (List UInt8))
  /-- `fopen (path, mode)`, with the error when it returned `NULL`. -/
  | fopen (path : List UInt8) (mode : OpenMode) (error : Option Errno)
  /-- `stat (path)` and the change time, printed. -/
  | stat (path : List UInt8) (timestamp : List UInt8)
  /-- `fread` of at most `size` bytes, and `feof` behind it. -/
  | fread (size : Nat) (bytes : List UInt8) (eof : Bool)
  /-- `fwrite (bytes)`, the number of bytes it took, and how many of all it has taken the
  stream keeps in its buffer behind the call. -/
  | fwrite (bytes : List UInt8) (count : Nat) (kept : Nat)
  /-- `fclose`, and how many bytes of the buffer do not come into the file. -/
  | fclose (lost : Nat)
  | remove (path : List UInt8) (error : Option Errno)
  | sendto (peer : SockAddr) (packet : List UInt8) (ok : Bool)
  | recvfrom (size : Nat) (result : RecvResult)
  /-- `close (fd)`. -/
  | close (fd : Int)
  /-- `tftp_init_bound_data_socket`. -/
  | dataSocket (result : DataSocket)
  /-- A free slot was looked for under the mutex, and taken. -/
  | acquire (slot : Option Nat)
  /-- `pthread_create`. -/
  | create (ok : Bool)
  /-- The release of a slot, by a task after `pthread_detach`. -/
  | release
  deriving DecidableEq, Repr

/-- What holds of every state a receive leads to holds of the one it leads to. -/
theorem forall_received_iff {σ : Type*} {step : σ → Event → Option σ} {s t : σ} {size : Nat}
    {result : RecvResult} {P : σ → RecvResult → Prop}
    (hstep : step s (.recvfrom size result) = some t) :
    (∀ size' result' t', Event.recvfrom size result = .recvfrom size' result' →
      step s (.recvfrom size result) = some t' → P t' result') ↔ P t result := by
  constructor
  · intro h
    exact h size result t rfl hstep
  · intro h size' result' t' he ht'
    obtain ⟨-, rfl⟩ := Event.recvfrom.inj he
    obtain rfl := Option.some.inj (hstep.symm.trans ht')
    exact h

/-- The reply of `CHECK_SIGTERM_DURING_TRANSFER`. -/
def terminationReply (host : Host) : ErrorReply :=
  { code := TFTPErrorCode.undefined.code
    message := ascii (if host.isServer then "Server program terminated"
      else "Client program terminated")
    item := none }

/-! ## A concrete exchange, for runs on fixed inputs -/

/-- A little-endian server process. -/
def littleHost : Host :=
  { order := .little, isServer := true, strerror := fun _ => ascii "error" }

def localhost (port : UInt16) : SockAddr :=
  { address := 2130706433, port := port }

/-- A write of `storage/a` in blocks of eight bytes. -/
def sampleOperation : OperationData :=
  { operationId := .send
    transferMode := .octet
    blockSize := 8
    pathLen := 10
    dataSocket := 4
    localAddress := localhost 40001
    peerAddress := localhost 50001
    path := ascii "storage/a" }

def sampleBlockSize : BlockSize :=
  { val := 8, min_le := by decide, le_max := by decide }

end Stftpu
