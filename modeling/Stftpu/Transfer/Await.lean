import Stftpu.Common
import Stftpu.Library.Transition

/-!
# `tftp_await_acknowledgement`

The wait for the ACK of a request: at most `max_retry_count` receives into one
block of `TFTP_RESPONSE_PACKET_MAX_SIZE` bytes that is never cleared.
-/

namespace Stftpu

open Library

inductive AwaitPoint
  /-- `malloc` of the response block. -/
  | allocating
  /-- `recvfrom`, the retry counter already advanced. -/
  | awaiting
  | returned (exit : Exit)
  deriving DecidableEq, Repr

/-- `tftp_await_acknowledgement` between two system calls. -/
structure AwaitState where
  point : AwaitPoint
  op : OperationData
  blockNumber : UInt16
  retryCounter : Nat
  incomingPacket : Buffer tftpResponsePacketMaxSize
  deriving DecidableEq, Repr

/-- The call of `tftp_await_acknowledgement`. -/
def AwaitState.start (blockNumber : UInt16) (op : OperationData) : AwaitState :=
  { point := .allocating
    op := op
    blockNumber := blockNumber
    retryCounter := 0
    incomingPacket := Buffer.zero tftpResponsePacketMaxSize }

/-- The test of the `while` loop, and the counter behind it. -/
def AwaitState.loopTest (s : AwaitState) : AwaitState :=
  if s.retryCounter < maxRetryCount then
    { s with retryCounter := s.retryCounter + 1, point := .awaiting }
  else
    { s with point := .returned .failure }

/-- The body of the loop behind `recvfrom`. -/
def AwaitState.onReceived (host : Host) (s : AwaitState) : RecvResult → AwaitState
  | .datagram source bytes =>
      let s := { s with
        op := { s.op with peerAddress := source }
        incomingPacket := s.incomingPacket.receive bytes }
      let opcode := ntohs host.order (loadOpcode host s.incomingPacket)
      let blockNumber := ntohs host.order (loadBlockNumber host s.incomingPacket)
      if bytes.length = 0 then
        s.loopTest
      else if opcode = TFTPOpcode.ack.code ∧ blockNumber = s.blockNumber then
        { s with point := .returned .success }
      else if opcode = TFTPOpcode.error.code then
        { s with point := .returned .peerError }
      else
        s.loopTest
  | .failed _ => s.loopTest

/-- One system call of `tftp_await_acknowledgement`.  The allocation of its small
block is taken to succeed; the block's content is whatever `malloc` left there. -/
def tftpAwaitAcknowledgement (host : Host) (s : AwaitState) (e : Event) :
    Option AwaitState :=
  match s.point, e with
  | .allocating, .malloc size (some block) =>
      if h : size = tftpResponsePacketMaxSize ∧ block.length = tftpResponsePacketMaxSize then
        some { s with incomingPacket := ⟨block, h.2⟩ }.loopTest
      else
        none
  | .awaiting, .recvfrom size result =>
      if size = tftpResponsePacketMaxSize then some (s.onReceived host result) else none
  | _, _ => none

/-- While the function waits, the only call it makes is `recvfrom`. -/
theorem await_awaiting {host : Host} {s s' : AwaitState} {e : Event}
    (hpoint : s.point = .awaiting) (h : tftpAwaitAcknowledgement host s e = some s') :
    ∃ result, e = .recvfrom tftpResponsePacketMaxSize result ∧
      s' = s.onReceived host result := by
  cases e with
  | recvfrom size result =>
      simp only [tftpAwaitAcknowledgement, hpoint] at h
      split at h
      · rename_i hsize
        exact ⟨result, by rw [hsize], (Option.some.inj h).symm⟩
      · cases h
  | _ => simp [tftpAwaitAcknowledgement, hpoint] at h

/-- It receives nowhere else. -/
theorem await_recvfrom {host : Host} {s s' : AwaitState} {size : Nat} {result : RecvResult}
    (h : tftpAwaitAcknowledgement host s (.recvfrom size result) = some s') :
    s.point = .awaiting ∧ s' = s.onReceived host result := by
  cases hpoint : s.point with
  | awaiting =>
      obtain ⟨result', he, heq⟩ := await_awaiting hpoint h
      obtain ⟨-, rfl⟩ := Event.recvfrom.inj he
      exact ⟨rfl, heq⟩
  | _ => simp [tftpAwaitAcknowledgement, hpoint] at h

/-- Before it waits, it allocates its block. -/
theorem await_allocating {host : Host} {s s' : AwaitState} {e : Event}
    (hpoint : s.point = .allocating) (h : tftpAwaitAcknowledgement host s e = some s') :
    ∃ block packet, e = .malloc tftpResponsePacketMaxSize (some block) ∧
      s' = { s with incomingPacket := packet }.loopTest := by
  cases e with
  | malloc size block =>
      cases block with
      | none => simp [tftpAwaitAcknowledgement, hpoint] at h
      | some block =>
          simp only [tftpAwaitAcknowledgement, hpoint] at h
          split at h
          · rename_i hsize
            exact ⟨block, ⟨block, hsize.2⟩, by rw [hsize.1], (Option.some.inj h).symm⟩
          · cases h
  | _ => simp [tftpAwaitAcknowledgement, hpoint] at h

/-- The function sends nothing. -/
theorem await_sendto {host : Host} {s : AwaitState} {peer : SockAddr} {packet : List UInt8}
    {ok : Bool} : tftpAwaitAcknowledgement host s (.sendto peer packet ok) = none := by
  cases hpoint : s.point <;> simp [tftpAwaitAcknowledgement, hpoint]

/-! ### What is received -/

namespace AwaitState

variable {host : Host} {s : AwaitState}

/-- The loop goes on, or gives up. -/
theorem loopTest_cases (s : AwaitState) :
    (s.retryCounter < maxRetryCount ∧
        s.loopTest = { s with retryCounter := s.retryCounter + 1, point := .awaiting }) ∨
      s.loopTest = { s with point := .returned .failure } := by
  unfold loopTest
  split
  · exact Or.inl ⟨‹_›, rfl⟩
  · exact Or.inr rfl

/-- A datagram has been received into the block. -/
def received (s : AwaitState) (source : SockAddr) (bytes : List UInt8) : AwaitState :=
  { s with
    op := { s.op with peerAddress := source }
    incomingPacket := s.incomingPacket.receive bytes }

/-- An ACK is the one awaited, or is passed over. -/
theorem onReceived_ack (host : Host) (s : AwaitState) (source : SockAddr) (n : UInt16) :
    s.onReceived host (.datagram source (ackPacket n)) =
      if n = s.blockNumber then
        { s.received source (ackPacket n) with point := .returned .success }
      else
        (s.received source (ackPacket n)).loopTest := by
  have hopcode := ntohs_loadOpcode_receive host s.incomingPacket (ackPacket n)
    (by simp [sizeofPacket]) (by decide)
  have hnumber := ntohs_loadBlockNumber_receive host s.incomingPacket (ackPacket n)
    (by simp [sizeofPacket]) (by decide)
  rw [opcodeOf_ackPacket] at hopcode
  rw [blockNumberOf_ackPacket] at hnumber
  have hlen : (ackPacket n).length ≠ 0 := by simp [sizeofPacket]
  simp only [onReceived, hopcode, hnumber, hlen, if_false]
  by_cases hn : n = s.blockNumber
  · rw [if_pos hn, if_pos ⟨rfl, hn⟩]
    rfl
  · rw [if_neg hn, if_neg (fun h => hn h.2), if_neg (by decide)]
    rfl

/-- An ERROR packet ends the wait. -/
theorem onReceived_error (host : Host) (s : AwaitState) (source : SockAddr) (reply : ErrorReply) :
    s.onReceived host (.datagram source (errorPacket reply)) =
      { s.received source (errorPacket reply) with point := .returned .peerError } := by
  have hlen := errorPacket_length_ge reply
  simp only [sizeofPacket] at hlen
  have hopcode := ntohs_loadOpcode_receive host s.incomingPacket (errorPacket reply)
    (by omega) (by decide)
  rw [opcodeOf_errorPacket] at hopcode
  have hnonempty : (errorPacket reply).length ≠ 0 := by omega
  have hnot : ¬ ((5 : UInt16) = TFTPOpcode.ack.code ∧
      ntohs host.order (loadBlockNumber host (s.incomingPacket.receive (errorPacket reply))) =
        s.blockNumber) := fun h => absurd h.1 (by decide)
  simp only [onReceived, hopcode, hnonempty, if_false, hnot]
  rfl

end AwaitState

end Stftpu
