import Stftpu.Transfer.Await
import Stftpu.Transfer.Fill

/-!
# ERROR packets at the three waits

`tftp_transmit_file`, `tftp_receive_file` and `tftp_await_acknowledgement` each test the
opcode of what they receive.  The last two convert the field and compare; the first
compares the field as loaded and converts the outcome, so on a little-endian host it
takes the opcode 0x0500 for ERROR and lets ERROR itself pass.

* `EndsAsPeerError` — what a wait must do with a datagram.
* `peer_errors_little_endian` — when each of the three does it.
-/

namespace Stftpu

open Library

/-- ERROR with its bytes swapped. -/
def swappedErrorOpcode : UInt16 := 1280

/-- A wait ended by a datagram must end by returning `false` when it is an ERROR packet,
and must not end as a peer error when it is not.  `exit` is how the function ended, if
it did. -/
def EndsAsPeerError (datagram : List UInt8) (exit : Option Exit) : Prop :=
  (opcodeOf datagram = TFTPOpcode.error.code → exit.any (fun exit => !exit.value) = true) ∧
    (opcodeOf datagram ≠ TFTPOpcode.error.code → exit ≠ some .peerError)

/-- How a function at a control point ended, if it did. -/
def TransmitPoint.exit : TransmitPoint → Option Exit
  | .returned exit => some exit
  | _ => none

def ReceivePoint.exit : ReceivePoint → Option Exit
  | .returned exit => some exit
  | _ => none

def AwaitPoint.exit : AwaitPoint → Option Exit
  | .returned exit => some exit
  | _ => none

section Transmit

variable {b : BlockSize} {host : Host} {s : TransmitState b} {source : SockAddr}
  {datagram : List UInt8}

/-- On a little-endian host the raw comparison sees the bytes swapped. -/
theorem looksLikeError_little (s : TransmitState b) (source : SockAddr)
    (hlittle : host.order = .little) (hlen : sizeofPacket ≤ datagram.length) :
    (s.received source datagram).looksLikeError host = true ↔
      opcodeOf datagram = swappedErrorOpcode := by
  simp only [sizeofPacket] at hlen
  have hopcode := ntohs_loadOpcode_receive host s.tx.responsePacket datagram
    (by omega) (by decide)
  rw [TransmitState.looksLikeError_iff, TransmitState.received_responsePacket]
  rw [hlittle] at hopcode
  constructor
  · intro hload
    rw [hload] at hopcode
    rw [← hopcode]
    decide
  · intro hswapped
    rw [hswapped] at hopcode
    have hbytes := congrArg wire16 hopcode
    simp only [ntohs, wire16, hiByte_be16, loByte_be16, List.cons.injEq] at hbytes
    obtain ⟨hlow, hhigh, -⟩ := hbytes
    rw [← be16_bytes (loadOpcode host _), hlow, hhigh]
    decide

theorem transmit_peerError_iff (hlittle : host.order = .little)
    (hlen : sizeofPacket ≤ datagram.length)
    (hretry : s.tx.resendCounter < maxRetryCount) :
    EndsAsPeerError datagram (s.onResponse host (.datagram source datagram)).point.exit ↔
      opcodeOf datagram ≠ TFTPOpcode.error.code ∧ opcodeOf datagram ≠ swappedErrorOpcode := by
  have hlooks := looksLikeError_little s source hlittle hlen
  -- neither an attempt left nor the test of the outer loop returns `false`
  have houter : ∀ t : TransmitState b, t.outerTest.point.exit.any (fun exit => !exit.value) =
      false ∧ t.outerTest.point.exit ≠ some .peerError := by
    intro t
    rcases t.outerTest_point with hp | hp <;> simp [hp, TransmitPoint.exit, Exit.value]
  have hgoesOn : (s.received source datagram).looksLikeError host = false →
      (s.onResponse host (.datagram source datagram)).point.exit.any (fun exit => !exit.value) =
        false ∧
      (s.onResponse host (.datagram source datagram)).point.exit ≠ some .peerError := by
    intro herror
    rcases s.onResponse_cases host (.datagram source datagram) with
      ⟨source', bytes, heq, ⟨htrue, -⟩ | ⟨-, -, hres⟩ | ⟨-, -, hres⟩⟩ | ⟨errno, heq, -⟩
    · obtain ⟨rfl, rfl⟩ := RecvResult.datagram.inj heq
      rw [herror] at htrue
      cases htrue
    · rw [hres]
      exact houter _
    · obtain ⟨rfl, rfl⟩ := RecvResult.datagram.inj heq
      rw [hres, (s.received source datagram).retry_of_lt hretry]
      by_cases hnext : s.tx.resendCounter + 1 < maxRetryCount
      · rw [TransmitState.innerTest_lt _ hnext]
        simp [TransmitPoint.exit]
      · rw [TransmitState.innerTest_ge _ hnext]
        exact houter _
    · cases heq
  have hne : TFTPOpcode.error.code ≠ swappedErrorOpcode := by decide
  constructor
  · rintro ⟨hends, hnever⟩
    refine ⟨?_, ?_⟩
    · intro hop
      have herror : (s.received source datagram).looksLikeError host = false := by
        rw [Bool.eq_false_iff, Ne, hlooks, hop]
        exact hne
      rw [(hgoesOn herror).1] at hends
      exact absurd (hends hop) (by decide)
    · intro hop
      refine hnever (by rw [hop]; exact hne.symm) ?_
      simp [TransmitState.onResponse, hlooks.mpr hop, TransmitPoint.exit]
  · rintro ⟨hop, hswapped⟩
    have herror : (s.received source datagram).looksLikeError host = false := by
      rw [Bool.eq_false_iff, Ne, hlooks]
      exact hswapped
    exact ⟨fun h => absurd h hop, fun _ => (hgoesOn herror).2⟩

end Transmit

section Receive

variable {b : BlockSize} {host : Host} {s : ReceiveState b} {source : SockAddr}
  {datagram : List UInt8}

theorem receive_peerError (hpoint : s.point = .awaiting)
    (hlen : sizeofPacket ≤ datagram.length) :
    EndsAsPeerError datagram (s.onPacket host (.datagram source datagram)).point.exit := by
  refine ⟨?_, ?_⟩
  · intro hop
    rw [s.onPacket_error host source hlen hop]
    rfl
  · intro hop
    have hpos : (s.received source datagram).tx.bytesReceived > 0 := by
      simp only [ReceiveState.received, sizeofPacket, dataPacketMaxSize] at *
      omega
    simp only [ReceiveState.onPacket, hpos, if_true, s.looksLikeError_received host source hlen,
      hop, decide_false, Bool.false_eq_true, if_false]
    split
    · unfold ReceiveState.accept
      simp only []
      split <;> simp [ReceivePoint.exit]
    · simp [hpoint, ReceivePoint.exit]

end Receive

section Await

variable {host : Host} {s : AwaitState} {source : SockAddr} {datagram : List UInt8}

theorem AwaitState.loopTest_exit (t : AwaitState) : t.loopTest.point.exit ≠ some .peerError := by
  unfold loopTest
  split <;> simp [AwaitPoint.exit]

theorem await_peerError (hlen : sizeofPacket ≤ datagram.length) :
    EndsAsPeerError datagram (s.onReceived host (.datagram source datagram)).point.exit := by
  simp only [sizeofPacket] at hlen
  have hopcode := ntohs_loadOpcode_receive host s.incomingPacket datagram
    (by omega) (by decide)
  have hnonempty : ¬ datagram.length = 0 := by omega
  simp only [AwaitState.onReceived, hopcode, hnonempty, if_false]
  refine ⟨?_, ?_⟩
  · intro hop
    rw [hop, if_neg (by rintro ⟨hack, -⟩; revert hack; decide), if_pos rfl]
    rfl
  · intro hop
    rw [if_neg hop]
    split
    · simp [AwaitPoint.exit]
    · exact AwaitState.loopTest_exit _

end Await

/-- On a little-endian host, `tftp_receive_file` and `tftp_await_acknowledgement` end as
a peer error on exactly the ERROR packets; `tftp_transmit_file` treats a datagram as it
should exactly when it is neither an ERROR packet nor one with the opcode's bytes
swapped. -/
theorem peer_errors_little_endian (host : Host) (hlittle : host.order = .little)
    (source : SockAddr) {datagram : List UInt8} (hlen : sizeofPacket ≤ datagram.length) :
    (∀ (b : BlockSize) (s s' : TransmitState b) (size : Nat),
      s.point = .awaiting → s.tx.resendCounter < maxRetryCount →
      tftpTransmitFile host s (.recvfrom size (.datagram source datagram)) = some s' →
      (EndsAsPeerError datagram s'.point.exit ↔
        opcodeOf datagram ≠ TFTPOpcode.error.code ∧ opcodeOf datagram ≠ swappedErrorOpcode)) ∧
    (∀ (b : BlockSize) (s s' : ReceiveState b) (size : Nat), s.point = .awaiting →
      tftpReceiveFile host s (.recvfrom size (.datagram source datagram)) = some s' →
      EndsAsPeerError datagram s'.point.exit) ∧
    ∀ (s s' : AwaitState) (size : Nat), s.point = .awaiting →
      tftpAwaitAcknowledgement host s (.recvfrom size (.datagram source datagram)) = some s' →
      EndsAsPeerError datagram s'.point.exit := by
  refine ⟨?_, ?_, ?_⟩
  · intro b s s' size hpoint hretry hstep
    obtain ⟨-, rfl⟩ := transmit_recvfrom hstep
    exact transmit_peerError_iff hlittle hlen hretry
  · intro b s s' size hpoint hstep
    obtain ⟨-, rfl⟩ := receive_recvfrom hstep
    exact receive_peerError hpoint hlen
  · intro s s' size hpoint hstep
    obtain ⟨-, rfl⟩ := await_recvfrom hstep
    exact await_peerError hlen

section FixedRuns

/-- A transfer waiting for the ACK of its first block. -/
def sampleWait : List Event :=
  [.poll false, .poll false, .fread 8 (ascii "contents") false, .poll false,
    .sendto (localhost 50001) (dataPacket 1 (ascii "contents")) true]

/-- The peer reports that its disk is full. -/
def sampleError : List UInt8 :=
  errorPacket { code := 3, message := ascii "disk full", item := none }

/-- An ACK of another block is no peer error. -/
theorem peer_errors_little_endian_ack :
    ∃ s s', Run (tftpTransmitFile littleHost)
        (TransmitState.start sampleOperation sampleTransfer) sampleWait s ∧
      tftpTransmitFile littleHost s
        (.recvfrom responsePacketMaxSize (.datagram (localhost 50001) (ackPacket 7))) = some s' ∧
      EndsAsPeerError (ackPacket 7) s'.point.exit := by
  have hrun : ∃ s, Run (tftpTransmitFile littleHost)
      (TransmitState.start sampleOperation sampleTransfer) sampleWait s ∧
      s.point = .awaiting ∧ s.tx.resendCounter = 0 := exists_run_of_exec (by decide)
  obtain ⟨s, hs, hpoint, hretry⟩ := hrun
  have hstep : tftpTransmitFile littleHost s
      (.recvfrom responsePacketMaxSize (.datagram (localhost 50001) (ackPacket 7))) =
      some (s.onResponse littleHost (.datagram (localhost 50001) (ackPacket 7))) := by
    simp [tftpTransmitFile, hpoint]
  exact ⟨s, _, hs, hstep,
    ((peer_errors_little_endian littleHost rfl (localhost 50001) (by decide)).1 _ s _ _ hpoint
      (by rw [hretry]; decide) hstep).mpr (by decide)⟩

/-- An ERROR packet is answered with the block once more. -/
theorem peer_error_resends :
    opcodeOf sampleError = TFTPOpcode.error.code ∧
    ∃ s, Run (tftpTransmitFile littleHost)
        (TransmitState.start sampleOperation sampleTransfer)
        (sampleWait ++
          [.recvfrom responsePacketMaxSize (.datagram (localhost 50001) sampleError),
            .poll false,
            .sendto (localhost 50001) (dataPacket 1 (ascii "contents")) true]) s ∧
      s.point = .awaiting :=
  ⟨by decide, exists_run_of_exec (by decide)⟩

end FixedRuns

end Stftpu
