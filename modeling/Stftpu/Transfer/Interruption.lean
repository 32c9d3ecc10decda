import Stftpu.Transfer.BoundedWaits

/-!
# Transfers behind a signal

`should_terminate` is set and stays set.  From then on every look at it ends the function,
and what a function of a transfer has left to do is bounded: `left` counts its calls, and
drops with every one of them.  Only the inner loop of `tftp_receive_file` looks neither at
the flag nor at a counter: a datagram that is not the awaited block keeps it where it is.

* `left_fill`, `left_transmit`, `left_receive` — what a call leaves to do.
* `fill_enabled`, `transmit_enabled`, `receive_enabled` — a function that has not returned
  can make a call.
-/

namespace Stftpu

open Library

namespace Event

/-- A look at `should_terminate` finds this value. -/
def finds (value : Bool) : Event → Bool
  | .poll set => set == value
  | _ => true

/-- A datagram is received. -/
def receives : Event → Bool
  | .recvfrom _ (.datagram _ _) => true
  | _ => false

end Event

/-! ## `tftp_fill_transfer_data` -/

namespace FillState

/-- Calls left at most. -/
def left (s : FillState) : Nat :=
  match s.point with
  | .probing => 5
  | .describing => 2
  | .opening => 4
  | .allocatingData _ => 3
  | .allocatingResponse _ _ => 2
  | .failing _ => 1
  | .ready _ _ => 0
  | .failed => 0

theorem left_fail (s : FillState) (reply : ErrorReply) : (s.fail reply).left ≤ 1 := by
  rcases s.fail_point reply with h | h
  · simp [left, h]
  · simp [left, h]

theorem left_start (op : OperationData) (allocated receiver : Bool) :
    (start op allocated receiver).left ≤ 5 := by
  cases allocated with
  | true => cases receiver <;> simp [start, left]
  | false =>
      show (fail _ _).left ≤ 5
      exact le_trans (left_fail _ _) (by decide)

variable {host : Host} {s s' : FillState} {e : Event}

theorem left_step (hstep : tftpFillTransferData host s e = some s') : s'.left < s.left := by
  cases hpoint : s.point with
  | probing =>
      obtain ⟨error, -, ⟨-, rfl⟩ | ⟨-, rfl⟩⟩ := fill_probing hpoint hstep
      · simp [left, hpoint]
      · simp [left, hpoint]
  | describing =>
      obtain ⟨timestamp, -, rfl⟩ := fill_describing hpoint hstep
      apply lt_of_le_of_lt (left_fail _ _)
      simp [left, hpoint]
  | opening =>
      obtain ⟨error, -, ⟨-, rfl⟩ | ⟨errno, -, rfl⟩⟩ := fill_opening hpoint hstep
      · rcases checkBlockSize_cases (s := { s with fileOpen := true }) with ⟨b, hb⟩ | ⟨reply, hb⟩
        · have hafter : ({ s with fileOpen := true } : FillState).checkBlockSize.left = 3 := by
            simp only [left, hb]
          rw [hafter]
          simp [left, hpoint]
        · rw [hb]
          apply lt_of_le_of_lt (left_fail _ _)
          simp [left, hpoint]
      · apply lt_of_le_of_lt (left_fail _ _)
        simp [left, hpoint]
  | allocatingData b =>
      obtain ⟨block, data, -, -, rfl⟩ := fill_allocatingData hpoint hstep
      simp [left, hpoint]
  | allocatingResponse b data =>
      obtain ⟨block, response, -, -, rfl⟩ := fill_allocatingResponse hpoint hstep
      rcases onAllocated_cases (s := s) host data response with ⟨_, _, heq⟩ | ⟨reply, heq⟩
      · rw [heq]
        simp [left, hpoint]
      · rw [heq]
        apply lt_of_le_of_lt (left_fail _ _)
        simp [left, hpoint]
  | failing reply =>
      obtain ⟨ok, -, rfl⟩ := fill_failing hpoint hstep
      simp [left, hpoint]
  | ready b tx => simp [tftpFillTransferData, hpoint] at hstep
  | failed => simp [tftpFillTransferData, hpoint] at hstep

/-- Until it has returned it can make a call. -/
theorem enabled (host : Host) (h : 0 < s.left) :
    ∃ e, e.finds true = true ∧ e.receives = false ∧
      (tftpFillTransferData host s e).isSome = true := by
  cases hpoint : s.point with
  | probing =>
      exact ⟨.fopen s.op.path .read none, rfl, rfl, by simp [tftpFillTransferData, hpoint]⟩
  | describing => exact ⟨.stat s.op.path [], rfl, rfl, by simp [tftpFillTransferData, hpoint]⟩
  | opening =>
      exact ⟨.fopen s.op.path (if s.receiver then .write else .read) none, rfl, rfl,
        by simp [tftpFillTransferData, hpoint]⟩
  | allocatingData b =>
      exact ⟨.malloc (dataPacketMaxSize b) none, rfl, rfl,
        by simp [tftpFillTransferData, hpoint, allocation]⟩
  | allocatingResponse b data =>
      exact ⟨.malloc responsePacketMaxSize none, rfl, rfl,
        by simp [tftpFillTransferData, hpoint, allocation]⟩
  | failing reply =>
      exact ⟨.sendto s.op.peerAddress (errorPacket reply) true, rfl, rfl,
        by simp [tftpFillTransferData, hpoint]⟩
  | ready b tx => simp [left, hpoint] at h
  | failed => simp [left, hpoint] at h

end FillState

/-! ## `tftp_transmit_file` -/

namespace TransmitState

variable {b : BlockSize}

/-- Calls left at most, the flag being set. -/
def left (s : TransmitState b) : Nat :=
  match s.point with
  | .entry => 2
  | .nextBlock => 2
  | .reading => 3
  | .attempt => 2
  | .sending => 4
  | .awaiting => 3
  | .failing _ => 1
  | .returned _ => 0

variable (s : TransmitState b)

theorem left_fail (reply : ErrorReply) : (s.fail reply).left ≤ 1 := by
  rcases s.fail_point reply with h | h
  · simp [left, h]
  · simp [left, h]

theorem left_outerTest : s.outerTest.left ≤ 2 := by
  rcases s.outerTest_point with h | h
  · simp [left, h]
  · simp [left, h]

theorem left_innerTest : s.innerTest.left ≤ 2 := by
  unfold innerTest
  split
  · exact le_refl _
  · exact left_outerTest s

theorem left_retry : s.retry.left ≤ 2 := by
  unfold retry
  split
  · exact le_trans (left_fail _ _) (by omega)
  · exact left_innerTest _

theorem left_onRead (bytes : List UInt8) (eof : Bool) : (s.onRead bytes eof).left ≤ 2 := by
  unfold onRead
  split
  · exact le_trans (left_fail _ _) (by omega)
  · exact left_innerTest _

theorem left_onSent (ok : Bool) : (s.onSent ok).left ≤ 3 := by
  unfold onSent
  split
  · exact le_refl _
  · exact le_trans (left_fail _ _) (by omega)

theorem left_onResponse (host : Host) (result : RecvResult) :
    (s.onResponse host result).left ≤ 2 := by
  rcases s.onResponse_cases host result with
    ⟨source, bytes, -, ⟨-, heq⟩ | ⟨-, -, heq⟩ | ⟨-, -, heq⟩⟩ |
    ⟨errno, -, ⟨-, heq⟩ | ⟨-, reply, heq⟩⟩
  · rw [heq]
    exact Nat.zero_le _
  · rw [heq]
    exact left_outerTest _
  · rw [heq]
    exact left_retry _
  · rw [heq]
    exact left_retry _
  · rw [heq]
    exact le_trans (left_fail _ _) (by omega)

variable {s} {host : Host} {s' : TransmitState b} {e : Event}

theorem left_step (hset : e.finds true = true) (hstep : tftpTransmitFile host s e = some s') :
    s'.left < s.left := by
  cases hpoint : s.point with
  | entry =>
      obtain ⟨set, rfl, rfl⟩ := transmit_entry hpoint hstep
      obtain rfl : set = true := by simpa [Event.finds] using hset
      apply lt_of_le_of_lt (left_fail s _)
      simp [left, hpoint]
  | nextBlock =>
      obtain ⟨set, rfl, rfl⟩ := transmit_nextBlock hpoint hstep
      obtain rfl : set = true := by simpa [Event.finds] using hset
      apply lt_of_le_of_lt (left_fail s _)
      simp [left, hpoint]
  | reading =>
      obtain ⟨bytes, eof, -, -, rfl⟩ := transmit_reading hpoint hstep
      apply lt_of_le_of_lt (left_onRead s bytes eof)
      simp [left, hpoint]
  | attempt =>
      obtain ⟨set, rfl, rfl⟩ := transmit_attempt hpoint hstep
      obtain rfl : set = true := by simpa [Event.finds] using hset
      apply lt_of_le_of_lt (left_fail s _)
      simp [left, hpoint]
  | sending =>
      obtain ⟨ok, -, rfl⟩ := transmit_sending hpoint hstep
      apply lt_of_le_of_lt (left_onSent s ok)
      simp [left, hpoint]
  | awaiting =>
      obtain ⟨result, -, rfl⟩ := transmit_awaiting hpoint hstep
      apply lt_of_le_of_lt (left_onResponse s host result)
      simp [left, hpoint]
  | failing reply =>
      obtain ⟨ok, -, rfl⟩ := transmit_failing hpoint hstep
      simp [left, hpoint]
  | returned exit => rw [transmit_returned hpoint] at hstep; cases hstep

theorem enabled (host : Host) (h : 0 < s.left) :
    ∃ e, e.finds true = true ∧ e.receives = false ∧
      (tftpTransmitFile host s e).isSome = true := by
  cases hpoint : s.point with
  | entry => exact ⟨.poll true, rfl, rfl, by simp [tftpTransmitFile, hpoint]⟩
  | nextBlock => exact ⟨.poll true, rfl, rfl, by simp [tftpTransmitFile, hpoint]⟩
  | reading => exact ⟨.fread b.val [] true, rfl, rfl, by simp [tftpTransmitFile, hpoint]⟩
  | attempt => exact ⟨.poll true, rfl, rfl, by simp [tftpTransmitFile, hpoint]⟩
  | sending =>
      exact ⟨.sendto s.op.peerAddress s.outgoing true, rfl, rfl,
        by simp [tftpTransmitFile, hpoint]⟩
  | awaiting =>
      exact ⟨.recvfrom responsePacketMaxSize (.failed .ETIMEDOUT), rfl, rfl,
        by simp [tftpTransmitFile, hpoint]⟩
  | failing reply =>
      exact ⟨.sendto s.op.peerAddress (errorPacket reply) true, rfl, rfl,
        by simp [tftpTransmitFile, hpoint]⟩
  | returned exit => simp [left, hpoint] at h

end TransmitState

/-! ## `tftp_receive_file` -/

namespace ReceiveState

variable {b : BlockSize}

/-- Calls left at most, the flag being set, besides those that bring a datagram. -/
def left (s : ReceiveState b) : Nat :=
  match s.point with
  | .entry => 2
  | .nextBlock => 2
  | .awaiting => 5 + (maxRetryCount - s.tx.resendCounter)
  | .writing _ => 4
  | .acknowledging => 3
  | .failing _ => 1
  | .returned _ => 0
  | .fault => 0

variable (s : ReceiveState b)

theorem left_fail (reply : ErrorReply) : (s.fail reply).left ≤ 1 := by
  rcases s.fail_point reply with h | h
  · simp [left, h]
  · simp [left, h]

theorem left_accept : s.accept.left ≤ 4 := by
  simp only [accept]
  split
  · exact le_refl _
  · exact Nat.zero_le _

/-- The counter goes up, or the function is about to return. -/
theorem left_missed : s.missed.left < 5 + (maxRetryCount - s.tx.resendCounter) := by
  unfold missed
  split
  · simp only [left]
    omega
  · exact lt_of_le_of_lt (left_fail _ _) (by omega)

theorem left_onWritten (count : Nat) : (s.onWritten count).left ≤ 3 := by
  unfold onWritten
  split
  · exact le_trans (left_fail _ _) (by omega)
  · exact le_refl _

theorem left_onAcknowledged : s.onAcknowledged.left ≤ 2 := by
  unfold onAcknowledged
  rcases outerTest_point
    { s with
      prevBlockNumber := s.prevBlockNumber + 1
      tx := { s.tx with
        resendCounter := 0
        currentBlockNumber := s.tx.currentBlockNumber + 1 } } with h | h
  · simp [left, h]
  · simp [left, h]

variable {s} {host : Host} {s' : ReceiveState b} {e : Event}

/-- A datagram may leave the function where it is; without one it comes closer to its end. -/
theorem left_onPacket (hpoint : s.point = .awaiting) (size : Nat) (result : RecvResult) :
    (s.onPacket host result).left <
      s.left + [Event.recvfrom size result].countP Event.receives := by
  have hleft : s.left = 5 + (maxRetryCount - s.tx.resendCounter) := by simp only [left, hpoint]
  cases result with
  | failed errno =>
      rw [hleft]
      exact left_missed { s with tx := { s.tx with bytesReceived := -1 } }
  | datagram source bytes =>
      have hcount : [Event.recvfrom size (.datagram source bytes)].countP Event.receives = 1 := rfl
      rw [hcount, hleft]
      simp only [onPacket]
      split
      · split
        · simp [left]
        · split
          · exact lt_of_le_of_lt (left_accept _) (by omega)
          · simp [left, received, hpoint]
      · have hmissed := left_missed (s.received source bytes)
        simp only [received] at hmissed ⊢
        omega

theorem left_step (hset : e.finds true = true) (hstep : tftpReceiveFile host s e = some s') :
    s'.left < s.left + [e].countP Event.receives := by
  have hless : s'.left < s.left → s'.left < s.left + [e].countP Event.receives :=
    fun h => Nat.lt_add_right _ h
  cases hpoint : s.point with
  | entry =>
      obtain ⟨set, rfl, rfl⟩ := receive_entry hpoint hstep
      obtain rfl : set = true := by simpa [Event.finds] using hset
      apply hless
      apply lt_of_le_of_lt (left_fail s _)
      simp [left, hpoint]
  | nextBlock =>
      obtain ⟨set, rfl, rfl⟩ := receive_nextBlock hpoint hstep
      obtain rfl : set = true := by simpa [Event.finds] using hset
      apply hless
      apply lt_of_le_of_lt (left_fail s _)
      simp [left, hpoint]
  | awaiting =>
      obtain ⟨result, rfl, rfl⟩ := receive_awaiting hpoint hstep
      exact left_onPacket hpoint _ result
  | writing payload =>
      obtain ⟨count, kept, -, -, rfl⟩ := receive_writing hpoint hstep
      apply hless
      apply lt_of_le_of_lt (left_onWritten s count)
      simp [left, hpoint]
  | acknowledging =>
      obtain ⟨ok, -, rfl⟩ := receive_acknowledging hpoint hstep
      apply hless
      apply lt_of_le_of_lt (left_onAcknowledged s)
      simp [left, hpoint]
  | failing reply =>
      obtain ⟨ok, -, rfl⟩ := receive_failing hpoint hstep
      apply hless
      simp [left, hpoint]
  | returned exit => rw [receive_returned hpoint] at hstep; cases hstep
  | fault => rw [receive_fault hpoint] at hstep; cases hstep

theorem enabled (host : Host) (h : 0 < s.left) :
    ∃ e, e.finds true = true ∧ e.receives = false ∧
      (tftpReceiveFile host s e).isSome = true := by
  cases hpoint : s.point with
  | entry => exact ⟨.poll true, rfl, rfl, by simp [tftpReceiveFile, hpoint]⟩
  | nextBlock => exact ⟨.poll true, rfl, rfl, by simp [tftpReceiveFile, hpoint]⟩
  | awaiting =>
      exact ⟨.recvfrom (dataPacketMaxSize b) (.failed .ETIMEDOUT), rfl, rfl,
        by simp [tftpReceiveFile, hpoint]⟩
  | writing payload => exact ⟨.fwrite payload 0 0, rfl, rfl, by simp [tftpReceiveFile, hpoint]⟩
  | acknowledging =>
      exact ⟨.sendto s.op.peerAddress (ackPacket s.tx.currentBlockNumber) true, rfl, rfl,
        by simp [tftpReceiveFile, hpoint]⟩
  | failing reply =>
      exact ⟨.sendto s.op.peerAddress (errorPacket reply) true, rfl, rfl,
        by simp [tftpReceiveFile, hpoint]⟩
  | returned exit => simp [left, hpoint] at h
  | fault => simp [left, hpoint] at h

end ReceiveState

end Stftpu
