import Stftpu.Transfer.Acknowledged

/-!
# Recovery from a loss

A timeout of the data socket surfaces in `recvfrom` as `EAGAIN`.  The sender takes
`ETIMEDOUT` alone for a timeout and gives up on anything else, so it never sends a block a
second time on account of silence.  The receiver announces that it resends an
acknowledgement, and sends none.

* `TransmitState.Recovers` — what a sender must do with silence and a late ACK.
* `sender_recovers_iff` — when it does.
* `ReceiveState.ResendsAck` — what a receiver must do with silence and a block once more.
* `ReceiveState.acks_run` — the ACKs of a run: one for each block, none twice.
* `receiver_never_resends` — so it never does.
-/

namespace Stftpu

open Library

/-! ## The sender -/

namespace TransmitState

variable {b : BlockSize} {host : Host} {s : TransmitState b} {errno : Errno} {k : Nat}
  {answer : RecvResult}

/-- Attempts to get a packet acknowledged, one for each answer. -/
def attempts (peer : SockAddr) (packet : List UInt8) (answers : List RecvResult) :
    List Event :=
  answers.flatMap fun result =>
    [.poll false, .sendto peer packet true, .recvfrom responsePacketMaxSize result]

theorem attempts_append (peer : SockAddr) (packet : List UInt8) (l l' : List RecvResult) :
    attempts peer packet (l ++ l') = attempts peer packet l ++ attempts peer packet l' := by
  simp [attempts]

/-- Where the function goes on behind the block it has sent: to the next one, or to its
return when this one was not full. -/
def Finished (b : BlockSize) (s t : TransmitState b) : Prop :=
  t.point =
    if s.tx.latestFileBytesRead = b.val then .nextBlock else .returned .success

/-- With `k` receives that fail and then the answer, the block is sent `k + 1` times, the
same packet each time, nothing else is sent, and the function goes on. -/
def Recovers (host : Host) (s : TransmitState b) (errno : Errno) (k : Nat)
    (answer : RecvResult) : Prop :=
  ∃ t, Run (tftpTransmitFile host) s
      (attempts s.op.peerAddress (dataPacket s.tx.currentBlockNumber s.payload)
        (List.replicate k (.failed errno) ++ [answer])) t ∧
    Finished b s t

/-- The state in which the answer to a copy of the block is awaited. -/
def copySent (s : TransmitState b) : TransmitState b :=
  { s with point := .sending }.onSent true

theorem run_attempt (hpoint : s.point = .attempt) (answer : RecvResult) :
    Run (tftpTransmitFile host) s (attempts s.op.peerAddress s.outgoing [answer])
      (s.copySent.onResponse host answer) := by
  refine Run.cons (t := { s with point := .sending }) ?_ (Run.cons (t := s.copySent) ?_
    (Run.single ?_))
  · simp [tftpTransmitFile, hpoint]
  · simp [tftpTransmitFile, copySent, outgoing]
  · simp [tftpTransmitFile, copySent, onSent]

/-- A receive that timed out with attempts left leads to the next one. -/
theorem onResponse_timeout (host : Host) (s : TransmitState b)
    (hlt : s.tx.resendCounter + 1 < maxRetryCount) :
    (s.copySent.onResponse host (.failed .ETIMEDOUT)).point = .attempt ∧
      (s.copySent.onResponse host (.failed .ETIMEDOUT)).op = s.op ∧
      (s.copySent.onResponse host (.failed .ETIMEDOUT)).tx.dataPacket = s.tx.dataPacket ∧
      (s.copySent.onResponse host (.failed .ETIMEDOUT)).tx.currentBlockNumber =
        s.tx.currentBlockNumber ∧
      (s.copySent.onResponse host (.failed .ETIMEDOUT)).tx.latestFileBytesRead =
        s.tx.latestFileBytesRead ∧
      (s.copySent.onResponse host (.failed .ETIMEDOUT)).tx.resendCounter =
        s.tx.resendCounter + 1 := by
  have hcounter : ¬ s.tx.resendCounter > maxRetryCount := by omega
  have hresponse : s.copySent.onResponse host (.failed .ETIMEDOUT) =
      { s.copySent with
        point := .attempt
        tx := { s.copySent.tx with
          bytesReceived := -1
          resendCounter := s.tx.resendCounter + 1 } } := by
    simp [onResponse, copySent, onSent, retry, innerTest, hcounter, hlt]
  rw [hresponse]
  simp [copySent, onSent]

/-- The ACK of the block, whatever came before it. -/
theorem finished_ack (hack : IsAckOf s.tx.currentBlockNumber answer) :
    Finished b s (s.copySent.onResponse host answer) := by
  cases answer with
  | failed errno => exact hack.elim
  | datagram source bytes =>
      obtain ⟨hlen, hop, hnum⟩ := hack
      have hresponse : s.copySent.onResponse host (.datagram source bytes) =
          (s.copySent.received source bytes).outerTest :=
        s.copySent.onResponse_ack host hlen hop (by simpa [copySent, onSent] using hnum)
      rw [hresponse]
      have hsent : (s.copySent.received source bytes).tx.bytesSent =
          sizeofPacket + s.tx.latestFileBytesRead := rfl
      unfold Finished outerTest
      rw [hsent]
      by_cases hfull : s.tx.latestFileBytesRead = b.val
      · simp [hfull, dataPacketMaxSize]
      · have hshort : ¬ ((sizeofPacket : Int) + s.tx.latestFileBytesRead =
            (dataPacketMaxSize b : Nat)) := by
          simp only [dataPacketMaxSize]
          omega
        rw [if_neg hshort, if_neg hfull]

/-- Silence reported as `ETIMEDOUT` is recovered from, as often as the counter allows. -/
theorem run_timeouts (hpoint : s.point = .attempt)
    (hlt : s.tx.resendCounter + k < maxRetryCount)
    (hack : IsAckOf s.tx.currentBlockNumber answer) :
    ∃ t, Run (tftpTransmitFile host) s
        (attempts s.op.peerAddress s.outgoing
          (List.replicate k (.failed .ETIMEDOUT) ++ [answer])) t ∧ Finished b s t := by
  induction k generalizing s with
  | zero => exact ⟨_, run_attempt hpoint answer, finished_ack hack⟩
  | succ k ih =>
      obtain ⟨hpoint', hop, hpacket, hnumber, hread, hcounter⟩ :=
        s.onResponse_timeout host (by omega)
      have houtgoing : (s.copySent.onResponse host (.failed .ETIMEDOUT)).outgoing =
          s.outgoing := by
        simp only [outgoing, hpacket, hread]
      -- behind the first timeout the state differs in its counters only
      obtain ⟨t, hrun, hfinished⟩ := ih hpoint' (by rw [hcounter]; omega)
        (by rw [hnumber]; exact hack)
      rw [hop, houtgoing] at hrun
      refine ⟨t, ?_, by simpa [Finished, hread] using hfinished⟩
      rw [List.replicate_succ, List.cons_append, ← List.singleton_append, attempts_append]
      exact (run_attempt hpoint (.failed .ETIMEDOUT)).append hrun

/-- Any other failure of a receive ends the attempts. -/
theorem not_run_behind_failure (hpoint : s.point = .attempt) (herrno : errno ≠ .ETIMEDOUT)
    (packet : List UInt8) (answers : List RecvResult) (hne : answers ≠ []) (t : TransmitState b) :
    ¬ Run (tftpTransmitFile host) s
      (attempts s.op.peerAddress packet (.failed errno :: answers)) t := by
  intro hrun
  rw [← List.singleton_append, attempts_append] at hrun
  obtain ⟨u, hfirst, hrest⟩ := hrun.split
  obtain ⟨first, rest, rfl⟩ := List.exists_cons_of_ne_nil hne
  obtain ⟨v, hpoll, -⟩ := Run.of_cons hrest
  -- the state behind the failure is about to send an ERROR packet, or has returned
  have hdoomed : u.Doomed := by
    obtain ⟨s₁, h₁, hfirst⟩ := Run.of_cons hfirst
    obtain ⟨s₂, h₂, hfirst⟩ := Run.of_cons hfirst
    have h₃ := hfirst.step_of_single
    obtain ⟨set, he₁, rfl⟩ := transmit_attempt hpoint h₁
    obtain rfl := Event.poll.inj he₁
    obtain ⟨ok, he₂, rfl⟩ := transmit_sending rfl h₂
    obtain ⟨-, -, rfl⟩ := Event.sendto.inj he₂
    obtain ⟨result, he₃, rfl⟩ := transmit_awaiting rfl h₃
    obtain ⟨-, rfl⟩ := Event.recvfrom.inj he₃
    simp only [onResponse, if_neg herrno]
    exact doomed_fail _
  rcases hdoomed with ⟨reply, hp⟩ | hp | hp
  · obtain ⟨ok, he, -⟩ := transmit_failing hp hpoll
    cases he
  · rw [transmit_returned hp] at hpoll
    cases hpoll
  · rw [transmit_returned hp] at hpoll
    cases hpoll

/-- A sender recovers from a silence that `recvfrom` reports as `ETIMEDOUT`, and from no
other. -/
theorem recovers_iff (hpoint : s.point = .attempt) (hframed : s.Framed)
    (hfirst : s.tx.resendCounter = 0) (hk : k < maxRetryCount)
    (hack : IsAckOf s.tx.currentBlockNumber answer) :
    Recovers host s errno k answer ↔ k = 0 ∨ errno = .ETIMEDOUT := by
  have houtgoing : s.outgoing = dataPacket s.tx.currentBlockNumber s.payload := by
    simp only [Framed, hpoint] at hframed
    exact outgoing_eq hframed.1
  unfold Recovers
  rw [← houtgoing]
  constructor
  · rintro ⟨t, hrun, -⟩
    by_contra hnot
    push Not at hnot
    obtain ⟨j, rfl⟩ := Nat.exists_eq_succ_of_ne_zero hnot.1
    rw [List.replicate_succ, List.cons_append] at hrun
    exact not_run_behind_failure hpoint hnot.2 _ _ (by simp) t hrun
  · rintro (rfl | rfl)
    · exact ⟨_, run_attempt hpoint answer, finished_ack hack⟩
    · exact run_timeouts hpoint (by omega) hack

end TransmitState

/-- Whatever the file, the block size and the block, when its first `k` receives time out
and the next one yields its ACK, `tftp_transmit_file` sends it `k + 1` times and goes on
exactly when `k` is zero. -/
theorem sender_recovers_iff (host : Host) {b : BlockSize} {op : OperationData}
    {tx : TransferData b} {history : List Event} {s : TransmitState b} {k : Nat}
    {answer : RecvResult}
    (h : Run (tftpTransmitFile host) (TransmitState.start op tx) history s)
    (hpoint : s.point = .attempt) (hfirst : s.tx.resendCounter = 0) (hk : k < maxRetryCount)
    (hack : IsAckOf s.tx.currentBlockNumber answer) :
    TransmitState.Recovers host s .EAGAIN k answer ↔ k = 0 := by
  rw [TransmitState.recovers_iff hpoint (TransmitState.framed_run h) hfirst hk hack]
  simp

section FixedRuns

/-- A transfer about to send its first block. -/
def sampleAttempt : List Event :=
  [.poll false, .poll false, .fread 8 (ascii "contents") false]

/-- The ACK arrives at once. -/
theorem sender_recovers_at_once :
    ∃ s, Run (tftpTransmitFile littleHost) (TransmitState.start sampleOperation sampleTransfer)
        sampleAttempt s ∧
      TransmitState.Recovers littleHost s .EAGAIN 0 (ackFrom 1) := by
  have hrun : ∃ s, Run (tftpTransmitFile littleHost)
      (TransmitState.start sampleOperation sampleTransfer) sampleAttempt s ∧
      s.point = .attempt ∧ s.tx.resendCounter = 0 ∧ s.tx.currentBlockNumber = 1 :=
    exists_run_of_exec (by decide)
  obtain ⟨s, hs, hpoint, hfirst, hnumber⟩ := hrun
  refine ⟨s, hs, ?_⟩
  exact (sender_recovers_iff littleHost hs hpoint hfirst (by decide)
    (by rw [hnumber]; decide)).mpr rfl

/-- One timeout, and the sender reports an error and gives up. -/
theorem sender_gives_up :
    ∃ s, Run (tftpTransmitFile littleHost) (TransmitState.start sampleOperation sampleTransfer)
        sampleAttempt s ∧ s.point = .attempt ∧ s.tx.resendCounter = 0 ∧
      IsAckOf s.tx.currentBlockNumber (ackFrom 1) ∧
      ¬ TransmitState.Recovers littleHost s .EAGAIN 1 (ackFrom 1) ∧
      ∃ t, Run (tftpTransmitFile littleHost) s
        [.poll false, .sendto (localhost 50001) (dataPacket 1 (ascii "contents")) true,
          .recvfrom responsePacketMaxSize (.failed .EAGAIN),
          .sendto (localhost 50001)
            (errorPacket { code := 0, message := ascii "Socket rx error", item := none }) true] t ∧
        t.point = .returned .failure := by
  have hrun : ∃ s, Run (tftpTransmitFile littleHost)
      (TransmitState.start sampleOperation sampleTransfer) sampleAttempt s ∧
      s.point = .attempt ∧ s.tx.resendCounter = 0 ∧ s.tx.currentBlockNumber = 1 :=
    exists_run_of_exec (by decide)
  have hend : ∃ t, Run (tftpTransmitFile littleHost)
      (TransmitState.start sampleOperation sampleTransfer)
      (sampleAttempt ++
        [.poll false, .sendto (localhost 50001) (dataPacket 1 (ascii "contents")) true,
          .recvfrom responsePacketMaxSize (.failed .EAGAIN),
          .sendto (localhost 50001)
            (errorPacket { code := 0, message := ascii "Socket rx error", item := none }) true]) t ∧
      t.point = .returned .failure := exists_run_of_exec (by decide)
  obtain ⟨s, hs, hpoint, hfirst, hnumber⟩ := hrun
  obtain ⟨t, ht, hreturned⟩ := hend
  obtain ⟨s', hs', hrest⟩ := ht.split
  obtain rfl := hs'.deterministic hs
  have hack : IsAckOf s'.tx.currentBlockNumber (ackFrom 1) := by
    rw [hnumber]
    decide
  refine ⟨s', hs, hpoint, hfirst, hack, ?_, t, hrest, hreturned⟩
  rw [TransmitState.recovers_iff hpoint (TransmitState.framed_run hs) hfirst (by decide) hack]
  decide

end FixedRuns

/-! ## The receiver -/

/-- The packets handed to `sendto` that are ACKs. -/
def acksSent (tr : List Event) : List (List UInt8) :=
  tr.filterMap fun e =>
    match e with
    | .sendto _ packet _ => if opcodeOf packet = TFTPOpcode.ack.code then some packet else none
    | _ => none

theorem acksSent_snoc (tr : List Event) (e : Event) :
    acksSent (tr ++ [e]) = acksSent tr ++ acksSent [e] := by
  simp [acksSent]

/-- The ACKs of the first `m` blocks, one each. -/
def ackPackets (m : Nat) : List (List UInt8) :=
  (List.range m).map fun i => ackPacket (UInt16.ofNat (i + 1))

namespace ReceiveState

variable {b : BlockSize} {host : Host} {op : OperationData} {tx : TransferData b}
  {s s' : ReceiveState b} {e : Event} {tr : List Event} {m : Nat} {result : RecvResult}

/-- The two block numbers behind `m` blocks, at each control point. -/
def Numbered (m : Nat) (s : ReceiveState b) : Prop :=
  match s.point with
  | .entry => m = 0 ∧ s.prevBlockNumber = 0
  | .nextBlock | .awaiting | .writing _ | .acknowledging =>
      s.tx.currentBlockNumber = UInt16.ofNat (m + 1) ∧ s.prevBlockNumber = UInt16.ofNat m
  | _ => True

theorem numbered_fail (reply : ErrorReply) : (s.fail reply).Numbered m := by
  rcases s.fail_point reply with h | h <;> simp [Numbered, h]

/-- What arrives while a block is awaited changes no number. -/
theorem numbered_onPacket (hpoint : s.point = .awaiting) (h : s.Numbered m) :
    (s.onPacket host result).Numbered m := by
  simp only [Numbered, hpoint] at h
  have hmissed : ∀ t : ReceiveState b, t.tx.currentBlockNumber = s.tx.currentBlockNumber →
      t.prevBlockNumber = s.prevBlockNumber → t.missed.Numbered m := by
    intro t hcurrent hprev
    unfold missed
    split
    · simpa [Numbered, hcurrent, hprev] using h
    · exact numbered_fail _
  cases result with
  | failed errno => exact hmissed _ rfl rfl
  | datagram source bytes =>
      simp only [onPacket]
      split
      · split
        · trivial
        · split
          · unfold accept
            simp only []
            split
            · exact h
            · trivial
          · simpa [Numbered, hpoint, received] using h
      · exact hmissed _ rfl rfl

/-- A step sends the ACK of the block just written, or no ACK. -/
theorem acks_step (h : s.Numbered m) (hstep : tftpReceiveFile host s e = some s') :
    ∃ m', s'.Numbered m' ∧ ackPackets m' = ackPackets m ++ acksSent [e] := by
  cases hpoint : s.point with
  | entry =>
      obtain ⟨set, rfl, rfl⟩ := receive_entry hpoint hstep
      refine ⟨m, ?_, by simp [acksSent]⟩
      simp only [Numbered, hpoint] at h
      obtain ⟨rfl, hprev⟩ := h
      cases set with
      | true => exact numbered_fail _
      | false => exact ⟨rfl, hprev⟩
  | nextBlock =>
      obtain ⟨set, rfl, rfl⟩ := receive_nextBlock hpoint hstep
      refine ⟨m, ?_, by simp [acksSent]⟩
      cases set with
      | true => exact numbered_fail _
      | false => simpa [Numbered, hpoint] using h
  | awaiting =>
      obtain ⟨result, rfl, rfl⟩ := receive_awaiting hpoint hstep
      exact ⟨m, numbered_onPacket hpoint h, by simp [acksSent]⟩
  | writing payload =>
      obtain ⟨count, kept, rfl, -, rfl⟩ := receive_writing hpoint hstep
      refine ⟨m, ?_, by simp [acksSent]⟩
      unfold onWritten
      split
      · exact numbered_fail _
      · simpa [Numbered, hpoint] using h
  | acknowledging =>
      -- the one call that sends an ACK moves both numbers on
      obtain ⟨ok, rfl, rfl⟩ := receive_acknowledging hpoint hstep
      simp only [Numbered, hpoint] at h
      obtain ⟨hcurrent, hprev⟩ := h
      refine ⟨m + 1, ?_, ?_⟩
      · have hnumbers : (s.onAcknowledged).tx.currentBlockNumber = UInt16.ofNat (m + 1 + 1) ∧
            s.onAcknowledged.prevBlockNumber = UInt16.ofNat (m + 1) := by
          constructor
          · simp [onAcknowledged, hcurrent, UInt16.ofNat_add]
          · simp [onAcknowledged, hprev, UInt16.ofNat_add]
        have hpoint' : s.onAcknowledged.point = .nextBlock ∨
            s.onAcknowledged.point = .returned .success := outerTest_point _
        unfold Numbered
        rcases hpoint' with hp | hp
        · rw [hp]
          exact hnumbers
        · rw [hp]
          trivial
      · simp [ackPackets, List.range_succ, acksSent, hcurrent, TFTPOpcode.code]
  | failing reply =>
      obtain ⟨ok, rfl, rfl⟩ := receive_failing hpoint hstep
      refine ⟨m, trivial, ?_⟩
      simp [acksSent, TFTPOpcode.code]
  | returned exit =>
      rw [receive_returned hpoint] at hstep
      cases hstep
  | fault =>
      rw [receive_fault hpoint] at hstep
      cases hstep

/-- The ACKs sent in a run are those of the blocks received, in order and none twice. -/
theorem acks_run (h : Run (tftpReceiveFile host) (start op tx) tr s) :
    ∃ m, s.Numbered m ∧ acksSent tr = ackPackets m := by
  induction h with
  | nil => exact ⟨0, ⟨rfl, rfl⟩, rfl⟩
  | @snoc tr t u e _ hlast ih =>
      obtain ⟨m, hnumbered, hacks⟩ := ih
      obtain ⟨m', hnumbered', hacks'⟩ := acks_step hnumbered hlast
      exact ⟨m', hnumbered', by rw [acksSent_snoc, hacks, hacks']⟩

/-- What must make a receiver send its last ACK again: a receive that fails while the
counter is below the limit, or the last block once more. -/
def CallsForAck (s : ReceiveState b) : RecvResult → Prop
  | .failed _ => s.tx.resendCounter < maxRetryCount
  | .datagram _ bytes =>
      bytes = [] ∧ s.tx.resendCounter < maxRetryCount ∨
        sizeofPacket ≤ bytes.length ∧ opcodeOf bytes = TFTPOpcode.data.code ∧
          blockNumberOf bytes = s.prevBlockNumber

/-- Behind the receive and before the next one, the last ACK is sent to the peer, nothing
is written, and the same block is awaited. -/
def ResendsAck (host : Host) (s : ReceiveState b) (result : RecvResult) : Prop :=
  ∃ tr t ok, Run (tftpReceiveFile host) s
      (.recvfrom (dataPacketMaxSize b) result :: tr) t ∧
    .sendto t.op.peerAddress (ackPacket s.prevBlockNumber) ok ∈ tr ∧
    (∀ size result', .recvfrom size result' ∉ tr) ∧
    (∀ bytes count kept, .fwrite bytes count kept ∉ tr) ∧
    t.point = .awaiting ∧ t.tx.currentBlockNumber = s.tx.currentBlockNumber ∧
    t.prevBlockNumber = s.prevBlockNumber

/-- The receiver goes on waiting, with nothing written and no number changed, whatever
calls for its ACK. -/
theorem awaiting_of_callsForAck (hpoint : s.point = .awaiting) (hnumbered : s.Numbered m)
    (hcalls : s.CallsForAck result) :
    (s.onPacket host result).point = .awaiting ∧
      (s.onPacket host result).tx.currentBlockNumber = s.tx.currentBlockNumber ∧
      (s.onPacket host result).prevBlockNumber = s.prevBlockNumber := by
  cases result with
  | failed errno =>
      have hlt : s.tx.resendCounter < maxRetryCount := hcalls
      simp [onPacket, missed, hlt]
  | datagram source bytes =>
      rcases hcalls with ⟨rfl, hlt⟩ | ⟨hlen, hop, hnum⟩
      · simp [onPacket, received, missed, hlt]
      · have herror : opcodeOf bytes ≠ TFTPOpcode.error.code := by
          rw [hop]
          decide
        -- the last block is not the awaited one, not even behind the wrap at 65536
        have hother : blockNumberOf bytes ≠ s.tx.currentBlockNumber := by
          simp only [Numbered, hpoint] at hnumbered
          rw [hnum, hnumbered.1, hnumbered.2]
          intro heq
          have hresidues := congrArg UInt16.toNat heq
          simp only [UInt16.toNat_ofNat'] at hresidues
          omega
        have hpos : (s.received source bytes).tx.bytesReceived > 0 := by
          simp only [received, sizeofPacket, dataPacketMaxSize] at *
          omega
        have hstays : s.onPacket host (.datagram source bytes) = s.received source bytes := by
          simp [onPacket, hpos, s.looksLikeError_received host source hlen, herror,
            s.looksAwaited_received host source hlen, hother]
        rw [hstays]
        exact ⟨hpoint, rfl, rfl⟩

theorem not_resendsAck (hpoint : s.point = .awaiting) (hnumbered : s.Numbered m)
    (hcalls : s.CallsForAck result) : ¬ ResendsAck host s result := by
  rintro ⟨tr, t, ok, hrun, hsent, hreceives, -, -⟩
  obtain ⟨u, hfirst, hrest⟩ := hrun.of_cons
  obtain ⟨-, rfl⟩ := receive_recvfrom hfirst
  cases tr with
  | nil => simp at hsent
  | cons e tr =>
      -- the next call is already the next receive
      obtain ⟨v, hnext, -⟩ := hrest.of_cons
      obtain ⟨result', rfl, -⟩ :=
        receive_awaiting (awaiting_of_callsForAck hpoint hnumbered hcalls).1 hnext
      exact hreceives _ result' List.mem_cons_self

end ReceiveState

/-- In no state in which `tftp_receive_file` waits for a block does it send the last ACK
again, neither on a failed receive nor on the last block once more. -/
theorem receiver_never_resends (host : Host) {b : BlockSize} {op : OperationData}
    {tx : TransferData b} {history : List Event} {s : ReceiveState b} {result : RecvResult}
    (h : Run (tftpReceiveFile host) (ReceiveState.start op tx) history s)
    (hpoint : s.point = .awaiting) (hcalls : s.CallsForAck result) :
    ¬ ReceiveState.ResendsAck host s result := by
  obtain ⟨m, hnumbered, -⟩ := ReceiveState.acks_run h
  exact ReceiveState.not_resendsAck hpoint hnumbered hcalls

section FixedRuns

/-- A transfer that has received its first block and waits for the second. -/
def sampleReceived : List Event :=
  [.poll false, .poll false,
    .recvfrom 12 (.datagram (localhost 50001) (dataPacket 1 (ascii "contents"))),
    .fwrite (ascii "contents") 8 0, .sendto (localhost 50001) (ackPacket 1) true, .poll false]

instance {b : BlockSize} (s : ReceiveState b) : DecidablePred s.CallsForAck
  | .failed _ => inferInstanceAs (Decidable (s.tx.resendCounter < maxRetryCount))
  | .datagram _ bytes =>
      inferInstanceAs (Decidable (bytes = [] ∧ s.tx.resendCounter < maxRetryCount ∨
        sizeofPacket ≤ bytes.length ∧ opcodeOf bytes = TFTPOpcode.data.code ∧
          blockNumberOf bytes = s.prevBlockNumber))

/-- A timeout behind the first block. -/
theorem receiver_never_resends_timeout :
    ∃ s, Run (tftpReceiveFile littleHost) (ReceiveState.start sampleOperation sampleTransfer)
        sampleReceived s ∧ acksSent sampleReceived = [ackPacket 1] ∧
      ¬ ReceiveState.ResendsAck littleHost s (.failed .EAGAIN) := by
  have hrun : ∃ s, Run (tftpReceiveFile littleHost)
      (ReceiveState.start sampleOperation sampleTransfer) sampleReceived s ∧
      s.point = .awaiting ∧ s.CallsForAck (.failed .EAGAIN) := exists_run_of_exec (by decide)
  obtain ⟨s, hs, hpoint, hcalls⟩ := hrun
  exact ⟨s, hs, by decide, receiver_never_resends littleHost hs hpoint hcalls⟩

/-- The first block once more, its ACK having been lost: the receiver waits on. -/
theorem receiver_ignores_repeat :
    ∃ s, Run (tftpReceiveFile littleHost) (ReceiveState.start sampleOperation sampleTransfer)
        sampleReceived s ∧ s.point = .awaiting ∧ s.prevBlockNumber = 1 ∧
      s.CallsForAck (.datagram (localhost 50001) (dataPacket 1 (ascii "contents"))) ∧
      ¬ ReceiveState.ResendsAck littleHost s
        (.datagram (localhost 50001) (dataPacket 1 (ascii "contents"))) := by
  have hrun : ∃ s, Run (tftpReceiveFile littleHost)
      (ReceiveState.start sampleOperation sampleTransfer) sampleReceived s ∧
      s.point = .awaiting ∧ s.prevBlockNumber = 1 ∧
      s.CallsForAck (.datagram (localhost 50001) (dataPacket 1 (ascii "contents"))) :=
    exists_run_of_exec (by decide)
  obtain ⟨s, hs, hpoint, hprev, hcalls⟩ := hrun
  obtain ⟨m, hnumbered, -⟩ := ReceiveState.acks_run hs
  exact ⟨s, hs, hpoint, hprev, hcalls, ReceiveState.not_resendsAck hpoint hnumbered hcalls⟩

end FixedRuns

end Stftpu
