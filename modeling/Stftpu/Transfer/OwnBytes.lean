import Stftpu.Transfer.Fill

/-!
# The bytes a block is taken from

The tests of `tftp_receive_file` read the header from the packet buffer, and the number of
bytes received is not looked at before the payload's length is computed from it.  A datagram
too short for a header is completed by what earlier datagrams left in the buffer, and one
too long for the buffer is cut.

* `ReceiveState.AcceptsOwn` — what is accepted is the datagram's own block.
* `ReceiveState.Unmistakable` — the datagrams that cannot be accepted for anything else.
* `accepts_own_iff` — the runs in which every block accepted is its datagram's own.
-/

namespace Stftpu

open Library

namespace ReceiveState

variable {b : BlockSize} {host : Host} {s t : ReceiveState b} {e : Event} {source : SockAddr}
  {bytes : List UInt8} {tr : List Event}

/-- The datagram has been taken for the awaited block: its payload is written next, or lies
behind the buffer. -/
def Accepted (t : ReceiveState b) : Prop :=
  (∃ payload, t.point = .writing payload) ∨ t.point = .fault

/-- What was accepted behind the datagram is the awaited block, in the datagram's own bytes
and whole, and the length handed to `fwrite` is that of its payload. -/
structure OwnBlock (s t : ReceiveState b) (bytes : List UInt8) : Prop where
  header : sizeofPacket ≤ bytes.length
  opcode : opcodeOf bytes = TFTPOpcode.data.code
  number : blockNumberOf bytes = s.tx.currentBlockNumber
  size : t.payloadSize = bytes.length - sizeofPacket
  size_le : t.payloadSize ≤ b.val
  payload : t.point = .writing (bytes.drop sizeofPacket)

/-- Whatever a step accepts is its datagram's own block. -/
def AcceptsOwn (host : Host) (s : ReceiveState b) (e : Event) : Prop :=
  ∀ size source bytes t, e = .recvfrom size (.datagram source bytes) →
    tftpReceiveFile host s e = some t → t.Accepted → OwnBlock s t bytes

/-- A datagram and what earlier ones left behind it in the buffer. -/
def completed (s : ReceiveState b) (bytes : List UInt8) : List UInt8 :=
  bytes ++ s.tx.dataPacket.bytes.drop bytes.length

/-- A datagram shorter than a header that the buffer completes to the header of the awaited
block. -/
def Completes (s : ReceiveState b) (bytes : List UInt8) : Prop :=
  bytes ≠ [] ∧ bytes.length < sizeofPacket ∧
    opcodeOf (s.completed bytes) = TFTPOpcode.data.code ∧
    blockNumberOf (s.completed bytes) = s.tx.currentBlockNumber

instance (s : ReceiveState b) : DecidablePred s.Completes :=
  fun bytes => inferInstanceAs (Decidable (bytes ≠ [] ∧ bytes.length < sizeofPacket ∧
    opcodeOf (s.completed bytes) = TFTPOpcode.data.code ∧
    blockNumberOf (s.completed bytes) = s.tx.currentBlockNumber))

/-- A datagram shorter than a header is not completed to the header of the awaited block,
and the awaited block itself fits the buffer. -/
def Unmistakable (s : ReceiveState b) : Event → Prop
  | .recvfrom _ (.datagram _ bytes) =>
      s.point = .awaiting →
        ¬ s.Completes bytes ∧
        (opcodeOf bytes = TFTPOpcode.data.code → blockNumberOf bytes = s.tx.currentBlockNumber →
          bytes.length ≤ dataPacketMaxSize b)
  | _ => True

/-! ### What a datagram is taken for -/

theorem not_accepted_fail (reply : ErrorReply) : ¬ (s.fail reply).Accepted := by
  rcases s.fail_point reply with h | h <;> simp [Accepted, h]

theorem not_fault_fail (reply : ErrorReply) : (s.fail reply).point ≠ .fault :=
  fun h => not_accepted_fail reply (Or.inr h)

theorem not_fault_missed : s.missed.point ≠ .fault := by
  unfold missed
  split
  · simp
  · exact not_fault_fail _

theorem accepted_accept : s.accept.Accepted := by
  unfold accept
  simp only []
  split
  · exact Or.inl ⟨_, rfl⟩
  · exact Or.inr rfl

@[simp] theorem accept_payloadSize : s.accept.payloadSize = s.payloadSize := by
  unfold accept
  simp only []
  split <;> rfl

/-- With less than a header received, the length wraps to nearly `2 ^ 64`. -/
theorem payloadSize_short (s : ReceiveState b) (source : SockAddr)
    (hlen : bytes.length < sizeofPacket) :
    (s.received source bytes).payloadSize = 2 ^ 64 + bytes.length - sizeofPacket := by
  simp only [payloadSize, received, sizeofPacket, dataPacketMaxSize] at *
  omega

/-- The tests see a datagram with what stands behind it in the buffer. -/
theorem looksLikeError_completed (source : SockAddr) (bytes : List UInt8) :
    (s.received source bytes).looksLikeError host = true ↔
      opcodeOf (s.completed bytes) = TFTPOpcode.error.code := by
  have hopcode := ntohs_loadOpcode_completed host s.tx.dataPacket bytes
    (by simp only [dataPacketMaxSize, sizeofPacket]; omega)
  rw [looksLikeError, decide_eq_true_eq]
  exact Eq.congr_left hopcode

theorem looksAwaited_completed (source : SockAddr) (bytes : List UInt8) :
    (s.received source bytes).looksAwaited host = true ↔
      opcodeOf (s.completed bytes) = TFTPOpcode.data.code ∧
        blockNumberOf (s.completed bytes) = s.tx.currentBlockNumber := by
  have hopcode := ntohs_loadOpcode_completed host s.tx.dataPacket bytes
    (by simp only [dataPacketMaxSize, sizeofPacket]; omega)
  have hnumber := ntohs_loadBlockNumber_completed host s.tx.dataPacket bytes
    (by simp only [dataPacketMaxSize, sizeofPacket]; omega)
  rw [looksAwaited, Bool.and_eq_true, decide_eq_true_eq, decide_eq_true_eq]
  exact and_congr (Eq.congr_left hopcode) (Eq.congr_left hnumber)

/-- `bytes_received` behind a nonempty datagram. -/
theorem received_pos (s : ReceiveState b) (source : SockAddr) (hne : bytes ≠ []) :
    (s.received source bytes).tx.bytesReceived > 0 := by
  have hlen : 0 < bytes.length := List.length_pos_iff.mpr hne
  simp only [received, dataPacketMaxSize, sizeofPacket]
  omega

/-- The buffer holds a whole block behind the header. -/
theorem payload_length (s : ReceiveState b) (source : SockAddr) :
    ((s.received source bytes).tx.dataPacket.bytes.drop sizeofPacket).length = b.val := by
  rw [List.length_drop, Buffer.length_eq, dataPacketMaxSize]
  omega

/-- A block that looks awaited is accepted with the bytes of the buffer. -/
theorem onPacket_eq_accept (hne : bytes ≠ [])
    (hlooks : (s.received source bytes).looksAwaited host = true) :
    s.onPacket host (.datagram source bytes) = (s.received source bytes).accept := by
  have hpos := received_pos s source hne
  -- an awaited block has the opcode of DATA, so it is no ERROR packet
  have hnoError : (s.received source bytes).looksLikeError host = false := by
    have hopcode := hlooks
    simp only [looksAwaited, Bool.and_eq_true, decide_eq_true_eq] at hopcode
    simp only [looksLikeError, hopcode.1]
    decide
  simp [onPacket, hpos, hnoError, hlooks]

/-- A nonempty datagram is accepted exactly when it looks like the awaited block. -/
theorem onPacket_accepted_iff (hpoint : s.point = .awaiting) (hne : bytes ≠ []) :
    (s.onPacket host (.datagram source bytes)).Accepted ↔
      (s.received source bytes).looksAwaited host = true := by
  cases hlooks : (s.received source bytes).looksAwaited host with
  | true =>
      rw [onPacket_eq_accept hne hlooks]
      exact iff_of_true accepted_accept rfl
  | false =>
      simp only [onPacket, if_pos (received_pos s source hne), hlooks, Bool.false_eq_true,
        if_false, iff_false]
      split
      · simp [Accepted]
      · simp [Accepted, hpoint]

theorem not_accepted_empty :
    ¬ (s.onPacket host (.datagram source [])).Accepted := by
  have hnone : ¬ (s.received source []).tx.bytesReceived > 0 := by
    simp [received]
  simp only [onPacket, if_neg hnone, missed]
  split
  · simp [Accepted]
  · exact not_accepted_fail _

/-! ### Which datagrams are taken for what they are -/

/-- Short of a header, nothing accepted is the datagram's own, and the read of its payload
leaves the buffer. -/
theorem accepts_short (hlen : bytes.length < sizeofPacket)
    (hlooks : (s.received source bytes).looksAwaited host = true) (hne : bytes ≠ []) :
    (s.onPacket host (.datagram source bytes)).point = .fault := by
  rw [onPacket_eq_accept hne hlooks]
  have hb := b.le_max
  unfold accept
  simp only []
  rw [if_neg]
  rw [payloadSize_short s source hlen, payload_length]
  simp only [sizeofPacket, tftpBlksizeMax] at *
  omega

/-- With a whole header, what is accepted is the datagram's own block exactly when it fits
the buffer. -/
theorem ownBlock_iff (host : Host) (s : ReceiveState b) (source : SockAddr)
    (hlen : sizeofPacket ≤ bytes.length)
    (hlooks : (s.received source bytes).looksAwaited host = true) :
    OwnBlock s (s.onPacket host (.datagram source bytes)) bytes ↔
      bytes.length ≤ dataPacketMaxSize b := by
  have hne : bytes ≠ [] := by
    rintro rfl
    simp [sizeofPacket] at hlen
  have hown := hlooks
  rw [s.looksAwaited_received host source hlen, decide_eq_true_eq] at hown
  have hsize := payloadSize_received s source hlen
  rw [onPacket_eq_accept hne hlooks]
  constructor
  · intro h
    have hcut := h.size
    rw [accept_payloadSize, hsize] at hcut
    simp only [sizeofPacket, dataPacketMaxSize] at *
    omega
  · intro hfit
    refine ⟨hlen, hown.1, hown.2, ?_, ?_, ?_⟩
    · rw [accept_payloadSize, hsize, min_eq_left hfit]
    · rw [accept_payloadSize, hsize, dataPacketMaxSize]
      omega
    · rw [s.accept_received source hlen, take_payload hfit]

/-- The buffer is left only on account of a datagram that it completes. -/
theorem fault_iff (hpoint : s.point = .awaiting) :
    (s.onPacket host (.datagram source bytes)).point = .fault ↔ s.Completes bytes := by
  by_cases hne : bytes = []
  · subst hne
    constructor
    · intro h
      exact absurd (Or.inr h) not_accepted_empty
    · intro h
      exact absurd rfl h.1
  · rcases Nat.lt_or_ge bytes.length sizeofPacket with hshort | hlong
    · constructor
      · intro h
        have hlooks := (onPacket_accepted_iff hpoint hne).mp (Or.inr h)
        rw [looksAwaited_completed] at hlooks
        exact ⟨hne, hshort, hlooks⟩
      · intro h
        refine accepts_short hshort ?_ hne
        rw [looksAwaited_completed]
        exact h.2.2
    · constructor
      · intro h
        have hlooks := (onPacket_accepted_iff hpoint hne).mp (Or.inr h)
        rw [onPacket_eq_accept hne hlooks] at h
        -- with a whole header the payload lies in the buffer
        unfold accept at h
        simp only [] at h
        rw [if_pos] at h
        · cases h
        · rw [payloadSize_received s source hlong, payload_length, dataPacketMaxSize]
          omega
      · intro h
        exact absurd h.2.1 (by omega)

/-- A step leaves the buffer exactly when its datagram is completed to the awaited block. -/
theorem step_fault_iff (hstep : tftpReceiveFile host s e = some t) :
    t.point = .fault ↔
      ∃ size source bytes, e = .recvfrom size (.datagram source bytes) ∧ s.Completes bytes := by
  cases hpoint : s.point with
  | awaiting =>
      -- only a datagram can be completed by what the buffer held before
      obtain ⟨result, rfl, rfl⟩ := receive_awaiting hpoint hstep
      cases result with
      | failed errno => simp [onPacket, not_fault_missed]
      | datagram source bytes => simp [fault_iff hpoint]
  | entry =>
      obtain ⟨set, rfl, rfl⟩ := receive_entry hpoint hstep
      cases set with
      | true => simp [not_fault_fail]
      | false => simp [begin]
  | nextBlock =>
      obtain ⟨set, rfl, rfl⟩ := receive_nextBlock hpoint hstep
      cases set with
      | true => simp [not_fault_fail]
      | false => simp
  | writing payload =>
      obtain ⟨count, kept, rfl, -, rfl⟩ := receive_writing hpoint hstep
      unfold onWritten
      split
      · simp [not_fault_fail]
      · simp
  | acknowledging =>
      obtain ⟨ok, rfl, rfl⟩ := receive_acknowledging hpoint hstep
      have hnot : s.onAcknowledged.point = .nextBlock ∨
          s.onAcknowledged.point = .returned .success := outerTest_point _
      rcases hnot with hp | hp <;> simp [hp]
  | failing reply =>
      obtain ⟨ok, rfl, rfl⟩ := receive_failing hpoint hstep
      simp
  | returned exit =>
      rw [receive_returned hpoint] at hstep
      cases hstep
  | fault =>
      rw [receive_fault hpoint] at hstep
      cases hstep

/-- A step accepts nothing but its datagram's own block exactly when the datagram cannot be
mistaken. -/
theorem acceptsOwn_iff (hstep : tftpReceiveFile host s e = some t) :
    AcceptsOwn host s e ↔ s.Unmistakable e := by
  cases e with
  | recvfrom size result =>
      cases result with
      | failed errno => simp [AcceptsOwn, Unmistakable]
      | datagram source bytes =>
          obtain ⟨hpoint, rfl⟩ := receive_recvfrom hstep
          have hown : AcceptsOwn host s (.recvfrom size (.datagram source bytes)) ↔
              ((s.onPacket host (.datagram source bytes)).Accepted →
                OwnBlock s (s.onPacket host (.datagram source bytes)) bytes) := by
            constructor
            · intro h
              exact h size source bytes _ rfl hstep
            · rintro h size' source' bytes' t' he' ht'
              obtain ⟨-, hdatagram⟩ := Event.recvfrom.inj he'
              obtain ⟨rfl, rfl⟩ := RecvResult.datagram.inj hdatagram
              obtain rfl := Option.some.inj (hstep.symm.trans ht')
              exact h
          rw [hown]
          simp only [Unmistakable, hpoint, true_implies]
          by_cases hne : bytes = []
          · subst hne
            simp [not_accepted_empty, Completes]
          · rw [onPacket_accepted_iff hpoint hne]
            rcases Nat.lt_or_ge bytes.length sizeofPacket with hshort | hlong
            · -- too short for a header of its own
              have hfit : bytes.length ≤ dataPacketMaxSize b := by
                simp only [dataPacketMaxSize]
                omega
              have hno : ¬ OwnBlock s (s.onPacket host (.datagram source bytes)) bytes :=
                fun h => absurd h.header (by omega)
              rw [looksAwaited_completed]
              constructor
              · intro h
                exact ⟨fun hcompletes => hno (h hcompletes.2.2), fun _ _ => hfit⟩
              · rintro ⟨h, -⟩ hcompleted
                exact absurd ⟨hne, hshort, hcompleted⟩ h
            · -- the tests see the datagram's own header
              have hfits := ownBlock_iff host s source hlong
              rw [s.looksAwaited_received host source hlong, decide_eq_true_eq] at *
              constructor
              · intro h
                refine ⟨fun hcompletes => absurd hcompletes.2.1 (by omega), ?_⟩
                intro hop hnum
                exact (hfits ⟨hop, hnum⟩).mp (h ⟨hop, hnum⟩)
              · rintro ⟨-, h⟩ hlooks
                exact (hfits hlooks).mpr (h hlooks.1 hlooks.2)
  | _ => simp [AcceptsOwn, Unmistakable]

end ReceiveState

/-- In a run of `tftp_receive_file`, whatever the block size and whatever arrives, every
block accepted is the datagram's own, read and written from its own bytes, exactly when no
datagram can be mistaken. -/
theorem accepts_own_iff (host : Host) {b : BlockSize} {op : OperationData} {tx : TransferData b}
    {tr : List Event} {s : ReceiveState b}
    (h : Run (tftpReceiveFile host) (ReceiveState.start op tx) tr s) :
    EveryStep (tftpReceiveFile host) (ReceiveState.AcceptsOwn host) (ReceiveState.start op tx) tr ↔
      EveryStep (tftpReceiveFile host) ReceiveState.Unmistakable (ReceiveState.start op tx) tr := by
  exact h.everyStep_congr fun _ _ _ hstep => ReceiveState.acceptsOwn_iff hstep

section FixedRuns

instance {b : BlockSize} (s : ReceiveState b) : DecidablePred s.Unmistakable := by
  intro e
  unfold ReceiveState.Unmistakable
  split <;> infer_instance

/-- A datagram with an opcode that is passed over, and then two bytes of a header. -/
def staleHeader : List Event :=
  [.poll false, .poll false, .recvfrom 12 (.datagram (localhost 50001) [0, 7, 0, 1]),
    .recvfrom 12 (.datagram (localhost 50001) [0, 3])]

/-- A short block in one datagram. -/
def wholeHeader : List Event :=
  [.poll false, .poll false,
    .recvfrom 12 (.datagram (localhost 50001) (dataPacket 1 (ascii "abc")))]

theorem accepts_own_whole :
    EveryStep (tftpReceiveFile littleHost) (ReceiveState.AcceptsOwn littleHost)
      (ReceiveState.start sampleOperation sampleTransfer) wholeHeader := by
  have hrun : ∃ s, Run (tftpReceiveFile littleHost)
      (ReceiveState.start sampleOperation sampleTransfer) wholeHeader s ∧
      s.point = .writing (ascii "abc") := exists_run_of_exec (by decide)
  obtain ⟨s, hs, -⟩ := hrun
  exact (accepts_own_iff littleHost hs).mpr (by decide)

/-- The two bytes are accepted as block 1, and `fwrite` is asked for nearly `2 ^ 64` bytes. -/
theorem accepts_stale_header :
    (∃ s, Run (tftpReceiveFile littleHost) (ReceiveState.start sampleOperation sampleTransfer)
      staleHeader s ∧ s.point = .fault ∧ s.payloadSize = 2 ^ 64 - 2) ∧
    ¬ EveryStep (tftpReceiveFile littleHost) (ReceiveState.AcceptsOwn littleHost)
      (ReceiveState.start sampleOperation sampleTransfer) staleHeader := by
  have hrun : ∃ s, Run (tftpReceiveFile littleHost)
      (ReceiveState.start sampleOperation sampleTransfer) staleHeader s ∧
      s.point = .fault ∧ s.payloadSize = 2 ^ 64 - 2 := exists_run_of_exec (by decide)
  refine ⟨hrun, ?_⟩
  obtain ⟨s, hs, hfault, -⟩ := hrun
  have hsplit : staleHeader = staleHeader.take 3 ++
      [.recvfrom 12 (.datagram (localhost 50001) [0, 3])] := rfl
  rw [hsplit] at hs ⊢
  obtain ⟨t, ht, hlast⟩ := hs.of_snoc
  intro hown
  have hblock := hown.last ht 12 (localhost 50001) [0, 3] s rfl hlast (Or.inr hfault)
  exact absurd hblock.header (by decide)

end FixedRuns

end Stftpu
