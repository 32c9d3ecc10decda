import Stftpu.Transfer.OwnBytes
import Stftpu.Transfer.Acknowledged

/-!
# The bytes an acknowledgement is taken from

Both waits for an ACK receive into one block that is never cleared, and test the header of
the block: `tftp_await_acknowledgement` behind any nonempty datagram, `tftp_transmit_file`
behind an empty one as well.  A datagram shorter than a header is tested together with what
`malloc` or an earlier datagram left behind it.

* `StopsInside` — a datagram whose own bytes leave a test open.
* `AwaitState.DecidesOwn`, `TransmitState.DecidesOwn` — a datagram is taken for the ACK
  exactly when its own bytes are that ACK, and what stood in the block before changes nothing
  but the block.
* `acks_decided_own_iff` — over any run of either function, from any content of the block.
-/

namespace Stftpu

open Library

/-! ## What a test finds in the block -/

/-- A datagram that is the beginning of what a test looks for, but not all of it. -/
def StopsInside (pattern bytes : List UInt8) : Prop :=
  bytes.length < pattern.length ∧ bytes <+: pattern

instance (pattern : List UInt8) : DecidablePred (StopsInside pattern) :=
  fun bytes => inferInstanceAs (Decidable (bytes.length < pattern.length ∧ bytes <+: pattern))

/-- The header of a buffer, as the tests for an ACK of block `n` read it. -/
def HoldsAck {m : Nat} (host : Host) (buf : Buffer m) (n : UInt16) : Prop :=
  ntohs host.order (loadOpcode host buf) = TFTPOpcode.ack.code ∧
    ntohs host.order (loadBlockNumber host buf) = n

/-- The two bytes that are loaded as the opcode of an ERROR packet, which
`tftp_transmit_file` compares before any conversion. -/
def Host.rawError (host : Host) : List UInt8 :=
  match host.order with
  | .little => [5, 0]
  | .big => [0, 5]

theorem completed_length_ge {m k : Nat} (buf : Buffer m) (bytes : List UInt8) (hk : k ≤ m) :
    k ≤ (buf.completed bytes).length := by
  have := buf.length_eq
  simp only [Buffer.completed, List.length_append, List.length_drop]
  omega

theorem pair_prefix_iff {a b : UInt8} {l : List UInt8} (h : 2 ≤ l.length) :
    [a, b] <+: l ↔ l.getD 0 0 = a ∧ l.getD 1 0 = b := by
  obtain _ | ⟨x, _ | ⟨y, l⟩⟩ := l
  · simp at h
  · simp at h
  · simp [eq_comm]

theorem ackPacket_prefix_iff {n : UInt16} {l : List UInt8} (h : sizeofPacket ≤ l.length) :
    ackPacket n <+: l ↔ opcodeOf l = TFTPOpcode.ack.code ∧ blockNumberOf l = n := by
  obtain _ | ⟨x, _ | ⟨y, _ | ⟨z, _ | ⟨w, l⟩⟩⟩⟩ := l
  · simp [sizeofPacket] at h
  · simp [sizeofPacket] at h
  · simp [sizeofPacket] at h
  · simp [sizeofPacket] at h
  · simp only [opcodeOf, blockNumberOf, ackPacket, wire16, be16_eq_iff]
    simp [eq_comm, and_assoc]

/-- Behind a datagram the tests find an ACK where the block now begins with it. -/
theorem holdsAck_receive {m : Nat} (host : Host) (buf : Buffer m) (n : UInt16)
    (bytes : List UInt8) (hm : sizeofPacket ≤ m) :
    HoldsAck host (buf.receive bytes) n ↔ ackPacket n <+: buf.completed bytes := by
  rw [ackPacket_prefix_iff (completed_length_ge buf bytes hm)]
  simp only [sizeofPacket] at hm
  rw [HoldsAck, ntohs_loadOpcode_completed host buf bytes (by omega),
    ntohs_loadBlockNumber_completed host buf bytes hm]

/-- A datagram with a whole header is that ACK itself. -/
theorem holdsAck_receive_whole {m : Nat} (host : Host) (buf : Buffer m) (n : UInt16)
    (source : SockAddr) {bytes : List UInt8} (hm : sizeofPacket ≤ m)
    (hlen : sizeofPacket ≤ bytes.length) :
    HoldsAck host (buf.receive bytes) n ↔ IsAckOf n (.datagram source bytes) := by
  simp only [sizeofPacket] at hm hlen
  rw [HoldsAck, ntohs_loadOpcode_receive host buf bytes (by omega) (by omega),
    ntohs_loadBlockNumber_receive host buf bytes hlen hm]
  exact ⟨fun h => ⟨hlen, h⟩, fun h => h.2⟩

/-- The converted opcode is that of an ERROR packet. -/
theorem holdsError_receive {m : Nat} (host : Host) (buf : Buffer m) (bytes : List UInt8)
    (hm : 2 ≤ m) :
    ntohs host.order (loadOpcode host (buf.receive bytes)) = TFTPOpcode.error.code ↔
      wire16 TFTPOpcode.error.code <+: buf.completed bytes := by
  rw [ntohs_loadOpcode_completed host buf bytes hm, wire16,
    pair_prefix_iff (completed_length_ge buf bytes hm), opcodeOf, be16_eq_iff]

/-- The opcode as loaded is. -/
theorem loadsError_receive {m : Nat} (host : Host) (buf : Buffer m) (bytes : List UInt8)
    (hm : 2 ≤ m) :
    loadOpcode host (buf.receive bytes) = TFTPOpcode.error.code ↔
      host.rawError <+: buf.completed bytes := by
  have hlen := completed_length_ge buf bytes hm
  rw [loadOpcode, buf.receive_byte_completed bytes (by omega),
    buf.receive_byte_completed bytes (by omega), Host.rawError]
  cases host.order with
  | little =>
      rw [load16, be16_eq_iff, pair_prefix_iff hlen, and_comm]
      rfl
  | big =>
      rw [load16, be16_eq_iff, pair_prefix_iff hlen]
      rfl

theorem rawError_length (host : Host) : host.rawError.length = 2 := by
  unfold Host.rawError
  cases host.order <;> rfl

/-- A datagram that leaves no test for an ACK open is that ACK, or is taken for none. -/
theorem isAckOf_iff_of_not_stopsInside {m : Nat} (host : Host) (buf : Buffer m) {n : UInt16}
    (source : SockAddr) {bytes : List UInt8} (hm : sizeofPacket ≤ m)
    (h : ¬ StopsInside (ackPacket n) bytes) :
    HoldsAck host (buf.receive bytes) n ↔ IsAckOf n (.datagram source bytes) := by
  rcases Nat.lt_or_ge bytes.length sizeofPacket with hshort | hlong
  · have hnot : ¬ HoldsAck host (buf.receive bytes) n := by
      rw [holdsAck_receive host buf n bytes hm]
      intro hbegins
      exact h ⟨hshort,
        List.prefix_of_prefix_length_le (List.prefix_append _ _) hbegins (le_of_lt hshort)⟩
    exact iff_of_false hnot fun hown => absurd hown.1 (Nat.not_le.mpr hshort)
  · exact holdsAck_receive_whole host buf n source hm hlong

/-! ## The ACK of a request -/

namespace AwaitState

variable {host : Host} {s t : AwaitState} {e : Event}

/-- The same wait with another content of the block. -/
def withBlock (s : AwaitState) (block : Buffer tftpResponsePacketMaxSize) : AwaitState :=
  { s with incomingPacket := block }

/-- What is received is taken for the ACK awaited, and `true` is returned, exactly when it
is a datagram whose own bytes are that ACK; and whatever the block held before, the function
comes to the same state, but for the block. -/
def DecidesOwn (host : Host) (s : AwaitState) (e : Event) : Prop :=
  ∀ size result t, e = .recvfrom size result → tftpAwaitAcknowledgement host s e = some t →
    (t.point = .returned .success ↔ IsAckOf s.blockNumber result) ∧
      ∀ block u, tftpAwaitAcknowledgement host (s.withBlock block) e = some u →
        u.withBlock t.incomingPacket = t

/-- No nonempty datagram stops inside the ACK awaited. -/
def Settled (s : AwaitState) : Event → Prop
  | .recvfrom _ (.datagram _ bytes) =>
      bytes ≠ [] → ¬ StopsInside (ackPacket s.blockNumber) bytes
  | _ => True

theorem not_success_loopTest (s : AwaitState) : s.loopTest.point ≠ .returned .success := by
  rcases s.loopTest_cases with ⟨-, h⟩ | h <;> simp [h]

/-- The wait ends with `true` behind a nonempty datagram that leaves the ACK in the block. -/
theorem onReceived_success_iff (source : SockAddr) (bytes : List UInt8) :
    (s.onReceived host (.datagram source bytes)).point = .returned .success ↔
      bytes ≠ [] ∧ HoldsAck host (s.incomingPacket.receive bytes) s.blockNumber := by
  simp only [onReceived, HoldsAck]
  split
  · rename_i hempty
    simp [not_success_loopTest, List.length_eq_zero_iff.mp hempty]
  · rename_i hne
    have hbytes : bytes ≠ [] := fun h => hne (by simp [h])
    split
    · rename_i hack
      simp [hbytes, hack]
    · rename_i hack
      split
      · simp [hack]
      · simp [not_success_loopTest, hack]

theorem loopTest_withBlock (block : Buffer tftpResponsePacketMaxSize) :
    (s.withBlock block).loopTest = s.loopTest.withBlock block := by
  by_cases hlt : s.retryCounter < maxRetryCount
  · simp only [loopTest, withBlock, hlt, if_true]
  · simp only [loopTest, withBlock, hlt, if_false]

/-- Two contents of the block lead to the same state where both tests come out the same. -/
theorem onReceived_withBlock (source : SockAddr) {bytes : List UInt8}
    (block : Buffer tftpResponsePacketMaxSize)
    (htests : bytes ≠ [] →
      (HoldsAck host (block.receive bytes) s.blockNumber ↔
        HoldsAck host (s.incomingPacket.receive bytes) s.blockNumber) ∧
      (ntohs host.order (loadOpcode host (block.receive bytes)) = TFTPOpcode.error.code ↔
        ntohs host.order (loadOpcode host (s.incomingPacket.receive bytes)) =
          TFTPOpcode.error.code)) :
    (s.withBlock block).onReceived host (.datagram source bytes) =
      (s.onReceived host (.datagram source bytes)).withBlock (block.receive bytes) := by
  have hloop : AwaitState.loopTest
        { s with
          op := { s.op with peerAddress := source }
          incomingPacket := block.receive bytes } =
      (AwaitState.loopTest
        { s with
          op := { s.op with peerAddress := source }
          incomingPacket := s.incomingPacket.receive bytes }).withBlock (block.receive bytes) :=
    loopTest_withBlock (s := { s with
      op := { s.op with peerAddress := source }
      incomingPacket := s.incomingPacket.receive bytes }) (block.receive bytes)
  by_cases hempty : bytes.length = 0
  · simp only [onReceived, hempty, if_true, withBlock] at hloop ⊢
    exact hloop
  · obtain ⟨hack, herror⟩ := htests fun h => hempty (by simp [h])
    simp only [HoldsAck] at hack
    simp only [onReceived, withBlock, hempty, if_false, hack, herror] at hloop ⊢
    split
    · rfl
    · split
      · rfl
      · exact hloop

/-- A datagram that leaves the test for the ACK open is taken for it with one content of the
block, and not with another. -/
theorem exists_blocks_of_stopsInside (host : Host) (s : AwaitState) (source : SockAddr)
    {bytes : List UInt8} (hne : bytes ≠ [])
    (h : StopsInside (ackPacket s.blockNumber) bytes) :
    ∃ block block',
      ((s.withBlock block).onReceived host (.datagram source bytes)).point =
        .returned .success ∧
      ((s.withBlock block').onReceived host (.datagram source bytes)).point ≠
        .returned .success := by
  obtain ⟨block, hblock⟩ := Buffer.exists_prefix_completed (n := tftpResponsePacketMaxSize)
    (show (ackPacket s.blockNumber).length ≤ _ by simp [sizeofPacket]; decide) h.2
  obtain ⟨block', hblock'⟩ :=
    Buffer.exists_not_prefix_completed (n := tftpResponsePacketMaxSize) h.1
  refine ⟨block, block', ?_, ?_⟩
  · rw [onReceived_success_iff]
    exact ⟨hne, (holdsAck_receive host block _ bytes (by decide)).mpr hblock⟩
  · rw [Ne, onReceived_success_iff]
    rintro ⟨-, hholds⟩
    exact hblock' ((holdsAck_receive host block' _ bytes (by decide)).mp hholds)

theorem decidesOwn_iff (hstep : tftpAwaitAcknowledgement host s e = some t) :
    DecidesOwn host s e ↔ s.Settled e := by
  cases e with
  | recvfrom size result =>
      obtain ⟨hpoint, rfl⟩ := await_recvfrom hstep
      -- the same call with another content of the block
      have hcall : ∀ block u, tftpAwaitAcknowledgement host (s.withBlock block)
          (.recvfrom size result) = some u ↔ (s.withBlock block).onReceived host result = u := by
        intro block u
        have hsize : size = tftpResponsePacketMaxSize := by
          by_contra hne
          simp [tftpAwaitAcknowledgement, hpoint, hne] at hstep
        simp [tftpAwaitAcknowledgement, withBlock, hpoint, hsize]
      have hown : DecidesOwn host s (.recvfrom size result) ↔
          ((s.onReceived host result).point = .returned .success ↔
              IsAckOf s.blockNumber result) ∧
            ∀ block, ((s.withBlock block).onReceived host result).withBlock
              (s.onReceived host result).incomingPacket = s.onReceived host result := by
        rw [show DecidesOwn host s (.recvfrom size result) ↔ _ from forall_received_iff
          (P := fun (t : AwaitState) r =>
            (t.point = .returned .success ↔ IsAckOf s.blockNumber r) ∧
              ∀ block u, tftpAwaitAcknowledgement host (s.withBlock block)
                (.recvfrom size result) = some u → u.withBlock t.incomingPacket = t) hstep]
        simp only [hcall, forall_eq']
      rw [hown]
      cases result with
      | failed errno =>
          simp only [Settled, iff_true]
          refine ⟨by simp [onReceived, not_success_loopTest, IsAckOf], ?_⟩
          intro block
          have hloop := loopTest_withBlock (s := s) block
          simp only [onReceived, hloop]
          simp only [withBlock]
      | datagram source bytes =>
          simp only [Settled]
          constructor
          · rintro ⟨-, hsame⟩ hne hstops
            obtain ⟨block, block', hack, hnot⟩ :=
              exists_blocks_of_stopsInside host s source hne hstops
            have hpoints : ∀ block,
                ((s.withBlock block).onReceived host (.datagram source bytes)).point =
                  (s.onReceived host (.datagram source bytes)).point := by
              intro block
              have hpoint := congrArg AwaitState.point (hsame block)
              exact hpoint
            rw [hpoints] at hack hnot
            exact hnot hack
          · intro hsettled
            refine ⟨?_, ?_⟩
            · rw [onReceived_success_iff]
              constructor
              · rintro ⟨hne, hholds⟩
                exact (isAckOf_iff_of_not_stopsInside host _ source (by decide)
                  (hsettled hne)).mp hholds
              · intro hack
                have hne : bytes ≠ [] := by
                  rintro rfl
                  exact absurd hack.1 (by decide)
                exact ⟨hne, (isAckOf_iff_of_not_stopsInside host _ source (by decide)
                  (hsettled hne)).mpr hack⟩
            · intro block
              rw [onReceived_withBlock source block fun hne => ⟨?_, ?_⟩]
              · simp only [withBlock]
              · rw [isAckOf_iff_of_not_stopsInside host block source (by decide) (hsettled hne),
                  isAckOf_iff_of_not_stopsInside host _ source (by decide) (hsettled hne)]
              · rw [holdsError_receive host block bytes (by decide),
                  holdsError_receive host _ bytes (by decide)]
                refine Buffer.prefix_completed_congr _ _ ?_
                rintro ⟨hshort, hbegins⟩
                -- a single byte that begins an ERROR packet begins an ACK
                obtain _ | ⟨x, _ | ⟨y, rest⟩⟩ := bytes
                · exact hne rfl
                · have hzero : x = 0 := by
                    have hhi : hiByte TFTPOpcode.error.code = 0 := by decide
                    simpa [wire16, hhi] using hbegins
                  refine hsettled hne ⟨by simp [sizeofPacket], ?_⟩
                  have hhi : hiByte TFTPOpcode.ack.code = 0 := by decide
                  simp [wire16, ackPacket, hzero, hhi]
                · simp at hshort
  | _ => simp [DecidesOwn, Settled]

end AwaitState

/-! ## The ACK of a block -/

namespace TransmitState

variable {b : BlockSize} {host : Host} {s t : TransmitState b} {e : Event}

/-- The same transmission with another content of the response block. -/
def withBlock (s : TransmitState b) (block : Buffer responsePacketMaxSize) : TransmitState b :=
  { s with tx := { s.tx with responsePacket := block } }

/-- The `break` out of the retry loop behind a datagram. -/
def BreaksOn (s t : TransmitState b) (result : RecvResult) : Prop :=
  ∃ source bytes, result = .datagram source bytes ∧ t = (s.received source bytes).outerTest

/-- What is received is taken for the ACK of the current block, and the retry loop is left
by its `break`, exactly when it is a datagram whose own bytes are that ACK; and whatever the
block held before, the function comes to the same state, but for the block. -/
def DecidesOwn (host : Host) (s : TransmitState b) (e : Event) : Prop :=
  ∀ size result t, e = .recvfrom size result → tftpTransmitFile host s e = some t →
    (s.BreaksOn t result ↔ IsAckOf s.tx.currentBlockNumber result) ∧
      ∀ block u, tftpTransmitFile host (s.withBlock block) e = some u →
        u.withBlock t.tx.responsePacket = t

/-- No datagram, the empty one included, stops inside the ACK of the current block, or inside
the opcode that is taken for that of an ERROR packet. -/
def Settled (host : Host) (s : TransmitState b) : Event → Prop
  | .recvfrom _ (.datagram _ bytes) =>
      ¬ StopsInside (ackPacket s.tx.currentBlockNumber) bytes ∧
        ¬ StopsInside host.rawError bytes
  | _ => True

/-- The retry loop has been left by its `break`, with the counter where it was. -/
def LeftAt (counter : Nat) (t : TransmitState b) : Prop :=
  t.tx.resendCounter = counter ∧ (t.point = .nextBlock ∨ t.point = .returned .success)

theorem leftAt_outerTest : LeftAt s.tx.resendCounter s.outerTest :=
  ⟨by rw [outerTest_tx], s.outerTest_point⟩

theorem outerTest_point_ne_peerError : s.outerTest.point ≠ .returned .peerError := by
  rcases s.outerTest_point with ho | ho <;> simp [ho]

theorem retry_point_ne_peerError : s.retry.point ≠ .returned .peerError := by
  unfold retry
  split
  · have hfail : ∀ reply, (s.fail reply).point ≠ .returned .peerError := by
      intro reply
      rcases s.fail_point reply with hf | hf <;> simp [hf]
    exact hfail _
  · unfold innerTest
    split
    · simp
    · exact outerTest_point_ne_peerError

theorem not_leftAt_fail (counter : Nat) (reply : ErrorReply) :
    ¬ LeftAt counter (s.fail reply) := by
  rintro ⟨-, hpoint⟩
  rcases s.fail_point reply with hf | hf <;> simp [hf] at hpoint

/-- Another round does not look like the `break`: the counter has moved, or the function is
about to return `false`. -/
theorem not_leftAt_retry : ¬ LeftAt s.tx.resendCounter s.retry := by
  unfold retry
  split
  · exact not_leftAt_fail _ _
  · rintro ⟨hcounter, -⟩
    rw [innerTest_tx] at hcounter
    simp at hcounter

theorem breaksOn_iff (result : RecvResult) :
    s.BreaksOn (s.onResponse host result) result ↔ s.TakenForAck host result := by
  rcases s.onResponse_cases host result with
    ⟨source, bytes, rfl, ⟨herr, heq⟩ | ⟨herr, hack, heq⟩ | ⟨herr, hack, heq⟩⟩ |
      ⟨errno, rfl, -⟩
  · simp only [BreaksOn, TakenForAck, herr, heq, Bool.true_eq_false, false_and, iff_false]
    rintro ⟨source', bytes', hsame, h⟩
    have hpoint := congrArg TransmitState.point h
    rcases (s.received source' bytes').outerTest_point with ho | ho <;>
      rw [ho] at hpoint <;> cases hpoint
  · simp only [BreaksOn, TakenForAck, herr, hack, heq, and_self, iff_true]
    exact ⟨source, bytes, rfl, rfl⟩
  · simp only [BreaksOn, TakenForAck, herr, hack, heq, Bool.false_eq_true, and_false, iff_false]
    rintro ⟨source', bytes', hsame, h⟩
    obtain ⟨rfl, rfl⟩ := RecvResult.datagram.inj hsame
    exact not_leftAt_retry (h ▸ leftAt_outerTest)
  · simp [BreaksOn, TakenForAck]

theorem looksLikeAck_iff_holdsAck (source : SockAddr) (bytes : List UInt8) :
    (s.received source bytes).looksLikeAck host = true ↔
      HoldsAck host (s.tx.responsePacket.receive bytes) s.tx.currentBlockNumber := by
  simp only [looksLikeAck, Bool.and_eq_true, decide_eq_true_eq]
  rfl

/-- The test for an ERROR packet, made first, lets every ACK through. -/
theorem takenForAck_iff (source : SockAddr) (bytes : List UInt8) :
    s.TakenForAck host (.datagram source bytes) ↔
      HoldsAck host (s.tx.responsePacket.receive bytes) s.tx.currentBlockNumber := by
  simp only [TakenForAck, looksLikeAck_iff_holdsAck]
  constructor
  · exact fun h => h.2
  · intro hack
    refine ⟨?_, hack⟩
    rw [Bool.eq_false_iff, Ne, looksLikeError_iff]
    intro hload
    have hopcode := hack.1
    rw [received_responsePacket] at hload
    rw [hload] at hopcode
    revert hopcode
    cases host.order <;> decide

/-! ### Two contents of the block -/

variable (block : Buffer responsePacketMaxSize)

theorem fail_withBlock (reply : ErrorReply) :
    (s.withBlock block).fail reply = (s.fail reply).withBlock block := by
  by_cases hforwards : forwardsErrors s.op.peerAddress = true
  · simp only [fail, withBlock, hforwards, if_true]
  · simp only [fail, withBlock, hforwards, if_false, Bool.false_eq_true]

theorem outerTest_withBlock : (s.withBlock block).outerTest = s.outerTest.withBlock block := by
  by_cases hmore : s.tx.bytesSent = dataPacketMaxSize b
  · simp only [outerTest, withBlock, hmore, if_true]
  · simp only [outerTest, withBlock, hmore, if_false]

theorem innerTest_withBlock : (s.withBlock block).innerTest = s.innerTest.withBlock block := by
  by_cases hlt : s.tx.resendCounter < maxRetryCount
  · rw [s.innerTest_lt hlt, (s.withBlock block).innerTest_lt hlt]
    rfl
  · rw [s.innerTest_ge hlt, (s.withBlock block).innerTest_ge hlt, outerTest_withBlock]

theorem retry_withBlock : (s.withBlock block).retry = s.retry.withBlock block := by
  by_cases hgt : s.tx.resendCounter > maxRetryCount
  · have hgt' : (s.withBlock block).tx.resendCounter > maxRetryCount := hgt
    simp only [retry, hgt, hgt', if_true]
    exact fail_withBlock block _
  · have hgt' : ¬ (s.withBlock block).tx.resendCounter > maxRetryCount := hgt
    simp only [retry, hgt, hgt', if_false]
    exact innerTest_withBlock block (s := { s with
      tx := { s.tx with resendCounter := s.tx.resendCounter + 1 } })

theorem onResponse_withBlock (source : SockAddr) {bytes : List UInt8}
    (herror : loadOpcode host (block.receive bytes) = TFTPOpcode.error.code ↔
      loadOpcode host (s.tx.responsePacket.receive bytes) = TFTPOpcode.error.code)
    (hack : HoldsAck host (block.receive bytes) s.tx.currentBlockNumber ↔
      HoldsAck host (s.tx.responsePacket.receive bytes) s.tx.currentBlockNumber) :
    (s.withBlock block).onResponse host (.datagram source bytes) =
      (s.onResponse host (.datagram source bytes)).withBlock (block.receive bytes) := by
  have hreceived : (s.withBlock block).received source bytes =
      (s.received source bytes).withBlock (block.receive bytes) := rfl
  have herr : ((s.received source bytes).withBlock (block.receive bytes)).looksLikeError host =
      (s.received source bytes).looksLikeError host := by
    rw [Bool.eq_iff_iff, looksLikeError_iff, looksLikeError_iff]
    exact herror
  have hlooks : ((s.received source bytes).withBlock (block.receive bytes)).looksLikeAck host =
      (s.received source bytes).looksLikeAck host := by
    rw [Bool.eq_iff_iff, ← hreceived, looksLikeAck_iff_holdsAck, looksLikeAck_iff_holdsAck]
    exact hack
  simp only [onResponse, hreceived, herr, hlooks]
  split
  · rfl
  · split
    · exact outerTest_withBlock _
    · exact retry_withBlock _

/-- The `break` is what an ACK leads to, and nothing else does. -/
theorem leftAt_iff_takenForAck (result : RecvResult) :
    LeftAt s.tx.resendCounter (s.onResponse host result) ↔ s.TakenForAck host result := by
  rcases s.onResponse_cases host result with
    ⟨source, bytes, rfl, ⟨herr, heq⟩ | ⟨herr, hack, heq⟩ | ⟨herr, hack, heq⟩⟩ |
      ⟨errno, rfl, ⟨-, heq⟩ | ⟨-, reply, heq⟩⟩
  · simp [TakenForAck, LeftAt, herr, heq]
  · simp only [TakenForAck, herr, hack, heq, and_self, iff_true]
    exact leftAt_outerTest (s := s.received source bytes)
  · simp only [TakenForAck, herr, hack, heq, Bool.false_eq_true, and_false, iff_false]
    exact not_leftAt_retry (s := s.received source bytes)
  · simp only [TakenForAck, heq, iff_false]
    exact not_leftAt_retry (s := { s with tx := { s.tx with bytesReceived := -1 } })
  · simp only [TakenForAck, heq, iff_false]
    exact not_leftAt_fail _ _

/-- So is the return on an ERROR packet. -/
theorem peerError_iff_looksLikeError (source : SockAddr) (bytes : List UInt8) :
    (s.onResponse host (.datagram source bytes)).point = .returned .peerError ↔
      loadOpcode host (s.tx.responsePacket.receive bytes) = TFTPOpcode.error.code := by
  rw [← received_responsePacket s source, ← looksLikeError_iff]
  rcases s.onResponse_cases host (.datagram source bytes) with
    ⟨source', bytes', hsame, ⟨herr, heq⟩ | ⟨herr, hack, heq⟩ | ⟨herr, hack, heq⟩⟩ |
      ⟨errno, hsame, -⟩
  · obtain ⟨rfl, rfl⟩ := RecvResult.datagram.inj hsame
    simp [herr, heq]
  · obtain ⟨rfl, rfl⟩ := RecvResult.datagram.inj hsame
    simp only [herr, heq, Bool.false_eq_true, iff_false]
    exact outerTest_point_ne_peerError
  · obtain ⟨rfl, rfl⟩ := RecvResult.datagram.inj hsame
    simp only [herr, heq, Bool.false_eq_true, iff_false]
    exact retry_point_ne_peerError
  · cases hsame

/-- A datagram that leaves a test open comes out of it in two ways. -/
theorem settled_of_same (source : SockAddr) {bytes : List UInt8} {t : TransmitState b}
    (hsame : ∀ block, ((s.withBlock block).onResponse host (.datagram source bytes)).withBlock
      t.tx.responsePacket = t) : s.Settled host (.recvfrom 0 (.datagram source bytes)) := by
  constructor
  · rintro ⟨hshort, hbegins⟩
    obtain ⟨block, hblock⟩ := Buffer.exists_prefix_completed (n := responsePacketMaxSize)
      (show (ackPacket s.tx.currentBlockNumber).length ≤ _ by simp [sizeofPacket]; decide) hbegins
    obtain ⟨block', hblock'⟩ :=
      Buffer.exists_not_prefix_completed (n := responsePacketMaxSize) hshort
    have hleft : ∀ block : Buffer responsePacketMaxSize, LeftAt s.tx.resendCounter t ↔
        ackPacket s.tx.currentBlockNumber <+: block.completed bytes := by
      intro block
      rw [← holdsAck_receive host block _ bytes (by decide), ← hsame block]
      exact (leftAt_iff_takenForAck (s := s.withBlock block) _).trans (takenForAck_iff source bytes)
    exact hblock' ((hleft block').mp ((hleft block).mpr hblock))
  · rintro ⟨hshort, hbegins⟩
    have hlength := rawError_length host
    obtain ⟨block, hblock⟩ := Buffer.exists_prefix_completed (n := responsePacketMaxSize)
      (show host.rawError.length ≤ _ by rw [hlength]; decide) hbegins
    obtain ⟨block', hblock'⟩ :=
      Buffer.exists_not_prefix_completed (n := responsePacketMaxSize) hshort
    have hreturned : ∀ block : Buffer responsePacketMaxSize, t.point = .returned .peerError ↔
        host.rawError <+: block.completed bytes := by
      intro block
      rw [← loadsError_receive host block bytes (by decide), ← hsame block]
      exact peerError_iff_looksLikeError (s := s.withBlock block) source bytes
    exact hblock' ((hreturned block').mp ((hreturned block).mpr hblock))

theorem decidesOwn_iff (hstep : tftpTransmitFile host s e = some t) :
    DecidesOwn host s e ↔ s.Settled host e := by
  cases e with
  | recvfrom size result =>
      obtain ⟨hpoint, rfl⟩ := transmit_recvfrom hstep
      -- the same call with another content of the block
      have hcall : ∀ block u, tftpTransmitFile host (s.withBlock block)
          (.recvfrom size result) = some u ↔ (s.withBlock block).onResponse host result = u := by
        intro block u
        have hsize : size = responsePacketMaxSize := by
          by_contra hne
          simp [tftpTransmitFile, hpoint, hne] at hstep
        simp [tftpTransmitFile, withBlock, hpoint, hsize]
      have hown : DecidesOwn host s (.recvfrom size result) ↔
          (s.TakenForAck host result ↔ IsAckOf s.tx.currentBlockNumber result) ∧
            ∀ block, ((s.withBlock block).onResponse host result).withBlock
              (s.onResponse host result).tx.responsePacket = s.onResponse host result := by
        rw [← breaksOn_iff result, show DecidesOwn host s (.recvfrom size result) ↔ _ from
          forall_received_iff
            (P := fun (t : TransmitState b) r =>
              (s.BreaksOn t r ↔ IsAckOf s.tx.currentBlockNumber r) ∧
                ∀ block u, tftpTransmitFile host (s.withBlock block)
                  (.recvfrom size result) = some u → u.withBlock t.tx.responsePacket = t) hstep]
        simp only [hcall, forall_eq']
      rw [hown]
      cases result with
      | failed errno =>
          simp only [Settled, iff_true]
          refine ⟨by simp [TakenForAck, IsAckOf], ?_⟩
          intro block
          have hfailed : (s.withBlock block).onResponse host (.failed errno) =
              (s.onResponse host (.failed errno)).withBlock block := by
            simp only [onResponse]
            split
            · exact retry_withBlock block (s := { s with tx := { s.tx with bytesReceived := -1 } })
            · exact fail_withBlock block _ (s := { s with
                tx := { s.tx with bytesReceived := -1 } })
          rw [hfailed]
          simp only [withBlock]
      | datagram source bytes =>
          constructor
          · rintro ⟨-, hsame⟩
            exact settled_of_same source hsame
          · rintro ⟨hack, herror⟩
            have hown := fun block => isAckOf_iff_of_not_stopsInside host block source
              (show sizeofPacket ≤ responsePacketMaxSize by decide) hack
            refine ⟨(takenForAck_iff source bytes).trans (hown _), ?_⟩
            intro block
            rw [onResponse_withBlock block source ?_ ((hown block).trans (hown _).symm)]
            · simp only [withBlock]
            · rw [loadsError_receive host block bytes (by decide),
                loadsError_receive host _ bytes (by decide)]
              exact Buffer.prefix_completed_congr _ _ herror
  | _ => simp [DecidesOwn, Settled]

end TransmitState

/-- In every run of `tftp_await_acknowledgement` and of `tftp_transmit_file`, from any content
of the receive block and over any datagrams, what is taken for an ACK is decided by the
datagram's own bytes, and nothing depends on what stood in the block before, exactly when no
datagram stops inside the header a test looks for. -/
theorem acks_decided_own_iff (host : Host) :
    (∀ n op tr s, Run (tftpAwaitAcknowledgement host) (AwaitState.start n op) tr s →
      (EveryStep (tftpAwaitAcknowledgement host) (AwaitState.DecidesOwn host)
          (AwaitState.start n op) tr ↔
        EveryStep (tftpAwaitAcknowledgement host) AwaitState.Settled
          (AwaitState.start n op) tr)) ∧
    (∀ (b : BlockSize) (op : OperationData) (tx : TransferData b) tr s,
      Run (tftpTransmitFile host) (TransmitState.start op tx) tr s →
      (EveryStep (tftpTransmitFile host) (TransmitState.DecidesOwn host)
          (TransmitState.start op tx) tr ↔
        EveryStep (tftpTransmitFile host) (TransmitState.Settled host)
          (TransmitState.start op tx) tr)) := by
  constructor
  · intro n op tr s hrun
    exact hrun.everyStep_congr fun _ _ _ hstep => AwaitState.decidesOwn_iff hstep
  · intro b op tx tr s hrun
    exact hrun.everyStep_congr fun _ _ _ hstep => TransmitState.decidesOwn_iff hstep

section FixedRuns

instance (s : AwaitState) : DecidablePred s.Settled
  | .recvfrom _ (.datagram _ bytes) => inferInstanceAs (Decidable (
      bytes ≠ [] → ¬ StopsInside (ackPacket s.blockNumber) bytes))
  | .recvfrom _ (.failed _) => isTrue trivial
  | .poll _ | .malloc _ _ | .fopen _ _ _ | .stat _ _ | .fread _ _ _ | .fwrite _ _ _ | .fclose _
  | .remove _ _ | .sendto _ _ _ | .close _ | .dataSocket _ | .acquire _ | .create _
  | .release => isTrue trivial

instance {b : BlockSize} (host : Host) (s : TransmitState b) : DecidablePred (s.Settled host)
  | .recvfrom _ (.datagram _ bytes) => inferInstanceAs (Decidable (
      ¬ StopsInside (ackPacket s.tx.currentBlockNumber) bytes ∧
        ¬ StopsInside host.rawError bytes))
  | .recvfrom _ (.failed _) => isTrue trivial
  | .poll _ | .malloc _ _ | .fopen _ _ _ | .stat _ _ | .fread _ _ _ | .fwrite _ _ _ | .fclose _
  | .remove _ _ | .sendto _ _ _ | .close _ | .dataSocket _ | .acquire _ | .create _
  | .release => isTrue trivial

/-- A packet with an opcode that is passed over, and then the first two bytes of an ACK. -/
def completedWait : List Event :=
  [.malloc 132 (some (List.replicate 132 0)),
    .recvfrom 132 (.datagram (localhost 50001) [0, 7, 0, 0]),
    .recvfrom 132 (.datagram (localhost 50001) [0, 4])]

/-- The ACK, behind a packet with an opcode that is passed over. -/
def answeredWait : List Event :=
  [.malloc 132 (some (List.replicate 132 0)),
    .recvfrom 132 (.datagram (localhost 50001) [0, 7, 0, 0]),
    .recvfrom 132 (.datagram (localhost 50001) (ackPacket 0))]

/-- A response block in which `malloc` left an ACK of block 1. -/
def staleTransfer : TransferData sampleBlockSize :=
  { sampleTransfer with responsePacket := ⟨ackPacket 1 ++ List.replicate 32 0, by decide⟩ }

/-- An empty block is sent, and an empty datagram arrives. -/
def emptyResponse : List Event :=
  [.poll false, .poll false, .fread 8 [] true, .poll false,
    .sendto (localhost 50001) (dataPacket 1 []) true,
    .recvfrom 36 (.datagram (localhost 50001) [])]

/-- An empty block is sent, and its ACK arrives. -/
def wholeResponse : List Event :=
  [.poll false, .poll false, .fread 8 [] true, .poll false,
    .sendto (localhost 50001) (dataPacket 1 []) true,
    .recvfrom 36 (.datagram (localhost 50001) (ackPacket 1))]

set_option maxRecDepth 8000 in
theorem run_answeredWait : ∃ s, Run (tftpAwaitAcknowledgement littleHost)
    (AwaitState.start 0 sampleOperation) answeredWait s ∧ s.point = .returned .success :=
  exists_run_of_exec (by decide)

set_option maxRecDepth 8000 in
theorem run_wholeResponse : ∃ s, Run (tftpTransmitFile littleHost)
    (TransmitState.start sampleOperation staleTransfer) wholeResponse s ∧
    s.point = .returned .success :=
  exists_run_of_exec (by decide)

set_option maxRecDepth 8000 in
theorem acks_decided_own_whole :
    EveryStep (tftpAwaitAcknowledgement littleHost) (AwaitState.DecidesOwn littleHost)
        (AwaitState.start 0 sampleOperation) answeredWait ∧
      EveryStep (tftpTransmitFile littleHost) (TransmitState.DecidesOwn littleHost)
        (TransmitState.start sampleOperation staleTransfer) wholeResponse := by
  obtain ⟨s, hs, -⟩ := run_answeredWait
  obtain ⟨t, ht, -⟩ := run_wholeResponse
  have hown := acks_decided_own_iff littleHost
  exact ⟨(hown.1 0 sampleOperation answeredWait s hs).mpr (by decide),
    (hown.2 sampleBlockSize sampleOperation staleTransfer wholeResponse t ht).mpr (by decide)⟩

set_option maxRecDepth 8000 in
/-- Two bytes are taken for the ACK of a request, and no byte for the ACK of a block. -/
theorem acks_decided_stale :
    ((∃ s, Run (tftpAwaitAcknowledgement littleHost) (AwaitState.start 0 sampleOperation)
        completedWait s ∧ s.point = .returned .success) ∧
      ¬ EveryStep (tftpAwaitAcknowledgement littleHost) (AwaitState.DecidesOwn littleHost)
        (AwaitState.start 0 sampleOperation) completedWait) ∧
    (∃ s, Run (tftpTransmitFile littleHost) (TransmitState.start sampleOperation staleTransfer)
        emptyResponse s ∧ s.point = .returned .success) ∧
      ¬ EveryStep (tftpTransmitFile littleHost) (TransmitState.DecidesOwn littleHost)
        (TransmitState.start sampleOperation staleTransfer) emptyResponse := by
  have hwait : ∃ s, Run (tftpAwaitAcknowledgement littleHost)
      (AwaitState.start 0 sampleOperation) completedWait s ∧ s.point = .returned .success :=
    exists_run_of_exec (by decide)
  have hsend : ∃ s, Run (tftpTransmitFile littleHost)
      (TransmitState.start sampleOperation staleTransfer) emptyResponse s ∧
      s.point = .returned .success := exists_run_of_exec (by decide)
  refine ⟨⟨hwait, ?_⟩, hsend, ?_⟩
  · obtain ⟨s, hs, -⟩ := hwait
    rw [hs.everyStep_congr fun _ _ _ hstep => AwaitState.decidesOwn_iff hstep]
    decide
  · obtain ⟨t, ht, -⟩ := hsend
    rw [ht.everyStep_congr fun _ _ _ hstep => TransmitState.decidesOwn_iff hstep]
    decide

end FixedRuns

end Stftpu
