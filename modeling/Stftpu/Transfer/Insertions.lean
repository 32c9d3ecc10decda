import Stftpu.Transfer.BoundedWaits
import Stftpu.Transfer.Identity

/-!
# Datagrams from elsewhere

Datagrams of others among those of the peer are treated as the peer's.  Such as neither
function can use are passed over: `tftp_receive_file` goes on waiting, and
`tftp_transmit_file` sends its block again, which costs it one attempt.

* `ReceiveState.Stray`, `TransmitState.Stray` — the insertions that are passed over.
* `ReceiveState.run_withoutInsertions`, `TransmitState.run_withoutInsertions` — the run that
  is left without them.
* `transfer_follows_last_source` — what becomes of a run when datagrams from elsewhere
  are among those received.
-/

namespace Stftpu

open Library

/-! ## Datagrams the receiver passes over -/

/-- Where an event of a trace comes from: the run without the insertions, or an
insertion. -/
inductive Origin
  | peer
  | elsewhere
  deriving DecidableEq, Repr

/-- The trace without the insertions. -/
def withoutInsertions (tr : List (Event × Origin)) : List Event :=
  tr.filterMap fun l => if l.2 = .peer then some l.1 else none

namespace ReceiveState

variable {b : BlockSize} {host : Host} {s s' t : ReceiveState b} {e : Event} {peer : SockAddr}

/-- `tftp_receive_file` over marked events. -/
def markedStep (host : Host) (s : ReceiveState b) (l : Event × Origin) :
    Option (ReceiveState b) :=
  tftpReceiveFile host s l.1

/-- A whole header that is neither an ERROR packet's nor the awaited block's. -/
def PassesOver (s : ReceiveState b) (bytes : List UInt8) : Prop :=
  sizeofPacket ≤ bytes.length ∧ opcodeOf bytes ≠ TFTPOpcode.error.code ∧
    ¬ (opcodeOf bytes = TFTPOpcode.data.code ∧ blockNumberOf bytes = s.tx.currentBlockNumber)

/-- The insertions are datagrams the receiver passes over, the other datagrams are the
peer's and have a whole header or nothing at all. -/
def Stray (peer : SockAddr) (s : ReceiveState b) : Event × Origin → Prop
  | (.recvfrom _ (.datagram _ bytes), .elsewhere) => s.PassesOver bytes
  | (_, .elsewhere) => False
  | (.recvfrom _ (.datagram source bytes), .peer) =>
      source = peer ∧ (bytes = [] ∨ sizeofPacket ≤ bytes.length)
  | (_, .peer) => True

/-- The run without the insertions is at the same point.  Only while a datagram is
awaited may the peer and what the buffer holds differ. -/
structure SamePoint (peer : SockAddr) (s s' : ReceiveState b) : Prop where
  point : s'.point = s.point
  peerAddress : s'.op.peerAddress = peer
  resendCounter : s'.tx.resendCounter = s.tx.resendCounter
  currentBlockNumber : s'.tx.currentBlockNumber = s.tx.currentBlockNumber
  addressed : s.point ≠ .awaiting →
    s.op.peerAddress = peer ∧ s'.tx.bytesReceived = s.tx.bytesReceived

/-- The two runs are at the same point, or both are failing. -/
def Follows (peer : SockAddr) (s s' : ReceiveState b) : Prop :=
  SamePoint peer s s' ∨ s.Failing ∧ s'.Failing

theorem onPacket_passesOver (source : SockAddr) {bytes : List UInt8}
    (h : s.PassesOver bytes) :
    s.onPacket host (.datagram source bytes) = s.received source bytes := by
  obtain ⟨hlen, herror, hdata⟩ := h
  have hpos : (s.received source bytes).tx.bytesReceived > 0 := by
    simp only [received, sizeofPacket, dataPacketMaxSize] at *
    omega
  simp only [onPacket, hpos, if_true, s.looksLikeError_received host source hlen,
    s.looksAwaited_received host source hlen, herror, hdata, decide_false,
    Bool.false_eq_true, if_false]

theorem follows_fail {u u' : ReceiveState b} (reply reply' : ErrorReply) :
    Follows peer (u.fail reply) (u'.fail reply') :=
  Or.inr ⟨failing_fail reply, failing_fail reply'⟩

theorem follows_missed (h : SamePoint peer s s') : Follows peer s.missed s'.missed := by
  by_cases hlt : s.tx.resendCounter < maxRetryCount
  · have hlt' : s'.tx.resendCounter < maxRetryCount := by rw [h.resendCounter]; exact hlt
    simp only [missed, hlt, hlt', if_true]
    exact Or.inl
      { point := rfl
        peerAddress := h.peerAddress
        resendCounter := by rw [h.resendCounter]
        currentBlockNumber := h.currentBlockNumber
        addressed := fun hp => absurd rfl hp }
  · have hlt' : ¬ s'.tx.resendCounter < maxRetryCount := by rw [h.resendCounter]; exact hlt
    simp only [missed, hlt, hlt', if_false]
    exact follows_fail _ _

/-- Both runs receive the same datagram from the peer. -/
theorem samePoint_received (h : SamePoint peer s s') (bytes : List UInt8) :
    SamePoint peer (s.received peer bytes) (s'.received peer bytes) :=
  { point := h.point
    peerAddress := rfl
    resendCounter := h.resendCounter
    currentBlockNumber := h.currentBlockNumber
    addressed := fun _ => ⟨rfl, rfl⟩ }

theorem SamePoint.with_point (h : SamePoint peer s s') (point : ReceivePoint)
    (haddressed : s.op.peerAddress = peer ∧ s'.tx.bytesReceived = s.tx.bytesReceived) :
    SamePoint peer { s with point := point } { s' with point := point } :=
  { point := rfl
    peerAddress := h.peerAddress
    resendCounter := h.resendCounter
    currentBlockNumber := h.currentBlockNumber
    addressed := fun _ => haddressed }

/-- A datagram of the peer takes both runs to the same point, whatever an insertion left
in the buffer: the payload written is the datagram's own. -/
theorem follows_datagram (h : SamePoint peer s s') {bytes : List UInt8}
    (hbytes : bytes = [] ∨ sizeofPacket ≤ bytes.length) :
    Follows peer (s.onPacket host (.datagram peer bytes))
      (s'.onPacket host (.datagram peer bytes)) := by
  rcases hbytes with rfl | hlen
  · exact follows_missed (samePoint_received h [])
  · rw [s.onPacket_header host peer hlen, s'.onPacket_header host peer hlen, h.currentBlockNumber]
    have hsame := samePoint_received h bytes
    split
    · exact Or.inl (hsame.with_point _ ⟨rfl, rfl⟩)
    · split
      · exact Or.inl (hsame.with_point _ ⟨rfl, rfl⟩)
      · exact Or.inl hsame

theorem follows_onWritten (h : SamePoint peer s s') {payload : List UInt8}
    (hpoint : s.point = .writing payload) (count : Nat) :
    Follows peer (s.onWritten count) (s'.onWritten count) := by
  simp only [onWritten]
  split
  · exact follows_fail _ _
  · exact Or.inl (h.with_point _ (h.addressed (by simp [hpoint])))

theorem follows_outerTest (h : SamePoint peer s s')
    (haddressed : s.op.peerAddress = peer ∧ s'.tx.bytesReceived = s.tx.bytesReceived) :
    Follows peer s.outerTest s'.outerTest := by
  by_cases hmore : s.tx.bytesReceived = dataPacketMaxSize b
  · have hmore' : s'.tx.bytesReceived = dataPacketMaxSize b := haddressed.2.trans hmore
    simp only [outerTest, hmore, hmore', if_true]
    exact Or.inl (h.with_point _ haddressed)
  · have hmore' : ¬ s'.tx.bytesReceived = dataPacketMaxSize b := by
      rw [haddressed.2]
      exact hmore
    simp only [outerTest, hmore, hmore', if_false]
    exact Or.inl (h.with_point _ haddressed)

theorem follows_onAcknowledged (h : SamePoint peer s s') (hpoint : s.point = .acknowledging) :
    Follows peer s.onAcknowledged s'.onAcknowledged := by
  have haddressed := h.addressed (by simp [hpoint])
  refine follows_outerTest ?_ haddressed
  exact
    { point := h.point
      peerAddress := h.peerAddress
      resendCounter := rfl
      currentBlockNumber := by simp only [h.currentBlockNumber]
      addressed := fun _ => haddressed }

/-- An insertion leaves the run with the insertions where it was. -/
theorem follows_insertion (h : SamePoint peer s s') (hstray : s.Stray peer (e, .elsewhere))
    (hstep : tftpReceiveFile host s e = some t) : Follows peer t s' := by
  cases e with
  | recvfrom size result =>
      cases result with
      | failed errno => exact absurd hstray (by simp [Stray])
      | datagram source bytes =>
          obtain ⟨hpoint, rfl⟩ := receive_recvfrom hstep
          rw [onPacket_passesOver source hstray]
          exact Or.inl
            { point := h.point
              peerAddress := h.peerAddress
              resendCounter := h.resendCounter
              currentBlockNumber := h.currentBlockNumber
              addressed := fun hp => absurd hpoint hp }
  | _ => exact absurd hstray (by simp [Stray])

/-- Any other step is made by the run without the insertions too. -/
theorem follows_step (h : SamePoint peer s s') (hp : ¬ s.Failing)
    (hstray : s.Stray peer (e, .peer)) (hstep : tftpReceiveFile host s e = some t) :
    ∃ t', tftpReceiveFile host s' e = some t' ∧ Follows peer t t' := by
  have hpoint' := h.point
  cases hpoint : s.point with
  | entry =>
      obtain ⟨set, rfl, rfl⟩ := receive_entry hpoint hstep
      rw [hpoint] at hpoint'
      refine ⟨if set then s'.fail (terminationReply host) else s'.begin,
        by simp [tftpReceiveFile, hpoint'], ?_⟩
      cases set with
      | true => exact follows_fail _ _
      | false =>
          have haddressed := h.addressed (by simp [hpoint])
          exact Or.inl
            { point := rfl
              peerAddress := h.peerAddress
              resendCounter := h.resendCounter
              currentBlockNumber := rfl
              addressed := fun _ => haddressed }
  | nextBlock =>
      obtain ⟨set, rfl, rfl⟩ := receive_nextBlock hpoint hstep
      rw [hpoint] at hpoint'
      refine ⟨if set then s'.fail (terminationReply host) else { s' with point := .awaiting },
        by simp [tftpReceiveFile, hpoint'], ?_⟩
      cases set with
      | true => exact follows_fail _ _
      | false => exact Or.inl (h.with_point _ (h.addressed (by simp [hpoint])))
  | awaiting =>
      obtain ⟨result, rfl, rfl⟩ := receive_awaiting hpoint hstep
      rw [hpoint] at hpoint'
      refine ⟨s'.onPacket host result, by simp [tftpReceiveFile, hpoint'], ?_⟩
      cases result with
      | failed errno =>
          refine follows_missed ?_
          exact
            { point := h.point
              peerAddress := h.peerAddress
              resendCounter := h.resendCounter
              currentBlockNumber := h.currentBlockNumber
              addressed := fun hnot => absurd hpoint hnot }
      | datagram source bytes =>
          obtain ⟨rfl, hbytes⟩ := hstray
          exact follows_datagram h hbytes
  | writing payload =>
      obtain ⟨count, kept, rfl, hcount, rfl⟩ := receive_writing hpoint hstep
      rw [hpoint] at hpoint'
      exact ⟨s'.onWritten count, by simp [tftpReceiveFile, hpoint', hcount],
        follows_onWritten h hpoint count⟩
  | acknowledging =>
      obtain ⟨ok, rfl, rfl⟩ := receive_acknowledging hpoint hstep
      rw [hpoint] at hpoint'
      have haddressed := h.addressed (by simp [hpoint])
      exact ⟨s'.onAcknowledged,
        by simp [tftpReceiveFile, hpoint', haddressed.1, h.peerAddress, h.currentBlockNumber],
        follows_onAcknowledged h hpoint⟩
  | failing reply => exact absurd (Or.inl ⟨reply, hpoint⟩) hp
  | returned exit =>
      rw [receive_returned hpoint] at hstep
      cases hstep
  | fault =>
      rw [receive_fault hpoint] at hstep
      cases hstep

/-- What an observer of the run with the insertions sees of it: neither the insertions nor
the ERROR packets sent. -/
def observed (l : Event × Origin) : Option Event :=
  match l.2 with
  | .peer => l.1.notError
  | .elsewhere => none

theorem observed_withoutInsertions (tr : List (Event × Origin)) :
    tr.filterMap observed = withoutErrors (withoutInsertions tr) := by
  rw [withoutErrors, withoutInsertions, List.filterMap_filterMap]
  congr 1
  funext l
  obtain ⟨e, origin⟩ := l
  cases origin <;> rfl

/-- With insertions the receiver passes over, leaving them out gives a run that makes the
same calls, ERROR packets aside. -/
theorem run_withoutInsertions {op : OperationData} {tx : TransferData b}
    {tr : List (Event × Origin)} (h : Run (markedStep host) (start op tx) tr s)
    (hstray : EveryStep (markedStep host) (Stray op.peerAddress) (start op tx) tr) :
    ∃ tr' s', Run (tftpReceiveFile host) (start op tx) tr' s' ∧
      withoutErrors tr' = withoutErrors (withoutInsertions tr) ∧
      Follows op.peerAddress s s' := by
  have hstart : SamePoint op.peerAddress (start op tx) (start op tx) :=
    { point := rfl
      peerAddress := rfl
      resendCounter := rfl
      currentBlockNumber := rfl
      addressed := fun _ => ⟨rfl, rfl⟩ }
  rw [← observed_withoutInsertions]
  refine h.simulated_of_everyStep _ (Follows op.peerAddress) _ _ ?_ hstray (Or.inl hstart)
  rintro t ⟨e, origin⟩ u t' hfollows hcond hstep
  rcases hfollows with hsame | ⟨ht, ht'⟩
  · by_cases hfailing : t.Failing
    · have ht' : t'.Failing := by
        rcases hfailing with ⟨reply, hp⟩ | hp
        · exact Or.inl ⟨reply, hsame.point.trans hp⟩
        · exact Or.inr (hsame.point.trans hp)
      -- behind a failure only ERROR packets are left, which nobody compares
      obtain ⟨hseen, hu⟩ := failing_step hfailing hstep
      exact ⟨[], t', Run.nil, by cases origin <;> simp [observed, hseen], Or.inr ⟨hu, ht'⟩⟩
    · cases origin with
      -- an insertion is no step of the other run
      | elsewhere => exact ⟨[], t', Run.nil, rfl, follows_insertion hsame hcond hstep⟩
      | peer =>
          obtain ⟨u', hu', hfollows⟩ := follows_step hsame hfailing hcond hstep
          refine ⟨[e], u', Run.single hu', ?_, hfollows⟩
          rw [List.filterMap_cons]
          cases hseen : e.notError <;> simp [observed, hseen]
  · obtain ⟨hseen, hu⟩ := failing_step ht hstep
    exact ⟨[], t', Run.nil, by cases origin <;> simp [observed, hseen], Or.inr ⟨hu, ht'⟩⟩

/-- Whatever is inserted, the ACKs go to the peer. -/
theorem ack_to_peer {op : OperationData} {tx : TransferData b} {tr : List (Event × Origin)}
    (h : Run (markedStep host) (start op tx) tr s)
    (hstray : EveryStep (markedStep host) (Stray op.peerAddress) (start op tx) tr)
    {other : SockAddr} {packet : List UInt8} {ok : Bool} {origin : Origin}
    (hmem : (.sendto other packet ok, origin) ∈ tr)
    (hack : opcodeOf packet = TFTPOpcode.ack.code) : other = op.peerAddress := by
  obtain ⟨pre, post, rfl⟩ := List.append_of_mem hmem
  obtain ⟨t, u, hpre, hstep, -⟩ := h.step_at
  obtain ⟨-, t', -, -, hfollows⟩ := run_withoutInsertions hpre hstray.of_append
  simp only [markedStep] at hstep
  obtain ⟨rfl, ⟨hpoint, -⟩ | ⟨reply, -, rfl⟩⟩ := receive_sendto hstep
  · rcases hfollows with hsame | ⟨⟨reply, hp⟩ | hp, -⟩
    · exact (hsame.addressed (by simp [hpoint])).1
    · rw [hpoint] at hp
      cases hp
    · rw [hpoint] at hp
      cases hp
  · rw [opcodeOf_errorPacket] at hack
    exact absurd hack (by decide)

end ReceiveState

/-! ## Datagrams the sender passes over -/

/-- A call, or a datagram from elsewhere with the block that is sent again behind it. -/
inductive Insertion
  | call (e : Event)
  | stray (source : SockAddr) (bytes packet : List UInt8)
  deriving DecidableEq, Repr

namespace Insertion

/-- The calls themselves. -/
def events : Insertion → List Event
  | .call e => [e]
  | .stray source bytes packet =>
      [.recvfrom responsePacketMaxSize (.datagram source bytes), .poll false,
        .sendto source packet true]

/-- What there is of it without the insertions. -/
def kept : Insertion → Option Event
  | .call e => some e
  | .stray _ _ _ => none

end Insertion

/-- A datagram is no shorter than its header. -/
def Event.HasHeader : Event → Prop
  | .recvfrom _ (.datagram _ bytes) => sizeofPacket ≤ bytes.length
  | _ => True

namespace TransmitState

variable {b : BlockSize} {host : Host} {s s' t : TransmitState b} {e : Event} {peer : SockAddr}

/-- `tftp_transmit_file` over calls and insertions. -/
def insertedStep (host : Host) (s : TransmitState b) (m : Insertion) :
    Option (TransmitState b) :=
  exec (tftpTransmitFile host) s m.events

/-- The insertions are taken neither for an ERROR packet nor for the ACK awaited and leave an
attempt.  Other datagrams have a whole header, and the last attempt at a block is not passed
over. -/
def Stray (host : Host) (s : TransmitState b) : Insertion → Prop
  | .stray source bytes _ =>
      ¬ s.TakenForAck host (.datagram source bytes) ∧
        ¬ s.Fatal host (.datagram source bytes) ∧ s.tx.resendCounter + 1 < maxRetryCount
  | .call e => e.HasHeader ∧ s.LastAttemptDecides host e

/-- The same state with another peer, and with other values where insertions leave theirs. -/
def shadow (s : TransmitState b) (peer : SockAddr) (count total : Nat) (received : Int)
    (response : Buffer responsePacketMaxSize) : TransmitState b :=
  { s with
    op := { s.op with peerAddress := peer }
    tx := { s.tx with
      resendCounter := count
      bytesReceived := received
      totalFileBytesTransmitted := total
      responsePacket := response } }

/-- The run without the insertions is at the same point, with no fewer attempts left. -/
structure Shadows (peer : SockAddr) (s s' : TransmitState b) : Prop where
  reading : s.point = .reading → s.tx.resendCounter = 0
  sent : s.point = .awaiting → s.tx.bytesSent = sizeofPacket + s.tx.latestFileBytesRead
  shadow : ∃ count ≤ s.tx.resendCounter, ∃ total received response,
    s' = s.shadow peer count total received response

/-- The two runs are at the same point, or both are failing. -/
def Follows (peer : SockAddr) (s s' : TransmitState b) : Prop :=
  Shadows peer s s' ∨ s.Failing ∧ s'.Failing

variable {count total : Nat} {received : Int} {response : Buffer responsePacketMaxSize}

theorem follows_fail {u u' : TransmitState b} (reply reply' : ErrorReply) :
    Follows peer (u.fail reply) (u'.fail reply') :=
  Or.inr ⟨failing_fail reply, failing_fail reply'⟩

theorem shadows_point {point : TransmitPoint} (hreading : point ≠ .reading)
    (hawaiting : point ≠ .awaiting) (hcount : count ≤ s.tx.resendCounter) :
    Shadows peer { s with point := point }
      { s.shadow peer count total received response with point := point } where
  reading := fun h => absurd h hreading
  sent := fun h => absurd h hawaiting
  shadow := ⟨count, hcount, total, received, response, rfl⟩

theorem follows_outerTest (hcount : count ≤ s.tx.resendCounter) :
    Follows peer s.outerTest (s.shadow peer count total received response).outerTest := by
  have hsent : (s.shadow peer count total received response).tx.bytesSent = s.tx.bytesSent := rfl
  simp only [outerTest, hsent]
  split
  · exact Or.inl (shadows_point (by simp) (by simp) hcount)
  · exact Or.inl (shadows_point (by simp) (by simp) hcount)

theorem follows_innerTest (hlt : s.tx.resendCounter < maxRetryCount)
    (hcount : count ≤ s.tx.resendCounter) :
    Follows peer s.innerTest (s.shadow peer count total received response).innerTest := by
  rw [s.innerTest_lt hlt, innerTest_lt _ (lt_of_le_of_lt hcount hlt)]
  exact Or.inl (shadows_point (by simp) (by simp) hcount)

theorem retry_left (hlt : s.tx.resendCounter + 1 < maxRetryCount) :
    s.retry = { s with
      point := .attempt
      tx := { s.tx with resendCounter := s.tx.resendCounter + 1 } } := by
  rw [s.retry_of_lt (by omega)]
  exact innerTest_lt _ hlt

/-- A response that is passed over leaves another attempt to both. -/
theorem follows_retry (hlt : s.tx.resendCounter + 1 < maxRetryCount)
    (hcount : count ≤ s.tx.resendCounter) :
    Follows peer s.retry (s.shadow peer count total received response).retry := by
  have hlt' : (s.shadow peer count total received response).tx.resendCounter + 1 <
      maxRetryCount := lt_of_le_of_lt (Nat.succ_le_succ hcount) hlt
  rw [retry_left hlt, retry_left hlt']
  exact Or.inl (shadows_point
    (s := { s with tx := { s.tx with resendCounter := s.tx.resendCounter + 1 } })
    (by simp) (by simp) (Nat.succ_le_succ hcount))

theorem follows_onRead (hzero : s.tx.resendCounter = 0) (hcount : count ≤ s.tx.resendCounter)
    (bytes : List UInt8) (eof : Bool) :
    Follows peer (s.onRead bytes eof)
      ((s.shadow peer count total received response).onRead bytes eof) := by
  simp only [onRead]
  split
  · exact follows_fail _ _
  · refine follows_innerTest (s := { s with tx := { s.tx with
      latestFileBytesRead := bytes.length
      dataPacket := s.tx.dataPacket.store sizeofPacket bytes } }) ?_ hcount
    show s.tx.resendCounter < maxRetryCount
    rw [hzero]
    decide

theorem follows_onSent (hcount : count ≤ s.tx.resendCounter) (ok : Bool) :
    Follows peer (s.onSent ok) ((s.shadow peer count total received response).onSent ok) := by
  cases ok with
  | true =>
      exact Or.inl
        { reading := fun h => by cases h
          sent := fun _ => rfl
          shadow := ⟨count, hcount, _, received, response, rfl⟩ }
  | false => exact follows_fail _ _

/-- A whole header is read as it arrived, whatever the buffer held. -/
theorem loads_receive (host : Host) {m : Nat} (hm : sizeofPacket ≤ m) (buf buf' : Buffer m)
    {bytes : List UInt8} (hlen : sizeofPacket ≤ bytes.length) :
    loadOpcode host (buf.receive bytes) = loadOpcode host (buf'.receive bytes) ∧
      loadBlockNumber host (buf.receive bytes) = loadBlockNumber host (buf'.receive bytes) := by
  simp only [sizeofPacket] at hm hlen
  have hbyte : ∀ i < 4, (buf.receive bytes).byte i = (buf'.receive bytes).byte i := by
    intro i hi
    rw [buf.receive_byte (by omega) (by omega), buf'.receive_byte (by omega) (by omega)]
  simp only [loadOpcode, loadBlockNumber, hbyte 0 (by omega), hbyte 1 (by omega),
    hbyte 2 (by omega), hbyte 3 (by omega), and_self]

/-- A datagram that is not passed over at the last attempt takes both runs to the same point. -/
theorem follows_datagram {source : SockAddr} {bytes : List UInt8} {size : Nat}
    (hlen : sizeofPacket ≤ bytes.length) (hcount : count ≤ s.tx.resendCounter)
    (hdecides : s.LastAttemptDecides host (.recvfrom size (.datagram source bytes))) :
    Follows peer (s.onResponse host (.datagram source bytes))
      ((s.shadow peer count total received response).onResponse host
        (.datagram peer bytes)) := by
  have hshadow : (s.shadow peer count total received response).received peer bytes =
      (s.received source bytes).shadow peer count total
        (min bytes.length responsePacketMaxSize) (response.receive bytes) := rfl
  obtain ⟨hopcode, hnumber⟩ := loads_receive host (by decide : sizeofPacket ≤ _)
    response s.tx.responsePacket hlen
  have herror : ((s.received source bytes).shadow peer count total
      (min bytes.length responsePacketMaxSize) (response.receive bytes)).looksLikeError host =
      (s.received source bytes).looksLikeError host := by
    rw [Bool.eq_iff_iff, looksLikeError_iff, looksLikeError_iff]
    simp only [TransmitState.shadow, TransmitState.received, hopcode]
  have hack : ((s.received source bytes).shadow peer count total
      (min bytes.length responsePacketMaxSize) (response.receive bytes)).looksLikeAck host =
      (s.received source bytes).looksLikeAck host := by
    rw [Bool.eq_iff_iff]
    simp only [looksLikeAck, Bool.and_eq_true, decide_eq_true_eq]
    simp only [TransmitState.shadow, TransmitState.received, hopcode, hnumber]
  simp only [onResponse, hshadow, herror, hack]
  split
  · exact Or.inl (shadows_point (by simp) (by simp) hcount)
  · rename_i hnoError
    split
    · exact follows_outerTest (s := s.received source bytes) hcount
    · rename_i hnoAck
      refine follows_retry (s := s.received source bytes) ?_ hcount
      show s.tx.resendCounter + 1 < maxRetryCount
      by_contra hlast
      rcases hdecides (by omega) with htaken | hfatal
      · exact hnoAck htaken.2
      · exact hnoError hfatal

theorem follows_failed {errno : Errno} {size : Nat} (hcount : count ≤ s.tx.resendCounter)
    (hdecides : s.LastAttemptDecides host (.recvfrom size (.failed errno))) :
    Follows peer (s.onResponse host (.failed errno))
      ((s.shadow peer count total received response).onResponse host (.failed errno)) := by
  simp only [onResponse]
  split
  · rename_i htimedOut
    refine follows_retry (s := { s with tx := { s.tx with bytesReceived := -1 } }) ?_ hcount
    show s.tx.resendCounter + 1 < maxRetryCount
    by_contra hlast
    rcases hdecides (by omega) with htaken | hfatal
    · exact htaken
    · exact hfatal htimedOut
  · exact follows_fail _ _

/-- An insertion, with the block sent again behind it, leaves the run where it was. -/
theorem shadows_stray {source : SockAddr} {bytes packet : List UInt8} (h : Shadows peer s s')
    (hstray : s.Stray host (.stray source bytes packet))
    (hstep : s.insertedStep host (.stray source bytes packet) = some t) : Shadows peer t s' := by
  obtain ⟨hnoAck, hnoError, hleft⟩ := hstray
  obtain ⟨-, hsent, count, hcount, total, received, response, rfl⟩ := h
  have hrun : Run (tftpTransmitFile host) s (Insertion.stray source bytes packet).events t :=
    run_iff_exec.mpr hstep
  obtain ⟨u, hrecv, hrun⟩ := hrun.of_cons
  obtain ⟨hawaits, rfl⟩ := transmit_recvfrom hrecv
  have hpassed : s.onResponse host (.datagram source bytes) = (s.received source bytes).retry := by
    simp only [Fatal, Bool.not_eq_true] at hnoError
    simp only [TakenForAck, hnoError, true_and] at hnoAck
    simp only [onResponse, hnoError, hnoAck, Bool.false_eq_true, if_false]
  obtain ⟨v, hpoll, hrun⟩ := hrun.of_cons
  rw [hpassed, (s.received source bytes).retry_left hleft] at hpoll
  obtain ⟨set, he, rfl⟩ := transmit_attempt rfl hpoll
  obtain rfl := Event.poll.inj he
  obtain ⟨ok, he, rfl⟩ := transmit_sending rfl hrun.step_of_single
  obtain ⟨-, -, rfl⟩ := Event.sendto.inj he
  refine
    { reading := fun h => by cases h
      sent := fun _ => rfl
      shadow := ⟨count, Nat.le_succ_of_le hcount, total, received, response, ?_⟩ }
  simp [TransmitState.shadow, TransmitState.received, onSent, hawaits, hsent hawaits]

/-- Any other step is made by the run without the insertions too, with the peer at the other
end. -/
theorem follows_call (h : Shadows peer s s') (hp : ¬ s.Failing)
    (hstray : s.Stray host (.call e)) (hstep : tftpTransmitFile host s e = some t) :
    ∃ t', tftpTransmitFile host s' (e.relabel peer) = some t' ∧ Follows peer t t' := by
  obtain ⟨hreading, hsent, count, hcount, total, received, response, rfl⟩ := h
  have hpoint' : (s.shadow peer count total received response).point = s.point := rfl
  cases hpoint : s.point with
  | entry =>
      obtain ⟨set, rfl, rfl⟩ := transmit_entry hpoint hstep
      refine ⟨if set then (s.shadow peer count total received response).fail
          (terminationReply host)
        else (s.shadow peer count total received response).begin,
        by simp [tftpTransmitFile, Event.relabel, hpoint', hpoint], ?_⟩
      cases set with
      | true => exact follows_fail _ _
      | false => exact follows_outerTest (s := { s with tx := { s.tx with
          dataPacket := s.tx.dataPacket.store 0 (wire16 TFTPOpcode.data.code)
          bytesSent := dataPacketMaxSize b } }) hcount
  | nextBlock =>
      obtain ⟨set, rfl, rfl⟩ := transmit_nextBlock hpoint hstep
      refine ⟨if set then (s.shadow peer count total received response).fail
          (terminationReply host)
        else (s.shadow peer count total received response).startBlock,
        by simp [tftpTransmitFile, Event.relabel, hpoint', hpoint], ?_⟩
      cases set with
      | true => exact follows_fail _ _
      -- a new block begins, with all its attempts left to both
      | false =>
          exact Or.inl
            { reading := fun _ => rfl
              sent := fun h => by cases h
              shadow := ⟨0, le_rfl, total, received, response, rfl⟩ }
  | reading =>
      obtain ⟨bytes, eof, rfl, hlen, rfl⟩ := transmit_reading hpoint hstep
      exact ⟨(s.shadow peer count total received response).onRead bytes eof,
        by simp [tftpTransmitFile, Event.relabel, hpoint', hpoint, hlen],
        follows_onRead (hreading hpoint) hcount bytes eof⟩
  | attempt =>
      obtain ⟨set, rfl, rfl⟩ := transmit_attempt hpoint hstep
      refine ⟨if set then (s.shadow peer count total received response).fail
          (terminationReply host)
        else { s.shadow peer count total received response with point := .sending },
        by simp [tftpTransmitFile, Event.relabel, hpoint', hpoint], ?_⟩
      cases set with
      | true => exact follows_fail _ _
      | false => exact Or.inl (shadows_point (by simp) (by simp) hcount)
  | sending =>
      obtain ⟨ok, rfl, rfl⟩ := transmit_sending hpoint hstep
      have hout : (s.shadow peer count total received response).outgoing = s.outgoing := rfl
      have hpeer : (s.shadow peer count total received response).op.peerAddress = peer := rfl
      exact ⟨(s.shadow peer count total received response).onSent ok,
        by simp [tftpTransmitFile, Event.relabel, hpoint', hpoint, hout, hpeer],
        follows_onSent hcount ok⟩
  | awaiting =>
      obtain ⟨result, rfl, rfl⟩ := transmit_awaiting hpoint hstep
      cases result with
      | datagram source bytes =>
          obtain ⟨hlen : sizeofPacket ≤ bytes.length, hdecides⟩ := hstray
          exact ⟨(s.shadow peer count total received response).onResponse host
              (.datagram peer bytes),
            by simp [tftpTransmitFile, Event.relabel, hpoint', hpoint],
            follows_datagram hlen hcount hdecides⟩
      | failed errno =>
          exact ⟨(s.shadow peer count total received response).onResponse host (.failed errno),
            by simp [tftpTransmitFile, Event.relabel, hpoint', hpoint],
            follows_failed hcount hstray.2⟩
  | failing reply => exact absurd (Or.inl ⟨reply, hpoint⟩) hp
  | returned exit =>
      rw [transmit_returned hpoint] at hstep
      cases hstep

/-- What an observer of the run with the insertions sees of it: the calls, with the peer at
the other end, without the ERROR packets sent. -/
def observed (peer : SockAddr) (m : Insertion) : Option Event :=
  (m.kept.bind Event.notError).map (Event.relabel peer)

theorem observed_kept (peer : SockAddr) (tr : List Insertion) :
    tr.filterMap (observed peer) =
      (withoutErrors (tr.filterMap Insertion.kept)).map (Event.relabel peer) := by
  rw [withoutErrors, List.filterMap_filterMap, List.map_filterMap]
  rfl

/-- Behind a failure nothing is inserted. -/
theorem failing_insertedStep (peer : SockAddr) {m : Insertion} (h : s.Failing)
    (hstep : insertedStep host s m = some t) : observed peer m = none ∧ t.Failing := by
  have hrun : Run (tftpTransmitFile host) s m.events t := run_iff_exec.mpr hstep
  cases m with
  | call e =>
      obtain ⟨hseen, ht⟩ := failing_step h hrun.step_of_single
      exact ⟨by simp [observed, Insertion.kept, hseen], ht⟩
  | stray source bytes packet =>
      obtain ⟨u, hfirst, -⟩ := hrun.of_cons
      have hawaits := (transmit_recvfrom hfirst).1
      rcases h with ⟨reply, hp⟩ | hp
      · rw [hawaits] at hp
        cases hp
      · rw [hawaits] at hp
        cases hp

/-- With insertions the sender passes over, leaving them out, with the blocks sent again
behind them, gives a run that makes the same calls, ERROR packets aside. -/
theorem run_withoutInsertions {op : OperationData} {tx : TransferData b} {tr : List Insertion}
    (h : Run (insertedStep host) (start op tx) tr s)
    (hstray : EveryStep (insertedStep host) (Stray host) (start op tx) tr) :
    ∃ tr' s', Run (tftpTransmitFile host) (start op tx) tr' s' ∧
      withoutErrors tr' =
        (withoutErrors (tr.filterMap Insertion.kept)).map (Event.relabel op.peerAddress) ∧
      Follows op.peerAddress s s' := by
  have hstart : Shadows op.peerAddress (start op tx) (start op tx) :=
    { reading := fun h => by cases h
      sent := fun h => by cases h
      shadow := ⟨tx.resendCounter, le_rfl, tx.totalFileBytesTransmitted, tx.bytesReceived,
        tx.responsePacket, rfl⟩ }
  rw [← observed_kept]
  refine h.simulated_of_everyStep _ (Follows op.peerAddress) _ _ ?_ hstray (Or.inl hstart)
  intro t m u t' hfollows hcond hstep
  by_cases hfailing : t.Failing
  · have ht' : t'.Failing := by
      rcases hfollows with ⟨-, -, count, -, total, received, response, rfl⟩ | ⟨-, ht'⟩
      · exact hfailing
      · exact ht'
    -- behind a failure only ERROR packets are left, which nobody compares
    obtain ⟨hseen, hu⟩ := failing_insertedStep op.peerAddress hfailing hstep
    exact ⟨[], t', Run.nil, by simp [hseen], Or.inr ⟨hu, ht'⟩⟩
  · have hshadows := hfollows.resolve_right fun h => hfailing h.1
    cases m with
    -- an insertion is no step of the other run
    | stray source bytes packet =>
        exact ⟨[], t', Run.nil, rfl, Or.inl (shadows_stray hshadows hcond hstep)⟩
    | call e =>
        have hcall := Run.step_of_single (run_iff_exec.mpr hstep)
        obtain ⟨u', hu', hfollows⟩ := follows_call hshadows hfailing hcond hcall
        refine ⟨[e.relabel op.peerAddress], u', Run.single hu', ?_, hfollows⟩
        rw [List.filterMap_cons, notError_relabel]
        cases hseen : e.notError <;> simp [observed, Insertion.kept, hseen]

end TransmitState

/-! ## Transfer identity -/

/-- Datagrams from elsewhere are treated as the peer's.

Were all datagrams the peer's, either function would make the same calls and return the
same value; each packet goes to the source of the last datagram received.  Insertions
that `tftp_receive_file` passes over change neither what it writes nor the ACKs it sends
to the peer.  Those that `tftp_transmit_file` passes over cost it one repetition of the
block each.  ERROR packets are left out of the comparison of runs, for they are not sent
to a peer on the requests port. -/
theorem transfer_follows_last_source (host : Host) (b : BlockSize) (op : OperationData)
    (tx : TransferData b) :
    (∀ tr s, Run (tftpTransmitFile host) (TransmitState.start op tx) tr s →
      (∃ tr' s', Run (tftpTransmitFile host) (TransmitState.start op tx) tr' s' ∧
        withoutErrors tr' = (withoutErrors tr).map (Event.relabel op.peerAddress) ∧
        (s'.point = s.point ∨ s.Failing ∧ s'.Failing)) ∧
      ∀ pre other packet ok post, tr = pre ++ .sendto other packet ok :: post →
        other = lastSource op.peerAddress pre) ∧
    (∀ tr s, Run (tftpReceiveFile host) (ReceiveState.start op tx) tr s →
      (∃ tr' s', Run (tftpReceiveFile host) (ReceiveState.start op tx) tr' s' ∧
        withoutErrors tr' = (withoutErrors tr).map (Event.relabel op.peerAddress) ∧
        (s'.point = s.point ∨ s.Failing ∧ s'.Failing)) ∧
      ∀ pre other packet ok post, tr = pre ++ .sendto other packet ok :: post →
        other = lastSource op.peerAddress pre) ∧
    (∀ tr s, Run (ReceiveState.markedStep host) (ReceiveState.start op tx) tr s →
      EveryStep (ReceiveState.markedStep host) (ReceiveState.Stray op.peerAddress)
        (ReceiveState.start op tx) tr →
      (∃ tr' s', Run (tftpReceiveFile host) (ReceiveState.start op tx) tr' s' ∧
        withoutErrors tr' = withoutErrors (withoutInsertions tr) ∧
        (s'.point = s.point ∨ s.Failing ∧ s'.Failing)) ∧
      ∀ other packet ok origin, (.sendto other packet ok, origin) ∈ tr →
        opcodeOf packet = TFTPOpcode.ack.code → other = op.peerAddress) ∧
    ∀ tr s, Run (TransmitState.insertedStep host) (TransmitState.start op tx) tr s →
      EveryStep (TransmitState.insertedStep host) (TransmitState.Stray host)
        (TransmitState.start op tx) tr →
      Run (tftpTransmitFile host) (TransmitState.start op tx) (tr.flatMap Insertion.events) s ∧
      ∃ tr' s', Run (tftpTransmitFile host) (TransmitState.start op tx) tr' s' ∧
        withoutErrors tr' =
          (withoutErrors (tr.filterMap Insertion.kept)).map (Event.relabel op.peerAddress) ∧
        (s'.point = s.point ∨ s.Failing ∧ s'.Failing) := by
  refine ⟨?_, ?_, ?_, ?_⟩
  · intro tr s h
    refine ⟨?_, ?_⟩
    · obtain ⟨tr', s', h', hsame, hend⟩ := (TransmitState.correspondent host b).run_relabelled h
      exact ⟨tr', s', h', hsame, hend.imp_left fun heq => by rw [heq]; rfl⟩
    · rintro pre other packet ok post rfl
      exact (TransmitState.correspondent host b).sends_to_lastSource h
  · intro tr s h
    refine ⟨?_, ?_⟩
    · obtain ⟨tr', s', h', hsame, hend⟩ := (ReceiveState.correspondent host b).run_relabelled h
      exact ⟨tr', s', h', hsame, hend.imp_left fun heq => by rw [heq]; rfl⟩
    · rintro pre other packet ok post rfl
      exact (ReceiveState.correspondent host b).sends_to_lastSource h
  · intro tr s h hstray
    refine ⟨?_, ?_⟩
    · obtain ⟨tr', s', h', hsame, hend⟩ := ReceiveState.run_withoutInsertions h hstray
      exact ⟨tr', s', h', hsame, hend.imp_left fun hsame => hsame.point⟩
    · intro other packet ok origin hmem hack
      exact ReceiveState.ack_to_peer h hstray hmem hack
  · intro tr s h hstray
    refine ⟨h.of_exec, ?_⟩
    obtain ⟨tr', s', h', hsame, hend⟩ := TransmitState.run_withoutInsertions h hstray
    refine ⟨tr', s', h', hsame, hend.imp_left ?_⟩
    rintro ⟨-, -, count, -, total, received, response, rfl⟩
    rfl

section FixedRuns

instance {b : BlockSize} (peer : SockAddr) (s : ReceiveState b) (l : Event × Origin) :
    Decidable (s.Stray peer l) := by
  unfold ReceiveState.Stray ReceiveState.PassesOver
  split <;> infer_instance

/-- A transfer of one block, an ACK from elsewhere inserted while it is awaited. -/
def strayAck : List (Event × Origin) :=
  [(.poll false, .peer), (.poll false, .peer),
    (.recvfrom 12 (.datagram (localhost 40009) (ackPacket 1)), .elsewhere),
    (.recvfrom 12 (.datagram (localhost 50001) (dataPacket 1 (ascii "abc"))), .peer),
    (.fwrite (ascii "abc") 3 0, .peer),
    (.sendto (localhost 50001) (ackPacket 1) true, .peer)]

/-- The first block of a transfer has been sent to its peer. -/
def firstBlockSent : List Event :=
  [.poll false, .poll false, .fread 8 (ascii "abc") true, .poll false,
    .sendto (localhost 50001) (dataPacket 1 (ascii "abc")) true]

instance : DecidablePred Event.HasHeader
  | .recvfrom _ (.datagram _ bytes) => inferInstanceAs (Decidable (sizeofPacket ≤ bytes.length))
  | .recvfrom _ (.failed _) | .poll _ | .malloc _ _ | .fopen _ _ _ | .stat _ _ | .fread _ _ _
  | .fwrite _ _ _ | .fclose _ | .remove _ _ | .sendto _ _ _ | .close _ | .dataSocket _
  | .acquire _ | .create _ | .release => isTrue trivial

instance {b : BlockSize} (host : Host) (s : TransmitState b) : DecidablePred (s.Stray host)
  | .stray source bytes _ => inferInstanceAs (Decidable (
      ¬ s.TakenForAck host (.datagram source bytes) ∧
        ¬ s.Fatal host (.datagram source bytes) ∧ s.tx.resendCounter + 1 < maxRetryCount))
  | .call e => inferInstanceAs (Decidable (e.HasHeader ∧ s.LastAttemptDecides host e))

/-- An ACK from elsewhere has the first block sent again, there. -/
def strayRepeat : List Insertion :=
  firstBlockSent.map .call ++
    [.stray (localhost 40009) (ackPacket 0) (dataPacket 1 (ascii "abc")),
      .call (.recvfrom 36 (.datagram (localhost 50001) (ackPacket 1)))]

/-- Either transfer is the one without the insertion. -/
theorem transfer_follows_last_source_stray :
    (∃ tr' s', Run (tftpReceiveFile littleHost)
        (ReceiveState.start sampleOperation sampleTransfer) tr' s' ∧
      withoutErrors tr' = withoutErrors (withoutInsertions strayAck) ∧
      s'.point = .returned .success) ∧
    ∃ tr' s', Run (tftpTransmitFile littleHost)
        (TransmitState.start sampleOperation sampleTransfer) tr' s' ∧
      withoutErrors tr' = (withoutErrors (strayRepeat.filterMap Insertion.kept)).map
        (Event.relabel sampleOperation.peerAddress) ∧
      s'.point = .returned .success := by
  have hreceive : ∃ s, Run (ReceiveState.markedStep littleHost)
      (ReceiveState.start sampleOperation sampleTransfer) strayAck s ∧
      s.point = .returned .success := exists_run_of_exec (by decide)
  have htransmit : ∃ s, Run (TransmitState.insertedStep littleHost)
      (TransmitState.start sampleOperation sampleTransfer) strayRepeat s ∧
      s.point = .returned .success := exists_run_of_exec (by decide)
  refine ⟨?_, ?_⟩
  · obtain ⟨s, hs, hpoint⟩ := hreceive
    obtain ⟨tr', s', h', hsame, hend⟩ :=
      ((transfer_follows_last_source littleHost sampleBlockSize sampleOperation
        sampleTransfer).2.2.1 strayAck s hs (by decide)).1
    refine ⟨tr', s', h', hsame, ?_⟩
    rcases hend with hend | ⟨hfailing, -⟩
    · exact hend.trans hpoint
    · simp [ReceiveState.Failing, hpoint] at hfailing
  · obtain ⟨s, hs, hpoint⟩ := htransmit
    obtain ⟨tr', s', h', hsame, hend⟩ :=
      ((transfer_follows_last_source littleHost sampleBlockSize sampleOperation
        sampleTransfer).2.2.2 strayRepeat s hs (by decide)).2
    refine ⟨tr', s', h', hsame, ?_⟩
    rcases hend with hend | ⟨hfailing, -⟩
    · exact hend.trans hpoint
    · simp [TransmitState.Failing, hpoint] at hfailing

/-- A datagram from elsewhere has the file's block sent to where it came from; without it
every packet of the transfer goes to the peer. -/
theorem foreign_ack_redirects :
    (∃ s, Run (tftpTransmitFile littleHost) (TransmitState.start sampleOperation sampleTransfer)
        (firstBlockSent ++ [.recvfrom 36 (.datagram (localhost 50001) (ackPacket 1))]) s ∧
      s.point = .returned .success) ∧
    ∃ s, Run (tftpTransmitFile littleHost) (TransmitState.start sampleOperation sampleTransfer)
        (firstBlockSent ++
          [.recvfrom 36 (.datagram (localhost 40009) (ackPacket 0)),
            .poll false,
            .sendto (localhost 40009) (dataPacket 1 (ascii "abc")) true,
            .recvfrom 36 (.datagram (localhost 50001) (ackPacket 1))]) s ∧
      s.point = .returned .success :=
  ⟨exists_run_of_exec (by decide), exists_run_of_exec (by decide)⟩

end FixedRuns

end Stftpu
