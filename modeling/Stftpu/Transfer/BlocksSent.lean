import Stftpu.Transfer.Parties

/-!
# The blocks a sender has sent

`blocksSent` reads the DATA packets off a trace, resends left out.  `Sender.SentAt` says
which blocks these are at each control point (`Sender.step_sends`); when
`tftp_transmit_file` returns `true` they make up the file
(`Sender.contents_of_success`).
-/

namespace Stftpu

open Library

/-- The packets sent so far, behind an event: a DATA packet that repeats the one before it
is that block again. -/
def noteSent (packets : List (List UInt8)) : Event → List (List UInt8)
  | .sendto _ packet true =>
      if opcodeOf packet = TFTPOpcode.data.code ∧ packets.getLast? ≠ some packet then
        packets ++ [packet]
      else
        packets
  | _ => packets

/-- The DATA packets sent, resends left out. -/
def blocksSent (tr : List Event) : List (List UInt8) :=
  tr.foldl noteSent []

/-- The payloads of these packets, put together. -/
def contentsSent (tr : List Event) : List UInt8 :=
  (blocksSent tr).flatMap (List.drop sizeofPacket)

@[simp] theorem blocksSent_snoc (tr : List Event) (e : Event) :
    blocksSent (tr ++ [e]) = noteSent (blocksSent tr) e := by
  simp [blocksSent]

/-- Only DATA packets count. -/
theorem noteSent_of_not_data {packets : List (List UInt8)} {e : Event}
    (h : ∀ peer packet ok, e = .sendto peer packet ok →
      opcodeOf packet ≠ TFTPOpcode.data.code) : noteSent packets e = packets := by
  cases e with
  | sendto peer packet ok =>
      cases ok with
      | true => simp [noteSent, h peer packet true rfl]
      | false => rfl
  | _ => rfl

/-- The packets of the first `k` blocks of a file. -/
def blockPackets (b : BlockSize) (file : List UInt8) (k : Nat) : List (List UInt8) :=
  (List.range k).map fun i => dataPacket (UInt16.ofNat (i + 1)) (chunk b.val file i)

section Packets

variable {b : BlockSize} {file : List UInt8} {k : Nat}

theorem blockPackets_succ :
    blockPackets b file (k + 1) =
      blockPackets b file k ++ [dataPacket (UInt16.ofNat (k + 1)) (chunk b.val file k)] := by
  simp [blockPackets, List.range_succ]

theorem blockPackets_getLast :
    (blockPackets b file (k + 1)).getLast? =
      some (dataPacket (UInt16.ofNat (k + 1)) (chunk b.val file k)) := by
  rw [blockPackets_succ, List.getLast?_concat]

/-- The payloads of the first `k` blocks are the front of the file. -/
theorem blockPackets_payloads :
    (blockPackets b file k).flatMap (List.drop sizeofPacket) = file.take (k * b.val) := by
  rw [← flatMap_chunk, blockPackets, List.flatMap_map]
  rfl

/-- The first sending of block `k` counts. -/
theorem noteSent_first (peer : SockAddr) :
    noteSent (blockPackets b file k)
        (.sendto peer (dataPacket (UInt16.ofNat (k + 1)) (chunk b.val file k)) true) =
      blockPackets b file (k + 1) := by
  have hnew : (blockPackets b file k).getLast? ≠
      some (dataPacket (UInt16.ofNat (k + 1)) (chunk b.val file k)) := by
    cases k with
    | zero => simp [blockPackets]
    | succ k =>
        rw [blockPackets_getLast]
        intro heq
        have hnumbers := congrArg blockNumberOf (Option.some.inj heq)
        simp only [blockNumberOf_dataPacket] at hnumbers
        have hresidues := congrArg UInt16.toNat hnumbers
        simp only [UInt16.toNat_ofNat'] at hresidues
        omega
  simp only [noteSent]
  rw [if_pos ⟨opcodeOf_dataPacket _ _, hnew⟩, blockPackets_succ]

/-- A resend does not count. -/
theorem noteSent_again (peer : SockAddr) :
    noteSent (blockPackets b file (k + 1))
        (.sendto peer (dataPacket (UInt16.ofNat (k + 1)) (chunk b.val file k)) true) =
      blockPackets b file (k + 1) := by
  simp only [noteSent]
  rw [if_neg]
  rintro ⟨-, hnew⟩
  exact hnew blockPackets_getLast

end Packets

namespace Sender

variable {b : BlockSize} {host : Host} {file : List UInt8} {s s' : Sender b} {e : Event}
  {k : Nat} {packets : List (List UInt8)}

/-- What a sender at block `k` has sent. -/
def SentAt (file : List UInt8) (k : Nat) (s : Sender b) (packets : List (List UInt8)) : Prop :=
  match s.state.point with
  | .entry | .nextBlock | .reading => packets = blockPackets b file k
  | .attempt | .sending =>
      packets = blockPackets b file k ∨ packets = blockPackets b file (k + 1)
  | .awaiting => packets = blockPackets b file (k + 1)
  | .returned .success => packets.flatMap (List.drop sizeofPacket) = file
  | _ => True

theorem sentAt_fail {t : TransmitState b} {reply : ErrorReply} {pos : Nat} :
    SentAt file k { state := t.fail reply, pos := pos } packets := by
  rcases t.fail_point reply with hp | hp
  · simp [SentAt, hp]
  · simp [SentAt, hp]

/-- Behind a short block everything has been sent. -/
theorem payloads_of_short (hshort : (chunk b.val file k).length ≠ b.val) :
    (blockPackets b file (k + 1)).flatMap (List.drop sizeofPacket) = file := by
  rw [blockPackets_payloads, take_of_chunk_short hshort]

/-- The sender stands at some block of the file, and the blocks before it have been
sent. -/
def Sends (file : List UInt8) (s : Sender b) (packets : List (List UInt8)) : Prop :=
  ∃ k, s.At file k ∧ SentAt file k s packets

theorem sends_fail {t : TransmitState b} {reply : ErrorReply} {pos : Nat}
    (hk : k < chunkCount b.val file) :
    Sends file { state := t.fail reply, pos := pos } packets :=
  ⟨k, at_fail hk, sentAt_fail⟩

/-- The test of the outer loop, behind a block that has been sent. -/
theorem sends_outerTest {t : TransmitState b} (hk : k < chunkCount b.val file)
    (hnum : t.tx.currentBlockNumber = UInt16.ofNat (k + 1))
    (hsent : t.tx.bytesSent = sizeofPacket + (chunk b.val file k).length) :
    Sends file { state := t.outerTest, pos := k * b.val + (chunk b.val file k).length }
      (blockPackets b file (k + 1)) := by
  rcases at_outerTest hnum hsent with ⟨-, heq, hnext⟩ | ⟨hshort, heq⟩
  · refine ⟨k + 1, hnext, ?_⟩
    rw [heq]
    rfl
  · rw [heq]
    exact ⟨k, ⟨hk, trivial⟩, payloads_of_short hshort⟩

/-- What a response leads to: whatever was received, the block in the packet is still
block `k`. -/
theorem sends_onResponse {result : RecvResult} (h : s.At file k)
    (hpoint : s.state.point = .awaiting) :
    Sends file { state := s.state.onResponse host result, pos := s.pos }
      (blockPackets b file (k + 1)) := by
  obtain ⟨hk, hat⟩ := h
  simp only [hpoint] at hat
  obtain ⟨hp, hnum, hread, hpayload, hsent⟩ := hat
  -- another turn of the retry loop sends the same block, and behind the last the next
  have hretry : ∀ t : TransmitState b, t.tx.currentBlockNumber = UInt16.ofNat (k + 1) →
      t.tx.bytesSent = sizeofPacket + (chunk b.val file k).length →
      t.tx.latestFileBytesRead = (chunk b.val file k).length →
      t.payload = chunk b.val file k →
      Sends file { state := t.retry, pos := s.pos } (blockPackets b file (k + 1)) := by
    intro t htnum htsent htread htpayload
    unfold TransmitState.retry
    split
    · exact sends_fail hk
    · by_cases hlt : t.tx.resendCounter + 1 < maxRetryCount
      · rw [TransmitState.innerTest_lt _ hlt]
        exact ⟨k, ⟨hk, hp, htnum, htread, htpayload⟩, Or.inr rfl⟩
      · rw [TransmitState.innerTest_ge _ hlt, hp]
        exact sends_outerTest hk htnum htsent
  -- a peer error, the ACK, another datagram, a receive to retry, a receive that fails
  rcases s.state.onResponse_cases host result with
    ⟨source, bytes, -, ⟨-, heq⟩ | ⟨-, -, heq⟩ | ⟨-, -, heq⟩⟩ |
    ⟨errno, -, ⟨-, heq⟩ | ⟨-, reply, heq⟩⟩
  · rw [heq]
    exact ⟨k, ⟨hk, trivial⟩, trivial⟩
  · rw [heq, hp]
    exact sends_outerTest hk hnum hsent
  · rw [heq]
    exact hretry _ hnum hsent hread hpayload
  · rw [heq]
    exact hretry _ hnum hsent hread hpayload
  · rw [heq]
    exact sends_fail hk

/-- Every step of the sender adds the block it sends, the first time it sends it. -/
theorem step_sends (h : s.Sends file packets) (hframe : s.state.Framed)
    (hstep : s.step host file e = some s') : s'.Sends file (noteSent packets e) := by
  obtain ⟨k, hat, hsent⟩ := h
  obtain ⟨ht, hpos, -⟩ := step_eq hstep
  have hk := hat.1
  have hkeeps : s.state.point ≠ .awaiting → s'.At file k :=
    fun hnot => step_same hat hframe hnot hstep
  obtain ⟨t', pos'⟩ := s'
  cases hpoint : s.state.point with
  | entry =>
      refine ⟨k, hkeeps (by simp [hpoint]), ?_⟩
      simp only [SentAt, hpoint] at hsent
      obtain ⟨set, rfl, rfl⟩ := transmit_entry hpoint ht
      cases set with
      | true => exact sentAt_fail
      | false =>
          simpa [SentAt, TransmitState.begin, TransmitState.outerTest, noteSent] using hsent
  | nextBlock =>
      refine ⟨k, hkeeps (by simp [hpoint]), ?_⟩
      simp only [SentAt, hpoint] at hsent
      obtain ⟨set, rfl, rfl⟩ := transmit_nextBlock hpoint ht
      cases set with
      | true => exact sentAt_fail
      | false => exact hsent
  | reading =>
      refine ⟨k, hkeeps (by simp [hpoint]), ?_⟩
      simp only [SentAt, hpoint] at hsent
      simp only [TransmitState.Framed, hpoint] at hframe
      obtain ⟨bytes, eof, rfl, -, rfl⟩ := transmit_reading hpoint ht
      have hresend := hframe.2
      simp only [TransmitState.onRead]
      split
      · exact sentAt_fail
      · rw [TransmitState.innerTest_lt _ (by simp [hresend, maxRetryCount])]
        exact Or.inl hsent
  | attempt =>
      refine ⟨k, hkeeps (by simp [hpoint]), ?_⟩
      simp only [SentAt, hpoint] at hsent
      obtain ⟨set, rfl, rfl⟩ := transmit_attempt hpoint ht
      cases set with
      | true => exact sentAt_fail
      | false => exact hsent
  | sending =>
      refine ⟨k, hkeeps (by simp [hpoint]), ?_⟩
      simp only [SentAt, hpoint] at hsent
      simp only [At, hpoint] at hat
      simp only [TransmitState.Framed, hpoint] at hframe
      obtain ⟨ok, rfl, rfl⟩ := transmit_sending hpoint ht
      cases ok with
      | false => exact sentAt_fail
      | true =>
          rw [TransmitState.outgoing_eq hframe.1, hat.2.2.1, hat.2.2.2.2]
          -- the first time the block is new to the list, and later it is its last
          rcases hsent with rfl | rfl
          · exact noteSent_first _
          · exact noteSent_again _
  | awaiting =>
      simp only [SentAt, hpoint] at hsent
      obtain ⟨result, rfl, rfl⟩ := transmit_awaiting hpoint ht
      obtain rfl : s.pos = pos' := by simpa using hpos
      rw [hsent]
      exact sends_onResponse hat hpoint
  | failing reply =>
      refine ⟨k, hkeeps (by simp [hpoint]), ?_⟩
      obtain ⟨ok, rfl, rfl⟩ := transmit_failing hpoint ht
      trivial
  | returned exit =>
      rw [transmit_returned hpoint] at ht
      cases ht

/-- A sender that returned `true` has sent the whole file. -/
theorem contents_of_success (h : s.Sends file packets)
    (hpoint : s.state.point = .returned .success) :
    packets.flatMap (List.drop sizeofPacket) = file := by
  obtain ⟨k, -, hsent⟩ := h
  simpa only [SentAt, hpoint] using hsent

end Sender

end Stftpu
