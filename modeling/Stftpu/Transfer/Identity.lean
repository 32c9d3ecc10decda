import Stftpu.Transfer.Fill

/-!
# Whom a transfer talks to

Both transfer functions hand `recvfrom` the address of `op_data->peer_address`, so every
datagram makes its source the peer.  Nothing compares it with the address the transfer
began with.

* `lastSource` — where the next packet goes.
* `withoutErrors` — a trace without the ERROR packets sent, which depend on the peer's
  port.
* `Correspondent` — a function with a peer, and its runs with one peer at the other end.
-/

namespace Stftpu

open Library

/-! ## Events and their other end -/

/-- The same event, with the peer at its other end. -/
def Event.relabel (peer : SockAddr) : Event → Event
  | .recvfrom size (.datagram _ bytes) => .recvfrom size (.datagram peer bytes)
  | .sendto _ packet ok => .sendto peer packet ok
  | e => e

/-- Anything but the sending of an ERROR packet. -/
def Event.notError : Event → Option Event
  | .sendto peer packet ok =>
      if opcodeOf packet = TFTPOpcode.error.code then none else some (.sendto peer packet ok)
  | e => some e

/-- The trace without the ERROR packets sent. -/
def withoutErrors (tr : List Event) : List Event :=
  tr.filterMap Event.notError

/-- The peer address an event leaves behind. -/
def Event.sourceAfter (peer : SockAddr) : Event → SockAddr
  | .recvfrom _ (.datagram source _) => source
  | _ => peer

/-- The source of the last datagram received, the peer when there was none. -/
def lastSource (peer : SockAddr) (tr : List Event) : SockAddr :=
  tr.foldl Event.sourceAfter peer

@[simp] theorem lastSource_snoc (peer : SockAddr) (tr : List Event) (e : Event) :
    lastSource peer (tr ++ [e]) = e.sourceAfter (lastSource peer tr) := by
  simp [lastSource]

theorem notError_relabel (peer : SockAddr) (e : Event) :
    (e.relabel peer).notError = e.notError.map (Event.relabel peer) := by
  cases e with
  | sendto other packet ok =>
      simp only [Event.relabel, Event.notError]
      split <;> rfl
  | recvfrom size result => cases result <;> rfl
  | _ => rfl

/-- A function with a peer: what it looks like to whoever is at the other end. -/
structure Correspondent (σ : Type) where
  step : σ → Event → Option σ
  peerAddress : σ → SockAddr
  /-- The same state with another peer. -/
  readdressed : σ → SockAddr → σ
  /-- About to return `false` for a reason of its own, or having done so. -/
  Failing : σ → Prop
  readdressed_self : ∀ s, readdressed s (peerAddress s) = s
  failing_readdressed : ∀ s peer, Failing s → Failing (readdressed s peer)
  failing_step : ∀ s e s', Failing s → step s e = some s' → e.notError = none ∧ Failing s'
  /-- Outside a failure, each step can be made with another peer at the other end. -/
  readdressed_step : ∀ s e s' peer, ¬ Failing s → step s e = some s' →
    ∃ s'', step (readdressed s peer) (e.relabel peer) = some s'' ∧
      (s'' = readdressed s' peer ∨ Failing s' ∧ Failing s'')
  /-- Only `recvfrom` changes the peer, and every packet goes to it. -/
  step_peer : ∀ s e s', step s e = some s' →
    peerAddress s' = e.sourceAfter (peerAddress s) ∧
      ∀ other packet ok, e = .sendto other packet ok → other = peerAddress s

namespace Correspondent

variable {σ : Type} (c : Correspondent σ) {s t : σ} {tr : List Event}

/-- Sources do not matter: with one peer at the other end of every call the function
makes the same calls, ERROR packets aside. -/
theorem run_relabelled (h : Run c.step s tr t) :
    ∃ tr' t', Run c.step s tr' t' ∧
      withoutErrors tr' = (withoutErrors tr).map (Event.relabel (c.peerAddress s)) ∧
      (t' = c.readdressed t (c.peerAddress s) ∨ c.Failing t ∧ c.Failing t') := by
  have hsim := h.simulated c.step
    (fun t t' => t' = c.readdressed t (c.peerAddress s) ∨ c.Failing t ∧ c.Failing t')
    (fun e => e.notError.map (Event.relabel (c.peerAddress s))) Event.notError ?_
    (Or.inl (c.readdressed_self s).symm)
  · rw [withoutErrors, List.map_filterMap]
    exact hsim
  · intro t e u t' hR hs
    by_cases hfailing : c.Failing t
    · obtain ⟨hseen, hu⟩ := c.failing_step _ _ _ hfailing hs
      have ht' : c.Failing t' := by
        rcases hR with rfl | ⟨-, ht'⟩
        · exact c.failing_readdressed t _ hfailing
        · exact ht'
      exact ⟨[], t', Run.nil, by simp [hseen], Or.inr ⟨hu, ht'⟩⟩
    · obtain rfl : t' = c.readdressed t _ := hR.resolve_right fun h => hfailing h.1
      obtain ⟨u', hu', halike⟩ := c.readdressed_step _ _ _ (c.peerAddress s) hfailing hs
      refine ⟨[e.relabel (c.peerAddress s)], u', Run.single hu', ?_, halike⟩
      rw [List.filterMap_cons, notError_relabel]
      cases e.notError <;> rfl

theorem run_peer (h : Run c.step s tr t) :
    c.peerAddress t = lastSource (c.peerAddress s) tr := by
  induction h with
  | nil => rfl
  | snoc _ hs ih => rw [lastSource_snoc, ← ih, (c.step_peer _ _ _ hs).1]

/-- Every packet goes to the source of the last datagram. -/
theorem sends_to_lastSource {pre post : List Event} {other : SockAddr} {packet : List UInt8}
    {ok : Bool} (h : Run c.step s (pre ++ .sendto other packet ok :: post) t) :
    other = lastSource (c.peerAddress s) pre := by
  obtain ⟨u, u', hpre, hs, -⟩ := h.step_at
  rw [(c.step_peer _ _ _ hs).2 other packet ok rfl, c.run_peer hpre]

end Correspondent

theorem notError_errorPacket (peer : SockAddr) (reply : ErrorReply) (ok : Bool) :
    (Event.sendto peer (errorPacket reply) ok).notError = none := by
  simp [Event.notError, TFTPOpcode.code]

/-! ## `tftp_transmit_file` -/

namespace TransmitState

variable {b : BlockSize} {host : Host} {s s' : TransmitState b} {e : Event}

/-- The same state with another peer. -/
def readdressed (s : TransmitState b) (peer : SockAddr) : TransmitState b :=
  { s with op := { s.op with peerAddress := peer } }

/-- About to return `false` for a reason of its own, or having done so. -/
def Failing (s : TransmitState b) : Prop :=
  (∃ reply, s.point = .failing reply) ∨ s.point = .returned .failure

/-- The second state is the first with the peer in its place, or both are failing. -/
def Alike (peer : SockAddr) (s s' : TransmitState b) : Prop :=
  s' = s.readdressed peer ∨ s.Failing ∧ s'.Failing

@[simp] theorem readdressed_point (peer : SockAddr) : (s.readdressed peer).point = s.point := rfl

@[simp] theorem readdressed_tx (peer : SockAddr) : (s.readdressed peer).tx = s.tx := rfl

theorem failing_fail (reply : ErrorReply) : (s.fail reply).Failing := by
  rcases s.fail_point reply with h | h
  · exact Or.inl ⟨reply, h⟩
  · exact Or.inr h

variable {peer : SockAddr}

theorem alike_fail (reply : ErrorReply) :
    Alike peer (s.fail reply) ((s.readdressed peer).fail reply) :=
  Or.inr ⟨failing_fail reply, failing_fail reply⟩

theorem alike_outerTest : Alike peer s.outerTest (s.readdressed peer).outerTest := by
  refine Or.inl ?_
  by_cases hmore : s.tx.bytesSent = dataPacketMaxSize b <;>
    simp only [outerTest, readdressed_tx, hmore, if_true, if_false] <;> rfl

theorem alike_innerTest : Alike peer s.innerTest (s.readdressed peer).innerTest := by
  by_cases hlt : s.tx.resendCounter < maxRetryCount
  · rw [s.innerTest_lt hlt, (s.readdressed peer).innerTest_lt hlt]
    exact Or.inl rfl
  · rw [s.innerTest_ge hlt, (s.readdressed peer).innerTest_ge hlt]
    exact alike_outerTest

theorem alike_retry : Alike peer s.retry (s.readdressed peer).retry := by
  by_cases hgt : s.tx.resendCounter > maxRetryCount
  · have hgt' : (s.readdressed peer).tx.resendCounter > maxRetryCount := hgt
    simp only [retry, hgt, hgt', if_true]
    exact alike_fail _
  · have hgt' : ¬ (s.readdressed peer).tx.resendCounter > maxRetryCount := hgt
    simp only [retry, hgt, hgt', if_false]
    exact alike_innerTest (s := { s with
      tx := { s.tx with resendCounter := s.tx.resendCounter + 1 } })

theorem alike_onRead (bytes : List UInt8) (eof : Bool) :
    Alike peer (s.onRead bytes eof) ((s.readdressed peer).onRead bytes eof) := by
  simp only [onRead]
  split
  · exact alike_fail (s := { s with tx := { s.tx with
      latestFileBytesRead := bytes.length
      dataPacket := s.tx.dataPacket.store sizeofPacket bytes } }) _
  · exact alike_innerTest (s := { s with tx := { s.tx with
      latestFileBytesRead := bytes.length
      dataPacket := s.tx.dataPacket.store sizeofPacket bytes } })

theorem alike_onSent (ok : Bool) :
    Alike peer (s.onSent ok) ((s.readdressed peer).onSent ok) := by
  cases ok with
  | true => exact Or.inl rfl
  | false => exact alike_fail (s := { s with tx := { s.tx with bytesSent := -1 } }) _

/-- The tests behind `recvfrom` look at the bytes alone. -/
theorem alike_onDatagram (source : SockAddr) (bytes : List UInt8) :
    Alike peer (s.onResponse host (.datagram source bytes))
      ((s.readdressed peer).onResponse host (.datagram peer bytes)) := by
  have herror : ((s.readdressed peer).received peer bytes).looksLikeError host =
      (s.received source bytes).looksLikeError host := rfl
  have hack : ((s.readdressed peer).received peer bytes).looksLikeAck host =
      (s.received source bytes).looksLikeAck host := rfl
  simp only [onResponse, herror, hack]
  split
  · exact Or.inl rfl
  · split
    · exact alike_outerTest (s := s.received source bytes)
    · exact alike_retry (s := s.received source bytes)

theorem alike_onFailed (errno : Errno) :
    Alike peer (s.onResponse host (.failed errno))
      ((s.readdressed peer).onResponse host (.failed errno)) := by
  simp only [onResponse]
  split
  · exact alike_retry (s := { s with tx := { s.tx with bytesReceived := -1 } })
  · exact alike_fail (s := { s with tx := { s.tx with bytesReceived := -1 } }) _

theorem failing_step (h : s.Failing) (hstep : tftpTransmitFile host s e = some s') :
    e.notError = none ∧ s'.Failing := by
  rcases h with ⟨reply, hp⟩ | hp
  · obtain ⟨ok, rfl, rfl⟩ := transmit_failing hp hstep
    exact ⟨notError_errorPacket _ _ _, Or.inr rfl⟩
  · rw [transmit_returned hp] at hstep
    cases hstep

/-- Outside a failure, each step can be made with the peer at the other end. -/
theorem readdressed_step (hp : ¬ s.Failing) (hstep : tftpTransmitFile host s e = some s') :
    ∃ s'', tftpTransmitFile host (s.readdressed peer) (e.relabel peer) = some s'' ∧
      Alike peer s' s'' := by
  cases hpoint : s.point with
  | entry =>
      obtain ⟨set, rfl, rfl⟩ := transmit_entry hpoint hstep
      refine ⟨if set then (s.readdressed peer).fail (terminationReply host)
        else (s.readdressed peer).begin, by simp [tftpTransmitFile, Event.relabel, hpoint], ?_⟩
      cases set with
      | true => exact alike_fail _
      | false => exact alike_outerTest (s := { s with tx := { s.tx with
          dataPacket := s.tx.dataPacket.store 0 (wire16 TFTPOpcode.data.code)
          bytesSent := dataPacketMaxSize b } })
  | nextBlock =>
      obtain ⟨set, rfl, rfl⟩ := transmit_nextBlock hpoint hstep
      refine ⟨if set then (s.readdressed peer).fail (terminationReply host)
        else (s.readdressed peer).startBlock,
        by simp [tftpTransmitFile, Event.relabel, hpoint], ?_⟩
      cases set with
      | true => exact alike_fail _
      | false => exact Or.inl rfl
  | reading =>
      obtain ⟨bytes, eof, rfl, hlen, rfl⟩ := transmit_reading hpoint hstep
      exact ⟨(s.readdressed peer).onRead bytes eof,
        by simp [tftpTransmitFile, Event.relabel, hpoint, hlen], alike_onRead bytes eof⟩
  | attempt =>
      obtain ⟨set, rfl, rfl⟩ := transmit_attempt hpoint hstep
      refine ⟨if set then (s.readdressed peer).fail (terminationReply host)
        else { s.readdressed peer with point := .sending },
        by simp [tftpTransmitFile, Event.relabel, hpoint], ?_⟩
      cases set with
      | true => exact alike_fail _
      | false => exact Or.inl rfl
  | sending =>
      obtain ⟨ok, rfl, rfl⟩ := transmit_sending hpoint hstep
      have hout : (s.readdressed peer).outgoing = s.outgoing := rfl
      have hpeer : (s.readdressed peer).op.peerAddress = peer := rfl
      exact ⟨(s.readdressed peer).onSent ok,
        by simp [tftpTransmitFile, Event.relabel, hpoint, hout, hpeer], alike_onSent ok⟩
  | awaiting =>
      -- the source of a datagram is all that can differ
      obtain ⟨result, rfl, rfl⟩ := transmit_awaiting hpoint hstep
      cases result with
      | datagram source bytes =>
          exact ⟨(s.readdressed peer).onResponse host (.datagram peer bytes),
            by simp [tftpTransmitFile, Event.relabel, hpoint], alike_onDatagram source bytes⟩
      | failed errno =>
          exact ⟨(s.readdressed peer).onResponse host (.failed errno),
            by simp [tftpTransmitFile, Event.relabel, hpoint], alike_onFailed errno⟩
  | failing reply => exact absurd (Or.inl ⟨reply, hpoint⟩) hp
  | returned exit =>
      rw [transmit_returned hpoint] at hstep
      cases hstep

theorem onResponse_op (result : RecvResult) :
    (s.onResponse host result).op.peerAddress =
      (Event.recvfrom responsePacketMaxSize result).sourceAfter s.op.peerAddress := by
  rcases s.onResponse_cases host result with
    ⟨source, bytes, rfl, ⟨-, heq⟩ | ⟨-, -, heq⟩ | ⟨-, -, heq⟩⟩ |
      ⟨errno, rfl, ⟨-, heq⟩ | ⟨-, reply, heq⟩⟩
  · rw [heq]
    rfl
  · rw [heq, outerTest_op]
    rfl
  · rw [heq, retry_op]
    rfl
  · rw [heq, retry_op]
    rfl
  · rw [heq, fail_op]
    rfl

/-- Only `recvfrom` changes the peer, and every packet goes to it. -/
theorem step_peer (hstep : tftpTransmitFile host s e = some s') :
    s'.op.peerAddress = e.sourceAfter s.op.peerAddress ∧
      ∀ other packet ok, e = .sendto other packet ok → other = s.op.peerAddress := by
  cases hpoint : s.point with
  | entry =>
      obtain ⟨set, rfl, rfl⟩ := transmit_entry hpoint hstep
      cases set <;> simp [Event.sourceAfter, begin]
  | nextBlock =>
      obtain ⟨set, rfl, rfl⟩ := transmit_nextBlock hpoint hstep
      cases set <;> simp [Event.sourceAfter, startBlock]
  | reading =>
      obtain ⟨bytes, eof, rfl, -, rfl⟩ := transmit_reading hpoint hstep
      refine ⟨?_, by simp⟩
      unfold onRead
      split <;> simp [Event.sourceAfter]
  | attempt =>
      obtain ⟨set, rfl, rfl⟩ := transmit_attempt hpoint hstep
      cases set <;> simp [Event.sourceAfter]
  | sending =>
      obtain ⟨ok, rfl, rfl⟩ := transmit_sending hpoint hstep
      refine ⟨?_, fun other packet ok' he => (Event.sendto.inj he).1.symm⟩
      cases ok <;> simp [Event.sourceAfter, onSent]
  | awaiting =>
      obtain ⟨result, rfl, rfl⟩ := transmit_awaiting hpoint hstep
      exact ⟨s.onResponse_op result, by simp⟩
  | failing reply =>
      obtain ⟨ok, rfl, rfl⟩ := transmit_failing hpoint hstep
      exact ⟨rfl, fun other packet ok' he => (Event.sendto.inj he).1.symm⟩
  | returned exit =>
      rw [transmit_returned hpoint] at hstep
      cases hstep

/-- `tftp_transmit_file` and its peer. -/
def correspondent (host : Host) (b : BlockSize) : Correspondent (TransmitState b) where
  step := tftpTransmitFile host
  peerAddress s := s.op.peerAddress
  readdressed := readdressed
  Failing := Failing
  readdressed_self _ := rfl
  failing_readdressed _ _ h := h
  failing_step _ _ _ h hstep := failing_step h hstep
  readdressed_step _ _ _ _ h hstep := readdressed_step h hstep
  step_peer _ _ _ hstep := step_peer hstep

end TransmitState

/-! ## `tftp_receive_file` -/

namespace ReceiveState

variable {b : BlockSize} {host : Host} {s s' : ReceiveState b} {e : Event}

/-- The same state with another peer. -/
def readdressed (s : ReceiveState b) (peer : SockAddr) : ReceiveState b :=
  { s with op := { s.op with peerAddress := peer } }

/-- About to return `false` for a reason of its own, or having done so. -/
def Failing (s : ReceiveState b) : Prop :=
  (∃ reply, s.point = .failing reply) ∨ s.point = .returned .failure

/-- The second state is the first with the peer in its place, or both are failing. -/
def Alike (peer : SockAddr) (s s' : ReceiveState b) : Prop :=
  s' = s.readdressed peer ∨ s.Failing ∧ s'.Failing

@[simp] theorem readdressed_point (peer : SockAddr) : (s.readdressed peer).point = s.point := rfl

@[simp] theorem readdressed_tx (peer : SockAddr) : (s.readdressed peer).tx = s.tx := rfl

theorem failing_fail (reply : ErrorReply) : (s.fail reply).Failing := by
  rcases s.fail_point reply with h | h
  · exact Or.inl ⟨reply, h⟩
  · exact Or.inr h

theorem failing_step (h : s.Failing) (hstep : tftpReceiveFile host s e = some s') :
    e.notError = none ∧ s'.Failing := by
  rcases h with ⟨reply, hp⟩ | hp
  · obtain ⟨ok, rfl, rfl⟩ := receive_failing hp hstep
    exact ⟨notError_errorPacket _ _ _, Or.inr rfl⟩
  · rw [receive_returned hp] at hstep
    cases hstep

variable {peer : SockAddr}

theorem alike_fail (reply : ErrorReply) :
    Alike peer (s.fail reply) ((s.readdressed peer).fail reply) :=
  Or.inr ⟨failing_fail reply, failing_fail reply⟩

theorem alike_outerTest : Alike peer s.outerTest (s.readdressed peer).outerTest := by
  refine Or.inl ?_
  by_cases hmore : s.tx.bytesReceived = dataPacketMaxSize b <;>
    simp only [outerTest, readdressed_tx, hmore, if_true, if_false] <;> rfl

theorem alike_missed : Alike peer s.missed (s.readdressed peer).missed := by
  by_cases hlt : s.tx.resendCounter < maxRetryCount
  · simp only [missed, readdressed_tx, hlt, if_true]
    exact Or.inl rfl
  · simp only [missed, readdressed_tx, hlt, if_false]
    exact alike_fail _

theorem accept_readdressed : s.accept.readdressed peer = (s.readdressed peer).accept := by
  have hsize : (s.readdressed peer).payloadSize = s.payloadSize := rfl
  simp only [accept, hsize, readdressed_tx]
  split <;> rfl

/-- The tests behind `recvfrom` look at the bytes alone. -/
theorem alike_onDatagram (source : SockAddr) (bytes : List UInt8) :
    Alike peer (s.onPacket host (.datagram source bytes))
      ((s.readdressed peer).onPacket host (.datagram peer bytes)) := by
  have htx : ((s.readdressed peer).received peer bytes).tx = (s.received source bytes).tx := rfl
  have herror : ((s.readdressed peer).received peer bytes).looksLikeError host =
      (s.received source bytes).looksLikeError host := rfl
  have hawaited : ((s.readdressed peer).received peer bytes).looksAwaited host =
      (s.received source bytes).looksAwaited host := rfl
  simp only [onPacket, htx, herror, hawaited]
  split
  · split
    · exact Or.inl rfl
    · split
      · exact Or.inl (accept_readdressed (s := s.received source bytes)).symm
      · exact Or.inl rfl
  · exact alike_missed (s := s.received source bytes)

theorem alike_onWritten (count : Nat) :
    Alike peer (s.onWritten count) ((s.readdressed peer).onWritten count) := by
  simp only [onWritten]
  split
  · exact alike_fail _
  · exact Or.inl rfl

/-- Outside a failure, each step can be made with the peer at the other end. -/
theorem readdressed_step (hp : ¬ s.Failing) (hstep : tftpReceiveFile host s e = some s') :
    ∃ s'', tftpReceiveFile host (s.readdressed peer) (e.relabel peer) = some s'' ∧
      Alike peer s' s'' := by
  cases hpoint : s.point with
  | entry =>
      obtain ⟨set, rfl, rfl⟩ := receive_entry hpoint hstep
      refine ⟨if set then (s.readdressed peer).fail (terminationReply host)
        else (s.readdressed peer).begin, by simp [tftpReceiveFile, Event.relabel, hpoint], ?_⟩
      cases set with
      | true => exact alike_fail _
      | false => exact Or.inl rfl
  | nextBlock =>
      obtain ⟨set, rfl, rfl⟩ := receive_nextBlock hpoint hstep
      refine ⟨if set then (s.readdressed peer).fail (terminationReply host)
        else { s.readdressed peer with point := .awaiting },
        by simp [tftpReceiveFile, Event.relabel, hpoint], ?_⟩
      cases set with
      | true => exact alike_fail _
      | false => exact Or.inl rfl
  | awaiting =>
      -- the source of a datagram is all that can differ
      obtain ⟨result, rfl, rfl⟩ := receive_awaiting hpoint hstep
      cases result with
      | datagram source bytes =>
          exact ⟨(s.readdressed peer).onPacket host (.datagram peer bytes),
            by simp [tftpReceiveFile, Event.relabel, hpoint], alike_onDatagram source bytes⟩
      | failed errno =>
          exact ⟨(s.readdressed peer).onPacket host (.failed errno),
            by simp [tftpReceiveFile, Event.relabel, hpoint],
            alike_missed (s := { s with tx := { s.tx with bytesReceived := -1 } })⟩
  | writing payload =>
      obtain ⟨count, kept, rfl, hcount, rfl⟩ := receive_writing hpoint hstep
      exact ⟨(s.readdressed peer).onWritten count,
        by simp [tftpReceiveFile, Event.relabel, hpoint, hcount], alike_onWritten count⟩
  | acknowledging =>
      obtain ⟨ok, rfl, rfl⟩ := receive_acknowledging hpoint hstep
      have hpeer : (s.readdressed peer).op.peerAddress = peer := rfl
      exact ⟨(s.readdressed peer).onAcknowledged,
        by simp [tftpReceiveFile, Event.relabel, hpoint, hpeer],
        alike_outerTest (s := { s with
          prevBlockNumber := s.prevBlockNumber + 1
          tx := { s.tx with
            resendCounter := 0
            currentBlockNumber := s.tx.currentBlockNumber + 1 } })⟩
  | failing reply => exact absurd (Or.inl ⟨reply, hpoint⟩) hp
  | returned exit =>
      rw [receive_returned hpoint] at hstep
      cases hstep
  | fault =>
      rw [receive_fault hpoint] at hstep
      cases hstep

theorem onPacket_op (result : RecvResult) :
    (s.onPacket host result).op.peerAddress =
      (Event.recvfrom (dataPacketMaxSize b) result).sourceAfter s.op.peerAddress := by
  cases result with
  | failed errno => simp [onPacket, Event.sourceAfter]
  | datagram source bytes =>
      have hsource : (s.received source bytes).op.peerAddress = source := rfl
      simp only [onPacket, Event.sourceAfter]
      split
      · split
        · rfl
        · split
          · rw [accept_op, hsource]
          · rfl
      · rw [missed_op, hsource]

/-- Only `recvfrom` changes the peer, and every packet goes to it. -/
theorem step_peer (hstep : tftpReceiveFile host s e = some s') :
    s'.op.peerAddress = e.sourceAfter s.op.peerAddress ∧
      ∀ other packet ok, e = .sendto other packet ok → other = s.op.peerAddress := by
  cases hpoint : s.point with
  | entry =>
      obtain ⟨set, rfl, rfl⟩ := receive_entry hpoint hstep
      cases set <;> simp [Event.sourceAfter, begin]
  | nextBlock =>
      obtain ⟨set, rfl, rfl⟩ := receive_nextBlock hpoint hstep
      cases set <;> simp [Event.sourceAfter]
  | awaiting =>
      obtain ⟨result, rfl, rfl⟩ := receive_awaiting hpoint hstep
      exact ⟨onPacket_op result, by simp⟩
  | writing payload =>
      obtain ⟨count, kept, rfl, -, rfl⟩ := receive_writing hpoint hstep
      refine ⟨?_, by simp⟩
      unfold onWritten
      split <;> simp [Event.sourceAfter]
  | acknowledging =>
      obtain ⟨ok, rfl, rfl⟩ := receive_acknowledging hpoint hstep
      exact ⟨by simp [Event.sourceAfter], fun other packet ok' he => (Event.sendto.inj he).1.symm⟩
  | failing reply =>
      obtain ⟨ok, rfl, rfl⟩ := receive_failing hpoint hstep
      exact ⟨rfl, fun other packet ok' he => (Event.sendto.inj he).1.symm⟩
  | returned exit =>
      rw [receive_returned hpoint] at hstep
      cases hstep
  | fault =>
      rw [receive_fault hpoint] at hstep
      cases hstep

/-- `tftp_receive_file` and its peer. -/
def correspondent (host : Host) (b : BlockSize) : Correspondent (ReceiveState b) where
  step := tftpReceiveFile host
  peerAddress s := s.op.peerAddress
  readdressed := readdressed
  Failing := Failing
  readdressed_self _ := rfl
  failing_readdressed _ _ h := h
  failing_step _ _ _ h hstep := failing_step h hstep
  readdressed_step _ _ _ _ h hstep := readdressed_step h hstep
  step_peer _ _ _ hstep := step_peer hstep

end ReceiveState

end Stftpu
