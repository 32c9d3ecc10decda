import Stftpu.Transfer.Parties

/-!
# Blocks that are not written whole

`tftp_receive_file` compares the result of `fwrite` with zero only, and hands it what the
buffer holds of a datagram, so a block may go to the file in part: `fwrite` stops early, or
the datagram was longer than the buffer.

* `Reception` — the function, its file, and the payloads of the datagrams it has accepted,
  as they were sent.
* `Reception.WholeWrites` — no block is acknowledged and no success returned before the
  payloads are in the file, and a partial write ends in an ERROR packet.
* `whole_writes_iff` — over any run, this holds exactly when every `fwrite` writes the whole
  payload, or nothing and the peer gets to know.
-/

namespace Stftpu

open Library

/-- The datagram is empty, or carries a whole header. -/
def WholeHeader : Event → Prop
  | .recvfrom _ (.datagram _ bytes) => bytes = [] ∨ sizeofPacket ≤ bytes.length
  | _ => True

/-- `tftp_receive_file`, the payloads of the datagrams it has accepted, and what it has
written to its file. -/
@[ext] structure Reception (b : BlockSize) where
  state : ReceiveState b
  accepted : List (List UInt8)
  written : List UInt8
  deriving DecidableEq, Repr

namespace Reception

variable {b : BlockSize}

/-- The call of `tftp_receive_file` on a file just created. -/
def start (op : OperationData) (tx : TransferData b) : Reception b :=
  { state := ReceiveState.start op tx, accepted := [], written := [] }

/-- A datagram behind which the function goes on to `fwrite` has been accepted. -/
def acceptedBy (e : Event) (point : ReceivePoint) : List (List UInt8) :=
  match e, point with
  | .recvfrom _ (.datagram _ bytes), .writing _ => [bytes.drop sizeofPacket]
  | _, _ => []

def step (host : Host) (w : Reception b) (e : Event) : Option (Reception b) :=
  (tftpReceiveFile host w.state e).map fun t =>
    { state := t
      accepted := w.accepted ++ acceptedBy e t.point
      written := fileContents w.written e }

/-- What the function owes its peer and its caller at a step. -/
structure WholeWrites (host : Host) (w : Reception b) (e : Event) : Prop where
  /-- An ACK is sent for the last block accepted, and all of them are in the file. -/
  acknowledges : ∀ peer n ok, e = .sendto peer (ackPacket n) ok →
    n = UInt16.ofNat w.accepted.length ∧ w.written = w.accepted.flatten
  /-- A block written only in part leads to an ERROR packet. -/
  fails : ∀ bytes count kept payload next, e = .fwrite bytes count kept →
    payload ∈ w.accepted.getLast? → count < payload.length → w.step host e = some next →
      ∃ reply, next.state.point = .failing reply
  /-- The ERROR packet is sent, and `false` returned. -/
  ends : ∀ reply next, w.state.point = .failing reply → w.step host e = some next →
    (∃ peer ok, e = .sendto peer (errorPacket reply) ok) ∧
      next.state.point = .returned .failure
  /-- `true` is returned with the accepted blocks in the file. -/
  succeeds : ∀ next, w.step host e = some next → next.state.point = .returned .success →
    next.written = next.accepted.flatten

/-- `fwrite` writes the payload of the block just accepted whole, or else nothing, to a peer
that ERROR packets are sent to. -/
def WritesWhole (w : Reception b) : Event → Prop
  | .fwrite _ count _ =>
      ∀ payload ∈ w.accepted.getLast?, count = payload.length ∨
        count = 0 ∧ forwardsErrors w.state.op.peerAddress = true
  | _ => True

/-- The accepted payloads are in the file, up to the one being written, and the block number
counts them. -/
def Faithful (w : Reception b) : Prop :=
  match w.state.point with
  | .entry => w.accepted = [] ∧ w.written = []
  | .nextBlock | .awaiting =>
      w.written = w.accepted.flatten ∧
        w.state.tx.currentBlockNumber = UInt16.ofNat (w.accepted.length + 1)
  | .writing payload =>
      ∃ before complete, w.accepted = before ++ [complete] ∧
        payload = complete.take b.val ∧ w.written = before.flatten ∧
        w.state.tx.currentBlockNumber = UInt16.ofNat w.accepted.length
  | .acknowledging =>
      w.written = w.accepted.flatten ∧
        w.state.tx.currentBlockNumber = UInt16.ofNat w.accepted.length
  | .failing _ => True
  | .returned exit => exit = .success → w.written = w.accepted.flatten
  | .fault => False

variable {host : Host} {w w' : Reception b} {e : Event}

theorem step_eq (h : w.step host e = some w') :
    tftpReceiveFile host w.state e = some w'.state ∧
      w'.accepted = w.accepted ++ acceptedBy e w'.state.point ∧
      w'.written = fileContents w.written e := by
  obtain ⟨t, ht, rfl⟩ := Option.map_eq_some_iff.mp h
  exact ⟨ht, rfl, rfl⟩

theorem faithful_start (op : OperationData) (tx : TransferData b) :
    (start op tx).Faithful :=
  ⟨rfl, rfl⟩

theorem faithful_fail {t : ReceiveState b} (reply : ErrorReply) (accepted : List (List UInt8))
    (written : List UInt8) : Faithful ⟨t.fail reply, accepted, written⟩ := by
  rcases t.fail_point reply with hp | hp
  · simp [Faithful, hp]
  · simp [Faithful, hp]

theorem acceptedBy_eq_nil {point : ReceivePoint} (h : ∀ payload, point ≠ .writing payload) :
    acceptedBy e point = [] := by
  unfold acceptedBy
  split
  · exact absurd rfl (h _)
  · rfl

/-- A receive that brought nothing accepts nothing. -/
theorem faithful_missed {t : ReceiveState b} {accepted : List (List UInt8)}
    {written : List UInt8} (hwritten : written = accepted.flatten)
    (hnum : t.tx.currentBlockNumber = UInt16.ofNat (accepted.length + 1)) :
    Faithful ⟨t.missed, accepted ++ acceptedBy e t.missed.point, written⟩ := by
  unfold ReceiveState.missed
  split
  · rw [acceptedBy_eq_nil (by simp), List.append_nil]
    exact ⟨hwritten, hnum⟩
  · exact faithful_fail _ _ _

/-- A datagram with a whole header is accepted with what the buffer holds of its payload. -/
theorem faithful_onPacket {source : SockAddr} {bytes : List UInt8} {size : Nat}
    (hpoint : w.state.point = .awaiting) (h : w.Faithful)
    (hbytes : bytes = [] ∨ sizeofPacket ≤ bytes.length) :
    Faithful
      { state := w.state.onPacket host (.datagram source bytes)
        accepted := w.accepted ++ acceptedBy (.recvfrom size (.datagram source bytes))
          (w.state.onPacket host (.datagram source bytes)).point
        written := w.written } := by
  simp only [Faithful, hpoint] at h
  obtain ⟨hwritten, hnum⟩ := h
  rcases hbytes with rfl | hlen
  · exact faithful_missed hwritten hnum
  · rw [w.state.onPacket_header host source hlen]
    split
    · simp [Faithful, acceptedBy]
    · split
      · refine ⟨w.accepted, bytes.drop sizeofPacket, rfl, rfl, hwritten, ?_⟩
        simp [acceptedBy, hnum]
      · simp [Faithful, acceptedBy, hpoint, hwritten, hnum]

/-- Where `fwrite` may write the whole payload, it has written all it was given. -/
theorem faithful_onWritten {payload : List UInt8} {count kept : Nat}
    (hpoint : w.state.point = .writing payload) (h : w.Faithful)
    (hcount : count ≤ payload.length) (hwrites : w.WritesWhole (.fwrite payload count kept)) :
    Faithful ⟨w.state.onWritten count, w.accepted, w.written ++ payload.take count⟩ := by
  simp only [Faithful, hpoint] at h
  obtain ⟨before, complete, haccepted, rfl, hwritten, hnum⟩ := h
  have hlast : complete ∈ w.accepted.getLast? := by simp [haccepted]
  by_cases hzero : count = 0
  · obtain ⟨reply, hfail⟩ : ∃ reply, w.state.onWritten count = w.state.fail reply :=
      ⟨_, if_pos hzero⟩
    rw [hfail]
    exact faithful_fail reply _ _
  · have hwhole : count = complete.length := by
      rcases hwrites complete hlast with hwhole | ⟨hnone, -⟩
      · exact hwhole
      · exact absurd hnone hzero
    have hall : (complete.take b.val).take count = complete := by
      rw [List.length_take] at hcount
      rw [List.take_take, List.take_of_length_le (by omega)]
    have hnext : w.state.onWritten count = { w.state with point := .acknowledging } :=
      if_neg hzero
    rw [hnext, hall]
    exact ⟨by simp [haccepted, hwritten], hnum⟩

/-- The ACK moves on to the next block, or returns. -/
theorem faithful_onAcknowledged (hpoint : w.state.point = .acknowledging) (h : w.Faithful) :
    Faithful ⟨w.state.onAcknowledged, w.accepted, w.written⟩ := by
  simp only [Faithful, hpoint] at h
  obtain ⟨hwritten, hnum⟩ := h
  simp only [ReceiveState.onAcknowledged, ReceiveState.outerTest]
  split
  · simp [Faithful, hwritten, hnum]
  · simp [Faithful, hwritten]

theorem faithful_step (h : w.Faithful) (hheader : WholeHeader e) (hwrites : w.WritesWhole e)
    (hstep : w.step host e = some w') : w'.Faithful := by
  obtain ⟨ht, haccepted, hwritten⟩ := step_eq hstep
  obtain ⟨t, accepted, written⟩ := w'
  obtain rfl : accepted = w.accepted ++ acceptedBy e t.point := haccepted
  obtain rfl : written = fileContents w.written e := hwritten
  cases hpoint : w.state.point with
  | entry =>
      simp only [Faithful, hpoint] at h
      obtain ⟨set, rfl, rfl⟩ := receive_entry hpoint ht
      cases set with
      | true => exact faithful_fail _ _ _
      | false => simp [Faithful, ReceiveState.begin, acceptedBy, fileContents, h.1, h.2]
  | nextBlock =>
      simp only [Faithful, hpoint] at h
      obtain ⟨set, rfl, rfl⟩ := receive_nextBlock hpoint ht
      cases set with
      | true => exact faithful_fail _ _ _
      | false => simp [Faithful, acceptedBy, fileContents, h.1, h.2]
  | awaiting =>
      obtain ⟨result, rfl, rfl⟩ := receive_awaiting hpoint ht
      cases result with
      | failed errno =>
          simp only [Faithful, hpoint] at h
          exact faithful_missed h.1 h.2
      | datagram source bytes => exact faithful_onPacket hpoint h hheader
  | writing payload =>
      obtain ⟨count, kept, rfl, hcount, rfl⟩ := receive_writing hpoint ht
      rw [show acceptedBy (.fwrite payload count kept) _ = [] from rfl, List.append_nil]
      exact faithful_onWritten hpoint h hcount hwrites
  | acknowledging =>
      obtain ⟨ok, rfl, rfl⟩ := receive_acknowledging hpoint ht
      rw [show acceptedBy (.sendto _ _ ok) _ = [] from rfl, List.append_nil]
      exact faithful_onAcknowledged hpoint h
  | failing reply =>
      obtain ⟨ok, rfl, rfl⟩ := receive_failing hpoint ht
      simp [Faithful]
  | returned exit =>
      rw [receive_returned hpoint] at ht
      cases ht
  | fault =>
      rw [receive_fault hpoint] at ht
      cases ht

/-- What goes to the peer as an ACK, goes at the control point for it. -/
theorem acknowledging_of_ack {peer : SockAddr} {n : UInt16} {ok : Bool} {t : ReceiveState b}
    (ht : tftpReceiveFile host w.state (.sendto peer (ackPacket n) ok) = some t) :
    w.state.point = .acknowledging ∧ n = w.state.tx.currentBlockNumber := by
  obtain ⟨-, ⟨hpoint, hpacket⟩ | ⟨reply, -, hpacket⟩⟩ := receive_sendto ht
  · have hnumber := congrArg blockNumberOf hpacket
    rw [blockNumberOf_ackPacket, blockNumberOf_ackPacket] at hnumber
    exact ⟨hpoint, hnumber⟩
  · exact absurd hpacket.symm (errorPacket_ne_ackPacket reply n)

/-- A short count fails exactly when it is zero and the peer is sent ERROR packets. -/
theorem failing_onWritten_iff (t : ReceiveState b) (count : Nat) :
    (∃ reply, (t.onWritten count).point = .failing reply) ↔
      count = 0 ∧ forwardsErrors t.op.peerAddress = true := by
  simp only [ReceiveState.onWritten, ReceiveState.fail]
  by_cases hzero : count = 0
  · by_cases hforwards : forwardsErrors t.op.peerAddress = true
    · simp [hzero, hforwards]
    · simp [hzero, hforwards]
  · simp [hzero]

/-- From a faithful state, a step does what the function owes exactly when it writes
whole. -/
theorem wholeWrites_iff (h : w.Faithful) (hheader : WholeHeader e)
    (hstep : w.step host e = some w') : WholeWrites host w e ↔ w.WritesWhole e := by
  obtain ⟨ht, -, -⟩ := step_eq hstep
  -- `fwrite` is called at one control point, with the accepted payload
  have hwriting : ∀ bytes count kept, e = .fwrite bytes count kept →
      w.state.point = .writing bytes ∧ count ≤ bytes.length ∧
        w'.state = w.state.onWritten count := by
    rintro bytes count kept rfl
    cases hpoint : w.state.point with
    | writing payload =>
        obtain ⟨count', kept', he, hcount, hnext⟩ := receive_writing hpoint ht
        obtain ⟨rfl, rfl, rfl⟩ := Event.fwrite.inj he
        exact ⟨rfl, hcount, hnext⟩
    | _ => simp [tftpReceiveFile, hpoint] at ht
  constructor
  · intro howed
    cases e with
    | fwrite bytes count kept =>
        intro complete hlast
        obtain ⟨hpoint, hcount, hnext⟩ := hwriting bytes count kept rfl
        simp only [Faithful, hpoint] at h
        obtain ⟨before, complete', haccepted, rfl, -⟩ := h
        obtain rfl : complete' = complete := by simpa [haccepted] using hlast
        rw [List.length_take] at hcount
        -- behind a short count the function owes a failure
        by_cases hshort : count < complete'.length
        · have hfails := howed.fails _ count kept complete' w' rfl hlast hshort hstep
          rw [hnext] at hfails
          exact Or.inr ((failing_onWritten_iff w.state count).mp hfails)
        · exact Or.inl (by omega)
    | _ => trivial
  · intro hwrites
    refine ⟨?_, ?_, ?_, ?_⟩
    · rintro peer n ok rfl
      obtain ⟨hpoint, hn⟩ := acknowledging_of_ack ht
      simp only [Faithful, hpoint] at h
      exact ⟨hn.trans h.2, h.1⟩
    · rintro bytes count kept complete next rfl hlast hshort hnext
      obtain rfl : w' = next := Option.some.inj (hstep.symm.trans hnext)
      rw [(hwriting bytes count kept rfl).2.2, failing_onWritten_iff]
      rcases hwrites complete hlast with hwhole | hnone
      · omega
      · exact hnone
    · intro reply next hpoint hnext
      obtain ⟨htn, -, -⟩ := step_eq hnext
      obtain ⟨ok, he, hreturned⟩ := receive_failing hpoint htn
      exact ⟨⟨_, ok, he⟩, by rw [hreturned]⟩
    · intro next hnext hsuccess
      have hnextFaithful := faithful_step h hheader hwrites hnext
      simp only [Faithful, hsuccess] at hnextFaithful
      exact hnextFaithful trivial

end Reception

/-- In every run of `tftp_receive_file` over datagrams that are empty or have a whole header,
with any results of `fwrite`, any block size and any content of the buffers: a block is
acknowledged, and `true` returned, only with every accepted payload in the file, and a partial
write ends in an ERROR packet and `false`, exactly when each `fwrite` writes the payload whole,
as its datagram was sent, or writes nothing and the peer is one that ERROR packets go to. -/
theorem whole_writes_iff (host : Host) {b : BlockSize} {op : OperationData}
    {tx : TransferData b} {tr : List Event} {w : Reception b}
    (h : Run (Reception.step host) (Reception.start op tx) tr w)
    (hheaders : ∀ e ∈ tr, WholeHeader e) :
    EveryStep (Reception.step host) (Reception.WholeWrites host) (Reception.start op tx) tr ↔
      EveryStep (Reception.step host) Reception.WritesWhole (Reception.start op tx) tr := by
  exact h.everyStep_congr_of_invariant (I := Reception.Faithful)
    (fun _ _ _ hw hheader hwrites hstep => Reception.faithful_step hw hheader hwrites hstep)
    (fun _ _ _ hw hheader hstep => Reception.wholeWrites_iff hw hheader hstep)
    (everyStep_of_forall fun e he _ => hheaders e he) (Reception.faithful_start op tx)

section FixedRuns

instance : DecidablePred WholeHeader
  | .recvfrom _ (.datagram _ bytes) =>
      inferInstanceAs (Decidable (bytes = [] ∨ sizeofPacket ≤ bytes.length))
  | .recvfrom _ (.failed _) => isTrue trivial
  | .poll _ | .malloc _ _ | .fopen _ _ _ | .stat _ _ | .fread _ _ _ | .fwrite _ _ _ | .fclose _
  | .remove _ _ | .sendto _ _ _ | .close _ | .dataSocket _ | .acquire _ | .create _
  | .release => isTrue trivial

instance {b : BlockSize} (w : Reception b) : DecidablePred w.WritesWhole
  | .fwrite _ count _ => inferInstanceAs (Decidable (∀ payload ∈ w.accepted.getLast?,
      count = payload.length ∨ count = 0 ∧ forwardsErrors w.state.op.peerAddress = true))
  | .poll _ | .malloc _ _ | .fopen _ _ _ | .stat _ _ | .fread _ _ _ | .fclose _
  | .recvfrom _ _ | .remove _ _ | .sendto _ _ _ | .close _ | .dataSocket _ | .acquire _
  | .create _ | .release => isTrue trivial

/-- A short block that `fwrite` writes `count` bytes of, and its ACK. -/
def oneBlock (count : Nat) : List Event :=
  [.poll false, .poll false,
    .recvfrom 12 (.datagram (localhost 50001) (dataPacket 1 (ascii "abc"))),
    .fwrite (ascii "abc") count 0,
    .sendto (localhost 50001) (ackPacket 1) true]

set_option maxRecDepth 8000 in
theorem whole_writes_three :
    EveryStep (Reception.step littleHost) (Reception.WholeWrites littleHost)
      (Reception.start sampleOperation sampleTransfer) (oneBlock 3) := by
  have hrun : ∃ w, Run (Reception.step littleHost)
      (Reception.start sampleOperation sampleTransfer) (oneBlock 3) w ∧
      w.state.point = .returned .success := exists_run_of_exec (by decide)
  obtain ⟨w, hw, -⟩ := hrun
  exact (whole_writes_iff littleHost hw (by decide)).mpr (by decide)

set_option maxRecDepth 8000 in
/-- One of three bytes goes to the file; the block is acknowledged and `true` returned. -/
theorem whole_writes_one :
    (∃ w, Run (Reception.step littleHost) (Reception.start sampleOperation sampleTransfer)
      (oneBlock 1) w ∧ w.state.point = .returned .success ∧ w.written = ascii "a" ∧
        w.accepted = [ascii "abc"]) ∧
    ¬ EveryStep (Reception.step littleHost) (Reception.WholeWrites littleHost)
      (Reception.start sampleOperation sampleTransfer) (oneBlock 1) := by
  have hrun : ∃ w, Run (Reception.step littleHost)
      (Reception.start sampleOperation sampleTransfer) (oneBlock 1) w ∧
      w.state.point = .returned .success ∧ w.written = ascii "a" ∧
        w.accepted = [ascii "abc"] := exists_run_of_exec (by decide)
  refine ⟨hrun, ?_⟩
  obtain ⟨w, hw, hsuccess, hwritten, haccepted⟩ := hrun
  have hsplit : oneBlock 1 = (oneBlock 1).take 4 ++
      [.sendto (localhost 50001) (ackPacket 1) true] := rfl
  rw [hsplit] at hw ⊢
  obtain ⟨t, ht, hlast⟩ := hw.of_snoc
  intro howed
  have hfile := (howed.last ht).succeeds w hlast hsuccess
  rw [hwritten, haccepted] at hfile
  exact absurd hfile (by decide)

end FixedRuns

end Stftpu
