import Stftpu.Files
import Stftpu.Library.Chunks
import Stftpu.Transfer.Fill

/-!
# The two parties of a transfer

`tftp_transmit_file` with the file it reads, and `tftp_receive_file` with the file it
writes.  A party restricts the events of its function to those its file allows.

* `Sender.At`, `Receiver.At` — where a party stands in the file: the number of blocks
  behind it, as a natural number, and the sixteen-bit counters as its residues.
* `Sender.step_at` — what a step of the sender does to that number.
* `Exchange` — both parties and the packets between them; the channels differ in how
  they move packets.
-/

namespace Stftpu

open Library

/-! ## The sender -/

/-- What a `recvfrom` came back with. -/
def resultOf : Event → Option RecvResult
  | .recvfrom _ result => some result
  | _ => none

/-- What the receives of a trace brought. -/
def resultsOf (tr : List Event) : List RecvResult :=
  tr.filterMap resultOf

theorem resultsOf_snoc (tr : List Event) (e : Event) :
    resultsOf (tr ++ [e]) = resultsOf tr ++ (resultOf e).toList := by
  cases he : resultOf e <;> simp [resultsOf, he]

/-- `tftp_transmit_file` and the position of its file. -/
structure Sender (b : BlockSize) where
  state : TransmitState b
  pos : Nat
  deriving DecidableEq, Repr

namespace Sender

variable {b : BlockSize}

/-- The call of `tftp_transmit_file` on a file just opened. -/
def start (op : OperationData) (tx : TransferData b) : Sender b :=
  { state := TransmitState.start op tx, pos := 0 }

/-- A call of the sender, whose `fread` gives a whole block, or what is left of the file when it
comes to its end, or fails with nothing. -/
def step (host : Host) (file : List UInt8) (s : Sender b) (e : Event) :
    Option (Sender b) :=
  if e.ReadsWhole then
    match tftpTransmitFile host s.state e, filePosition file s.pos e with
    | some t, some pos => some { state := t, pos := pos }
    | _, _ => none
  else
    none

/-- The sender is at block `k`, counted from zero: the blocks before it are behind
it. -/
def At (file : List UInt8) (k : Nat) (s : Sender b) : Prop :=
  k < chunkCount b.val file ∧
    match s.state.point with
    | .entry => k = 0 ∧ s.pos = 0 ∧ s.state.tx.currentBlockNumber = 0
    | .nextBlock =>
        s.pos = k * b.val ∧ s.state.tx.currentBlockNumber = UInt16.ofNat k
    | .reading =>
        s.pos = k * b.val ∧ s.state.tx.currentBlockNumber = UInt16.ofNat (k + 1)
    | .attempt | .sending =>
        s.pos = k * b.val + (chunk b.val file k).length ∧
          s.state.tx.currentBlockNumber = UInt16.ofNat (k + 1) ∧
          s.state.tx.latestFileBytesRead = (chunk b.val file k).length ∧
          s.state.payload = chunk b.val file k
    | .awaiting =>
        s.pos = k * b.val + (chunk b.val file k).length ∧
          s.state.tx.currentBlockNumber = UInt16.ofNat (k + 1) ∧
          s.state.tx.latestFileBytesRead = (chunk b.val file k).length ∧
          s.state.payload = chunk b.val file k ∧
          s.state.tx.bytesSent = sizeofPacket + (chunk b.val file k).length
    | _ => True

variable {host : Host} {file : List UInt8} {s s' : Sender b} {e : Event} {k pos : Nat}

theorem step_eq (h : s.step host file e = some s') :
    tftpTransmitFile host s.state e = some s'.state ∧
      filePosition file s.pos e = some s'.pos ∧ e.ReadsWhole := by
  obtain ⟨hreads, heq⟩ := Option.ite_none_right_eq_some.mp h
  split at heq
  · rename_i t pos ht hpos
    obtain rfl := Option.some.inj heq
    exact ⟨ht, hpos, hreads⟩
  · cases heq

theorem step_of (ht : tftpTransmitFile host s.state e = some s'.state)
    (hpos : filePosition file s.pos e = some s'.pos) (hreads : e.ReadsWhole) :
    s.step host file e = some s' := by
  simp [step, ht, hpos, hreads]

@[simp] theorem filePosition_poll (set : Bool) :
    filePosition file pos (.poll set) = some pos := rfl

@[simp] theorem filePosition_sendto (peer : SockAddr) (packet : List UInt8) (ok : Bool) :
    filePosition file pos (.sendto peer packet ok) = some pos := rfl

@[simp] theorem filePosition_recvfrom (size : Nat) (result : RecvResult) :
    filePosition file pos (.recvfrom size result) = some pos := rfl

/-- `fread` at the start of block `k` gives that block, or nothing. -/
theorem filePosition_fread {bytes : List UInt8} {eof : Bool} {pos' : Nat}
    (h : filePosition file (k * b.val) (.fread b.val bytes eof) = some pos')
    (hreads : (Event.fread b.val bytes eof).ReadsWhole) :
    bytes = chunk b.val file k ∧ eof = decide (bytes.length < b.val) ∧
        pos' = k * b.val + bytes.length ∨
      bytes = [] ∧ eof = false ∧ pos' = k * b.val := by
  simp only [filePosition] at h
  split at h
  · rename_i hread
    exact Or.inl ⟨hread.1, hread.2, (Option.some.inj h).symm⟩
  · split at h
    · rename_i hfail
      obtain ⟨-, hshort, heof⟩ := hfail
      -- not the front of a block
      obtain rfl := (hreads heof).resolve_right (by omega)
      exact Or.inr ⟨rfl, heof, (Option.some.inj h).symm⟩
    · cases h

theorem at_fail {t : TransmitState b} {reply : ErrorReply} {pos : Nat}
    (hk : k < chunkCount b.val file) : At file k { state := t.fail reply, pos := pos } := by
  refine ⟨hk, ?_⟩
  rcases t.fail_point reply with hp | hp
  · simp [hp]
  · simp [hp]

/-- The test of the outer loop moves on to the next block exactly behind a full
one. -/
theorem at_outerTest {t : TransmitState b}
    (hnum : t.tx.currentBlockNumber = UInt16.ofNat (k + 1))
    (hsent : t.tx.bytesSent = sizeofPacket + (chunk b.val file k).length) :
    ((chunk b.val file k).length = b.val ∧ t.outerTest = { t with point := .nextBlock } ∧
        At file (k + 1) { state := t.outerTest, pos := k * b.val + (chunk b.val file k).length }) ∨
      (chunk b.val file k).length ≠ b.val ∧
        t.outerTest = { t with point := .returned .success } := by
  have hfull : t.tx.bytesSent = dataPacketMaxSize b ↔ (chunk b.val file k).length = b.val := by
    rw [hsent, dataPacketMaxSize]
    omega
  by_cases hlen : (chunk b.val file k).length = b.val
  · refine Or.inl ⟨hlen, ?_⟩
    have houter : t.outerTest = { t with point := .nextBlock } := by
      simp [TransmitState.outerTest, hfull.mpr hlen]
    rw [houter]
    refine ⟨rfl, lt_of_chunk_full b.pos hlen, ?_, hnum⟩
    show k * b.val + (chunk b.val file k).length = (k + 1) * b.val
    rw [hlen, Nat.succ_mul]
  · refine Or.inr ⟨hlen, ?_⟩
    simp [TransmitState.outerTest, mt hfull.mp hlen]

/-- Reading block `k` loads it into the packet. -/
theorem at_onRead {t : TransmitState b} {bytes : List UInt8} {eof : Bool}
    (hk : k < chunkCount b.val file) (hresend : t.tx.resendCounter = 0)
    (hnum : t.tx.currentBlockNumber = UInt16.ofNat (k + 1))
    (hbytes : bytes = chunk b.val file k) (heof : eof = decide (bytes.length < b.val)) :
    (t.onRead bytes eof).point = .attempt ∧
      At file k { state := t.onRead bytes eof, pos := k * b.val + bytes.length } := by
  have hb := b.pos
  have hle : bytes.length ≤ b.val := by
    rw [hbytes]
    exact chunk_length_le _ _ _
  have hread : ¬ (bytes.length = 0 ∧ eof = false) := by
    rintro ⟨hzero, hfalse⟩
    rw [heof, decide_eq_false_iff_not] at hfalse
    omega
  have hpayload := TransmitState.onRead_payload (s := t) hle
  unfold TransmitState.onRead
  rw [if_neg hread, TransmitState.innerTest_lt _ (by simp [hresend, maxRetryCount])]
  refine ⟨rfl, hk, ?_⟩
  refine ⟨by rw [hbytes], hnum, by rw [hbytes], ?_⟩
  rw [← hbytes]
  exact hpayload

/-- A response leaves the sender at its block, or takes it from a full block to the next. -/
theorem at_onResponse (h : s.At file k) (hpoint : s.state.point = .awaiting)
    (result : RecvResult) :
    At file k { state := s.state.onResponse host result, pos := s.pos } ∨
      (s.state.onResponse host result).point = .nextBlock ∧
        (chunk b.val file k).length = b.val ∧
        At file (k + 1) { state := s.state.onResponse host result, pos := s.pos } := by
  obtain ⟨hk, hat⟩ := h
  simp only [hpoint] at hat
  obtain ⟨hp, hnum, hread, hpayload, hsent⟩ := hat
  -- whatever was received, the block in the packet is still block `k`
  have houter : ∀ t : TransmitState b, t.tx.currentBlockNumber = UInt16.ofNat (k + 1) →
      t.tx.bytesSent = sizeofPacket + (chunk b.val file k).length →
      At file k { state := t.outerTest, pos := s.pos } ∨
        t.outerTest.point = .nextBlock ∧ (chunk b.val file k).length = b.val ∧
          At file (k + 1) { state := t.outerTest, pos := s.pos } := by
    intro t htnum htsent
    rcases at_outerTest htnum htsent with ⟨hfull, heq, hnext⟩ | ⟨-, heq⟩
    · rw [← hp] at hnext
      exact Or.inr ⟨by rw [heq], hfull, hnext⟩
    · rw [heq]
      exact Or.inl ⟨hk, trivial⟩
  have hretry : ∀ t : TransmitState b, t.tx.currentBlockNumber = UInt16.ofNat (k + 1) →
      t.tx.bytesSent = sizeofPacket + (chunk b.val file k).length →
      t.tx.latestFileBytesRead = (chunk b.val file k).length →
      t.payload = chunk b.val file k →
      At file k { state := t.retry, pos := s.pos } ∨
        t.retry.point = .nextBlock ∧ (chunk b.val file k).length = b.val ∧
          At file (k + 1) { state := t.retry, pos := s.pos } := by
    intro t htnum htsent htread htpayload
    unfold TransmitState.retry
    split
    · exact Or.inl (at_fail hk)
    · by_cases hlt : t.tx.resendCounter + 1 < maxRetryCount
      · rw [TransmitState.innerTest_lt _ hlt]
        exact Or.inl ⟨hk, hp, htnum, htread, htpayload⟩
      · rw [TransmitState.innerTest_ge _ hlt]
        exact houter _ htnum htsent
  rcases s.state.onResponse_cases host result with
    ⟨source, bytes, -, ⟨-, heq⟩ | ⟨-, -, heq⟩ | ⟨-, -, heq⟩⟩ |
      ⟨errno, -, ⟨-, heq⟩ | ⟨-, reply, heq⟩⟩
  · rw [heq]
    exact Or.inl ⟨hk, trivial⟩
  · rw [heq]
    exact houter _ hnum hsent
  · rw [heq]
    exact hretry _ hnum hsent hread hpayload
  · rw [heq]
    exact hretry _ hnum hsent hread hpayload
  · rw [heq]
    exact Or.inl (at_fail hk)

/-- A step keeps the sender at its block, or takes it from a full block to the
next. -/
theorem step_at (h : s.At file k) (hframe : s.state.Framed)
    (hstep : s.step host file e = some s') :
    s'.At file k ∨
      s.state.point = .awaiting ∧ s'.state.point = .nextBlock ∧
        (chunk b.val file k).length = b.val ∧ s'.At file (k + 1) := by
  obtain ⟨ht, hpos, hreads⟩ := step_eq hstep
  obtain ⟨hk, hat⟩ := h
  obtain ⟨t', pos'⟩ := s'
  cases hpoint : s.state.point with
  | entry =>
      simp only [hpoint] at hat
      obtain ⟨rfl, hzero, hnum⟩ := hat
      obtain ⟨set, rfl, rfl⟩ := transmit_entry hpoint ht
      obtain rfl : s.pos = pos' := by simpa using hpos
      cases set with
      | true => exact Or.inl (at_fail hk)
      | false =>
          refine Or.inl ⟨hk, ?_⟩
          simp [TransmitState.begin, TransmitState.outerTest, hzero, hnum]
  | nextBlock =>
      simp only [hpoint] at hat
      obtain ⟨set, rfl, rfl⟩ := transmit_nextBlock hpoint ht
      obtain rfl : s.pos = pos' := by simpa using hpos
      cases set with
      | true => exact Or.inl (at_fail hk)
      | false =>
          refine Or.inl ⟨hk, ?_⟩
          simp [TransmitState.startBlock, hat.1, hat.2]
  | reading =>
      simp only [hpoint] at hat
      simp only [TransmitState.Framed, hpoint] at hframe
      obtain ⟨bytes, eof, rfl, -, rfl⟩ := transmit_reading hpoint ht
      rw [hat.1] at hpos
      rcases filePosition_fread hpos hreads with ⟨hbytes, heof, rfl⟩ | ⟨rfl, rfl, rfl⟩
      · exact Or.inl (at_onRead hk hframe.2 hat.2 hbytes heof).2
      · exact Or.inl (at_fail hk)
  | attempt =>
      simp only [hpoint] at hat
      obtain ⟨set, rfl, rfl⟩ := transmit_attempt hpoint ht
      obtain rfl : s.pos = pos' := by simpa using hpos
      cases set with
      | true => exact Or.inl (at_fail hk)
      | false => exact Or.inl ⟨hk, hat⟩
  | sending =>
      simp only [hpoint] at hat
      obtain ⟨ok, rfl, rfl⟩ := transmit_sending hpoint ht
      obtain rfl : s.pos = pos' := by simpa using hpos
      cases ok with
      | true =>
          obtain ⟨hp, hnum, hread, hpayload⟩ := hat
          refine Or.inl ⟨hk, hp, hnum, hread, hpayload, ?_⟩
          show (↑(sizeofPacket + s.state.tx.latestFileBytesRead) : Int) = _
          rw [hread]
          rfl
      | false => exact Or.inl (at_fail hk)
  | awaiting =>
      obtain ⟨result, rfl, rfl⟩ := transmit_awaiting hpoint ht
      obtain rfl : s.pos = pos' := by simpa using hpos
      rcases at_onResponse ⟨hk, hat⟩ hpoint result with
        hsame | ⟨hnext, hfull, hat'⟩
      · exact Or.inl hsame
      · exact Or.inr ⟨rfl, hnext, hfull, hat'⟩
  | failing reply =>
      obtain ⟨ok, rfl, rfl⟩ := transmit_failing hpoint ht
      exact Or.inl ⟨hk, trivial⟩
  | returned exit =>
      rw [transmit_returned hpoint] at ht
      cases ht

/-- Only a response can lead to another block. -/
theorem step_same (h : s.At file k) (hframe : s.state.Framed) (hnot : s.state.point ≠ .awaiting)
    (hstep : s.step host file e = some s') : s'.At file k :=
  (step_at h hframe hstep).resolve_right fun hnext => hnot hnext.1

end Sender

/-! ## The receiver -/

/-- `tftp_receive_file` and what it has written to its file. -/
@[ext] structure Receiver (b : BlockSize) where
  state : ReceiveState b
  written : List UInt8
  deriving DecidableEq, Repr

/-- What has been written to a file behind an event, in the file or still in a buffer. -/
def fileContents (written : List UInt8) : Event → List UInt8
  | .fwrite bytes count _ => written ++ bytes.take count
  | _ => written

namespace Receiver

variable {b : BlockSize}

/-- The call of `tftp_receive_file` on a file just created. -/
def start (op : OperationData) (tx : TransferData b) : Receiver b :=
  { state := ReceiveState.start op tx, written := [] }

def step (host : Host) (r : Receiver b) (e : Event) : Option (Receiver b) :=
  (tftpReceiveFile host r.state e).map fun t =>
    { state := t, written := fileContents r.written e }

/-- The receiver is at block `j`, counted from zero: the blocks before it are
acknowledged. -/
def At (file : List UInt8) (j : Nat) (r : Receiver b) : Prop :=
  match r.state.point with
  | .entry => j = 0 ∧ r.written = [] ∧ r.state.prevBlockNumber = 0
  | .nextBlock | .awaiting =>
      r.written = file.take (j * b.val) ∧ r.state.prevBlockNumber = UInt16.ofNat j ∧
        r.state.tx.currentBlockNumber = UInt16.ofNat (j + 1)
  | .writing payload =>
      r.written = file.take (j * b.val) ∧ r.state.prevBlockNumber = UInt16.ofNat j ∧
        r.state.tx.currentBlockNumber = UInt16.ofNat (j + 1) ∧
        j < chunkCount b.val file ∧ payload = chunk b.val file j ∧
        r.state.tx.bytesReceived = sizeofPacket + (chunk b.val file j).length
  | .acknowledging =>
      r.written = file.take ((j + 1) * b.val) ∧ r.state.prevBlockNumber = UInt16.ofNat j ∧
        r.state.tx.currentBlockNumber = UInt16.ofNat (j + 1) ∧
        j < chunkCount b.val file ∧ (chunk b.val file j).length ≠ 0 ∧
        r.state.tx.bytesReceived = sizeofPacket + (chunk b.val file j).length
  | .failing _ =>
      r.written = file.take (j * b.val) ∧ r.state.prevBlockNumber = UInt16.ofNat j
  | .returned exit =>
      r.written = file.take (j * b.val) ∧ r.state.prevBlockNumber = UInt16.ofNat j ∧
        (exit = .success → r.written = file ∧ file.length % b.val ≠ 0)
  | .fault => False

/-- A datagram is a packet of the sender: one of its blocks under a number that no
other block can have here, or an ERROR packet. -/
def Expected (b : BlockSize) (file : List UInt8) (j : Nat) (bytes : List UInt8) : Prop :=
  (∃ i, i < chunkCount b.val file ∧
      bytes = dataPacket (UInt16.ofNat (i + 1)) (chunk b.val file i) ∧
      (UInt16.ofNat (i + 1) = UInt16.ofNat (j + 1) → i = j)) ∨
    ∃ reply, bytes = errorPacket reply

variable {host : Host} {file : List UInt8} {r r' : Receiver b} {e : Event} {j : Nat}

theorem step_eq (h : r.step host e = some r') :
    tftpReceiveFile host r.state e = some r'.state ∧
      r'.written = fileContents r.written e := by
  obtain ⟨t, ht, rfl⟩ := Option.map_eq_some_iff.mp h
  exact ⟨ht, rfl⟩

theorem at_fail {t : ReceiveState b} {reply : ErrorReply}
    (hwritten : r.written = file.take (j * b.val)) (hprev : t.prevBlockNumber = UInt16.ofNat j) :
    At file j { state := t.fail reply, written := r.written } := by
  rcases t.fail_point reply with hp | hp
  · simp [At, hp, hwritten, hprev]
  · simp [At, hp, hwritten, hprev]

/-- A packet of the sender is written only when it is the awaited block. -/
theorem at_onPacket {source : SockAddr} {bytes : List UInt8} (hpoint : r.state.point = .awaiting)
    (h : r.At file j) (hexpected : Expected b file j bytes) :
    At file j
      { state := r.state.onPacket host (.datagram source bytes), written := r.written } := by
  simp only [At, hpoint] at h
  obtain ⟨hwritten, hprev, hnum⟩ := h
  rcases hexpected with ⟨i, hi, rfl, huniq⟩ | ⟨reply, rfl⟩
  · have hle := chunk_length_le b.val file i
    have hfit : (dataPacket (UInt16.ofNat (i + 1)) (chunk b.val file i)).length ≤
        dataPacketMaxSize b := by
      rw [dataPacket_length, dataPacketMaxSize]
      omega
    rw [r.state.onPacket_datagram host source (by simp) hfit, opcodeOf_dataPacket,
      blockNumberOf_dataPacket, dataPacket_drop, if_neg (by decide)]
    split
    · rename_i hawaited
      obtain rfl := huniq (hawaited.2.trans hnum)
      refine ⟨hwritten, hprev, hnum, hi, rfl, ?_⟩
      show (min _ _ : Int) = _
      rw [dataPacket_length] at hfit ⊢
      omega
    · simp only [At, ReceiveState.received, hpoint]
      exact ⟨hwritten, hprev, hnum⟩
  · rw [r.state.onPacket_error host source (errorPacket_length_ge reply)
      (opcodeOf_errorPacket reply)]
    exact ⟨hwritten, hprev, by simp⟩

/-- A block written whole is acknowledged next, unless it is empty. -/
theorem at_onWritten {payload : List UInt8} (hpoint : r.state.point = .writing payload)
    (h : r.At file j) :
    At file j
      { state := r.state.onWritten payload.length, written := r.written ++ payload } := by
  simp only [At, hpoint] at h
  obtain ⟨hwritten, hprev, hnum, hj, rfl, hreceived⟩ := h
  unfold ReceiveState.onWritten
  split
  · rename_i hempty
    rw [List.eq_nil_of_length_eq_zero hempty, List.append_nil]
    exact at_fail hwritten hprev
  · rename_i hne
    exact ⟨by rw [hwritten, take_succ_mul], hprev, hnum, hj, hne, hreceived⟩

/-- The ACK takes the receiver to the next block behind a full one, and to its return
behind a short one. -/
theorem at_onAcknowledged (hpoint : r.state.point = .acknowledging) (h : r.At file j) :
    At file (j + 1) { state := r.state.onAcknowledged, written := r.written } ∧
      ((chunk b.val file j).length = b.val ∧ r.state.onAcknowledged.point = .nextBlock ∨
        (chunk b.val file j).length ≠ b.val ∧
          r.state.onAcknowledged.point = .returned .success) := by
  simp only [At, hpoint] at h
  obtain ⟨hwritten, hprev, hnum, hj, hne, hreceived⟩ := h
  have hfull : r.state.tx.bytesReceived = dataPacketMaxSize b ↔
      (chunk b.val file j).length = b.val := by
    rw [hreceived, dataPacketMaxSize]
    omega
  by_cases hlen : (chunk b.val file j).length = b.val
  · have houter : r.state.onAcknowledged.point = .nextBlock := by
      simp [ReceiveState.onAcknowledged, ReceiveState.outerTest, hfull.mpr hlen]
    refine ⟨?_, Or.inl ⟨hlen, houter⟩⟩
    simp [ReceiveState.onAcknowledged, ReceiveState.outerTest, hfull.mpr hlen, At, hwritten, hprev,
      hnum]
  · have houter : r.state.onAcknowledged.point = .returned .success := by
      simp [ReceiveState.onAcknowledged, ReceiveState.outerTest, mt hfull.mp hlen]
    have hlast := eq_last_of_chunk_short b.pos hj hlen
    have hmod : file.length % b.val ≠ 0 := by
      rw [← chunk_last_length b.pos file, ← hlast]
      exact hne
    refine ⟨?_, Or.inr ⟨hlen, houter⟩⟩
    simp [ReceiveState.onAcknowledged, ReceiveState.outerTest, mt hfull.mp hlen, At, hwritten,
      hprev, take_of_chunk_short hlen, hmod]

/-- A step other than the ACK keeps the receiver at its block. -/
theorem step_keeps (h : r.At file j) (hnot : r.state.point ≠ .acknowledging)
    (hexpected : ∀ size source bytes, e = .recvfrom size (.datagram source bytes) →
      Expected b file j bytes)
    (hwrites : ∀ bytes count kept, e = .fwrite bytes count kept → count = bytes.length)
    (hstep : r.step host e = some r') : r'.At file j := by
  obtain ⟨ht, hwritten'⟩ := step_eq hstep
  obtain ⟨t', written'⟩ := r'
  cases hpoint : r.state.point with
  | entry =>
      simp only [At, hpoint] at h
      obtain ⟨rfl, hwritten, hprev⟩ := h
      obtain ⟨set, rfl, rfl⟩ := receive_entry hpoint ht
      obtain rfl : written' = r.written := hwritten'
      cases set with
      | true => exact at_fail (by simp [hwritten]) hprev
      | false => exact ⟨by simp [hwritten], hprev, rfl⟩
  | nextBlock =>
      simp only [At, hpoint] at h
      obtain ⟨set, rfl, rfl⟩ := receive_nextBlock hpoint ht
      obtain rfl : written' = r.written := hwritten'
      cases set with
      | true => exact at_fail h.1 h.2.1
      | false => exact h
  | awaiting =>
      obtain ⟨result, rfl, rfl⟩ := receive_awaiting hpoint ht
      obtain rfl : written' = r.written := hwritten'
      cases result with
      | datagram source bytes => exact at_onPacket hpoint h (hexpected _ source bytes rfl)
      | failed errno =>
          simp only [At, hpoint] at h
          simp only [ReceiveState.onPacket, ReceiveState.missed]
          split
          · exact h
          · exact at_fail h.1 h.2.1
  | writing payload =>
      obtain ⟨count, kept, rfl, -, rfl⟩ := receive_writing hpoint ht
      -- nothing of the payload is lost
      obtain rfl := hwrites payload count kept rfl
      obtain rfl : written' = r.written ++ payload := by
        simpa [fileContents] using hwritten'
      exact at_onWritten hpoint h
  | acknowledging => exact absurd hpoint hnot
  | failing reply =>
      simp only [At, hpoint] at h
      obtain ⟨ok, rfl, rfl⟩ := receive_failing hpoint ht
      obtain rfl : written' = r.written := hwritten'
      exact ⟨h.1, h.2, by simp⟩
  | returned exit =>
      rw [receive_returned hpoint] at ht
      cases ht
  | fault =>
      rw [receive_fault hpoint] at ht
      cases ht

/-- The ACK takes the receiver to the next block. -/
theorem step_acknowledges (h : r.At file j) (hpoint : r.state.point = .acknowledging)
    (hstep : r.step host e = some r') :
    j < chunkCount b.val file ∧ r'.At file (j + 1) ∧
      (r'.state.point = .nextBlock ∨ r'.state.point = .returned .success) := by
  obtain ⟨ht, hwritten'⟩ := step_eq hstep
  obtain ⟨ok, rfl, heq⟩ := receive_acknowledging hpoint ht
  have hreceiver : r' = { state := r.state.onAcknowledged, written := r.written } :=
    Receiver.ext heq hwritten'
  have hj : j < chunkCount b.val file := by
    have hat := h
    simp only [At, hpoint] at hat
    exact hat.2.2.2.1
  rw [hreceiver]
  obtain ⟨hnext, ⟨-, houter⟩ | ⟨-, houter⟩⟩ := at_onAcknowledged hpoint h
  · exact ⟨hj, hnext, Or.inl houter⟩
  · exact ⟨hj, hnext, Or.inr houter⟩

theorem prev_of_at (h : r.At file j) : r.state.prevBlockNumber = UInt16.ofNat j := by
  cases hpoint : r.state.point <;> simp only [At, hpoint] at h
  case entry =>
    obtain ⟨rfl, -, hprev⟩ := h
    exact hprev
  all_goals first | exact h.2.1 | exact h.2

/-- What the file of a receiver at block `j` holds. -/
theorem written_of_at (h : r.At file j) :
    r.written =
      file.take ((if r.state.point = .acknowledging then j + 1 else j) * b.val) := by
  cases hpoint : r.state.point <;> simp only [At, hpoint] at h
  case entry =>
    obtain ⟨rfl, hwritten, -⟩ := h
    simp [hwritten]
  case acknowledging => simp [h.1]
  all_goals simp [h.1]

end Receiver

/-! ## The two together -/

/-- Both parties of a transfer and the packets between them. -/
structure Exchange (b : BlockSize) where
  sender : Sender b
  receiver : Receiver b
  toReceiver : List (List UInt8)
  toSender : List (List UInt8)
  deriving DecidableEq, Repr

/-- One party makes a system call. -/
inductive Move
  | sender (e : Event)
  | receiver (e : Event)
  deriving DecidableEq, Repr

/-- What the two parties of a transfer bring along: their hosts, operations and
freshly allocated buffers. -/
structure Setup (b : BlockSize) where
  sendHost : Host
  receiveHost : Host
  sendOp : OperationData
  receiveOp : OperationData
  sendData : Buffer (dataPacketMaxSize b)
  sendResponse : Buffer responsePacketMaxSize
  receiveData : Buffer (dataPacketMaxSize b)
  receiveResponse : Buffer responsePacketMaxSize

/-- Two little-endian hosts and clean buffers, for runs on fixed inputs. -/
def sampleSetup : Setup sampleBlockSize :=
  { sendHost := littleHost
    receiveHost := littleHost
    sendOp := sampleOperation
    receiveOp := { sampleOperation with operationId := .receive }
    sendData := Buffer.zero _
    sendResponse := Buffer.zero _
    receiveData := Buffer.zero _
    receiveResponse := Buffer.zero _ }

/-- Both functions are called, nothing has been sent. -/
def Exchange.start {b : BlockSize} (setup : Setup b) : Exchange b :=
  { sender := Sender.start setup.sendOp (FillState.cleared setup.sendData setup.sendResponse)
    receiver :=
      Receiver.start setup.receiveOp (FillState.cleared setup.receiveData setup.receiveResponse)
    toReceiver := []
    toSender := [] }

theorem Sender.at_start {b : BlockSize} (file : List UInt8) (op : OperationData)
    (data : Buffer (dataPacketMaxSize b)) (response : Buffer responsePacketMaxSize) :
    (Sender.start op (FillState.cleared data response)).At file 0 :=
  ⟨Nat.succ_pos _, rfl, rfl, rfl⟩

theorem Receiver.at_start {b : BlockSize} (file : List UInt8) (op : OperationData)
    (tx : TransferData b) : (Receiver.start op tx).At file 0 :=
  ⟨rfl, rfl, rfl⟩

end Stftpu
