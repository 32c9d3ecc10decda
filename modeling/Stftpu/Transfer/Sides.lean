import Stftpu.Server.PartialReads
import Stftpu.Transfer.BoundedWaits
import Stftpu.Transfer.LossyChannel
import Stftpu.Transfer.OwnAcks

/-!
# The two sides of a transfer, with their files

A client and a server task go through the same functions with a file of their own:
`tftp_fill_transfer_data`, and then `tftp_transmit_file` or `tftp_receive_file`.  What holds
of either side is stated here on these functions, their stream and the storage they use.

* `FillState.For` — the transfer is set up for one path and one block size.
* `Supply` — the stream of the side that sends.
* `Collect` — the stream of the side that receives, and what it has written.
-/

namespace Stftpu

open Library

theorem BlockSize.eq_of_val {b c : BlockSize} (h : b.val = c.val) : b = c := by
  cases b
  cases c
  obtain rfl := h
  rfl

/-! ## The setting up -/

namespace FillState

/-- The buffers are for blocks of this size. -/
def Sized (b : BlockSize) (s : FillState) : Prop :=
  match s.point with
  | .allocatingData b' => b' = b
  | .allocatingResponse b' _ => b' = b
  | .ready b' tx => b' = b ∧ ∃ data response, tx = cleared data response
  | _ => True

/-- A transfer of one file in blocks of one size. -/
structure For (b : BlockSize) (path : List UInt8) (receiver : Bool) (s : FillState) : Prop where
  path : s.op.path = path
  receiver : s.receiver = receiver
  size : s.op.blockSize.toNat = b.val
  sized : s.Sized b

variable {host : Host} {b : BlockSize} {path : List UInt8} {receiver : Bool} {s s' : FillState}
  {e : Event}

theorem sized_fail (reply : ErrorReply) : (s.fail reply).Sized b := by
  rcases s.fail_point reply with h | h
  · simp [Sized, h]
  · simp [Sized, h]

/-- A size in range is taken as it is. -/
theorem checkBlockSize_eq (h : s.op.blockSize.toNat = b.val) :
    s.checkBlockSize = { s with point := .allocatingData b } := by
  have hpos := b.pos
  have hnonzero : s.op.blockSize ≠ 0 := by
    intro hzero
    rw [hzero] at h
    have hval : (0 : UInt16).toNat = 0 := rfl
    omega
  have hrange : tftpBlksizeMin ≤ s.op.blockSize.toNat ∧
      s.op.blockSize.toNat ≤ tftpBlksizeMax := by
    rw [h]
    exact ⟨b.min_le, b.le_max⟩
  unfold checkBlockSize
  rw [if_neg hnonzero, dif_pos hrange]
  have hb : (⟨s.op.blockSize.toNat, hrange.1, hrange.2⟩ : BlockSize) = b :=
    BlockSize.eq_of_val h
  rw [hb]

theorem For.fail (h : s.For b path receiver) (reply : ErrorReply) :
    (s.fail reply).For b path receiver where
  path := by
    rw [fail_op]
    exact h.path
  receiver := by
    rw [fail_receiver]
    exact h.receiver
  size := by
    rw [fail_op]
    exact h.size
  sized := sized_fail reply

theorem for_start {op : OperationData} (allocated : Bool) (hpath : op.path = path)
    (hsize : op.blockSize.toNat = b.val) : (start op allocated receiver).For b path receiver := by
  have hcall : FillState.For b path receiver
      { point := if receiver then .probing else .opening
        op := op
        receiver := receiver
        allocated := allocated
        fileOpen := false } := by
    refine ⟨hpath, rfl, hsize, ?_⟩
    cases receiver <;> trivial
  cases allocated with
  | true => exact hcall
  | false => exact hcall.fail _

/-- Every call of the function. -/
theorem For.step (h : s.For b path receiver) (hstep : tftpFillTransferData host s e = some s') :
    s'.For b path receiver := by
  obtain ⟨hpath, hreceiver, hsize, hsized⟩ := h
  cases hpoint : s.point with
  | probing =>
      obtain ⟨error, -, ⟨-, rfl⟩ | ⟨-, rfl⟩⟩ := fill_probing hpoint hstep
      · exact ⟨hpath, hreceiver, hsize, trivial⟩
      · exact ⟨hpath, hreceiver, hsize, trivial⟩
  | describing =>
      obtain ⟨timestamp, -, rfl⟩ := fill_describing hpoint hstep
      exact For.fail ⟨hpath, hreceiver, hsize, hsized⟩ _
  | opening =>
      obtain ⟨error, -, ⟨-, rfl⟩ | ⟨errno, -, rfl⟩⟩ := fill_opening hpoint hstep
      · rw [checkBlockSize_eq (s := { s with fileOpen := true }) hsize]
        exact ⟨hpath, hreceiver, hsize, rfl⟩
      · exact For.fail ⟨hpath, hreceiver, hsize, hsized⟩ _
  | allocatingData b' =>
      obtain ⟨block, data, -, -, rfl⟩ := fill_allocatingData hpoint hstep
      simp only [Sized, hpoint] at hsized
      exact ⟨hpath, hreceiver, hsize, hsized⟩
  | allocatingResponse b' data =>
      obtain ⟨block, response, -, -, rfl⟩ := fill_allocatingResponse hpoint hstep
      rcases s.onAllocated_cases host data response with ⟨data', response', heq⟩ | ⟨reply, heq⟩
      · rw [heq]
        simp only [Sized, hpoint] at hsized
        exact ⟨hpath, hreceiver, hsize, hsized, data', response', rfl⟩
      · rw [heq]
        exact For.fail ⟨hpath, hreceiver, hsize, hsized⟩ _
  | failing reply =>
      obtain ⟨ok, -, rfl⟩ := fill_failing hpoint hstep
      exact ⟨hpath, hreceiver, hsize, trivial⟩
  | ready b' tx =>
      rw [fill_ready hpoint] at hstep
      cases hstep
  | failed =>
      rw [fill_failed hpoint] at hstep
      cases hstep

/-- The function sends ERROR packets, each as it was made. -/
theorem launched_fill (hstep : tftpFillTransferData host s e = some s') {packet : List UInt8}
    (hmem : packet ∈ launched e) : ∃ reply, packet = errorPacket reply := by
  obtain ⟨peer, rfl⟩ := mem_launched hmem
  cases hpoint : s.point with
  | failing reply =>
      obtain ⟨ok, he, -⟩ := fill_failing hpoint hstep
      obtain ⟨-, rfl, -⟩ := Event.sendto.inj he
      exact ⟨reply, rfl⟩
  | _ => simp [tftpFillTransferData, hpoint] at hstep

/-- The function does not use its file. -/
theorem not_hands {bytes : List UInt8} (hstep : tftpFillTransferData host s e = some s') :
    ¬ e.Hands bytes := by
  rintro (⟨bytes, count, kept⟩ | ⟨lost⟩) <;>
    cases hpoint : s.point <;> simp [tftpFillTransferData, hpoint] at hstep

/-- Behind the opening of its file the function leaves the files alone. -/
theorem opened_quiet (hopened : s.Opened) (hstep : tftpFillTransferData host s e = some s') :
    (∃ size block, e = .malloc size block) ∨ ∃ peer packet ok, e = .sendto peer packet ok :=
  (created_step (created_of_opened hopened) hstep).2

end FillState

/-! ## The side that sends -/

namespace TransmitState

variable {b : BlockSize} {host : Host} {s s' : TransmitState b} {e : Event}

theorem fail_ne_success (reply : ErrorReply) : (s.fail reply).point ≠ .returned .success := by
  rcases s.fail_point reply with h | h
  · simp [h]
  · simp [h]

/-- The function returns `true` only from its wait for a response. -/
theorem awaiting_of_success (hframed : s.Framed) (hstep : tftpTransmitFile host s e = some s')
    (hpoint : s'.point = .returned .success) : s.point = .awaiting := by
  cases hbefore : s.point with
  | entry =>
      obtain ⟨set, -, rfl⟩ := transmit_entry hbefore hstep
      cases set with
      | true => exact absurd hpoint (fail_ne_success _)
      | false => simp [begin, outerTest] at hpoint
  | nextBlock =>
      obtain ⟨set, -, rfl⟩ := transmit_nextBlock hbefore hstep
      cases set with
      | true => exact absurd hpoint (fail_ne_success _)
      | false => simp [startBlock] at hpoint
  | reading =>
      obtain ⟨bytes, eof, -, -, rfl⟩ := transmit_reading hbefore hstep
      simp only [Framed, hbefore] at hframed
      unfold onRead at hpoint
      split at hpoint
      · exact absurd hpoint (fail_ne_success _)
      · rw [innerTest_lt _ (by simp [hframed.2, maxRetryCount])] at hpoint
        cases hpoint
  | attempt =>
      obtain ⟨set, -, rfl⟩ := transmit_attempt hbefore hstep
      cases set with
      | true => exact absurd hpoint (fail_ne_success _)
      | false => simp at hpoint
  | sending =>
      obtain ⟨ok, -, rfl⟩ := transmit_sending hbefore hstep
      cases ok with
      | true => simp [onSent] at hpoint
      | false => exact absurd hpoint (fail_ne_success _)
  | awaiting => rfl
  | failing reply =>
      obtain ⟨ok, -, rfl⟩ := transmit_failing hbefore hstep
      simp at hpoint
  | returned exit =>
      rw [transmit_returned hbefore] at hstep
      cases hstep

/-- The function neither writes its file nor closes it. -/
theorem quiet (hstep : tftpTransmitFile host s e = some s') : e.changesFiles = false := by
  rcases changesFiles_cases e with hquiet | ⟨path, rfl⟩ | ⟨bytes, hhands⟩ | ⟨path, rfl⟩
  · exact hquiet
  · rw [transmit_fopen] at hstep
    cases hstep
  · cases hhands <;> cases hpoint : s.point <;> simp [tftpTransmitFile, hpoint] at hstep
  · rw [transmit_remove] at hstep
    cases hstep

end TransmitState

section Supply

variable {ν : Type}

/-- The stream is open for reading, at a position of the file that holds `content`. -/
def Supply (storage : Storage ν) (content : List UInt8) (stream : Option (OpenFile ν))
    (position : Nat) : Prop :=
  ∃ f, stream = some f ∧ f.mode = .read ∧ f.position = position ∧
    storage.contents f.number = content

/-- `tftp_fill_transfer_data` on the side that sends. -/
structure FillsSupply (b : BlockSize) (path : List UInt8) (storage : Storage ν)
    (content : List UInt8) (stream : Option (OpenFile ν)) (s : FillState) : Prop
    extends s.For b path false where
  opened : s.Opened → Supply storage content stream 0

/-- `tftp_transmit_file` at block `k` of its file. -/
def SendsAt {b : BlockSize} (storage : Storage ν) (content : List UInt8)
    (stream : Option (OpenFile ν)) (k : Nat) (s : TransmitState b) : Prop :=
  s.Framed ∧ ∃ position, Supply storage content stream position ∧
    Sender.At content k { state := s, pos := position }

variable {resolve : List UInt8 → ν} {host : Host} {b : BlockSize} {path : List UInt8}
  {storage storage' : Storage ν} {content : List UInt8} {stream stream' : Option (OpenFile ν)}
  {e : Event}

theorem fillsSupply_start {op : OperationData} (allocated : Bool) (hpath : op.path = path)
    (hsize : op.blockSize.toNat = b.val) :
    FillsSupply b path storage content stream (FillState.start op allocated false) where
  toFor := FillState.for_start allocated hpath hsize
  opened := fun hopened => absurd hopened (FillState.not_opened_start op allocated false)

/-- What has been set up begins with the first block. -/
theorem FillsSupply.ready {s : FillState} {b' : BlockSize} {tx : TransferData b'}
    (h : FillsSupply b path storage content stream s) (hpoint : s.point = .ready b' tx) :
    b' = b ∧ SendsAt storage content stream 0 (TransmitState.start s.op tx) := by
  have hsized := h.sized
  simp only [FillState.Sized, hpoint] at hsized
  obtain ⟨hb, data, response, rfl⟩ := hsized
  have hopened : s.Opened := by simp [FillState.Opened, hpoint]
  exact ⟨hb, trivial, 0, h.opened hopened, Sender.at_start content s.op data response⟩

/-- The function returns `true` behind the last block, when the response to it is taken for its
ACK. -/
theorem SendsAt.success {s s' : TransmitState b} {k : Nat}
    (h : SendsAt storage content stream k s) (hstep : tftpTransmitFile host s e = some s')
    (hdecides : s.LastAttemptDecides host e) (hpoint : s'.point = .returned .success) :
    k + 1 = chunkCount b.val content ∧ ∃ size source bytes,
      e = .recvfrom size (.datagram source bytes) ∧
        HoldsAck host (s.tx.responsePacket.receive bytes) (UInt16.ofNat (k + 1)) := by
  obtain ⟨hframed, position, -, hk, hat⟩ := h
  have hwaits := TransmitState.awaiting_of_success hframed hstep hpoint
  obtain ⟨result, rfl, rfl⟩ := transmit_awaiting hwaits hstep
  simp only [TransmitState.Framed, hwaits] at hframed
  simp only [hwaits] at hat
  obtain ⟨-, hnumber, -, -, hsent⟩ := hat
  have htaken : s.TakenForAck host result := by
    rcases (TransmitState.movesOn_onResponse hframed.2 result).mp (Or.inr hpoint) with
      htaken | ⟨-, hfatal, hlast⟩
    · exact htaken
    · exact (hdecides hlast).resolve_right hfatal
  cases result with
  | failed errno => exact htaken.elim
  | datagram source bytes =>
      have houter : s.onResponse host (.datagram source bytes) =
          (s.received source bytes).outerTest := by
        simp only [TransmitState.onResponse, htaken.1, htaken.2, Bool.false_eq_true, if_false,
          if_true]
      refine ⟨?_, _, source, bytes, rfl, ?_⟩
      · rw [houter] at hpoint
        rcases Sender.at_outerTest (t := s.received source bytes) hnumber hsent with
          ⟨-, heq, -⟩ | ⟨hshort, -⟩
        · rw [heq] at hpoint
          cases hpoint
        · have hlast := eq_last_of_chunk_short b.pos hk hshort
          simp only [chunkCount]
          omega
      · rw [← hnumber]
        exact (TransmitState.takenForAck_iff source bytes).mp htaken

/-- A side that sends opens its file for reading only. -/
theorem FillsSupply.quiet {s s' : FillState} (h : FillsSupply b path storage content stream s)
    (hstep : tftpFillTransferData host s e = some s') : e.changesFiles = false := by
  rcases changesFiles_cases e with hquiet | ⟨p, rfl⟩ | ⟨bytes, hhands⟩ | ⟨p, rfl⟩
  · exact hquiet
  · cases hpoint : s.point with
    | probing =>
        obtain ⟨error, he, -⟩ := fill_probing hpoint hstep
        cases he
    | opening =>
        obtain ⟨error, he, -⟩ := fill_opening hpoint hstep
        rw [h.receiver, if_neg Bool.false_ne_true] at he
        cases he
    | _ => simp [tftpFillTransferData, hpoint] at hstep
  · exact absurd hhands (FillState.not_hands hstep)
  · rw [fill_remove] at hstep
    cases hstep

variable [DecidableEq ν]

/-- A call that sets the transfer up leaves the storage, and opens the file that is there. -/
theorem FillsSupply.step {s s' : FillState} (h : FillsSupply b path storage content stream s)
    (hfound : ∀ c, storage.lookup (resolve path) = some c → c = content)
    (hstep : tftpFillTransferData host s e = some s')
    (haccess : accessFiles resolve storage stream e = some (storage', stream')) :
    storage' = storage ∧ FillsSupply b path storage content stream' s' := by
  have hfor := h.toFor.step hstep
  obtain ⟨hstorage, -⟩ := access_quiet (h.quiet hstep) haccess
  refine ⟨hstorage, hfor, ?_⟩
  intro hopened
  rcases FillState.opened_step hstep hopened with hbefore | rfl
  · have hsame : stream' = stream := by
      rcases FillState.opened_quiet hbefore hstep with ⟨size, block, rfl⟩ | ⟨peer, packet, ok, rfl⟩
      · exact (Prod.mk.inj (Option.some.inj haccess)).2.symm
      · exact (Prod.mk.inj (Option.some.inj haccess)).2.symm
    rw [hsame]
    exact h.opened hbefore
  · rw [h.receiver, if_neg Bool.false_ne_true] at haccess
    obtain ⟨n, hentry, -, rfl⟩ := access_open haccess
    rw [h.path] at hentry
    refine ⟨_, rfl, rfl, rfl, hfound _ ?_⟩
    simp [FileStore.lookup, hentry]

/-- A call of `tftp_transmit_file` leaves the storage; it stays at its block, or goes from a
full block to the next behind a response. -/
theorem SendsAt.step {s s' : TransmitState b} {k : Nat} (h : SendsAt storage content stream k s)
    (hstep : tftpTransmitFile host s e = some s') (hreads : e.ReadsWhole)
    (haccess : accessFiles resolve storage stream e = some (storage', stream')) :
    storage' = storage ∧
      (SendsAt storage content stream' k s' ∨
        s.point = .awaiting ∧ s'.point = .nextBlock ∧ (chunk b.val content k).length = b.val ∧
          SendsAt storage content stream' (k + 1) s') ∧
      ∀ packet ∈ launched e, SenderPacket b content k packet := by
  obtain ⟨hframed, position, ⟨f, rfl, hmode, rfl, hcontents⟩, hat⟩ := h
  obtain ⟨f', rfl, hnumber, hmode', hsender⟩ :=
    sender_of_access hstep haccess hreads hmode hcontents
  have hstorage := (access_quiet (TransmitState.quiet hstep) haccess).1
  have hframed' := TransmitState.framed_step hframed hstep
  have hsupply : Supply storage content (some f') f'.position :=
    ⟨f', rfl, hmode', rfl, by rw [hnumber]; exact hcontents⟩
  refine ⟨hstorage, ?_, ?_⟩
  · rcases Sender.step_at hat hframed hsender with hsame | ⟨hpoint, hnext, hfull, hat'⟩
    · exact Or.inl ⟨hframed', _, hsupply, hsame⟩
    · exact Or.inr ⟨hpoint, hnext, hfull, hframed', _, hsupply, hat'⟩
  · intro packet hmem
    obtain ⟨peer, rfl⟩ := mem_launched hmem
    exact Sender.sent_packet hat hframed hsender

end Supply

/-! ## The side that receives -/

namespace Receiver

/-- A datagram with an opcode of its own that is neither DATA nor ERROR. -/
def Foreign (bytes : List UInt8) : Prop :=
  2 ≤ bytes.length ∧ opcodeOf bytes ≠ TFTPOpcode.data.code ∧
    opcodeOf bytes ≠ TFTPOpcode.error.code

variable {b : BlockSize} {host : Host} {file : List UInt8} {j : Nat} {r r' : Receiver b}

/-- Such a datagram is passed over. -/
theorem onPacket_foreign {s : ReceiveState b} {source : SockAddr} {bytes : List UInt8}
    (h : Foreign bytes) : s.onPacket host (.datagram source bytes) = s.received source bytes := by
  obtain ⟨hlen, hdata, herror⟩ := h
  have hopcode : ntohs host.order (loadOpcode host (s.received source bytes).tx.dataPacket) =
      opcodeOf bytes := by
    apply ntohs_loadOpcode_receive host s.tx.dataPacket bytes hlen
    simp only [dataPacketMaxSize, sizeofPacket]
    omega
  have hpos : (s.received source bytes).tx.bytesReceived > 0 := by
    simp only [ReceiveState.received, dataPacketMaxSize, sizeofPacket]
    omega
  have hnoError : (s.received source bytes).looksLikeError host = false := by
    simp [ReceiveState.looksLikeError, hopcode, herror]
  have hnoData : (s.received source bytes).looksAwaited host = false := by
    simp [ReceiveState.looksAwaited, hopcode, hdata]
  simp only [ReceiveState.onPacket, hpos, hnoError, hnoData, if_true, Bool.false_eq_true, if_false]

theorem step_foreign {size : Nat} {source : SockAddr} {bytes : List UInt8} (h : r.At file j)
    (hforeign : Foreign bytes)
    (hstep : r.step host (.recvfrom size (.datagram source bytes)) = some r') : r'.At file j := by
  obtain ⟨hreceive, hwritten⟩ := step_eq hstep
  cases hpoint : r.state.point with
  | awaiting =>
      obtain ⟨result, he, heq⟩ := receive_awaiting hpoint hreceive
      obtain ⟨-, rfl⟩ := Event.recvfrom.inj he
      rw [onPacket_foreign hforeign] at heq
      have hreceiver : r' = { state := r.state.received source bytes, written := r.written } :=
        Receiver.ext heq hwritten
      simp only [At, hpoint] at h
      rw [hreceiver]
      simp only [At, ReceiveState.received, hpoint]
      exact h
  | _ => simp [tftpReceiveFile, hpoint] at hreceive

end Receiver

section Collect

variable {ν : Type}

/-- The stream is open for writing, at the end of the file under its name; what has been written
is in the file or still in the buffer. -/
def Collect (name : ν) (storage : Storage ν) (stream : Option (OpenFile ν))
    (written : List UInt8) : Prop :=
  ∃ f, stream = some f ∧ f.isOpen = true ∧ f.mode = .write ∧
    f.position = (storage.contents f.number).length ∧ storage.entry name = some f.number ∧
    storage.contents f.number ++ f.buffer = written

/-- The stream is for reading, or a beginning of `content` has been written through it. -/
def Delivers (name : ν) (storage : Storage ν) (content : List UInt8)
    (stream : Option (OpenFile ν)) : Prop :=
  ReadOnly stream ∨ ∃ written, Collect name storage stream written ∧ written <+: content

/-- `tftp_fill_transfer_data` on the side that receives. -/
structure FillsCollect (b : BlockSize) (path : List UInt8) (name : ν) (storage : Storage ν)
    (stream : Option (OpenFile ν)) (s : FillState) : Prop extends s.For b path true where
  opened : s.Opened → Collect name storage stream []

/-- `tftp_receive_file` at block `j` of the file sent. -/
def CollectsAt {b : BlockSize} (name : ν) (storage : Storage ν) (content : List UInt8)
    (stream : Option (OpenFile ν)) (j : Nat) (s : ReceiveState b) : Prop :=
  ∃ written, Collect name storage stream written ∧
    Receiver.At content j { state := s, written := written }

/-- The file holds a beginning of what has been written. -/
theorem Collect.lookup {name : ν} {storage : Storage ν} {stream : Option (OpenFile ν)}
    {written content : List UInt8} (h : Collect name storage stream written)
    (hleading : written <+: content) :
    ∃ held, storage.lookup name = some held ∧ held <+: content := by
  obtain ⟨f, -, -, -, -, hentry, hcontents⟩ := h
  have hheld : storage.contents f.number <+: written := ⟨f.buffer, hcontents⟩
  exact ⟨storage.contents f.number, by simp [FileStore.lookup, hentry], hheld.trans hleading⟩

variable {resolve : List UInt8 → ν} {name : ν} {host : Host} {b : BlockSize}
  {path : List UInt8} {storage storage' : Storage ν} {content : List UInt8}
  {stream stream' : Option (OpenFile ν)} {e : Event}

theorem fillsCollect_start {op : OperationData} (allocated : Bool) (hpath : op.path = path)
    (hsize : op.blockSize.toNat = b.val) :
    FillsCollect b path name storage stream (FillState.start op allocated true) where
  toFor := FillState.for_start allocated hpath hsize
  opened := fun hopened => absurd hopened (FillState.not_opened_start op allocated true)

/-- What has been set up awaits the first block. -/
theorem FillsCollect.ready {s : FillState} {b' : BlockSize} {tx : TransferData b'}
    (h : FillsCollect b path name storage stream s) (hpoint : s.point = .ready b' tx)
    (content : List UInt8) (op : OperationData) :
    b' = b ∧ CollectsAt name storage content stream 0 (ReceiveState.start op tx) := by
  have hsized := h.sized
  simp only [FillState.Sized, hpoint] at hsized
  have hopened : s.Opened := by simp [FillState.Opened, hpoint]
  exact ⟨hsized.1, [], h.opened hopened, Receiver.at_start content op tx⟩

/-- A receiver that has returned `true` has written the file, and the file ends in a short
block. -/
theorem CollectsAt.success {s : ReceiveState b} {j : Nat}
    (h : CollectsAt name storage content stream j s) (hpoint : s.point = .returned .success) :
    Collect name storage stream content ∧ content.length % b.val ≠ 0 := by
  obtain ⟨written, hcollect, hat⟩ := h
  simp only [Receiver.At, hpoint] at hat
  obtain ⟨rfl, hshort⟩ := hat.2.2 trivial
  exact ⟨hcollect, hshort⟩

/-- What has been written is a beginning of the file sent. -/
theorem CollectsAt.written_prefix {s : ReceiveState b} {j : Nat}
    (h : CollectsAt name storage content stream j s) :
    ∃ written, Collect name storage stream written ∧ written <+: content := by
  obtain ⟨written, hcollect, hat⟩ := h
  have hwritten : written = _ := Receiver.written_of_at hat
  refine ⟨written, hcollect, ?_⟩
  rw [hwritten]
  exact List.take_prefix _ _

theorem CollectsAt.delivers {s : ReceiveState b} {j : Nat}
    (h : CollectsAt name storage content stream j s) : Delivers name storage content stream :=
  Or.inr h.written_prefix

/-- A call that sets the transfer up leaves the files, or creates the one to be written. -/
theorem FillsCollect.quiet_or_creates {s s' : FillState}
    (h : FillsCollect b path name storage stream s)
    (hstep : tftpFillTransferData host s e = some s') :
    e.changesFiles = false ∨ s.point = .opening ∧ e = .fopen path .write none := by
  rcases changesFiles_cases e with hquiet | ⟨p, rfl⟩ | ⟨bytes, hhands⟩ | ⟨p, rfl⟩
  · exact Or.inl hquiet
  · -- the one creation is that of the file to be written
    cases hpoint : s.point with
    | probing =>
        obtain ⟨error, he, -⟩ := fill_probing hpoint hstep
        cases he
    | opening =>
        obtain ⟨error, he, -⟩ := fill_opening hpoint hstep
        obtain ⟨rfl, -, -⟩ := Event.fopen.inj he
        exact Or.inr ⟨rfl, by rw [h.path]⟩
    | _ => simp [tftpFillTransferData, hpoint] at hstep
  · exact absurd hhands (FillState.not_hands hstep)
  · rw [fill_remove] at hstep
    cases hstep

variable [DecidableEq ν]

/-- An `fclose` that loses nothing leaves the whole of it in the file. -/
theorem Collect.close {written : List UInt8} {lost : Nat}
    (h : Collect name storage stream written)
    (haccess : accessFiles resolve storage stream (.fclose lost) = some (storage', stream')) :
    ∃ held, storage'.lookup name = some held ∧ held <+: written ∧
      (lost = 0 → held = written) := by
  obtain ⟨f, rfl, hopen, hmode, hposition, hentry, hwritten⟩ := h
  obtain ⟨g, g', hg, -, -, -, ⟨hread, -⟩ | ⟨-, hhanded, hempty⟩⟩ := access_close haccess
  · obtain rfl := Option.some.inj hg
    rw [hread] at hmode
    cases hmode
  · obtain rfl := Option.some.inj hg
    obtain ⟨hcontents, -⟩ := hhanded.contents_end hposition
    rw [List.append_nil, hwritten] at hcontents
    refine ⟨storage'.contents f.number, ?_, ⟨g'.buffer, hcontents⟩, ?_⟩
    · simp [FileStore.lookup, hhanded.entry, hentry]
    · intro hlost
      rw [← hcontents, hempty hlost, List.append_nil]

theorem Delivers.quiet (h : Delivers name storage content stream)
    (hquiet : e.changesFiles = false)
    (haccess : accessFiles resolve storage stream e = some (storage', stream')) :
    Delivers name storage' content stream' := by
  rw [(access_quiet hquiet haccess).1]
  rcases access_quiet_stream hquiet haccess with hsame | hreads
  · rw [hsame]
    exact h
  · exact Or.inl hreads

/-- When the stream is closed, the file stays as it is or holds a beginning of `content`. -/
theorem Delivers.close {lost : Nat} (h : Delivers name storage content stream)
    (haccess : accessFiles resolve storage stream (.fclose lost) = some (storage', stream')) :
    storage' = storage ∨ ∃ held, storage'.lookup name = some held ∧ held <+: content := by
  rcases h with hreads | ⟨written, hcollect, hleading⟩
  · exact Or.inl (access_reading hreads rfl haccess).1
  · obtain ⟨held, hlookup, hheld, -⟩ := hcollect.close haccess
    exact Or.inr ⟨held, hlookup, hheld.trans hleading⟩

/-- Whatever was under the name, the file created there is empty. -/
theorem collect_create (h : accessFiles resolve storage stream (.fopen path .write none) =
    some (storage', stream')) : Collect (resolve path) storage' stream' [] := by
  obtain ⟨rfl, rfl⟩ := access_created h
  have hempty : (storage.create (resolve path)).1.contents
      (storage.create (resolve path)).2 = [] := by
    cases hentry : storage.entry (resolve path) with
    | none => simp [FileStore.create_of_none hentry]
    | some n => simp [FileStore.create_of_some hentry]
  refine ⟨_, rfl, rfl, rfl, by rw [hempty]; rfl, ?_, by rw [hempty]; rfl⟩
  cases hentry : storage.entry (resolve path) with
  | none => simp [FileStore.create_of_none hentry]
  | some n => simp [FileStore.create_of_some hentry, FileStore.set, hentry]

theorem FillsCollect.step {s s' : FillState}
    (h : FillsCollect b path (resolve path) storage stream s)
    (hstep : tftpFillTransferData host s e = some s')
    (haccess : accessFiles resolve storage stream e = some (storage', stream')) :
    FillsCollect b path (resolve path) storage' stream' s' ∧
      (storage' = storage ∨ s.point = .opening ∧ e = .fopen path .write none) := by
  have hfor := h.toFor.step hstep
  rcases h.quiet_or_creates hstep with hquiet | ⟨hpoint, rfl⟩
  · obtain ⟨hstorage, -⟩ := access_quiet hquiet haccess
    refine ⟨⟨hfor, ?_⟩, Or.inl hstorage⟩
    intro hopened
    rcases FillState.opened_step hstep hopened with hbefore | rfl
    · have hsame : stream' = stream := by
        rcases FillState.opened_quiet hbefore hstep with
          ⟨size, block, rfl⟩ | ⟨peer, packet, ok, rfl⟩
        · exact (Prod.mk.inj (Option.some.inj haccess)).2.symm
        · exact (Prod.mk.inj (Option.some.inj haccess)).2.symm
      rw [hsame, hstorage]
      exact h.opened hbefore
    · rw [h.receiver, if_pos rfl] at hquiet
      cases hquiet
  · exact ⟨⟨hfor, fun _ => collect_create haccess⟩, Or.inr ⟨hpoint, rfl⟩⟩

theorem Delivers.fill {s s' : FillState} (h : Delivers (resolve path) storage content stream)
    (hfills : FillsCollect b path (resolve path) storage stream s)
    (hstep : tftpFillTransferData host s e = some s')
    (haccess : accessFiles resolve storage stream e = some (storage', stream')) :
    Delivers (resolve path) storage' content stream' := by
  rcases hfills.quiet_or_creates hstep with hquiet | ⟨-, rfl⟩
  · exact h.quiet hquiet haccess
  · exact Or.inr ⟨[], collect_create haccess, List.nil_prefix⟩

/-- A call of `tftp_receive_file` is a step of the receiver of that file. -/
theorem receiver_of_access {s s' : ReceiveState b} {written : List UInt8}
    (h : Collect name storage stream written) (hstep : tftpReceiveFile host s e = some s')
    (haccess : accessFiles resolve storage stream e = some (storage', stream')) :
    Collect name storage' stream' (fileContents written e) ∧
      Receiver.step host { state := s, written := written } e =
        some { state := s', written := fileContents written e } := by
  have hreceiver : Receiver.step host { state := s, written := written } e =
      some { state := s', written := fileContents written e } := by
    simp [Receiver.step, hstep]
  refine ⟨?_, hreceiver⟩
  obtain ⟨f, rfl, hopen, hmode, hposition, hentry, hcontents⟩ := h
  cases e with
  | fwrite bytes count kept =>
      obtain ⟨g, g', hg, rfl, -, -, hhanded, hopen', -⟩ := access_write haccess
      obtain rfl := Option.some.inj hg
      obtain ⟨hcontents', hposition'⟩ := hhanded.contents_end hposition
      rw [← hhanded.number] at hcontents' hposition'
      refine ⟨g', rfl, hopen', hhanded.mode.trans hmode, hposition', ?_, ?_⟩
      · rw [hhanded.entry, hhanded.number]
        exact hentry
      · rw [hcontents', hhanded.number, hcontents]
        rfl
  | poll set =>
      obtain ⟨rfl, rfl⟩ := Prod.mk.inj (Option.some.inj haccess)
      exact ⟨f, rfl, hopen, hmode, hposition, hentry, hcontents⟩
  | sendto peer packet ok =>
      obtain ⟨rfl, rfl⟩ := Prod.mk.inj (Option.some.inj haccess)
      exact ⟨f, rfl, hopen, hmode, hposition, hentry, hcontents⟩
  | recvfrom size result =>
      obtain ⟨rfl, rfl⟩ := Prod.mk.inj (Option.some.inj haccess)
      exact ⟨f, rfl, hopen, hmode, hposition, hentry, hcontents⟩
  | _ => cases hpoint : s.point <;> simp [tftpReceiveFile, hpoint] at hstep

/-- A call of `tftp_receive_file` on packets of the sender and such as are neither DATA nor
ERROR packets: the ACK of a full block takes the receiver to the next, that of the last block
to its return, and any other call leaves it at its block. -/
theorem CollectsAt.step {s s' : ReceiveState b} {j : Nat}
    (h : CollectsAt name storage content stream j s) (hstep : tftpReceiveFile host s e = some s')
    (haccess : accessFiles resolve storage stream e = some (storage', stream'))
    (hexpected : ∀ size source bytes, e = .recvfrom size (.datagram source bytes) →
      Receiver.Expected b content j bytes ∨ Receiver.Foreign bytes) (hwrites : WritesAll e) :
    (s.point ≠ .acknowledging ∧ CollectsAt name storage' content stream' j s' ∨
      s.point = .acknowledging ∧ j < chunkCount b.val content ∧
        (s'.point = .nextBlock ∧ (chunk b.val content j).length = b.val ∨
          s'.point = .returned .success) ∧
        CollectsAt name storage' content stream' (j + 1) s') ∧
      ∀ packet ∈ launched e,
        s.point = .acknowledging ∧ packet = ackPacket (UInt16.ofNat (j + 1)) ∨
          ∃ reply, packet = errorPacket reply := by
  obtain ⟨written, hcollect, hat⟩ := h
  obtain ⟨hcollect', hreceiver⟩ := receiver_of_access hcollect hstep haccess
  refine ⟨?_, ?_⟩
  · by_cases hpoint : s.point = .acknowledging
    · obtain ⟨hj, hnext, -⟩ := Receiver.step_acknowledges hat hpoint hreceiver
      obtain ⟨ok, -, rfl⟩ := receive_acknowledging hpoint hstep
      refine Or.inr ⟨hpoint, hj, ?_, _, hcollect', hnext⟩
      rcases (Receiver.at_onAcknowledged hpoint hat).2 with ⟨hfull, hp⟩ | ⟨-, hp⟩
      · exact Or.inl ⟨hp, hfull⟩
      · exact Or.inr hp
    · refine Or.inl ⟨hpoint, _, hcollect', ?_⟩
      by_cases hforeign : ∃ size source bytes,
          e = .recvfrom size (.datagram source bytes) ∧ Receiver.Foreign bytes
      · obtain ⟨size, source, bytes, rfl, hother⟩ := hforeign
        exact Receiver.step_foreign hat hother hreceiver
      · refine Receiver.step_keeps hat hpoint ?_ ?_ hreceiver
        · intro size source bytes he
          refine (hexpected size source bytes he).resolve_right ?_
          exact fun hother => hforeign ⟨size, source, bytes, he, hother⟩
        · rintro bytes count kept rfl
          exact hwrites
  · intro packet hmem
    obtain ⟨peer, rfl⟩ := mem_launched hmem
    obtain ⟨-, ⟨hpoint, rfl⟩ | ⟨reply, -, rfl⟩⟩ := receive_sendto hstep
    · simp only [Receiver.At, hpoint] at hat
      exact Or.inl ⟨hpoint, by rw [hat.2.2.1]⟩
    · exact Or.inr ⟨reply, rfl⟩

end Collect

end Stftpu
