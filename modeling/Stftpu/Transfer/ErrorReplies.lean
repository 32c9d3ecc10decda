import Stftpu.Transfer.Fill

/-!
# The replies of the transfers

The functions hand `errorPacket` to `sendto`; here the packet is built as `tftp_send_error`
builds it, and every call of a transfer is checked against the header and the text a peer may
expect.

* `tftpSendError` — the packet, put together in the block allocated for it.
* `SentConforms` — a packet with a code of `TFTPErrorCode_t` and the text it was meant to have.
* `ErrorReply.Standard`, `ErrorReply.Existing` — what the calls pass, the one of
  `tftp_fill_transfer_data` for a file that exists apart from the others.
-/

namespace Stftpu

open Library

/-! ## The packet -/

/-- `error_message_len`. -/
def errorMessageLen : Option CharPtr → Option CharPtr → Option Nat
  | none, _ => some 0
  | some message, none => strlen message
  | some message, some item => do
      let messageLen ← strlen message
      let itemLen ← strlen item
      some (messageLen + itemLen)

/-- `tftp_send_error`, behind its look at the peer's port: the packet handed to `sendto`.
Behind the header the block has `error_message_len + 2` bytes; `none` is a write behind
them. -/
def tftpSendError (errorCode : Int) (message item : Option CharPtr) : Option (List UInt8) := do
  let len ← errorMessageLen message item
  let cleared := List.replicate (len + 2) 0
  let text ← match message with
    | none => some cleared
    | some message => strcpy cleared message
  let text ← match item with
    | none => some text
    | some item => strcat text item
  some (wire16 TFTPOpcode.error.code ++ wire16 (UInt16.ofNat (errorCode % 65536).toNat) ++ text)

/-- The error code field of a packet, in network order. -/
def errorCodeOf (packet : List UInt8) : UInt16 :=
  be16 (packet.getD 2 0) (packet.getD 3 0)

/-- The bytes are those of a string. -/
def IsText (bytes : List UInt8) : Prop :=
  ∀ c ∈ bytes, c ≠ 0

instance (bytes : List UInt8) : Decidable (IsText bytes) :=
  List.decidableBAll (fun c => c ≠ 0) bytes

/-- The strings a reply is made of. -/
structure ErrorReply.Texts (reply : ErrorReply) : Prop where
  message : IsText reply.message
  item : ∀ item ∈ reply.item, IsText item

/-- The packet sent for a reply fits in its block, is an ERROR packet with one of the codes of
`TFTPErrorCode_t`, and carries message and item as one terminated string; and the refusal of a
file that exists has the code for that. -/
structure SentConforms (reply : ErrorReply) (packet : List UInt8) : Prop where
  built : tftpSendError reply.code (some (reply.message ++ [0]))
    (reply.item.map fun item => item ++ [0]) = some packet
  opcode : opcodeOf packet = TFTPOpcode.error.code
  code : ∃ code : TFTPErrorCode, (errorCodeOf packet).toNat = code.code
  text : cstr (packet.drop sizeofPacket) = some (reply.message ++ reply.item.getD [])
  existing : reply.message = fileExistsMessage →
    (errorCodeOf packet).toNat = TFTPErrorCode.fileExists.code

section Packet

variable {reply : ErrorReply} {fd : Int}

/-- The packet the functions send is the one `tftp_send_error` builds. -/
theorem tftpSendError_eq (h : reply.Texts) :
    tftpSendError reply.code (some (reply.message ++ [0]))
      (reply.item.map fun item => item ++ [0]) = some (errorPacket reply) := by
  have hmessage : cstr (reply.message ++ [0]) = some reply.message :=
    cstr_terminated h.message []
  cases hitem : reply.item with
  | none =>
      have hcopy : strcpy (List.replicate (reply.message.length + 2) 0) (reply.message ++ [0]) =
          some (reply.message ++ [0, 0]) := by
        rw [strcpy_zeros hmessage (by omega)]
        simp [List.replicate]
      simp [tftpSendError, errorMessageLen, strlen_of_cstr hmessage, hcopy, errorPacket, hitem]
  | some item =>
      have htext : cstr (item ++ [0]) = some item := cstr_terminated (h.item item hitem) []
      have hcopy : strcpy (List.replicate (reply.message.length + item.length + 2) 0)
          (reply.message ++ [0]) =
            some (reply.message ++ List.replicate (item.length + 2) 0) := by
        rw [strcpy_zeros hmessage (by omega)]
        congr 3
        omega
      have happend : strcat (reply.message ++ List.replicate (item.length + 2) 0) (item ++ [0]) =
          some (reply.message ++ item ++ [0, 0]) := by
        rw [strcat_padded h.message htext (by omega)]
        simp [List.replicate]
      simp [tftpSendError, errorMessageLen, strlen_of_cstr hmessage, strlen_of_cstr htext, hcopy,
        happend, errorPacket, hitem]

theorem errorCodeOf_errorPacket (reply : ErrorReply) :
    ((errorCodeOf (errorPacket reply)).toNat : Int) = reply.code % 65536 := by
  have hcode : errorCodeOf (errorPacket reply) = UInt16.ofNat (reply.code % 65536).toNat := by
    simp [errorCodeOf, errorPacket, wire16]
  rw [hcode, UInt16.toNat_ofNat']
  omega

theorem ErrorReply.Texts.text (h : reply.Texts) :
    IsText (reply.message ++ reply.item.getD []) := by
  intro c hc
  rcases List.mem_append.mp hc with hmem | hmem
  · exact h.message c hmem
  · cases hitem : reply.item with
    | none => simp [hitem] at hmem
    | some item => exact h.item item hitem c (by simpa [hitem] using hmem)

theorem errorPacket_drop (reply : ErrorReply) :
    (errorPacket reply).drop sizeofPacket =
      (reply.message ++ reply.item.getD []) ++ 0 :: [0] := by
  simp [errorPacket, wire16, sizeofPacket]

theorem cstr_errorPacket (h : reply.Texts) :
    cstr ((errorPacket reply).drop sizeofPacket) =
      some (reply.message ++ reply.item.getD []) := by
  rw [errorPacket_drop]
  exact cstr_terminated h.text [0]

/-- It conforms if its code does. -/
theorem sentConforms_iff (h : reply.Texts) :
    SentConforms reply (errorPacket reply) ↔
      (∃ code : TFTPErrorCode, reply.code % 65536 = code.code) ∧
        (reply.message = fileExistsMessage →
          reply.code % 65536 = TFTPErrorCode.fileExists.code) := by
  have hcode := errorCodeOf_errorPacket reply
  constructor
  · intro hconforms
    obtain ⟨code, heq⟩ := hconforms.code
    exact ⟨⟨code, by rw [← hcode, heq]⟩, fun hmessage => by
      rw [← hcode, hconforms.existing hmessage]⟩
  · rintro ⟨⟨code, heq⟩, hexisting⟩
    exact
      { built := tftpSendError_eq h
        opcode := opcodeOf_errorPacket reply
        code := ⟨code, by rw [hcode, heq]⟩
        text := cstr_errorPacket h
        existing := fun hmessage => by rw [hcode, hexisting hmessage] }

/-! ### What the calls pass -/

/-- A reply with a code of its own. -/
structure ErrorReply.Standard (reply : ErrorReply) : Prop extends reply.Texts where
  code : ∃ code : TFTPErrorCode, reply.code = code.code
  other : reply.message ≠ fileExistsMessage

/-- The reply to a write of a file that exists, with the data socket as its code. -/
structure ErrorReply.Existing (fd : Int) (reply : ErrorReply) : Prop extends reply.Texts where
  code : reply.code = fd
  refusal : reply.message = fileExistsMessage

theorem ErrorReply.Standard.conforms (h : reply.Standard) :
    SentConforms reply (errorPacket reply) := by
  obtain ⟨code, hcode⟩ := h.code
  refine (sentConforms_iff h.toTexts).mpr ⟨⟨code, ?_⟩, fun hmessage => absurd hmessage h.other⟩
  rw [hcode]
  cases code <;> rfl

theorem ErrorReply.Existing.conforms_iff (h : reply.Existing fd) :
    SentConforms reply (errorPacket reply) ↔ fd % 65536 = TFTPErrorCode.fileExists.code := by
  rw [sentConforms_iff h.toTexts, h.code]
  constructor
  · rintro ⟨-, hexisting⟩
    exact hexisting h.refusal
  · intro hfd
    exact ⟨⟨.fileExists, hfd⟩, fun _ => hfd⟩

/-- A reply of fixed texts. -/
theorem ErrorReply.Standard.of_message (code : TFTPErrorCode) {message : List UInt8}
    (hmessage : IsText message) (hother : message ≠ fileExistsMessage) :
    ErrorReply.Standard { code := code.code, message := message, item := none } where
  message := hmessage
  item := by simp
  code := ⟨code, rfl⟩
  other := hother

/-- A reply with an item behind a fixed text. -/
theorem ErrorReply.Standard.of_item (code : TFTPErrorCode) {message item : List UInt8}
    (hmessage : IsText message) (hother : message ≠ fileExistsMessage) (hitem : IsText item) :
    ErrorReply.Standard { code := code.code, message := message, item := some item } where
  message := hmessage
  item := by
    intro other hother
    obtain rfl := Option.some.inj hother
    exact hitem
  code := ⟨code, rfl⟩
  other := hother

theorem standard_terminationReply (host : Host) : (terminationReply host).Standard := by
  refine ErrorReply.Standard.of_message .undefined ?_ ?_
  · cases host.isServer <;> decide
  · cases host.isServer <;> decide

end Packet

/-! ## The functions -/

/-- `strerror` returns strings. -/
def Host.Texts (host : Host) : Prop :=
  ∀ errno, IsText (host.strerror errno)

/-- What `strftime` leaves is a string. -/
def Event.TimestampText : Event → Prop
  | .stat _ timestamp => IsText timestamp
  | _ => True

namespace FillState

variable {host : Host} {s s' : FillState} {e : Event}

/-- The reply about to be sent is one of those the function has. -/
def Replies (s : FillState) : Prop :=
  ∀ reply, s.point = .failing reply → reply.Standard ∨ reply.Existing s.op.dataSocket

theorem replies_fail {reply : ErrorReply}
    (h : reply.Standard ∨ reply.Existing s.op.dataSocket) : (s.fail reply).Replies := by
  intro other hpoint
  rw [fail_op]
  rcases s.fail_point reply with hfailing | hfailed
  · obtain rfl := FillPoint.failing.inj (hfailing.symm.trans hpoint)
    exact h
  · cases hfailed.symm.trans hpoint

theorem replies_start (op : OperationData) (allocated receiver : Bool) :
    (start op allocated receiver).Replies := by
  cases allocated with
  | true =>
      intro reply hpoint
      cases receiver <;> cases hpoint
  | false => exact replies_fail (Or.inl (.of_message .undefined (by decide) (by decide)))

theorem replies_checkBlockSize : s.checkBlockSize.Replies := by
  unfold checkBlockSize
  split
  · intro reply hpoint
    cases hpoint
  · split
    · intro reply hpoint
      cases hpoint
    · exact replies_fail
        (Or.inl (.of_message .illegalOperation (by decide) (by decide)))

theorem replies_onAllocated (htexts : host.Texts) {b : BlockSize}
    (data : Option (Buffer (dataPacketMaxSize b)))
    (response : Option (Buffer responsePacketMaxSize)) :
    (s.onAllocated host b data response).Replies := by
  unfold onAllocated
  split
  · intro reply hpoint
    cases hpoint
  · exact replies_fail
      (Or.inl (.of_item .outOfSpace (by decide) (by decide) (htexts .ENOMEM)))

/-- Only the refusal of a file that exists passes the data socket. -/
theorem replies_step (htexts : host.Texts) (htime : e.TimestampText)
    (h : tftpFillTransferData host s e = some s') : s'.Replies := by
  cases hpoint : s.point with
  | probing =>
      obtain ⟨error, -, ⟨-, rfl⟩ | ⟨-, rfl⟩⟩ := fill_probing hpoint h
      · intro reply hfailing
        cases hfailing
      · intro reply hfailing
        cases hfailing
  | describing =>
      obtain ⟨timestamp, rfl, rfl⟩ := fill_describing hpoint h
      refine replies_fail (Or.inr ⟨⟨?_, ?_⟩, rfl, rfl⟩)
      · show IsText fileExistsMessage
        decide
      · intro item hitem
        obtain rfl := Option.some.inj hitem
        exact htime
  | opening =>
      obtain ⟨error, -, ⟨-, rfl⟩ | ⟨errno, -, rfl⟩⟩ := fill_opening hpoint h
      · exact replies_checkBlockSize
      · exact replies_fail (Or.inl (.of_item .undefined (by decide) (by decide) (htexts errno)))
  | allocatingData b =>
      obtain ⟨block, data, -, -, rfl⟩ := fill_allocatingData hpoint h
      intro reply hfailing
      cases hfailing
  | allocatingResponse b data =>
      obtain ⟨block, response, -, -, rfl⟩ := fill_allocatingResponse hpoint h
      exact replies_onAllocated htexts data response
  | failing reply =>
      obtain ⟨ok, -, rfl⟩ := fill_failing hpoint h
      intro other hfailing
      cases hfailing
  | ready b tx =>
      rw [fill_ready hpoint] at h
      cases h
  | failed =>
      rw [fill_failed hpoint] at h
      cases h

end FillState

namespace ReceiveState

variable {b : BlockSize} {host : Host} {s s' : ReceiveState b} {e : Event}

def Replies (s : ReceiveState b) : Prop :=
  ∀ reply, s.point = .failing reply → reply.Standard

theorem replies_fail {reply : ErrorReply} (h : reply.Standard) : (s.fail reply).Replies := by
  intro other hpoint
  rcases s.fail_point reply with hfailing | hreturned
  · obtain rfl := ReceivePoint.failing.inj (hfailing.symm.trans hpoint)
    exact h
  · cases hreturned.symm.trans hpoint

theorem replies_missed : s.missed.Replies := by
  unfold missed
  split
  · intro reply hpoint
    cases hpoint
  · exact replies_fail (.of_message .undefined (by decide) (by decide))

theorem replies_onPacket (h : s.Replies) (result : RecvResult) :
    (s.onPacket host result).Replies := by
  cases result with
  | failed errno => exact replies_missed
  | datagram source bytes =>
      simp only [onPacket]
      split
      · split
        · intro reply hpoint
          cases hpoint
        · split
          · intro reply hpoint
            simp only [accept] at hpoint
            split at hpoint <;> cases hpoint
          · exact h
      · exact replies_missed

theorem replies_step (h : s.Replies) (hstep : tftpReceiveFile host s e = some s') :
    s'.Replies := by
  cases hpoint : s.point with
  | entry =>
      obtain ⟨set, -, rfl⟩ := receive_entry hpoint hstep
      cases set with
      | true => exact replies_fail (standard_terminationReply host)
      | false =>
          intro reply hfailing
          cases hfailing
  | nextBlock =>
      obtain ⟨set, -, rfl⟩ := receive_nextBlock hpoint hstep
      cases set with
      | true => exact replies_fail (standard_terminationReply host)
      | false =>
          intro reply hfailing
          cases hfailing
  | awaiting =>
      obtain ⟨result, -, rfl⟩ := receive_awaiting hpoint hstep
      exact replies_onPacket h result
  | writing payload =>
      obtain ⟨count, kept, -, -, rfl⟩ := receive_writing hpoint hstep
      unfold onWritten
      split
      · exact replies_fail (.of_message .undefined (by decide) (by decide))
      · intro reply hfailing
        cases hfailing
  | acknowledging =>
      obtain ⟨ok, -, rfl⟩ := receive_acknowledging hpoint hstep
      intro reply hfailing
      unfold onAcknowledged outerTest at hfailing
      split at hfailing <;> cases hfailing
  | failing reply =>
      obtain ⟨ok, -, rfl⟩ := receive_failing hpoint hstep
      intro other hfailing
      cases hfailing
  | returned exit =>
      rw [receive_returned hpoint] at hstep
      cases hstep
  | fault =>
      rw [receive_fault hpoint] at hstep
      cases hstep

end ReceiveState

namespace TransmitState

variable {b : BlockSize} {host : Host} {s s' : TransmitState b} {e : Event}

def Replies (s : TransmitState b) : Prop :=
  ∀ reply, s.point = .failing reply → reply.Standard

theorem replies_fail {reply : ErrorReply} (h : reply.Standard) : (s.fail reply).Replies := by
  intro other hpoint
  rcases s.fail_point reply with hfailing | hreturned
  · obtain rfl := TransmitPoint.failing.inj (hfailing.symm.trans hpoint)
    exact h
  · cases hreturned.symm.trans hpoint

theorem replies_outerTest : s.outerTest.Replies := by
  unfold outerTest
  intro reply hpoint
  split at hpoint <;> cases hpoint

theorem replies_innerTest : s.innerTest.Replies := by
  unfold innerTest
  split
  · intro reply hpoint
    cases hpoint
  · exact replies_outerTest

theorem replies_retry : s.retry.Replies := by
  unfold retry
  split
  · exact replies_fail (.of_message .undefined (by decide) (by decide))
  · exact replies_innerTest

theorem replies_onResponse (result : RecvResult) : (s.onResponse host result).Replies := by
  cases result with
  | failed errno =>
      simp only [onResponse]
      split
      · exact replies_retry
      · exact replies_fail (.of_message .undefined (by decide) (by decide))
  | datagram source bytes =>
      simp only [onResponse]
      split
      · intro reply hpoint
        cases hpoint
      · split
        · exact replies_outerTest
        · exact replies_retry

theorem replies_step (hstep : tftpTransmitFile host s e = some s') : s'.Replies := by
  cases hpoint : s.point with
  | entry =>
      obtain ⟨set, -, rfl⟩ := transmit_entry hpoint hstep
      cases set with
      | true => exact replies_fail (standard_terminationReply host)
      | false => exact replies_outerTest
  | nextBlock =>
      obtain ⟨set, -, rfl⟩ := transmit_nextBlock hpoint hstep
      cases set with
      | true => exact replies_fail (standard_terminationReply host)
      | false =>
          intro reply hfailing
          cases hfailing
  | reading =>
      obtain ⟨bytes, eof, -, -, rfl⟩ := transmit_reading hpoint hstep
      unfold onRead
      split
      · exact replies_fail (.of_message .undefined (by decide) (by decide))
      · exact replies_innerTest
  | attempt =>
      obtain ⟨set, -, rfl⟩ := transmit_attempt hpoint hstep
      cases set with
      | true => exact replies_fail (standard_terminationReply host)
      | false =>
          intro reply hfailing
          cases hfailing
  | sending =>
      obtain ⟨ok, -, rfl⟩ := transmit_sending hpoint hstep
      unfold onSent
      split
      · intro reply hfailing
        cases hfailing
      · exact replies_fail (.of_message .undefined (by decide) (by decide))
  | awaiting =>
      obtain ⟨result, -, rfl⟩ := transmit_awaiting hpoint hstep
      exact replies_onResponse result
  | failing reply =>
      obtain ⟨ok, -, rfl⟩ := transmit_failing hpoint hstep
      intro other hfailing
      cases hfailing
  | returned exit =>
      rw [transmit_returned hpoint] at hstep
      cases hstep

end TransmitState

end Stftpu
