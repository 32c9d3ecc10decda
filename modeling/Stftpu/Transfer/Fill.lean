import Stftpu.Transfer.Receive

/-!
# `tftp_fill_transfer_data`

What a transfer needs before its first packet: the existence check of a receiver,
the file, the block size and the two packet buffers.
-/

namespace Stftpu

open Library

/-- `sizeof (TransferData_t)`. -/
def sizeofTransferData : Nat := 72

inductive FillPoint
  /-- `fopen (path, "rb")`, the receiver's existence check. -/
  | probing
  /-- `stat` of the file that is in the way. -/
  | describing
  /-- `fopen` of the file to be written or read. -/
  | opening
  /-- `malloc` of the data packet buffer. -/
  | allocatingData (b : BlockSize)
  /-- `malloc` of the response packet buffer. -/
  | allocatingResponse (b : BlockSize) (data : Option (Buffer (dataPacketMaxSize b)))
  /-- `sendto` of an ERROR packet, the function about to return `false`. -/
  | failing (reply : ErrorReply)
  /-- Returned `true`. -/
  | ready (b : BlockSize) (tx : TransferData b)
  /-- Returned `false`. -/
  | failed
  deriving DecidableEq, Repr

/-- `tftp_fill_transfer_data` between two system calls.  `fileOpen` is
`transfer_data->file != NULL`, and `allocated` is `transfer_data != NULL`. -/
structure FillState where
  point : FillPoint
  op : OperationData
  receiver : Bool
  allocated : Bool
  fileOpen : Bool
  deriving DecidableEq, Repr

namespace FillState

/-- `tftp_send_error (..)` followed by `return false`. -/
def fail (s : FillState) (reply : ErrorReply) : FillState :=
  if forwardsErrors s.op.peerAddress then
    { s with point := .failing reply }
  else
    { s with point := .failed }

/-- The call of `tftp_fill_transfer_data`. -/
def start (op : OperationData) (allocated receiver : Bool) : FillState :=
  let s : FillState :=
    { point := if receiver then .probing else .opening
      op := op
      receiver := receiver
      allocated := allocated
      fileOpen := false }
  if allocated then
    s
  else
    s.fail
      { code := TFTPErrorCode.undefined.code
        message := ascii "Internal server error"
        item := none }

/-- The check of the block size behind `fopen`. -/
def checkBlockSize (s : FillState) : FillState :=
  if s.op.blockSize = 0 then
    { s with
      op := { s.op with blockSize := UInt16.ofNat tftpBlksizeDefault }
      point := .allocatingData ⟨tftpBlksizeDefault, by decide, by decide⟩ }
  else if h : tftpBlksizeMin ≤ s.op.blockSize.toNat ∧ s.op.blockSize.toNat ≤ tftpBlksizeMax then
    { s with point := .allocatingData ⟨s.op.blockSize.toNat, h.1, h.2⟩ }
  else
    s.fail
      { code := TFTPErrorCode.illegalOperation.code
        message := ascii "Invalid block size specified"
        item := none }

/-- The counters of a cleared `TransferData_t` and the two buffers, whose bytes are
whatever `malloc` left there. -/
def cleared {b : BlockSize} (data : Buffer (dataPacketMaxSize b))
    (response : Buffer responsePacketMaxSize) : TransferData b :=
  { resendCounter := 0
    currentBlockNumber := 0
    bytesReceived := 0
    bytesSent := 0
    latestFileBytesRead := 0
    totalFileBytesTransmitted := 0
    responsePacket := response
    dataPacket := data }

/-- What follows the two allocations. -/
def onAllocated (host : Host) (s : FillState) (b : BlockSize)
    (data : Option (Buffer (dataPacketMaxSize b)))
    (response : Option (Buffer responsePacketMaxSize)) : FillState :=
  match data, response with
  | some data, some response => { s with point := .ready b (cleared data response) }
  | _, _ =>
      s.fail
        { code := TFTPErrorCode.outOfSpace.code
          message := ascii "Failed to allocate packet buffers: "
          item := some (host.strerror .ENOMEM) }

end FillState

/-- The block returned by `malloc (n)`, when it has that size. -/
def allocation (n : Nat) : Option (List UInt8) → Option (Option (Buffer n))
  | none => some none
  | some block => if h : block.length = n then some (some ⟨block, h⟩) else none

theorem allocation_some {n : Nat} {block : List UInt8} {buffer : Option (Buffer n)}
    (h : allocation n (some block) = some buffer) : ∃ full, buffer = some full := by
  obtain ⟨hlen, hbuffer⟩ := Option.dite_none_right_eq_some.mp h
  exact ⟨⟨block, hlen⟩, (Option.some.inj hbuffer).symm⟩

/-- The message of a refused receive. -/
def fileExistsMessage : List UInt8 :=
  ascii "File already exists! To overwrite, request deletion then try again. Creation date: "

/-- One system call of `tftp_fill_transfer_data`.  The refusal of a receive passes
the data socket where `tftp_send_error` takes the error code. -/
def tftpFillTransferData (host : Host) (s : FillState) (e : Event) : Option FillState :=
  match s.point, e with
  | .probing, .fopen path mode error =>
      if path = s.op.path ∧ mode = .read then
        match error with
        | none => some { s with fileOpen := true, point := .describing }
        | some _ => some { s with point := .opening }
      else
        none
  | .describing, .stat path timestamp =>
      if path = s.op.path then
        some (s.fail
          { code := s.op.dataSocket, message := fileExistsMessage, item := some timestamp })
      else
        none
  | .opening, .fopen path mode error =>
      if path = s.op.path ∧ mode = (if s.receiver then .write else .read) then
        match error with
        | none => some { s with fileOpen := true }.checkBlockSize
        | some errno =>
            some (s.fail
              { code := TFTPErrorCode.undefined.code
                message := ascii "Failed to acquire file descriptor, details: "
                item := some (host.strerror errno) })
      else
        none
  | .allocatingData b, .malloc size block =>
      if size = dataPacketMaxSize b then
        (allocation (dataPacketMaxSize b) block).map fun data =>
          { s with point := .allocatingResponse b data }
      else
        none
  | .allocatingResponse b data, .malloc size block =>
      if size = responsePacketMaxSize then
        (allocation responsePacketMaxSize block).map fun response =>
          s.onAllocated host b data response
      else
        none
  | .failing reply, .sendto peer packet _ =>
      if peer = s.op.peerAddress ∧ packet = errorPacket reply then
        some { s with point := .failed }
      else
        none
  | _, _ => none

/-- The function sends nothing but ERROR packets. -/
theorem fill_sent {host : Host} {s s' : FillState} {peer : SockAddr} {packet : List UInt8}
    {ok : Bool} (h : tftpFillTransferData host s (.sendto peer packet ok) = some s') :
    opcodeOf packet = TFTPOpcode.error.code := by
  cases hpoint : s.point with
  | failing reply =>
      simp only [tftpFillTransferData, hpoint] at h
      split at h
      · rename_i hargs
        rw [hargs.2, opcodeOf_errorPacket]
        rfl
      · cases h
  | _ => simp [tftpFillTransferData, hpoint] at h

/-! ### What a step does at each control point -/

section Steps

variable {host : Host} {s s' : FillState} {e : Event}

theorem fill_probing (hpoint : s.point = .probing)
    (h : tftpFillTransferData host s e = some s') :
    ∃ error, e = .fopen s.op.path .read error ∧
      (error = none ∧ s' = { s with fileOpen := true, point := .describing } ∨
        (∃ errno, error = some errno) ∧ s' = { s with point := .opening }) := by
  unfold tftpFillTransferData at h
  rw [hpoint] at h
  cases e with
  | fopen path mode error =>
      obtain ⟨⟨rfl, rfl⟩, hnext⟩ := Option.ite_none_right_eq_some.mp h
      refine ⟨error, rfl, ?_⟩
      cases error with
      | none => exact Or.inl ⟨rfl, (Option.some.inj hnext).symm⟩
      | some errno => exact Or.inr ⟨⟨errno, rfl⟩, (Option.some.inj hnext).symm⟩
  | _ => cases h

theorem fill_describing (hpoint : s.point = .describing)
    (h : tftpFillTransferData host s e = some s') :
    ∃ timestamp, e = .stat s.op.path timestamp ∧
      s' = s.fail
        { code := s.op.dataSocket, message := fileExistsMessage, item := some timestamp } := by
  unfold tftpFillTransferData at h
  rw [hpoint] at h
  cases e with
  | stat path timestamp =>
      obtain ⟨hpath, hnext⟩ := Option.ite_none_right_eq_some.mp h
      exact ⟨timestamp, by rw [hpath], (Option.some.inj hnext).symm⟩
  | _ => cases h

theorem fill_opening (hpoint : s.point = .opening)
    (h : tftpFillTransferData host s e = some s') :
    ∃ error, e = .fopen s.op.path (if s.receiver then .write else .read) error ∧
      (error = none ∧ s' = { s with fileOpen := true }.checkBlockSize ∨
        ∃ errno, error = some errno ∧
          s' = s.fail
            { code := TFTPErrorCode.undefined.code
              message := ascii "Failed to acquire file descriptor, details: "
              item := some (host.strerror errno) }) := by
  unfold tftpFillTransferData at h
  rw [hpoint] at h
  cases e with
  | fopen path mode error =>
      obtain ⟨⟨rfl, rfl⟩, hnext⟩ := Option.ite_none_right_eq_some.mp h
      refine ⟨error, rfl, ?_⟩
      cases error with
      | none => exact Or.inl ⟨rfl, (Option.some.inj hnext).symm⟩
      | some errno => exact Or.inr ⟨errno, rfl, (Option.some.inj hnext).symm⟩
  | _ => cases h

theorem fill_allocatingData {b : BlockSize} (hpoint : s.point = .allocatingData b)
    (h : tftpFillTransferData host s e = some s') :
    ∃ block data, e = .malloc (dataPacketMaxSize b) block ∧
      allocation (dataPacketMaxSize b) block = some data ∧
        s' = { s with point := .allocatingResponse b data } := by
  unfold tftpFillTransferData at h
  rw [hpoint] at h
  cases e with
  | malloc size block =>
      obtain ⟨hsize, hnext⟩ := Option.ite_none_right_eq_some.mp h
      obtain ⟨data, hdata, hs'⟩ := Option.map_eq_some_iff.mp hnext
      exact ⟨block, data, by rw [hsize], hdata, hs'.symm⟩
  | _ => cases h

theorem fill_allocatingResponse {b : BlockSize} {data : Option (Buffer (dataPacketMaxSize b))}
    (hpoint : s.point = .allocatingResponse b data)
    (h : tftpFillTransferData host s e = some s') :
    ∃ block response, e = .malloc responsePacketMaxSize block ∧
      allocation responsePacketMaxSize block = some response ∧
        s' = s.onAllocated host b data response := by
  unfold tftpFillTransferData at h
  rw [hpoint] at h
  cases e with
  | malloc size block =>
      obtain ⟨hsize, hnext⟩ := Option.ite_none_right_eq_some.mp h
      obtain ⟨response, hresponse, hs'⟩ := Option.map_eq_some_iff.mp hnext
      exact ⟨block, response, by rw [hsize], hresponse, hs'.symm⟩
  | _ => cases h

theorem fill_failing {reply : ErrorReply} (hpoint : s.point = .failing reply)
    (h : tftpFillTransferData host s e = some s') :
    ∃ ok, e = .sendto s.op.peerAddress (errorPacket reply) ok ∧
      s' = { s with point := .failed } := by
  unfold tftpFillTransferData at h
  rw [hpoint] at h
  cases e with
  | sendto peer packet ok =>
      obtain ⟨⟨rfl, rfl⟩, hnext⟩ := Option.ite_none_right_eq_some.mp h
      exact ⟨ok, rfl, (Option.some.inj hnext).symm⟩
  | _ => cases h

theorem fill_ready {b : BlockSize} {tx : TransferData b} (hpoint : s.point = .ready b tx) :
    tftpFillTransferData host s e = none := by
  unfold tftpFillTransferData
  rw [hpoint]

theorem fill_failed (hpoint : s.point = .failed) : tftpFillTransferData host s e = none := by
  unfold tftpFillTransferData
  rw [hpoint]

theorem fill_remove {path : List UInt8} {error : Option Errno} :
    tftpFillTransferData host s (.remove path error) = none := by
  cases hpoint : s.point <;> simp [tftpFillTransferData, hpoint]

end Steps

/-! ### Where the computation between two calls can lead -/

namespace FillState

variable {host : Host} {s s' : FillState} {e : Event}

theorem fail_point (reply : ErrorReply) :
    (s.fail reply).point = .failing reply ∨ (s.fail reply).point = .failed := by
  unfold fail
  split
  · exact Or.inl rfl
  · exact Or.inr rfl

@[simp] theorem fail_op (reply : ErrorReply) : (s.fail reply).op = s.op := by
  unfold fail
  split <;> rfl

@[simp] theorem fail_receiver (reply : ErrorReply) : (s.fail reply).receiver = s.receiver := by
  unfold fail
  split <;> rfl

/-- The file to be transferred has been opened, or could not be. -/
def Created (s : FillState) : Prop :=
  match s.point with
  | .probing => False
  | .describing => False
  | .opening => False
  | _ => True

/-- The file to be transferred is open, and nothing has failed. -/
def Opened (s : FillState) : Prop :=
  match s.point with
  | .allocatingData _ => True
  | .allocatingResponse _ _ => True
  | .ready _ _ => True
  | _ => False

theorem created_of_opened (h : s.Opened) : s.Created := by
  cases hpoint : s.point <;> simp [Opened, Created, hpoint] at h ⊢

theorem not_opened_fail (reply : ErrorReply) : ¬ (s.fail reply).Opened := by
  rcases s.fail_point reply with h | h
  · simp [Opened, h]
  · simp [Opened, h]

theorem not_opened_start (op : OperationData) (allocated receiver : Bool) :
    ¬ (start op allocated receiver).Opened := by
  cases allocated with
  | true => cases receiver <;> exact id
  | false => exact not_opened_fail _

theorem fail_not_ready (reply : ErrorReply) {b : BlockSize} {tx : TransferData b} :
    (s.fail reply).point ≠ .ready b tx := by
  rcases s.fail_point reply with h | h <;> simp [h]

theorem created_fail (reply : ErrorReply) : (s.fail reply).Created := by
  rcases s.fail_point reply with h | h
  · simp [Created, h]
  · simp [Created, h]

/-- The check of the block size leads to the first allocation or to an ERROR packet. -/
theorem checkBlockSize_cases :
    (∃ b, s.checkBlockSize.point = .allocatingData b) ∨
      ∃ reply, s.checkBlockSize = s.fail reply := by
  unfold checkBlockSize
  split
  · exact Or.inl ⟨_, rfl⟩
  · split
    · exact Or.inl ⟨_, rfl⟩
    · exact Or.inr ⟨_, rfl⟩

theorem checkBlockSize_keeps :
    s.checkBlockSize.op.path = s.op.path ∧ s.checkBlockSize.receiver = s.receiver := by
  unfold checkBlockSize
  split
  · exact ⟨rfl, rfl⟩
  · split
    · exact ⟨rfl, rfl⟩
    · simp

theorem created_checkBlockSize : s.checkBlockSize.Created := by
  rcases s.checkBlockSize_cases with ⟨b, h⟩ | ⟨reply, h⟩
  · simp [Created, h]
  · rw [h]
    exact created_fail reply

theorem onAllocated_cases {b : BlockSize} (host : Host)
    (data : Option (Buffer (dataPacketMaxSize b)))
    (response : Option (Buffer responsePacketMaxSize)) :
    (∃ data' response', s.onAllocated host b data response =
        { s with point := .ready b (cleared data' response') }) ∨
      ∃ reply, s.onAllocated host b data response = s.fail reply := by
  unfold onAllocated
  split
  · exact Or.inl ⟨_, _, rfl⟩
  · exact Or.inr ⟨_, rfl⟩

/-- The function keeps the path it was given. -/
theorem step_keeps (h : tftpFillTransferData host s e = some s') :
    s'.op.path = s.op.path ∧ s'.receiver = s.receiver := by
  cases hpoint : s.point with
  | probing =>
      obtain ⟨error, -, ⟨-, rfl⟩ | ⟨-, rfl⟩⟩ := fill_probing hpoint h
      · exact ⟨rfl, rfl⟩
      · exact ⟨rfl, rfl⟩
  | describing =>
      obtain ⟨timestamp, -, rfl⟩ := fill_describing hpoint h
      simp
  | opening =>
      obtain ⟨error, -, ⟨-, rfl⟩ | ⟨errno, -, rfl⟩⟩ := fill_opening hpoint h
      · exact checkBlockSize_keeps
      · simp
  | allocatingData b =>
      obtain ⟨block, data, -, -, rfl⟩ := fill_allocatingData hpoint h
      exact ⟨rfl, rfl⟩
  | allocatingResponse b data =>
      obtain ⟨block, response, -, -, rfl⟩ := fill_allocatingResponse hpoint h
      rcases s.onAllocated_cases host data response with
        ⟨data', response', heq⟩ | ⟨reply, heq⟩
      · rw [heq]
        exact ⟨rfl, rfl⟩
      · rw [heq]
        simp
  | failing reply =>
      obtain ⟨ok, -, rfl⟩ := fill_failing hpoint h
      exact ⟨rfl, rfl⟩
  | ready b tx =>
      rw [fill_ready hpoint] at h
      cases h
  | failed =>
      rw [fill_failed hpoint] at h
      cases h

/-- Behind the opening of the file, the function allocates and sends, and nothing else. -/
theorem created_step (hcreated : s.Created) (h : tftpFillTransferData host s e = some s') :
    s'.Created ∧ ((∃ size block, e = .malloc size block) ∨
      ∃ peer packet ok, e = .sendto peer packet ok) := by
  cases hpoint : s.point with
  | probing => simp [Created, hpoint] at hcreated
  | describing => simp [Created, hpoint] at hcreated
  | opening => simp [Created, hpoint] at hcreated
  | allocatingData b =>
      obtain ⟨block, data, rfl, -, rfl⟩ := fill_allocatingData hpoint h
      exact ⟨trivial, Or.inl ⟨_, _, rfl⟩⟩
  | allocatingResponse b data =>
      obtain ⟨block, response, rfl, -, rfl⟩ := fill_allocatingResponse hpoint h
      refine ⟨?_, Or.inl ⟨_, _, rfl⟩⟩
      rcases s.onAllocated_cases host data response with
        ⟨data', response', heq⟩ | ⟨reply, heq⟩
      · rw [heq]
        trivial
      · rw [heq]
        exact created_fail reply
  | failing reply =>
      obtain ⟨ok, rfl, rfl⟩ := fill_failing hpoint h
      exact ⟨trivial, Or.inr ⟨_, _, _, rfl⟩⟩
  | ready b tx =>
      rw [fill_ready hpoint] at h
      cases h
  | failed =>
      rw [fill_failed hpoint] at h
      cases h

/-- What the function hands over is cleared. -/
theorem ready_step {b : BlockSize} {tx : TransferData b}
    (h : tftpFillTransferData host s e = some s') (hready : s'.point = .ready b tx) :
    ∃ data response, tx = cleared data response := by
  cases hpoint : s.point with
  | probing =>
      obtain ⟨error, -, ⟨-, rfl⟩ | ⟨-, rfl⟩⟩ := fill_probing hpoint h
      · cases hready
      · cases hready
  | describing =>
      obtain ⟨timestamp, -, rfl⟩ := fill_describing hpoint h
      exact absurd hready (fail_not_ready _)
  | opening =>
      obtain ⟨error, -, ⟨-, rfl⟩ | ⟨errno, -, rfl⟩⟩ := fill_opening hpoint h
      · rcases checkBlockSize_cases (s := { s with fileOpen := true }) with ⟨b', hb⟩ | ⟨reply, hb⟩
        · rw [hb] at hready
          cases hready
        · rw [hb] at hready
          exact absurd hready (fail_not_ready reply)
      · exact absurd hready (fail_not_ready _)
  | allocatingData b' =>
      obtain ⟨block, data, -, -, rfl⟩ := fill_allocatingData hpoint h
      cases hready
  | allocatingResponse b' data =>
      obtain ⟨block, response, -, -, rfl⟩ := fill_allocatingResponse hpoint h
      rcases s.onAllocated_cases host data response with
        ⟨data', response', heq⟩ | ⟨reply, heq⟩
      · rw [heq] at hready
        cases hready
        exact ⟨data', response', rfl⟩
      · rw [heq] at hready
        exact absurd hready (fail_not_ready reply)
  | failing reply =>
      obtain ⟨ok, -, rfl⟩ := fill_failing hpoint h
      cases hready
  | ready b' tx' =>
      rw [fill_ready hpoint] at h
      cases h
  | failed =>
      rw [fill_failed hpoint] at h
      cases h

/-- Only the opening of the file leads to an open file. -/
theorem opened_step (h : tftpFillTransferData host s e = some s') (hopened : s'.Opened) :
    s.Opened ∨ e = .fopen s.op.path (if s.receiver then .write else .read) none := by
  cases hpoint : s.point with
  | probing =>
      obtain ⟨error, -, ⟨-, rfl⟩ | ⟨-, rfl⟩⟩ := fill_probing hpoint h
      · exact hopened.elim
      · exact hopened.elim
  | describing =>
      obtain ⟨timestamp, -, rfl⟩ := fill_describing hpoint h
      exact absurd hopened (not_opened_fail _)
  | opening =>
      obtain ⟨error, rfl, ⟨rfl, -⟩ | ⟨errno, -, rfl⟩⟩ := fill_opening hpoint h
      · exact Or.inr rfl
      · exact absurd hopened (not_opened_fail _)
  | allocatingData b => exact Or.inl (by simp [Opened, hpoint])
  | allocatingResponse b data => exact Or.inl (by simp [Opened, hpoint])
  | failing reply =>
      obtain ⟨ok, -, rfl⟩ := fill_failing hpoint h
      exact hopened.elim
  | ready b tx =>
      rw [fill_ready hpoint] at h
      cases h
  | failed =>
      rw [fill_failed hpoint] at h
      cases h

end FillState

/-- A transfer with clean buffers, for runs on fixed inputs. -/
def sampleTransfer : TransferData sampleBlockSize :=
  FillState.cleared (Buffer.zero _) (Buffer.zero _)

end Stftpu
