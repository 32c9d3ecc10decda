import Stftpu.Transfer.Fill

/-!
# `server_task_start`

A task of the server: one operation, from its first look at `should_terminate` to the
release of its slot.  A control point of a function it calls is a control point of its
own, and what such a function returned is carried along behind it, although the task
does not look at it again.
-/

namespace Stftpu

open Library

inductive DeletePoint
  /-- `sendto` of ACK 0. -/
  | acknowledging
  /-- `fopen (path, "r")`. -/
  | opening
  /-- `fclose` of the file found. -/
  | closing
  | removing
  /-- `sendto` of ACK 1. -/
  | confirming
  /-- `sendto` of an ERROR packet. -/
  | failing (reply : ErrorReply)
  deriving DecidableEq, Repr

/-- A task between two system calls. -/
inductive TaskState
  /-- The look at `should_terminate`. -/
  | starting (op : OperationData)
  /-- `malloc (sizeof (TransferData_t))`. -/
  | allocating (op : OperationData)
  | filling (s : FillState)
  /-- `sendto` of ACK 0, the answer to a write request. -/
  | acknowledging (b : BlockSize) (op : OperationData) (tx : TransferData b)
  | receiving (b : BlockSize) (s : ReceiveState b)
  /-- `fclose` of a file that was not received whole. -/
  | closingPartial (op : OperationData)
  /-- `remove` of that file. -/
  | removingPartial (op : OperationData)
  | transmitting (b : BlockSize) (s : TransmitState b)
  | deleting (point : DeletePoint) (op : OperationData)
  /-- `fclose` in `tftp_free_transfer_data`. -/
  | closingFile (op : OperationData) (result : Option Bool)
  /-- `close` in `tftp_free_operation_data`. -/
  | closingSocket (op : OperationData) (result : Option Bool)
  /-- `server_task_release`. -/
  | releasing (result : Option Bool)
  | ended (result : Option Bool)
  /-- A memory error: bytes outside a block, or a null `TransferData_t`. -/
  | fault
  deriving DecidableEq, Repr

namespace TaskState

/-- What `tftp_receive_file`, `tftp_transmit_file` or `server_delete_file` returned. -/
def result : TaskState → Option Bool
  | .closingFile _ result => result
  | .closingSocket _ result => result
  | .releasing result => result
  | .ended result => result
  | _ => none

/-- `tftp_free_operation_data`. -/
def freeOperationData (op : OperationData) (result : Option Bool) : TaskState :=
  if op.dataSocket > 0 then .closingSocket op result else .releasing result

/-- `tftp_free_transfer_data`, and what follows the `switch`. -/
def freeTransferData (op : OperationData) (fileOpen : Bool) (result : Option Bool) :
    TaskState :=
  if fileOpen then .closingFile op result else freeOperationData op result

/-- What follows a step of `tftp_fill_transfer_data`. -/
def afterFill (s : FillState) : TaskState :=
  match s.point with
  | .ready b tx =>
      if s.receiver then
        .acknowledging b s.op tx
      else
        .transmitting b (TransmitState.start s.op tx)
  | .failed => if s.allocated then freeTransferData s.op s.fileOpen none else .fault
  | _ => .filling s

/-- What follows the allocation of the `TransferData_t`. -/
def onAllocated (op : OperationData) (allocated : Bool) : TaskState :=
  afterFill (FillState.start op allocated (op.operationId = .receive))

/-- The `switch` on the operation. -/
def dispatch (op : OperationData) : TaskState :=
  match op.operationId with
  | .receive => .allocating op
  | .send => .allocating op
  | .handleDelete => .deleting .acknowledging op
  | .requestDelete => freeOperationData op none
  | .undefined => freeOperationData op none

/-- What follows `tftp_send_ack (0, ..)`. -/
def onAcknowledged {b : BlockSize} (op : OperationData) (tx : TransferData b) (ok : Bool) :
    TaskState :=
  if ok then .receiving b (ReceiveState.start op tx) else .closingFile op none

/-- What follows a step of `tftp_receive_file`. -/
def afterReceive {b : BlockSize} (s : ReceiveState b) : TaskState :=
  match s.point with
  | .returned exit => if exit.value then .closingFile s.op (some true) else .closingPartial s.op
  | .fault => .fault
  | _ => .receiving b s

/-- What follows a step of `tftp_transmit_file`. -/
def afterTransmit {b : BlockSize} (s : TransmitState b) : TaskState :=
  match s.point with
  | .returned exit => .closingFile s.op (some exit.value)
  | _ => .transmitting b s

/-- `tftp_send_error (..)` and `return false` in `server_delete_file`. -/
def failDelete (op : OperationData) (reply : ErrorReply) : TaskState :=
  if forwardsErrors op.peerAddress then
    .deleting (.failing reply) op
  else
    freeOperationData op (some false)

end TaskState

/-- One system call of `server_delete_file`. -/
def serverDeleteFile (host : Host) (point : DeletePoint) (op : OperationData) (e : Event) :
    Option TaskState :=
  match point, e with
  | .acknowledging, .sendto peer packet _ =>
      if peer = op.peerAddress ∧ packet = ackPacket 0 then
        some (.deleting .opening op)
      else
        none
  | .opening, .fopen path mode error =>
      if path = op.path ∧ mode = .read then
        match error with
        | none => some (.deleting .closing op)
        | some _ =>
            some (TaskState.failDelete op
              { code := TFTPErrorCode.fileNotFound.code
                message := ascii "file not found: "
                item := some (op.path.drop serverStoragePath.length) })
      else
        none
  | .closing, .fclose _ => some (.deleting .removing op)
  | .removing, .remove path error =>
      if path = op.path then
        match error with
        | none => some (.deleting .confirming op)
        | some errno =>
            some (TaskState.failDelete op
              { code := TFTPErrorCode.undefined.code
                message := ascii "failed to delete, server error: "
                item := some (host.strerror errno) })
      else
        none
  | .confirming, .sendto peer packet _ =>
      if peer = op.peerAddress ∧ packet = ackPacket 1 then
        some (TaskState.freeOperationData op (some true))
      else
        none
  | .failing reply, .sendto peer packet _ =>
      if peer = op.peerAddress ∧ packet = errorPacket reply then
        some (TaskState.freeOperationData op (some false))
      else
        none
  | _, _ => none

/-- One system call of `server_task_start`.  `pthread_detach` and the release of the slot
are one call. -/
def serverTaskStart (host : Host) (t : TaskState) (e : Event) : Option TaskState :=
  match t with
  | .starting op =>
      match e with
      | .poll set => some (if set then .releasing none else TaskState.dispatch op)
      | _ => none
  | .allocating op =>
      match e with
      | .malloc size block =>
          if size = sizeofTransferData then
            some (TaskState.onAllocated op block.isSome)
          else
            none
      | _ => none
  | .filling s => (tftpFillTransferData host s e).map TaskState.afterFill
  | .acknowledging _ op tx =>
      match e with
      | .sendto peer packet ok =>
          if peer = op.peerAddress ∧ packet = ackPacket 0 then
            some (TaskState.onAcknowledged op tx ok)
          else
            none
      | _ => none
  | .receiving _ s => (tftpReceiveFile host s e).map TaskState.afterReceive
  | .closingPartial op =>
      match e with
      | .fclose _ => some (.removingPartial op)
      | _ => none
  | .removingPartial op =>
      match e with
      | .remove path _ =>
          if path = op.path then
            some (TaskState.freeOperationData op (some false))
          else
            none
      | _ => none
  | .transmitting _ s => (tftpTransmitFile host s e).map TaskState.afterTransmit
  | .deleting point op => serverDeleteFile host point op e
  | .closingFile op result =>
      match e with
      | .fclose _ => some (TaskState.freeOperationData op result)
      | _ => none
  | .closingSocket op result =>
      match e with
      | .close fd => if fd = op.dataSocket then some (.releasing result) else none
      | _ => none
  | .releasing result =>
      match e with
      | .release => some (.ended result)
      | _ => none
  | .ended _ => none
  | .fault => none

/-! ### What a call does

The control points of a task with the calls made at them, and where each call leads. -/

inductive DeleteCalled (host : Host) (op : OperationData) : DeletePoint → Event → TaskState → Prop
  | acknowledging (ok : Bool) :
      DeleteCalled host op .acknowledging (.sendto op.peerAddress (ackPacket 0) ok)
        (.deleting .opening op)
  | opened : DeleteCalled host op .opening (.fopen op.path .read none) (.deleting .closing op)
  | missing (errno : Errno) :
      DeleteCalled host op .opening (.fopen op.path .read (some errno))
        (TaskState.failDelete op
          { code := TFTPErrorCode.fileNotFound.code
            message := ascii "file not found: "
            item := some (op.path.drop serverStoragePath.length) })
  | closing {lost : Nat} :
      DeleteCalled host op .closing (.fclose lost) (.deleting .removing op)
  | removed : DeleteCalled host op .removing (.remove op.path none) (.deleting .confirming op)
  | kept (errno : Errno) :
      DeleteCalled host op .removing (.remove op.path (some errno))
        (TaskState.failDelete op
          { code := TFTPErrorCode.undefined.code
            message := ascii "failed to delete, server error: "
            item := some (host.strerror errno) })
  | confirming (ok : Bool) :
      DeleteCalled host op .confirming (.sendto op.peerAddress (ackPacket 1) ok)
        (TaskState.freeOperationData op (some true))
  | failing (reply : ErrorReply) (ok : Bool) :
      DeleteCalled host op (.failing reply) (.sendto op.peerAddress (errorPacket reply) ok)
        (TaskState.freeOperationData op (some false))

theorem delete_called {host : Host} {point : DeletePoint} {op : OperationData} {e : Event}
    {t' : TaskState} (hstep : serverDeleteFile host point op e = some t') :
    DeleteCalled host op point e t' := by
  cases point with
  | acknowledging =>
      cases e with
      | sendto peer packet ok =>
          obtain ⟨⟨rfl, rfl⟩, hnext⟩ := Option.ite_none_right_eq_some.mp hstep
          obtain rfl := Option.some.inj hnext
          exact .acknowledging ok
      | _ => cases hstep
  | opening =>
      cases e with
      | fopen path mode error =>
          obtain ⟨⟨rfl, rfl⟩, hnext⟩ := Option.ite_none_right_eq_some.mp hstep
          cases error with
          | none =>
              obtain rfl := Option.some.inj hnext
              exact .opened
          | some errno =>
              obtain rfl := Option.some.inj hnext
              exact .missing errno
      | _ => cases hstep
  | closing =>
      cases e with
      | fclose lost =>
          obtain rfl := Option.some.inj hstep
          exact .closing
      | _ => cases hstep
  | removing =>
      cases e with
      | remove path error =>
          obtain ⟨rfl, hnext⟩ := Option.ite_none_right_eq_some.mp hstep
          cases error with
          | none =>
              obtain rfl := Option.some.inj hnext
              exact .removed
          | some errno =>
              obtain rfl := Option.some.inj hnext
              exact .kept errno
      | _ => cases hstep
  | confirming =>
      cases e with
      | sendto peer packet ok =>
          obtain ⟨⟨rfl, rfl⟩, hnext⟩ := Option.ite_none_right_eq_some.mp hstep
          obtain rfl := Option.some.inj hnext
          exact .confirming ok
      | _ => cases hstep
  | failing reply =>
      cases e with
      | sendto peer packet ok =>
          obtain ⟨⟨rfl, rfl⟩, hnext⟩ := Option.ite_none_right_eq_some.mp hstep
          obtain rfl := Option.some.inj hnext
          exact .failing reply ok
      | _ => cases hstep

inductive TaskCalled (host : Host) : TaskState → Event → TaskState → Prop
  | starting (op : OperationData) (set : Bool) :
      TaskCalled host (.starting op) (.poll set)
        (if set then .releasing none else TaskState.dispatch op)
  | allocating (op : OperationData) (block : Option (List UInt8)) :
      TaskCalled host (.allocating op) (.malloc sizeofTransferData block)
        (TaskState.onAllocated op block.isSome)
  | filling (s s' : FillState) {e : Event} (hs : tftpFillTransferData host s e = some s') :
      TaskCalled host (.filling s) e (TaskState.afterFill s')
  | acknowledging (b : BlockSize) (op : OperationData) (tx : TransferData b) (ok : Bool) :
      TaskCalled host (.acknowledging b op tx) (.sendto op.peerAddress (ackPacket 0) ok)
        (TaskState.onAcknowledged op tx ok)
  | receiving (b : BlockSize) (s s' : ReceiveState b) {e : Event}
      (hs : tftpReceiveFile host s e = some s') :
      TaskCalled host (.receiving b s) e (TaskState.afterReceive s')
  | closingPartial (op : OperationData) {lost : Nat} :
      TaskCalled host (.closingPartial op) (.fclose lost) (.removingPartial op)
  | removingPartial (op : OperationData) (error : Option Errno) :
      TaskCalled host (.removingPartial op) (.remove op.path error)
        (TaskState.freeOperationData op (some false))
  | transmitting (b : BlockSize) (s s' : TransmitState b) {e : Event}
      (hs : tftpTransmitFile host s e = some s') :
      TaskCalled host (.transmitting b s) e (TaskState.afterTransmit s')
  | deleting (point : DeletePoint) (op : OperationData) {e : Event} {t' : TaskState}
      (hdelete : serverDeleteFile host point op e = some t') :
      TaskCalled host (.deleting point op) e t'
  | closingFile (op : OperationData) (result : Option Bool) {lost : Nat} :
      TaskCalled host (.closingFile op result) (.fclose lost)
        (TaskState.freeOperationData op result)
  | closingSocket (op : OperationData) (result : Option Bool) :
      TaskCalled host (.closingSocket op result) (.close op.dataSocket) (.releasing result)
  | releasing (result : Option Bool) :
      TaskCalled host (.releasing result) .release (.ended result)

theorem task_called {host : Host} {t t' : TaskState} {e : Event}
    (hstep : serverTaskStart host t e = some t') : TaskCalled host t e t' := by
  cases t with
  | starting op =>
      cases e with
      | poll set =>
          obtain rfl := Option.some.inj hstep
          exact .starting op set
      | _ => cases hstep
  | allocating op =>
      cases e with
      | malloc size block =>
          obtain ⟨rfl, hnext⟩ := Option.ite_none_right_eq_some.mp hstep
          obtain rfl := Option.some.inj hnext
          exact .allocating op block
      | _ => cases hstep
  | filling s =>
      obtain ⟨s', hs, rfl⟩ := Option.map_eq_some_iff.mp hstep
      exact .filling s s' hs
  | acknowledging b op tx =>
      cases e with
      | sendto peer packet ok =>
          obtain ⟨⟨rfl, rfl⟩, hnext⟩ := Option.ite_none_right_eq_some.mp hstep
          obtain rfl := Option.some.inj hnext
          exact .acknowledging b op tx ok
      | _ => cases hstep
  | receiving b s =>
      obtain ⟨s', hs, rfl⟩ := Option.map_eq_some_iff.mp hstep
      exact .receiving b s s' hs
  | closingPartial op =>
      cases e with
      | fclose lost =>
          obtain rfl := Option.some.inj hstep
          exact .closingPartial op
      | _ => cases hstep
  | removingPartial op =>
      cases e with
      | remove path error =>
          obtain ⟨rfl, hnext⟩ := Option.ite_none_right_eq_some.mp hstep
          obtain rfl := Option.some.inj hnext
          exact .removingPartial op error
      | _ => cases hstep
  | transmitting b s =>
      obtain ⟨s', hs, rfl⟩ := Option.map_eq_some_iff.mp hstep
      exact .transmitting b s s' hs
  | deleting point op => exact .deleting point op hstep
  | closingFile op result =>
      cases e with
      | fclose lost =>
          obtain rfl := Option.some.inj hstep
          exact .closingFile op result
      | _ => cases hstep
  | closingSocket op result =>
      cases e with
      | close fd =>
          obtain ⟨rfl, hnext⟩ := Option.ite_none_right_eq_some.mp hstep
          obtain rfl := Option.some.inj hnext
          exact .closingSocket op result
      | _ => cases hstep
  | releasing result =>
      cases e with
      | release =>
          obtain rfl := Option.some.inj hstep
          exact .releasing result
      | _ => cases hstep
  | ended result => cases hstep
  | fault => cases hstep

/-! ### Uploads

A task with a file it created is an upload, from the creation on. -/

namespace TaskState

/-- The path of the operation, as long as the task has it. -/
def path : TaskState → Option (List UInt8)
  | .starting op => some op.path
  | .allocating op => some op.path
  | .filling s => some s.op.path
  | .acknowledging _ op _ => some op.path
  | .receiving _ s => some s.op.path
  | .closingPartial op => some op.path
  | .removingPartial op => some op.path
  | .transmitting _ s => some s.op.path
  | .deleting _ op => some op.path
  | .closingFile op _ => some op.path
  | .closingSocket op _ => some op.path
  | .releasing _ => none
  | .ended _ => none
  | .fault => none

/-- The file has not been received whole yet, and if it was not, has not been removed. -/
def inUpload : TaskState → Bool
  | .filling _ => true
  | .acknowledging _ _ _ => true
  | .receiving _ _ => true
  | .closingPartial _ => true
  | .removingPartial _ => true
  | _ => false

/-- Where a task can be behind the creation of its file. -/
def Uploads : TaskState → Prop
  | .starting _ => False
  | .allocating _ => False
  | .filling s => s.receiver = true ∧ s.Created
  | .transmitting _ _ => False
  | .deleting _ _ => False
  | _ => True

/-- Where a task can be only behind the creation of its file. -/
def HasCreated : TaskState → Prop
  | .filling s => s.receiver = true ∧ s.Opened
  | .acknowledging _ _ _ => True
  | .receiving _ _ => True
  | .closingPartial _ => True
  | .removingPartial _ => True
  | _ => False

section Behind

variable {op : OperationData} {result : Option Bool} {fileOpen : Bool} {p : List UInt8}

theorem path_freeOperationData (h : (freeOperationData op result).path = some p) :
    p = op.path := by
  unfold freeOperationData at h
  split at h
  · exact (Option.some.inj h).symm
  · cases h

theorem path_freeTransferData (h : (freeTransferData op fileOpen result).path = some p) :
    p = op.path := by
  unfold freeTransferData at h
  split at h
  · exact (Option.some.inj h).symm
  · exact path_freeOperationData h

theorem uploads_freeOperationData : (freeOperationData op result).Uploads := by
  unfold freeOperationData
  split <;> trivial

theorem uploads_freeTransferData : (freeTransferData op fileOpen result).Uploads := by
  unfold freeTransferData
  split
  · trivial
  · exact uploads_freeOperationData

@[simp] theorem inUpload_freeOperationData :
    (freeOperationData op result).inUpload = false := by
  unfold freeOperationData
  split <;> rfl

@[simp] theorem result_freeOperationData : (freeOperationData op result).result = result := by
  unfold freeOperationData
  split <;> rfl

@[simp] theorem result_freeTransferData :
    (freeTransferData op fileOpen result).result = result := by
  unfold freeTransferData
  split
  · rfl
  · exact result_freeOperationData

theorem not_hasCreated_freeOperationData : ¬ (freeOperationData op result).HasCreated := by
  unfold freeOperationData
  split <;> exact id

theorem not_hasCreated_freeTransferData :
    ¬ (freeTransferData op fileOpen result).HasCreated := by
  unfold freeTransferData
  split
  · exact id
  · exact not_hasCreated_freeOperationData

variable {s : FillState} {b : BlockSize} {r : ReceiveState b}

theorem path_afterFill (h : (afterFill s).path = some p) : p = s.op.path := by
  unfold afterFill at h
  split at h
  · split at h
    · exact (Option.some.inj h).symm
    · exact (Option.some.inj h).symm
  · split at h
    · exact path_freeTransferData h
    · cases h
  · exact (Option.some.inj h).symm

theorem uploads_afterFill (hreceiver : s.receiver = true) (hcreated : s.Created) :
    (afterFill s).Uploads := by
  unfold afterFill
  split
  · rw [if_pos hreceiver]
    trivial
  · split
    · exact uploads_freeTransferData
    · trivial
  · exact ⟨hreceiver, hcreated⟩

@[simp] theorem result_afterFill : (afterFill s).result = none := by
  unfold afterFill
  split
  · split <;> rfl
  · split
    · simp
    · rfl
  · rfl

theorem hasCreated_afterFill (h : (afterFill s).HasCreated) :
    s.receiver = true ∧ s.Opened := by
  unfold afterFill at h
  split at h
  · rename_i hpoint
    split at h
    · rename_i hreceiver
      exact ⟨hreceiver, by simp [FillState.Opened, hpoint]⟩
    · exact h.elim
  · split at h
    · exact absurd h not_hasCreated_freeTransferData
    · exact h.elim
  · exact h

theorem path_afterReceive (h : (afterReceive r).path = some p) : p = r.op.path := by
  unfold afterReceive at h
  split at h
  · split at h <;> exact (Option.some.inj h).symm
  · cases h
  · exact (Option.some.inj h).symm

theorem uploads_afterReceive : (afterReceive r).Uploads := by
  unfold afterReceive
  split
  · split <;> trivial
  · trivial
  · trivial

end Behind

section Steps

variable {host : Host} {t t' : TaskState} {e : Event}

/-- What a task does behind the creation of its file: it opens nothing, writes only while
it receives, and removes only a file it did not receive whole. -/
structure UploadStep (t t' : TaskState) (e : Event) : Prop where
  uploads : t'.Uploads
  path : ∀ p, t'.path = some p → t.path = some p
  inUpload : t'.inUpload = true → t.inUpload = true
  result : t'.result = some true → t.result = some true ∨ t.inUpload = true
  opens : ∀ path mode error, e ≠ .fopen path mode error
  writes : ∀ bytes count kept, e = .fwrite bytes count kept → t.inUpload = true
  removes : ∀ path error, e = .remove path error →
    (∃ op, t = .removingPartial op ∧ path = op.path) ∧ t'.inUpload = false ∧
      t'.result ≠ some true

/-- The last call on the file, the rest of the task being to free what it has. -/
theorem UploadStep.of_free {op : OperationData} {result : Option Bool}
    (hpath : t.path = some op.path) (hresult : t.result = result ∨ result = some false)
    (hopens : ∀ path mode error, e ≠ .fopen path mode error)
    (hwrites : ∀ bytes count kept, e ≠ .fwrite bytes count kept)
    (hremoves : ∀ path error, e = .remove path error →
      (∃ op, t = .removingPartial op ∧ path = op.path) ∧ result = some false) :
    UploadStep t (freeOperationData op result) e where
  uploads := uploads_freeOperationData
  path := by
    intro p hp
    rw [path_freeOperationData hp, hpath]
  inUpload := by simp
  result := by
    rw [result_freeOperationData]
    intro htrue
    rcases hresult with h | h
    · exact Or.inl (h.trans htrue)
    · rw [h] at htrue
      cases htrue
  opens := hopens
  writes := fun bytes count kept he => absurd he (hwrites bytes count kept)
  removes := by
    intro path error he
    obtain ⟨hremoving, hfalse⟩ := hremoves path error he
    refine ⟨hremoving, inUpload_freeOperationData, ?_⟩
    rw [result_freeOperationData, hfalse]
    simp

theorem upload_step (h : t.Uploads) (hstep : serverTaskStart host t e = some t') :
    UploadStep t t' e := by
  cases task_called hstep with
  | starting op _ => exact h.elim
  | allocating op _ => exact h.elim
  | transmitting b s s' hs => exact h.elim
  | deleting point op hdelete => exact h.elim
  | filling s s' hs =>
      obtain ⟨hreceiver, hcreated⟩ := h
      obtain ⟨hpath, hreceiver'⟩ := FillState.step_keeps hs
      obtain ⟨hcreated', he⟩ := FillState.created_step hcreated hs
      exact
        { uploads := uploads_afterFill (hreceiver'.trans hreceiver) hcreated'
          path := by
            intro p hp
            rw [path_afterFill hp, hpath]
            rfl
          inUpload := fun _ => rfl
          result := by simp
          opens := by
            rintro path mode error rfl
            simp at he
          writes := fun _ _ _ _ => rfl
          removes := by
            rintro path error rfl
            simp at he }
  | acknowledging b op tx ok =>
      cases ok with
      | true =>
          exact
            { uploads := trivial
              path := fun p hp => hp
              inUpload := fun _ => rfl
              result := by simp [onAcknowledged, result]
              opens := by simp
              writes := by simp
              removes := by simp }
      | false =>
          exact
            { uploads := trivial
              path := fun p hp => hp
              inUpload := by simp [onAcknowledged, inUpload]
              result := by simp [onAcknowledged, result]
              opens := by simp
              writes := by simp
              removes := by simp }
  | receiving b s s' hs =>
      have hpath := ReceiveState.step_path host hs
      exact
        { uploads := uploads_afterReceive
          path := by
            intro p hp
            rw [path_afterReceive hp, hpath]
            rfl
          inUpload := fun _ => rfl
          result := fun _ => Or.inr rfl
          opens := by
            rintro path mode error rfl
            rw [receive_fopen] at hs
            cases hs
          writes := fun _ _ _ _ => rfl
          removes := by
            rintro path error rfl
            rw [receive_remove] at hs
            cases hs }
  | closingPartial op =>
      exact
        { uploads := trivial
          path := fun p hp => hp
          inUpload := fun _ => rfl
          result := by simp [result]
          opens := by simp
          writes := by simp
          removes := by simp }
  | removingPartial op error =>
      refine UploadStep.of_free rfl (Or.inr rfl) (by simp) (by simp) ?_
      intro path' error' he
      obtain ⟨rfl, -⟩ := Event.remove.inj he
      exact ⟨⟨op, rfl, rfl⟩, rfl⟩
  | closingFile op result => exact UploadStep.of_free rfl (Or.inl rfl) (by simp) (by simp) (by simp)
  | closingSocket op result =>
      exact
        { uploads := trivial
          path := by simp [path]
          inUpload := by simp [inUpload]
          result := fun hresult => Or.inl hresult
          opens := by simp
          writes := by simp
          removes := by simp }
  | releasing result =>
      exact
        { uploads := trivial
          path := by simp [path]
          inUpload := by simp [inUpload]
          result := fun hresult => Or.inl hresult
          opens := by simp
          writes := by simp
          removes := by simp }

theorem failDelete_cases (op : OperationData) (reply : ErrorReply) :
    failDelete op reply = .deleting (.failing reply) op ∨
      failDelete op reply = freeOperationData op (some false) := by
  unfold failDelete
  split
  · exact Or.inl rfl
  · exact Or.inr rfl

/-- `server_delete_file` goes on or returns. -/
theorem deleting_step {point : DeletePoint} {op : OperationData}
    (hstep : serverDeleteFile host point op e = some t') :
    (∃ point', t' = .deleting point' op) ∨ ∃ result, t' = freeOperationData op result := by
  have hfail : ∀ reply, (∃ point', failDelete op reply = .deleting point' op) ∨
      ∃ result, failDelete op reply = freeOperationData op result := by
    intro reply
    rcases failDelete_cases op reply with h | h
    · exact Or.inl ⟨_, h⟩
    · exact Or.inr ⟨_, h⟩
  cases delete_called hstep with
  | acknowledging ok => exact Or.inl ⟨_, rfl⟩
  | opened => exact Or.inl ⟨_, rfl⟩
  | missing errno => exact hfail _
  | closing => exact Or.inl ⟨_, rfl⟩
  | removed => exact Or.inl ⟨_, rfl⟩
  | kept errno => exact hfail _
  | confirming ok => exact Or.inr ⟨_, rfl⟩
  | failing reply ok => exact Or.inr ⟨_, rfl⟩

/-- Only `tftp_fill_transfer_data` creates a file, for a receiver. -/
theorem creates_file {path : List UInt8} {error : Option Errno}
    (hstep : serverTaskStart host t (.fopen path .write error) = some t') :
    t'.Uploads ∧ (∀ p, t'.path = some p → p = path) ∧ t'.result = none := by
  cases task_called hstep with
  | filling s s' hs =>
      obtain ⟨hpath, hreceiver⟩ := FillState.step_keeps hs
      cases hpoint : s.point with
      | opening =>
          obtain ⟨error', he, hs'⟩ := fill_opening hpoint hs
          obtain ⟨hp, hmode, -⟩ := Event.fopen.inj he
          -- only a receiver opens its file for writing
          have hreceives : s.receiver = true := by
            by_contra hnot
            rw [if_neg hnot] at hmode
            cases hmode
          have hcreated : s'.Created := by
            rcases hs' with ⟨-, rfl⟩ | ⟨errno, -, rfl⟩
            · exact FillState.created_checkBlockSize
            · exact FillState.created_fail _
          refine ⟨uploads_afterFill (hreceiver.trans hreceives) hcreated, ?_, result_afterFill⟩
          intro p hafter
          rw [path_afterFill hafter, hpath, hp]
      | _ => simp [tftpFillTransferData, hpoint] at hs
  | receiving b s s' hs =>
      rw [receive_fopen] at hs
      cases hs
  | transmitting b s s' hs =>
      rw [transmit_fopen] at hs
      cases hs
  | deleting point op hdelete => cases delete_called hdelete

/-- Once a transfer has returned, its task keeps away from the storage. -/
theorem result_step {value : Bool} (h : t.result = some value)
    (hstep : serverTaskStart host t e = some t') :
    t'.result = some value ∧
      ((∃ lost, e = .fclose lost) ∨ (∃ fd, e = .close fd) ∨ e = .release) := by
  cases task_called hstep with
  | closingFile op result =>
      refine ⟨?_, Or.inl ⟨_, rfl⟩⟩
      rw [result_freeOperationData]
      exact h
  | closingSocket op result => exact ⟨h, Or.inr (Or.inl ⟨op.dataSocket, rfl⟩)⟩
  | releasing result => exact ⟨h, Or.inr (Or.inr rfl)⟩
  | _ => cases h

/-- A file is removed by the task that did not receive it whole, or by a deletion. -/
theorem removes_file {path : List UInt8} {error : Option Errno}
    (hstep : serverTaskStart host t (.remove path error) = some t') :
    ∃ op, path = op.path ∧ (t = .removingPartial op ∨ t = .deleting .removing op) := by
  cases task_called hstep with
  | filling s s' hs =>
      rw [fill_remove] at hs
      cases hs
  | receiving b s s' hs =>
      rw [receive_remove] at hs
      cases hs
  | transmitting b s s' hs =>
      rw [transmit_remove] at hs
      cases hs
  | removingPartial op => exact ⟨op, rfl, Or.inl rfl⟩
  | deleting point op hdelete =>
      refine ⟨op, ?_⟩
      cases delete_called hdelete with
      | removed => exact ⟨rfl, Or.inr rfl⟩
      | kept errno => exact ⟨rfl, Or.inr rfl⟩

theorem uploads_of_hasCreated (h : t.HasCreated) : t.Uploads := by
  cases t with
  | filling s => exact ⟨h.1, FillState.created_of_opened h.2⟩
  | starting op => exact h
  | allocating op => exact h
  | transmitting b s => exact h
  | deleting point op => exact h
  | _ => trivial

/-- Only the creation of a file leads behind it. -/
theorem hasCreated_step (hstep : serverTaskStart host t e = some t') (hafter : t'.HasCreated) :
    t.HasCreated ∨ ∃ path, e = .fopen path .write none := by
  cases task_called hstep with
  | acknowledging b op tx _ => exact Or.inl trivial
  | receiving b s s' hs => exact Or.inl trivial
  | closingPartial op => exact Or.inl trivial
  | removingPartial op _ => exact Or.inl trivial
  | starting op set =>
      cases set with
      | true => exact hafter.elim
      | false =>
          simp only [Bool.false_eq_true, if_false, dispatch] at hafter
          split at hafter
          · exact hafter.elim
          · exact hafter.elim
          · exact hafter.elim
          · exact absurd hafter not_hasCreated_freeOperationData
          · exact absurd hafter not_hasCreated_freeOperationData
  | allocating op block =>
      exact absurd (hasCreated_afterFill hafter).2 (FillState.not_opened_start _ _ _)
  | filling s s' hs =>
      obtain ⟨hreceiver', hopened'⟩ := hasCreated_afterFill hafter
      have hreceiver : s.receiver = true := (FillState.step_keeps hs).2.symm.trans hreceiver'
      -- a fill has its file from before, or opens it in this call
      rcases FillState.opened_step hs hopened' with hopened | rfl
      · exact Or.inl ⟨hreceiver, hopened⟩
      · exact Or.inr ⟨s.op.path, by rw [if_pos hreceiver]⟩
  | transmitting b s s' hs =>
      unfold afterTransmit at hafter
      split at hafter <;> exact hafter.elim
  | deleting point op hdelete =>
      rcases deleting_step hdelete with ⟨point', rfl⟩ | ⟨result, rfl⟩
      · exact hafter.elim
      · exact absurd hafter not_hasCreated_freeOperationData
  | closingFile op result => exact absurd hafter not_hasCreated_freeOperationData
  | closingSocket op result => exact hafter.elim
  | releasing result => exact hafter.elim

end Steps

end TaskState

end Stftpu
