import Stftpu.Server.Task

/-!
# What a task holds

The operation data, its socket and the open files of a task, and how each of its calls
changes them.

* `TaskState.operation`, `TaskState.files` — what a task holds at a control point.
* `TaskState.Accounts`, `accounts_step` — a call opens and closes what its event says.
-/

namespace Stftpu

open Library

/-- The data socket of an operation, and what it is bound to. -/
def OperationData.socket (op : OperationData) : Int × SockAddr :=
  (op.dataSocket, op.localAddress)

namespace Event

/-- How many files the call opened. -/
def opened : Event → Nat
  | .fopen _ _ none => 1
  | _ => 0

/-- How many files the call closed. -/
def closed : Event → Nat
  | .fclose _ => 1
  | _ => 0

/-- A call of a transfer: on its socket, its file or the flag of termination. -/
def InTransfer : Event → Prop
  | .poll _ => True
  | .fread _ _ _ => True
  | .fwrite _ _ _ => True
  | .sendto _ _ _ => True
  | .recvfrom _ _ => True
  | _ => False

/-- A call on an open file. -/
def OnFile : Event → Prop
  | .fread _ _ _ => True
  | .fwrite _ _ _ => True
  | .fclose _ => True
  | _ => False

theorem opened_of_inTransfer {e : Event} (h : e.InTransfer) : e.opened = 0 := by
  cases e <;> first | rfl | exact h.elim

theorem closed_of_inTransfer {e : Event} (h : e.InTransfer) : e.closed = 0 := by
  cases e <;> first | rfl | exact h.elim

end Event

/-! ## The transfers keep their socket -/

namespace ReceiveState

variable {b : BlockSize} {host : Host} {s s' : ReceiveState b} {e : Event}

theorem onPacket_socket (result : RecvResult) :
    (s.onPacket host result).op.socket = s.op.socket := by
  cases result with
  | failed errno => simp [onPacket]
  | datagram source bytes =>
      have hsocket : (s.received source bytes).op.socket = s.op.socket := rfl
      simp only [onPacket]
      split
      · split
        · exact hsocket
        · split
          · rw [accept_op, hsocket]
          · exact hsocket
      · rw [missed_op, hsocket]

theorem socket_step (h : tftpReceiveFile host s e = some s') :
    s'.op.socket = s.op.socket ∧ e.InTransfer := by
  cases hpoint : s.point with
  | entry =>
      obtain ⟨set, rfl, rfl⟩ := receive_entry hpoint h
      exact ⟨by cases set <;> simp [begin], trivial⟩
  | nextBlock =>
      obtain ⟨set, rfl, rfl⟩ := receive_nextBlock hpoint h
      exact ⟨by cases set <;> simp, trivial⟩
  | awaiting =>
      obtain ⟨result, rfl, rfl⟩ := receive_awaiting hpoint h
      exact ⟨onPacket_socket result, trivial⟩
  | writing payload =>
      obtain ⟨count, kept, rfl, -, rfl⟩ := receive_writing hpoint h
      exact ⟨by rw [onWritten_op], trivial⟩
  | acknowledging =>
      obtain ⟨ok, rfl, rfl⟩ := receive_acknowledging hpoint h
      exact ⟨by rw [onAcknowledged_op], trivial⟩
  | failing reply =>
      obtain ⟨ok, rfl, rfl⟩ := receive_failing hpoint h
      exact ⟨rfl, trivial⟩
  | returned exit =>
      rw [receive_returned hpoint] at h
      cases h
  | fault =>
      rw [receive_fault hpoint] at h
      cases h

end ReceiveState

namespace TransmitState

variable {b : BlockSize} {host : Host} {s s' : TransmitState b} {e : Event}

theorem onResponse_socket (result : RecvResult) :
    (s.onResponse host result).op.socket = s.op.socket := by
  rcases s.onResponse_cases host result with
    ⟨source, bytes, -, ⟨-, heq⟩ | ⟨-, -, heq⟩ | ⟨-, -, heq⟩⟩ |
    ⟨errno, -, ⟨-, heq⟩ | ⟨-, reply, heq⟩⟩
  · rw [heq]
    rfl
  · rw [heq, outerTest_op]
    rfl
  · rw [heq, retry_op]
    rfl
  · rw [heq, retry_op]
  · rw [heq, fail_op]

theorem socket_step (h : tftpTransmitFile host s e = some s') :
    s'.op.socket = s.op.socket ∧ e.InTransfer := by
  cases hpoint : s.point with
  | entry =>
      obtain ⟨set, rfl, rfl⟩ := transmit_entry hpoint h
      exact ⟨by cases set <;> simp [begin], trivial⟩
  | nextBlock =>
      obtain ⟨set, rfl, rfl⟩ := transmit_nextBlock hpoint h
      exact ⟨by cases set <;> simp [startBlock], trivial⟩
  | reading =>
      obtain ⟨bytes, eof, rfl, -, rfl⟩ := transmit_reading hpoint h
      refine ⟨?_, trivial⟩
      simp only [onRead]
      split <;> simp
  | attempt =>
      obtain ⟨set, rfl, rfl⟩ := transmit_attempt hpoint h
      exact ⟨by cases set <;> simp, trivial⟩
  | sending =>
      obtain ⟨ok, rfl, rfl⟩ := transmit_sending hpoint h
      refine ⟨?_, trivial⟩
      simp only [onSent]
      split <;> simp
  | awaiting =>
      obtain ⟨result, rfl, rfl⟩ := transmit_awaiting hpoint h
      exact ⟨onResponse_socket result, trivial⟩
  | failing reply =>
      obtain ⟨ok, rfl, rfl⟩ := transmit_failing hpoint h
      exact ⟨rfl, trivial⟩
  | returned exit =>
      rw [transmit_returned hpoint] at h
      cases h

end TransmitState

namespace FillState

variable {host : Host} {s s' : FillState} {e : Event}

@[simp] theorem fail_fileOpen (reply : ErrorReply) : (s.fail reply).fileOpen = s.fileOpen := by
  unfold fail
  split <;> rfl

@[simp] theorem fail_allocated (reply : ErrorReply) :
    (s.fail reply).allocated = s.allocated := by
  unfold fail
  split <;> rfl

/-- Whether the file is open, where the control point says so. -/
def FileAt (s : FillState) : Prop :=
  match s.point with
  | .probing => s.fileOpen = false
  | .opening => s.fileOpen = false
  | .failing _ => True
  | .failed => True
  | _ => s.fileOpen = true

theorem fileAt_fail (reply : ErrorReply) : (s.fail reply).FileAt := by
  rcases s.fail_point reply with h | h <;> simp [FileAt, h]

theorem fileAt_start (op : OperationData) (allocated receiver : Bool) :
    (start op allocated receiver).FileAt := by
  cases allocated with
  | true => cases receiver <;> rfl
  | false => exact fileAt_fail _

theorem start_fileOpen (op : OperationData) (allocated receiver : Bool) :
    (start op allocated receiver).fileOpen = false := by
  cases allocated with
  | true => rfl
  | false => exact fail_fileOpen _

theorem start_op (op : OperationData) (allocated receiver : Bool) :
    (start op allocated receiver).op = op := by
  cases allocated with
  | true => rfl
  | false => exact fail_op _

theorem checkBlockSize_fileOpen : s.checkBlockSize.fileOpen = s.fileOpen := by
  unfold checkBlockSize
  split
  · rfl
  · split
    · rfl
    · rw [fail_fileOpen]

theorem checkBlockSize_socket : s.checkBlockSize.op.socket = s.op.socket := by
  unfold checkBlockSize
  split
  · rfl
  · split
    · rfl
    · rw [fail_op]

/-- What a call of `tftp_fill_transfer_data` does with the file and the socket. -/
structure Accounts (s s' : FillState) (e : Event) : Prop where
  fileAt : s'.FileAt
  files : s'.fileOpen.toNat = s.fileOpen.toNat + e.opened
  socket : s'.op.socket = s.op.socket
  allocated : s'.allocated = s.allocated
  call : e.closed = 0 ∧ ¬ e.OnFile ∧ e ≠ .release ∧ ∀ fd, e ≠ .close fd

theorem accounts_step (hfile : s.FileAt) (h : tftpFillTransferData host s e = some s') :
    Accounts s s' e := by
  cases hpoint : s.point with
  | probing =>
      -- the first `fopen` only looks whether the file exists
      have hclosed : s.fileOpen = false := by simpa [FileAt, hpoint] using hfile
      obtain ⟨error, rfl, ⟨rfl, rfl⟩ | ⟨⟨errno, rfl⟩, rfl⟩⟩ := fill_probing hpoint h
      · constructor <;> simp [FileAt, hclosed, Event.opened, Event.closed, Event.OnFile]
      · constructor <;> simp [FileAt, hclosed, Event.opened, Event.closed, Event.OnFile]
  | describing =>
      obtain ⟨timestamp, rfl, rfl⟩ := fill_describing hpoint h
      constructor <;> simp [fileAt_fail, Event.opened, Event.closed, Event.OnFile]
  | opening =>
      have hclosed : s.fileOpen = false := by simpa [FileAt, hpoint] using hfile
      obtain ⟨error, rfl, ⟨rfl, rfl⟩ | ⟨errno, rfl, rfl⟩⟩ := fill_opening hpoint h
      · -- behind the second `fopen` the stream is open, whatever the block size says
        have hopen : ({ s with fileOpen := true } : FillState).checkBlockSize.fileOpen = true :=
          checkBlockSize_fileOpen
        constructor
        case fileAt =>
          rcases checkBlockSize_cases (s := { s with fileOpen := true }) with ⟨b, hb⟩ | ⟨reply, hb⟩
          · simp [FileAt, hb, hopen]
          · rw [hb]
            exact fileAt_fail reply
        case files => simp [hopen, hclosed, Event.opened]
        case socket => exact checkBlockSize_socket
        case allocated =>
          unfold checkBlockSize
          split
          · rfl
          · split
            · rfl
            · simp
        case call => simp [Event.closed, Event.OnFile]
      · constructor <;> simp [fileAt_fail, Event.opened, Event.closed, Event.OnFile]
  | allocatingData b =>
      have hopen : s.fileOpen = true := by simpa [FileAt, hpoint] using hfile
      obtain ⟨block, data, rfl, -, rfl⟩ := fill_allocatingData hpoint h
      constructor <;> simp [FileAt, hopen, Event.opened, Event.closed, Event.OnFile]
  | allocatingResponse b data =>
      have hopen : s.fileOpen = true := by simpa [FileAt, hpoint] using hfile
      obtain ⟨block, response, rfl, -, rfl⟩ := fill_allocatingResponse hpoint h
      rcases s.onAllocated_cases host data response with ⟨data', response', heq⟩ | ⟨reply, heq⟩
      · rw [heq]
        constructor <;> simp [FileAt, hopen, Event.opened, Event.closed, Event.OnFile]
      · rw [heq]
        constructor <;> simp [fileAt_fail, Event.opened, Event.closed, Event.OnFile]
  | failing reply =>
      obtain ⟨ok, rfl, rfl⟩ := fill_failing hpoint h
      constructor <;> simp [FileAt, Event.opened, Event.closed, Event.OnFile]
  | ready b tx =>
      rw [fill_ready hpoint] at h
      cases h
  | failed =>
      rw [fill_failed hpoint] at h
      cases h

end FillState

/-! ## Tasks -/

namespace TaskState

/-- The operation data, until they are freed. -/
def operation : TaskState → Option OperationData
  | .starting op => some op
  | .allocating op => some op
  | .filling s => some s.op
  | .acknowledging _ op _ => some op
  | .receiving _ s => some s.op
  | .closingPartial op => some op
  | .removingPartial op => some op
  | .transmitting _ s => some s.op
  | .deleting _ op => some op
  | .closingFile op _ => some op
  | .closingSocket op _ => some op
  | _ => none

/-- How many files the task has open. -/
def files : TaskState → Nat
  | .filling s => s.fileOpen.toNat
  | .acknowledging _ _ _ => 1
  | .receiving _ _ => 1
  | .closingPartial _ => 1
  | .transmitting _ _ => 1
  | .deleting .closing _ => 1
  | .closingFile _ _ => 1
  | _ => 0

/-- The file of a transfer is open where the control point says so. -/
def Tidy : TaskState → Prop
  | .filling s => s.FileAt
  | _ => True

/-- What a call of a task does with what the task holds. -/
structure Accounts (t t' : TaskState) (e : Event) : Prop where
  tidy : t'.Tidy
  files : t' = .fault ∨ t'.files + e.closed = t.files + e.opened
  operation : ∀ op', t'.operation = some op' →
    ∃ op, t.operation = some op ∧ op'.socket = op.socket
  /-- A file is used while it is open. -/
  uses : e.OnFile → 0 < t.files
  /-- The socket is closed on the way out, with the operation data freed behind it. -/
  closes : ∀ fd, e = .close fd →
    ∃ op result, t = .closingSocket op result ∧ fd = op.dataSocket ∧ t' = .releasing result
  /-- Otherwise the task gets there with a socket that is not closed, or at once. -/
  frees : ∀ result, t' = .releasing result →
    (∃ op, t = .starting op ∧ e = .poll true) ∨
    (∃ op, t = .closingSocket op result ∧ e = .close op.dataSocket) ∨
    ∃ op, t.operation = some op ∧ op.dataSocket ≤ 0
  ended : ∀ result, t' = .ended result → t = .releasing result
  releases : e = .release → ∃ result, t = .releasing result ∧ t' = .ended result

section Behind

variable {t t' : TaskState} {e : Event} {op op' : OperationData} {result : Option Bool}
  {fileOpen : Bool}

theorem operation_freeOperationData (h : (freeOperationData op result).operation = some op') :
    op' = op := by
  unfold freeOperationData at h
  split at h
  · exact (Option.some.inj h).symm
  · cases h

@[simp] theorem files_freeOperationData : (freeOperationData op result).files = 0 := by
  unfold freeOperationData
  split <;> rfl

theorem tidy_freeOperationData : (freeOperationData op result).Tidy := by
  unfold freeOperationData
  split <;> trivial

/-- A call that has nothing to do with the files, or closes the last one, and leads to the
end of the operation. -/
theorem Accounts.of_freeOperationData (hop : t.operation = some op')
    (hsocket : op.socket = op'.socket) (hfiles : e.closed = t.files + e.opened)
    (huses : e.OnFile → 0 < t.files) (hcloses : ∀ fd, e ≠ .close fd)
    (hreleases : e ≠ .release) : Accounts t (freeOperationData op result) e where
  tidy := tidy_freeOperationData
  files := Or.inr (by rw [files_freeOperationData, ← hfiles, Nat.zero_add])
  operation := by
    intro op₁ hop₁
    rw [operation_freeOperationData hop₁]
    exact ⟨op', hop, hsocket⟩
  uses := huses
  closes := fun fd he => absurd he (hcloses fd)
  frees := by
    intro result' hresult
    unfold freeOperationData at hresult
    split at hresult
    · cases hresult
    · rename_i hfd
      have hfd' : op.dataSocket = op'.dataSocket := congrArg Prod.fst hsocket
      exact Or.inr (Or.inr ⟨op', hop, by omega⟩)
  ended := by
    intro result' hresult
    unfold freeOperationData at hresult
    split at hresult <;> cases hresult
  releases := fun he => absurd he hreleases

/-- A call behind which the task goes on. -/
theorem Accounts.of_operation {op₁ : OperationData} (hop : t.operation = some op)
    (hop' : t'.operation = some op₁) (hsocket : op₁.socket = op.socket) (htidy : t'.Tidy)
    (hfiles : t'.files + e.closed = t.files + e.opened) (huses : e.OnFile → 0 < t.files)
    (hcloses : ∀ fd, e ≠ .close fd) (hreleases : e ≠ .release) : Accounts t t' e where
  tidy := htidy
  files := Or.inr hfiles
  operation := by
    intro op₂ hop₂
    obtain rfl : op₁ = op₂ := Option.some.inj (hop'.symm.trans hop₂)
    exact ⟨op, hop, hsocket⟩
  uses := huses
  closes := fun fd he => absurd he (hcloses fd)
  frees := by
    rintro result rfl
    cases hop'
  ended := by
    rintro result rfl
    cases hop'
  releases := fun he => absurd he hreleases

/-- A call of a transfer, with the file open before and behind it. -/
theorem Accounts.of_inTransfer {op₁ : OperationData} (hop : t.operation = some op)
    (hop' : t'.operation = some op₁) (hsocket : op₁.socket = op.socket) (htidy : t'.Tidy)
    (hopen : 0 < t.files) (hfiles : t'.files = t.files) (he : e.InTransfer) :
    Accounts t t' e := by
  refine Accounts.of_operation hop hop' hsocket htidy ?_ (fun _ => hopen) ?_ ?_
  · rw [Event.closed_of_inTransfer he, Event.opened_of_inTransfer he, hfiles]
  · rintro fd rfl
    exact he
  · rintro rfl
    exact he

theorem Accounts.of_fault (huses : e.OnFile → 0 < t.files) (hcloses : ∀ fd, e ≠ .close fd)
    (hreleases : e ≠ .release) : Accounts t .fault e where
  tidy := trivial
  files := Or.inl rfl
  operation := by simp [TaskState.operation]
  uses := huses
  closes := fun fd he => absurd he (hcloses fd)
  frees := by simp
  ended := by simp
  releases := fun he => absurd he hreleases

end Behind

section Steps

variable {host : Host} {t t' : TaskState} {e : Event}

/-- `tftp_fill_transfer_data` goes on or has returned. -/
theorem accounts_afterFill {op : OperationData} {s : FillState} (hop : t.operation = some op)
    (hsocket : s.op.socket = op.socket) (hfile : s.FileAt)
    (hfiles : s.fileOpen.toNat = t.files + e.opened) (hclosed : e.closed = 0)
    (honFile : ¬ e.OnFile) (hcloses : ∀ fd, e ≠ .close fd) (hreleases : e ≠ .release) :
    Accounts t (afterFill s) e := by
  have huses : e.OnFile → 0 < t.files := fun hon => absurd hon honFile
  unfold afterFill
  split
  · -- a fill that is ready hands the stream over to the transfer
    rename_i b tx hpoint
    have hopen : s.fileOpen = true := by simpa [FillState.FileAt, hpoint] using hfile
    rw [hopen] at hfiles
    split
    · exact Accounts.of_operation hop rfl hsocket trivial (by rw [hclosed]; exact hfiles)
        huses hcloses hreleases
    · exact Accounts.of_operation hop rfl hsocket trivial (by rw [hclosed]; exact hfiles)
        huses hcloses hreleases
  · split
    · -- a fill that failed closes the stream if it has one
      unfold freeTransferData
      split
      · rename_i hopen
        rw [hopen] at hfiles
        exact Accounts.of_operation hop rfl hsocket trivial
          (by rw [hclosed]; exact hfiles) huses hcloses hreleases
      · rename_i hopen
        rw [Bool.eq_false_iff.mpr hopen] at hfiles
        exact Accounts.of_freeOperationData hop hsocket (by rw [hclosed]; exact hfiles) huses
          hcloses hreleases
    · exact Accounts.of_fault huses hcloses hreleases
  · exact Accounts.of_operation hop rfl hsocket hfile (by rw [hclosed]; exact hfiles) huses
      hcloses hreleases

theorem accounts_afterReceive {b : BlockSize} {s s' : ReceiveState b}
    (h : tftpReceiveFile host s e = some s') : Accounts (.receiving b s) (afterReceive s') e := by
  obtain ⟨hsocket, he⟩ := ReceiveState.socket_step h
  unfold afterReceive
  split
  · split
    · exact Accounts.of_inTransfer rfl rfl hsocket trivial Nat.one_pos rfl he
    · exact Accounts.of_inTransfer rfl rfl hsocket trivial Nat.one_pos rfl he
  · refine Accounts.of_fault (fun _ => Nat.one_pos) ?_ ?_
    · rintro fd rfl
      exact he
    · rintro rfl
      exact he
  · exact Accounts.of_inTransfer rfl rfl hsocket trivial Nat.one_pos rfl he

theorem accounts_afterTransmit {b : BlockSize} {s s' : TransmitState b}
    (h : tftpTransmitFile host s e = some s') :
    Accounts (.transmitting b s) (afterTransmit s') e := by
  obtain ⟨hsocket, he⟩ := TransmitState.socket_step h
  unfold afterTransmit
  split
  · exact Accounts.of_inTransfer rfl rfl hsocket trivial Nat.one_pos rfl he
  · exact Accounts.of_inTransfer rfl rfl hsocket trivial Nat.one_pos rfl he

/-- A reply to a deletion that failed, or the end behind it. -/
theorem accounts_failDelete {t : TaskState} {op : OperationData} (reply : ErrorReply)
    (hop : t.operation = some op) (hfiles : e.closed = t.files + e.opened)
    (huses : e.OnFile → 0 < t.files) (hcloses : ∀ fd, e ≠ .close fd) (hreleases : e ≠ .release) :
    Accounts t (failDelete op reply) e := by
  unfold failDelete
  split
  · exact Accounts.of_operation hop rfl rfl trivial (by simp [files, hfiles]) huses hcloses
      hreleases
  · exact Accounts.of_freeOperationData hop rfl hfiles huses hcloses hreleases

theorem accounts_deleting {point : DeletePoint} {op : OperationData}
    (h : serverDeleteFile host point op e = some t') : Accounts (.deleting point op) t' e := by
  cases delete_called h with
  | acknowledging ok =>
      exact Accounts.of_operation rfl rfl rfl trivial rfl (by simp [Event.OnFile]) (by simp)
        (by simp)
  | opened =>
      exact Accounts.of_operation rfl rfl rfl trivial rfl (by simp [Event.OnFile]) (by simp)
        (by simp)
  | missing errno =>
      exact accounts_failDelete _ rfl rfl (by simp [Event.OnFile]) (by simp) (by simp)
  | closing =>
      exact Accounts.of_operation rfl rfl rfl trivial rfl (fun _ => Nat.one_pos) (by simp)
        (by simp)
  | removed =>
      exact Accounts.of_operation rfl rfl rfl trivial rfl (by simp [Event.OnFile]) (by simp)
        (by simp)
  | kept errno =>
      exact accounts_failDelete _ rfl rfl (by simp [Event.OnFile]) (by simp) (by simp)
  | confirming ok =>
      exact Accounts.of_freeOperationData rfl rfl rfl (by simp [Event.OnFile]) (by simp) (by simp)
  | failing reply ok =>
      exact Accounts.of_freeOperationData rfl rfl rfl (by simp [Event.OnFile]) (by simp) (by simp)

/-- The `switch` on the operation, behind the look at `should_terminate`. -/
theorem accounts_dispatch (op : OperationData) :
    Accounts (.starting op) (dispatch op) (.poll false) := by
  unfold dispatch
  split
  · exact Accounts.of_operation rfl rfl rfl trivial rfl False.elim (by simp) (by simp)
  · exact Accounts.of_operation rfl rfl rfl trivial rfl False.elim (by simp) (by simp)
  · exact Accounts.of_operation rfl rfl rfl trivial rfl False.elim (by simp) (by simp)
  · exact Accounts.of_freeOperationData rfl rfl rfl False.elim (by simp) (by simp)
  · exact Accounts.of_freeOperationData rfl rfl rfl False.elim (by simp) (by simp)

/-- Every call of a task. -/
theorem accounts_step (htidy : t.Tidy) (hstep : serverTaskStart host t e = some t') :
    Accounts t t' e := by
  cases task_called hstep with
  | starting op set =>
      cases set with
      | false => exact accounts_dispatch op
      | true =>
          exact
            { tidy := trivial
              files := Or.inr rfl
              operation := by simp [TaskState.operation]
              uses := False.elim
              closes := by simp
              frees := fun _ _ => Or.inl ⟨op, rfl, rfl⟩
              ended := by simp
              releases := by simp }
  | allocating op block =>
      refine accounts_afterFill rfl ?_ (FillState.fileAt_start _ _ _) ?_ rfl
        (by simp [Event.OnFile]) (by simp) (by simp)
      · rw [FillState.start_op]
      · rw [FillState.start_fileOpen]
        rfl
  | filling s s' hs =>
      have hfill := FillState.accounts_step htidy hs
      obtain ⟨hclosed, honFile, hreleases, hcloses⟩ := hfill.call
      exact accounts_afterFill rfl hfill.socket hfill.fileAt hfill.files hclosed honFile hcloses
        hreleases
  | acknowledging b op tx ok =>
      cases ok with
      | true =>
          exact Accounts.of_operation rfl rfl rfl trivial rfl False.elim (by simp)
            (by simp)
      | false =>
          exact Accounts.of_operation rfl rfl rfl trivial rfl False.elim (by simp)
            (by simp)
  | receiving b s s' hs => exact accounts_afterReceive hs
  | transmitting b s s' hs => exact accounts_afterTransmit hs
  | deleting point op hdelete => exact accounts_deleting hdelete
  | closingPartial op =>
      exact Accounts.of_operation rfl rfl rfl trivial rfl (fun _ => Nat.one_pos) (by simp)
        (by simp)
  | removingPartial op error =>
      exact Accounts.of_freeOperationData rfl rfl rfl False.elim (by simp) (by simp)
  | closingFile op result =>
      exact Accounts.of_freeOperationData rfl rfl rfl (fun _ => Nat.one_pos) (by simp) (by simp)
  | closingSocket op result =>
      -- with the socket the operation is gone too
      exact
        { tidy := trivial
          files := Or.inr rfl
          operation := by simp [TaskState.operation]
          uses := False.elim
          closes := by
            intro fd' he
            obtain rfl := Event.close.inj he
            exact ⟨op, result, rfl, rfl, rfl⟩
          frees := by
            intro result' hresult
            obtain rfl := TaskState.releasing.inj hresult
            exact Or.inr (Or.inl ⟨op, rfl, rfl⟩)
          ended := by simp
          releases := by simp }
  | releasing result =>
      exact
        { tidy := trivial
          files := Or.inr rfl
          operation := by simp [TaskState.operation]
          uses := False.elim
          closes := by simp
          frees := by simp
          ended := by
            intro result' hresult
            rw [TaskState.ended.inj hresult]
          releases := fun _ => ⟨result, rfl, rfl⟩ }

end Steps

end TaskState

end Stftpu
