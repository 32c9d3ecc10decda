import Stftpu.Common

/-!
# `tftp_init_operation_data`

The checks every operation passes before it starts, on the client with the command
line's strings and on the server with the request's.  `none` is a read or write
outside a block.
-/

namespace Stftpu

open Library

/-- The arguments of `tftp_init_operation_data`. -/
structure InitArguments where
  operation : OperationId
  peer : SockAddr
  filename : CharPtr
  mode : Option CharPtr
  blocksize : Option CharPtr
  deriving DecidableEq, Repr

/-- What `tftp_init_operation_data` came to. -/
inductive InitOutcome
  /-- The program exited. -/
  | exits
  /-- `NULL`, behind an ERROR packet and the release of the operation data. -/
  | rejected (fd : Int) (reply : ErrorReply)
  | created (op : OperationData)
  deriving DecidableEq, Repr

/-- The loop over `transfer_mode_strings`. -/
def lookupTransferMode :
    List (TFTPTransferMode × List UInt8) → CharPtr → Option TFTPTransferMode
  | [], _ => some .unspecified
  | (mode, literal) :: rest, p => do
      if ← strcasecmpEq p literal then some mode else lookupTransferMode rest p

/-- The transfer mode a mode string stands for. -/
def chooseTransferMode : Option CharPtr → Option TFTPTransferMode
  | none => some .octet
  | some p => do
      if (← strlen p) = 0 then some .octet else lookupTransferMode transferModeStrings p

/-- The block size asked for; `block_size` is a `uint16_t`. -/
def requestedBlockSize : Option CharPtr → Option UInt16
  | none => some 0
  | some p => (atoi p).map fun v => UInt16.ofNat (v % 65536).toNat

/-- The check of the block size. -/
def checkBlockSize (op : OperationData) (size : UInt16) : InitOutcome :=
  if size = 0 then
    .created { op with blockSize := UInt16.ofNat tftpBlksizeDefault }
  else if size.toNat < tftpBlksizeMin ∨ size.toNat > tftpBlksizeMax then
    .rejected op.dataSocket
      { code := TFTPErrorCode.illegalOperation.code
        message := ascii "unsupported block size. Valid range is "
        item := some (ascii "8-65464") }
  else
    .created { op with blockSize := size }

/-- The item of the reply to an unsupported transfer mode. -/
def modeItem : Option CharPtr → Option (Option (List UInt8))
  | none => some none
  | some p => (cstr p).map some

/-- The checks of a transfer's mode and block size. -/
def checkTransfer (op : OperationData) (args : InitArguments) : Option InitOutcome := do
  match ← chooseTransferMode args.mode with
  | .octet =>
      let size ← requestedBlockSize args.blocksize
      some (checkBlockSize { op with transferMode := .octet } size)
  | _ =>
      let item ← modeItem args.mode
      some (.rejected op.dataSocket
        { code := TFTPErrorCode.illegalOperation.code
          message := ascii "invalid transfer mode: "
          item := item })

/-- The operation data behind the copy of the path, everything else cleared. -/
def blankOperation (args : InitArguments) (fd : Int) (port : UInt16) (path : List UInt8)
    (pathLen : UInt16) : OperationData :=
  { operationId := args.operation
    transferMode := .octet
    blockSize := 0
    pathLen := pathLen
    dataSocket := fd
    localAddress := { address := 0, port := port }
    peerAddress := args.peer
    path := path }

/-- `tftp_init_operation_data`.  The block allocated has `filename_length` bytes behind
the fields, a `uint16_t`, and `strcpy` writes the whole path there. -/
def tftpInitOperationData (socket : DataSocket) (args : InitArguments) :
    Option InitOutcome := do
  let path ← cstr args.filename
  let filenameLength := UInt16.ofNat (path.length + 1)
  match socket with
  | .exits => some .exits
  | .bound fd port =>
      if args.operation = .undefined then
        some (.rejected fd
          { code := TFTPErrorCode.illegalOperation.code
            message := ascii "Invalid operation ID"
            item := none })
      else if path.length + 1 ≤ filenameLength.toNat then
        let op := blankOperation args fd port path filenameLength
        if args.operation = .requestDelete ∨ args.operation = .handleDelete then
          some (.created op)
        else
          checkTransfer op args
      else
        none

/-! ### What the function returns -/

/-- The operation is one without a file to transfer. -/
def OperationId.isDelete : OperationId → Bool
  | .requestDelete => true
  | .handleDelete => true
  | _ => false

theorem isDelete_iff {operation : OperationId} :
    operation = .requestDelete ∨ operation = .handleDelete ↔ operation.isDelete = true := by
  cases operation <;> simp [OperationId.isDelete]

/-- The outcomes of `tftp_init_operation_data`, with the checks that lead to each. -/
inductive InitReturned (args : InitArguments) : DataSocket → InitOutcome → Prop
  | exits : InitReturned args .exits .exits
  | undefined (fd : Int) (port : UInt16) (hoperation : args.operation = .undefined) :
      InitReturned args (.bound fd port)
        (.rejected fd
          { code := TFTPErrorCode.illegalOperation.code
            message := ascii "Invalid operation ID"
            item := none })
  | deletion (fd : Int) (port : UInt16) (path : List UInt8)
      (hpath : cstr args.filename = some path) (hlen : path.length < 65535)
      (hdelete : args.operation.isDelete = true) :
      InitReturned args (.bound fd port)
        (.created (blankOperation args fd port path (UInt16.ofNat (path.length + 1))))
  | transfer (fd : Int) (port : UInt16) (path : List UInt8) (size : UInt16)
      (hpath : cstr args.filename = some path) (hlen : path.length < 65535)
      {outcome : InitOutcome}
      (hcheck : checkBlockSize
        (blankOperation args fd port path (UInt16.ofNat (path.length + 1))) size = outcome) :
      InitReturned args (.bound fd port) outcome
  | mode (fd : Int) (port : UInt16) (item : Option (List UInt8))
      (hitem : modeItem args.mode = some item) :
      InitReturned args (.bound fd port)
        (.rejected fd
          { code := TFTPErrorCode.illegalOperation.code
            message := ascii "invalid transfer mode: "
            item := item })

theorem init_returned {args : InitArguments} {socket : DataSocket} {outcome : InitOutcome}
    (h : tftpInitOperationData socket args = some outcome) : InitReturned args socket outcome := by
  obtain ⟨path, hpath, h⟩ := Option.bind_eq_some_iff.mp h
  cases socket with
  | exits =>
      obtain rfl := Option.some.inj h
      exact .exits
  | bound fd port =>
      simp only at h
      split at h
      · rename_i hoperation
        obtain rfl := Option.some.inj h
        exact .undefined fd port hoperation
      · split at h
        · rename_i hfit
          have hlen : path.length < 65535 := by
            have := (UInt16.ofNat (path.length + 1)).toNat_lt
            omega
          split at h
          · rename_i hdelete
            obtain rfl := Option.some.inj h
            exact .deletion fd port path hpath hlen (isDelete_iff.mp hdelete)
          · obtain ⟨mode, -, h⟩ := Option.bind_eq_some_iff.mp h
            split at h
            · obtain ⟨size, -, hcheck⟩ := Option.bind_eq_some_iff.mp h
              exact .transfer fd port path size hpath hlen (Option.some.inj hcheck)
            · obtain ⟨item, hitem, hreject⟩ := Option.bind_eq_some_iff.mp h
              obtain rfl := Option.some.inj hreject
              exact .mode fd port item hitem
        · -- the path does not fit
          cases h

/-! ### What an accepted operation looks like -/

section Created

variable {args : InitArguments} {fd : Int} {port : UInt16} {op : OperationData}
  {path : List UInt8}

theorem created_of_checkBlockSize {size : UInt16} {base : OperationData}
    (h : checkBlockSize base size = .created op) :
    op = { base with blockSize := op.blockSize } ∧
      tftpBlksizeMin ≤ op.blockSize.toNat ∧ op.blockSize.toNat ≤ tftpBlksizeMax := by
  unfold checkBlockSize at h
  split at h
  · obtain rfl := InitOutcome.created.inj h
    refine ⟨rfl, ?_, ?_⟩
    · show tftpBlksizeMin ≤ (UInt16.ofNat tftpBlksizeDefault).toNat
      decide
    · show (UInt16.ofNat tftpBlksizeDefault).toNat ≤ tftpBlksizeMax
      decide
  · split at h
    · cases h
    · rename_i hrange
      obtain rfl := InitOutcome.created.inj h
      refine ⟨rfl, ?_, ?_⟩
      · show _ ≤ size.toNat
        omega
      · show size.toNat ≤ _
        omega

/-- An operation that is accepted keeps its identifier and path; a transfer is in octet
mode and its block size in range. -/
theorem created_fields (h : tftpInitOperationData (.bound fd port) args = some (.created op))
    (hpath : cstr args.filename = some path) :
    op.operationId = args.operation ∧ op.path = path ∧
      op.pathLen = UInt16.ofNat (path.length + 1) ∧ op.transferMode = .octet ∧
      (args.operation.isDelete = false →
        tftpBlksizeMin ≤ op.blockSize.toNat ∧ op.blockSize.toNat ≤ tftpBlksizeMax) := by
  cases init_returned h with
  | deletion fd port path' hpath' hlen hdelete =>
      obtain rfl := Option.some.inj (hpath.symm.trans hpath')
      refine ⟨rfl, rfl, rfl, rfl, ?_⟩
      intro hnot
      rw [hdelete] at hnot
      cases hnot
  | transfer fd port path' size hpath' hlen hcheck =>
      obtain rfl := Option.some.inj (hpath.symm.trans hpath')
      obtain ⟨hop, hrange⟩ := created_of_checkBlockSize hcheck
      rw [hop]
      exact ⟨rfl, rfl, rfl, rfl, fun _ => hrange⟩

/-- Its path fits in the block allocated for it. -/
theorem created_length_lt {socket : DataSocket}
    (h : tftpInitOperationData socket args = some (.created op)) : op.path.length < 65535 := by
  cases init_returned h with
  | deletion fd port path hpath hlen hdelete => exact hlen
  | transfer fd port path size hpath hlen hcheck =>
      rw [(created_of_checkBlockSize hcheck).1]
      exact hlen

/-- Only an operation with a bound socket and a path is accepted. -/
theorem created_bound {socket : DataSocket}
    (h : tftpInitOperationData socket args = some (.created op)) :
    ∃ fd port path, socket = .bound fd port ∧ cstr args.filename = some path := by
  cases init_returned h with
  | deletion fd port path hpath hlen hdelete => exact ⟨fd, port, path, rfl, hpath⟩
  | transfer fd port path size hpath hlen hcheck => exact ⟨fd, port, path, rfl, hpath⟩

theorem created_operation {socket : DataSocket}
    (h : tftpInitOperationData socket args = some (.created op)) :
    op.operationId = args.operation ∧
      (args.operation.isDelete = false →
        tftpBlksizeMin ≤ op.blockSize.toNat ∧ op.blockSize.toNat ≤ tftpBlksizeMax) := by
  obtain ⟨fd, port, path, rfl, hpath⟩ := created_bound h
  obtain ⟨hoperation, -, -, -, hrange⟩ := created_fields h hpath
  exact ⟨hoperation, hrange⟩

theorem created_peer {socket : DataSocket}
    (h : tftpInitOperationData socket args = some (.created op)) :
    op.peerAddress = args.peer := by
  cases init_returned h with
  | deletion fd port path hpath hlen hdelete => rfl
  | transfer fd port path size hpath hlen hcheck =>
      rw [(created_of_checkBlockSize hcheck).1]
      rfl

/-- The block size of a transfer is the one asked for, or the default. -/
theorem created_blockSize {socket : DataSocket}
    (h : tftpInitOperationData socket args = some (.created op))
    (hnotDelete : args.operation.isDelete = false) :
    ∃ size, requestedBlockSize args.blocksize = some size ∧
      op.blockSize = if size = 0 then UInt16.ofNat tftpBlksizeDefault else size := by
  obtain ⟨fd, port, path, rfl, hpath⟩ := created_bound h
  have hno : ¬ (args.operation = .requestDelete ∨ args.operation = .handleDelete) := by
    rw [isDelete_iff, hnotDelete]
    decide
  simp only [tftpInitOperationData, hpath, Option.bind_eq_bind, Option.bind_some, hno,
    if_false] at h
  split at h
  · cases h
  · split at h
    · obtain ⟨mode, -, h⟩ := Option.bind_eq_some_iff.mp h
      split at h
      · obtain ⟨size, hsize, hcheck⟩ := Option.bind_eq_some_iff.mp h
        refine ⟨size, hsize, ?_⟩
        have houtcome := Option.some.inj hcheck
        unfold checkBlockSize at houtcome
        split at houtcome
        · rename_i hzero
          obtain rfl := InitOutcome.created.inj houtcome
          rw [if_pos hzero]
        · rename_i hpositive
          split at houtcome
          · cases houtcome
          · obtain rfl := InitOutcome.created.inj houtcome
            rw [if_neg hpositive]
      · obtain ⟨item, -, hreject⟩ := Option.bind_eq_some_iff.mp h
        cases Option.some.inj hreject
    · cases h

/-- The socket an outcome is left with. -/
def InitOutcome.socket : InitOutcome → Option Int
  | .exits => none
  | .rejected fd _ => some fd
  | .created op => some op.dataSocket

theorem socket_checkBlockSize (base : OperationData) (size : UInt16) :
    (checkBlockSize base size).socket = some base.dataSocket := by
  unfold checkBlockSize
  split
  · rfl
  · split <;> rfl

/-- An operation, and the refusal of one, has the socket that was bound. -/
theorem initOperation_socket {outcome : InitOutcome}
    (h : tftpInitOperationData (.bound fd port) args = some outcome) :
    outcome.socket = some fd := by
  cases init_returned h with
  | undefined fd port hoperation => rfl
  | deletion fd port path hpath hlen hdelete => rfl
  | transfer fd port path size hpath hlen hcheck =>
      rw [← hcheck]
      exact socket_checkBlockSize _ _
  | mode fd port item hitem => rfl

/-- A transfer in octet mode with a block size in range is accepted. -/
theorem tftpInitOperationData_octet (fd : Int) (port : UInt16)
    (hpath : cstr args.filename = some path) (hlen : path.length < 65535)
    (hoperation : args.operation ≠ .undefined)
    (hnotDelete : args.operation.isDelete = false)
    (hmode : chooseTransferMode args.mode = some .octet) {size : UInt16}
    (hsize : requestedBlockSize args.blocksize = some size) :
    tftpInitOperationData (.bound fd port) args =
      some (checkBlockSize
        (blankOperation args fd port path (UInt16.ofNat (path.length + 1))) size) := by
  have hfit : path.length + 1 ≤ (UInt16.ofNat (path.length + 1)).toNat := by
    rw [UInt16.toNat_ofNat']
    omega
  have hno : ¬ (args.operation = .requestDelete ∨ args.operation = .handleDelete) := by
    rw [isDelete_iff, hnotDelete]
    nofun
  simp only [tftpInitOperationData, hpath, Option.bind_eq_bind, Option.bind_some, hoperation,
    if_false, hfit, if_true, hno, checkTransfer, hmode, hsize]
  rfl

/-- A deletion is accepted without further checks. -/
theorem tftpInitOperationData_delete (hpath : cstr args.filename = some path)
    (hlen : path.length < 65535) (hdelete : args.operation.isDelete = true) :
    tftpInitOperationData (.bound fd port) args =
      some (.created
        (blankOperation args fd port path (UInt16.ofNat (path.length + 1)))) := by
  have hfit : path.length + 1 ≤ (UInt16.ofNat (path.length + 1)).toNat := by
    rw [UInt16.toNat_ofNat']
    omega
  have hoperation : args.operation ≠ .undefined := by
    intro hundefined
    rw [hundefined] at hdelete
    cases hdelete
  simp only [tftpInitOperationData, hpath, Option.bind_eq_bind, Option.bind_some, hoperation,
    if_false, hfit, if_true, isDelete_iff.mpr hdelete]

end Created

/-! ### Reads of the strings -/

section Reads

variable {p : CharPtr} {args : InitArguments}

theorem transferModeStrings_ne_zero :
    ∀ entry ∈ transferModeStrings, ∀ l ∈ entry.2, l ≠ 0 := by
  intro entry hentry
  have hall : transferModeStrings.all (fun entry => entry.2.all (fun c => c != 0)) = true := by
    decide
  exact ne_zero_of_all (List.all_eq_true.mp hall entry hentry)

theorem lookupTransferMode_isSome (hp : 0 ∈ p) {modes : List (TFTPTransferMode × List UInt8)}
    (hmodes : ∀ entry ∈ modes, ∀ l ∈ entry.2, l ≠ 0) :
    ∃ mode, lookupTransferMode modes p = some mode := by
  induction modes with
  | nil => exact ⟨_, rfl⟩
  | cons entry modes ih =>
      have hcompare := strcasecmpEq_of_cstr (cstr_of_mem hp) (hmodes entry (by simp))
      obtain ⟨mode, hmode⟩ := ih fun other hother => hmodes other (by simp [hother])
      simp only [lookupTransferMode, hcompare, Option.bind_eq_bind, Option.bind_some]
      split
      · exact ⟨_, rfl⟩
      · exact ⟨mode, hmode⟩

theorem chooseTransferMode_isSome (hmode : ∀ p ∈ args.mode, 0 ∈ p) :
    ∃ mode, chooseTransferMode args.mode = some mode := by
  cases hargs : args.mode with
  | none => exact ⟨_, rfl⟩
  | some p =>
      have hp := hmode p hargs
      simp only [chooseTransferMode, strlen_of_cstr (cstr_of_mem hp), Option.bind_eq_bind,
        Option.bind_some]
      split
      · exact ⟨_, rfl⟩
      · exact lookupTransferMode_isSome hp transferModeStrings_ne_zero

theorem requestedBlockSize_isSome (hsize : ∀ p ∈ args.blocksize, (atoi p).isSome = true) :
    ∃ size, requestedBlockSize args.blocksize = some size := by
  cases hargs : args.blocksize with
  | none => exact ⟨_, rfl⟩
  | some p =>
      obtain ⟨v, hv⟩ := Option.isSome_iff_exists.mp (hsize p hargs)
      exact ⟨UInt16.ofNat (v % 65536).toNat, by simp [requestedBlockSize, hv]⟩

/-- The strings read behind the data socket end in memory that can be read: that of the mode
and, in octet mode, the number at that of the block size. -/
def InitArguments.StringsEnd (args : InitArguments) : Prop :=
  args.operation.isDelete = true ∨
    (∀ p ∈ args.mode, 0 ∈ p) ∧
      (chooseTransferMode args.mode = some .octet → ∀ p ∈ args.blocksize, (atoi p).isSome = true)

theorem mem_of_chooseTransferMode {mode : TFTPTransferMode}
    (h : chooseTransferMode args.mode = some mode) : ∀ p ∈ args.mode, 0 ∈ p := by
  intro p hp
  rw [Option.mem_def.mp hp] at h
  obtain ⟨length, hlength, -⟩ := Option.bind_eq_some_iff.mp h
  obtain ⟨string, hstring, -⟩ := Option.map_eq_some_iff.mp hlength
  exact mem_of_cstr hstring

theorem checkTransfer_isSome_iff (op : OperationData) :
    (∃ outcome, checkTransfer op args = some outcome) ↔
      (∀ p ∈ args.mode, 0 ∈ p) ∧
        (chooseTransferMode args.mode = some .octet →
          ∀ p ∈ args.blocksize, (atoi p).isSome = true) := by
  constructor
  · rintro ⟨outcome, houtcome⟩
    obtain ⟨mode, hmode, hrest⟩ := Option.bind_eq_some_iff.mp houtcome
    refine ⟨mem_of_chooseTransferMode hmode, ?_⟩
    intro hoctet p hp
    rw [hmode] at hoctet
    obtain rfl := Option.some.inj hoctet
    obtain ⟨size, hsize, -⟩ := Option.bind_eq_some_iff.mp hrest
    rw [Option.mem_def.mp hp] at hsize
    obtain ⟨v, hv, -⟩ := Option.map_eq_some_iff.mp hsize
    rw [hv]
    rfl
  · rintro ⟨hmode, hsize⟩
    obtain ⟨mode, hchoose⟩ := chooseTransferMode_isSome hmode
    simp only [checkTransfer, hchoose, Option.bind_eq_bind, Option.bind_some]
    split
    · obtain ⟨size, hrequested⟩ := requestedBlockSize_isSome (hsize hchoose)
      rw [hrequested]
      exact ⟨_, rfl⟩
    · cases hargs : args.mode with
      | none => exact ⟨_, rfl⟩
      | some p =>
          simp only [modeItem, cstr_of_mem (hmode p hargs), Option.map_some, Option.bind_some]
          exact ⟨_, rfl⟩

/-- Behind the data socket the strings that end are all the function reads, and a path of
fewer than 65535 bytes is all it writes. -/
theorem tftpInitOperationData_isSome_iff (fd : Int) (port : UInt16) {path : List UInt8}
    (hname : cstr args.filename = some path) (hlen : path.length < 65535)
    (hoperation : args.operation ≠ .undefined) :
    (∃ outcome, tftpInitOperationData (.bound fd port) args = some outcome) ↔
      args.StringsEnd := by
  have hfit : path.length + 1 ≤ (UInt16.ofNat (path.length + 1)).toNat := by
    rw [UInt16.toNat_ofNat']
    omega
  simp only [tftpInitOperationData, hname, Option.bind_eq_bind, Option.bind_some, hoperation,
    if_false, hfit, if_true, isDelete_iff]
  split
  · rename_i hdelete
    exact iff_of_true ⟨_, rfl⟩ (Or.inl hdelete)
  · rename_i htransfer
    rw [checkTransfer_isSome_iff, InitArguments.StringsEnd, or_iff_right htransfer]

/-- Terminated strings are all the function reads. -/
theorem tftpInitOperationData_isSome (socket : DataSocket) {path : List UInt8}
    (hname : cstr args.filename = some path) (hlen : path.length < 65535)
    (hmode : ∀ p ∈ args.mode, 0 ∈ p) (hsize : ∀ p ∈ args.blocksize, 0 ∈ p) :
    ∃ outcome, tftpInitOperationData socket args = some outcome := by
  cases socket with
  | exits =>
      simp only [tftpInitOperationData, hname, Option.bind_eq_bind, Option.bind_some]
      exact ⟨_, rfl⟩
  | bound fd port =>
      by_cases hoperation : args.operation = .undefined
      · simp only [tftpInitOperationData, hname, Option.bind_eq_bind, Option.bind_some,
          hoperation, if_true]
        exact ⟨_, rfl⟩
      · refine (tftpInitOperationData_isSome_iff fd port hname hlen hoperation).mpr ?_
        refine Or.inr ⟨hmode, ?_⟩
        intro _ p hp
        obtain ⟨v, hv⟩ := atoi_isSome (hsize p hp)
        rw [hv]
        rfl

end Reads

end Stftpu
