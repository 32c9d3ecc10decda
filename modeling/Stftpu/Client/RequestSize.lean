import Stftpu.BlockSizes
import Stftpu.Server.RoundTrip

/-!
# The sizes of a request

`filename_length`, `path_len` and `contents_idx` are `uint16_t`, while `strlen` and the sizes of
the packet are `size_t`.  A filename of the command line may be longer than the former can say.

* `requestStatement` — `send_request_packet` statement by statement.
* `sendRequestPacket_eq_exec` — the packet is what they come to.
* `everyStep_sound_iff` — where the statements stay, read off their lengths.
* `request_sized_iff` — the lengths for which nothing wraps and every field has its place.
-/

namespace Stftpu

open Library

/-! ## `send_request_packet`, statement by statement -/

/-- A statement behind the opcode of the request. -/
inductive RequestStatement
  /-- `memcpy (request_packet_ptr->request.contents + contents_idx, p, n)`. -/
  | copy (p : CharPtr) (n : Nat)
  /-- `contents_idx += n`. -/
  | advance (n : Nat)
  deriving DecidableEq, Repr

/-- The request while it is written. -/
structure RequestBlock where
  /-- The `full_packet_size` bytes allocated. -/
  packet : List UInt8
  contentsIdx : UInt16
  deriving DecidableEq, Repr

/-- The effect of a statement, unless it reads or writes outside its blocks. -/
def requestStatement (s : RequestBlock) : RequestStatement → Option RequestBlock
  | .copy p n =>
      (memcpy s.packet (2 + s.contentsIdx.toNat) p n).map fun packet => { s with packet := packet }
  | .advance n => some { s with contentsIdx := s.contentsIdx + UInt16.ofNat n }

/-- The block size option. -/
def blockSizeStatements (op : OperationData) : List RequestStatement :=
  if customBlockSize op then
    [.advance 1, .copy (tftpBlksizeString ++ [0]) 8, .advance 8,
      .copy (decimal5 op.blockSize ++ [0]) 6, .advance 6]
  else
    []

/-- The fields a delete request does not have. -/
def transferStatements (op : OperationData) : List RequestStatement :=
  if op.operationId = .requestDelete then
    []
  else
    let mode := transferModeString op.transferMode
    .copy (mode ++ [0]) mode.length :: .advance mode.length :: blockSizeStatements op

def requestStatements (op : OperationData) (name : CharPtr) (filenameLen : Nat) :
    List RequestStatement :=
  .copy name filenameLen :: .advance filenameLen :: transferStatements op

/-- The block behind the opcode. -/
def requestBlock (op : OperationData) (opcode : TFTPOpcode) (filenameLen : Nat) : RequestBlock :=
  { packet := wire16 opcode.code ++ List.replicate (contentsSize op filenameLen + 2) 0
    contentsIdx := 0 }

/-! ### The packet is what the statements come to -/

section Exec

variable {op : OperationData} {opcode : TFTPOpcode} {name : CharPtr} {filenameLen : Nat}
  {s : RequestBlock}

theorem contentsIdx_advance (s : RequestBlock) (n : Nat) :
    (s.contentsIdx + UInt16.ofNat n).toNat = (s.contentsIdx.toNat + n) % 65536 := by
  rw [UInt16.toNat_add, UInt16.toNat_ofNat']
  omega

theorem exec_blockSize (op : OperationData) (s : RequestBlock) :
    (exec requestStatement s (blockSizeStatements op)).map RequestBlock.packet =
      writeBlockSize op s.packet s.contentsIdx.toNat := by
  unfold blockSizeStatements writeBlockSize
  split
  · -- the option is written: its name, then its digits
    simp only [exec, requestStatement, contentsIdx_advance]
    cases memcpy s.packet (2 + (s.contentsIdx.toNat + 1) % 65536) (tftpBlksizeString ++ [0]) 8 with
    | none => rfl
    | some packet =>
        simp only [Option.map_some, contentsIdx_advance, Option.bind_eq_bind, Option.bind_some]
        cases memcpy packet (2 + ((s.contentsIdx.toNat + 1) % 65536 + 8) % 65536)
          (decimal5 op.blockSize ++ [0]) 6 with
        | none => rfl
        | some packet => rfl
  · -- the default size is not asked for, and there is nothing to run
    rfl

theorem exec_transfer (op : OperationData) (s : RequestBlock) :
    (exec requestStatement s (transferStatements op)).map RequestBlock.packet =
      writeTransferFields op s.packet s.contentsIdx.toNat := by
  unfold transferStatements writeTransferFields
  split
  · -- a deletion names no mode
    rfl
  · simp only [exec, requestStatement]
    cases memcpy s.packet (2 + s.contentsIdx.toNat) (transferModeString op.transferMode ++ [0])
      (transferModeString op.transferMode).length with
    | none => rfl
    | some packet =>
        simp only [Option.map_some, exec_blockSize, contentsIdx_advance, Option.bind_eq_bind,
          Option.bind_some]

/-- The packet that is sent is what the statements make of the block. -/
theorem sendRequestPacket_eq_exec (hname : filenameInPath op = some (name, filenameLen))
    (hmode : op.operationId ≠ .requestDelete → op.transferMode ≠ .unspecified)
    (hopcode : requestOpcode op.operationId = some opcode) :
    sendRequestPacket op =
      (exec requestStatement (requestBlock op opcode filenameLen)
        (requestStatements op name filenameLen)).map fun s => .built s.packet := by
  have hspecified : ¬ (op.operationId ≠ .requestDelete ∧ op.transferMode = .unspecified) :=
    fun h => hmode h.1 h.2
  have hzero : 2 + (0 : UInt16).toNat = 2 := rfl
  unfold sendRequestPacket requestStatements
  simp only [hname, Option.bind_eq_bind, Option.bind_some, hspecified, if_false, hopcode,
    writeAt_opcode, exec, requestStatement, requestBlock, hzero]
  cases memcpy (wire16 opcode.code ++ List.replicate (contentsSize op filenameLen + 2) 0) 2 name
    filenameLen with
  | none => rfl
  | some packet =>
      -- the filename is in the block, and the index stands behind it
      have hidx : (0 + UInt16.ofNat filenameLen).toNat = filenameLen % 65536 := by
        rw [UInt16.zero_add, UInt16.toNat_ofNat']
      have hfields := exec_transfer op
        { packet := packet, contentsIdx := 0 + UInt16.ofNat filenameLen }
      simp only [hidx] at hfields
      simp only [Option.bind_some, Option.map_some, ← hfields]
      cases exec requestStatement { packet := packet, contentsIdx := 0 + UInt16.ofNat filenameLen }
        (transferStatements op) with
      | none => rfl
      | some s => rfl

end Exec

/-! ## Where the statements stay -/

/-- A copy ends inside the block, and `contents_idx` does not wrap. -/
def RequestStatement.Sound (s : RequestBlock) : RequestStatement → Prop
  | .copy _ n => 2 + s.contentsIdx.toNat + n ≤ s.packet.length
  | .advance n => s.contentsIdx.toNat + n < 65536

/-- What a copy reads is there. -/
def RequestStatement.Readable : RequestStatement → Prop
  | .copy p n => n ≤ p.length
  | .advance _ => True

/-- The same of the lengths alone, for a block of so many bytes. -/
def Layout (size : Nat) : Nat → List RequestStatement → Prop
  | _, [] => True
  | idx, .copy _ n :: statements => 2 + idx + n ≤ size ∧ Layout size idx statements
  | idx, .advance n :: statements => idx + n < 65536 ∧ Layout size (idx + n) statements

/-- As long as the fields can be read, only the lengths matter. -/
theorem everyStep_sound_iff {statements : List RequestStatement}
    (hreads : ∀ statement ∈ statements, statement.Readable) (s : RequestBlock) :
    EveryStep requestStatement RequestStatement.Sound s statements ↔
      Layout s.packet.length s.contentsIdx.toNat statements := by
  -- by induction on the statements: a copy keeps the length, an advance the packet
  induction statements generalizing s with
  | nil => exact Iff.rfl
  | cons statement statements ih =>
      obtain ⟨hfirst, hrest⟩ := List.forall_mem_cons.mp hreads
      cases statement with
      | copy p n =>
          refine and_congr_right ?_
          intro hfit
          obtain ⟨packet, hcopy, hlength⟩ := memcpy_fits hfirst hfit
          simp only [requestStatement, hcopy, Option.map_some, Option.mem_def, Option.some.injEq,
            forall_eq', ih hrest, hlength]
      | advance n =>
          refine and_congr_right ?_
          intro hsmall
          have hidx := contentsIdx_advance s n
          rw [Nat.mod_eq_of_lt hsmall] at hidx
          simp only [requestStatement, Option.mem_def, Option.some.injEq, forall_eq', ih hrest,
            hidx]

section Sizes

variable {op : OperationData} {opcode : TFTPOpcode} {name : CharPtr} {filenameLen : Nat}

/-- How far `contents_idx` is counted behind the filename. -/
def behindFilename (op : OperationData) : Nat :=
  if op.operationId = .requestDelete then
    0
  else
    (transferModeString op.transferMode).length + if customBlockSize op then 15 else 0

theorem requestStatements_readable (hname : filenameLen ≤ name.length) :
    ∀ statement ∈ requestStatements op name filenameLen, statement.Readable := by
  have hblksize : (tftpBlksizeString ++ [0]).length = 8 := by decide
  have hoption : ∀ statement ∈ blockSizeStatements op, statement.Readable := by
    unfold blockSizeStatements
    split
    · simp only [List.forall_mem_cons, RequestStatement.Readable, hblksize]
      simp [decimal5_length]
    · simp
  refine List.forall_mem_cons.mpr ⟨hname, List.forall_mem_cons.mpr ⟨trivial, ?_⟩⟩
  unfold transferStatements
  split
  · simp
  · refine List.forall_mem_cons.mpr ⟨?_, List.forall_mem_cons.mpr ⟨trivial, hoption⟩⟩
    simp [RequestStatement.Readable]

/-- The two bytes behind the fields are what the terminators left out need; only
`contents_idx` may be too narrow. -/
theorem layout_requestStatements :
    Layout (requestBlock op opcode filenameLen).packet.length 0
        (requestStatements op name filenameLen) ↔
      filenameLen + behindFilename op < 65536 := by
  have hsize : (requestBlock op opcode filenameLen).packet.length =
      4 + contentsSize op filenameLen := by
    simp [requestBlock, wire16_length]
    omega
  rw [hsize]
  unfold requestStatements transferStatements blockSizeStatements contentsSize behindFilename
  -- the block is sized by the same cases as the fields are written
  by_cases hdelete : op.operationId = .requestDelete
  · simp only [hdelete, if_true, Layout, and_true]
    omega
  · cases hcustom : customBlockSize op with
    | true =>
        simp only [hdelete, if_false, if_true, Layout, and_true]
        omega
    | false =>
        simp only [hdelete, if_false, Bool.false_eq_true, Layout, and_true]
        omega

end Sizes

/-! ## The request of a command line -/

/-- `filename_length`: so many bytes are allocated for the path, and `path_len` is this. -/
def filenameLength (path : List UInt8) : UInt16 :=
  UInt16.ofNat (path.length + 1)

/-- The fields of a request, in their order. -/
def requestFields (op : OperationData) : List (List UInt8) :=
  afterLast 47 op.path ::
    if op.operationId = .requestDelete then
      []
    else
      transferModeString op.transferMode ::
        if customBlockSize op then [tftpBlksizeString, decimal5 op.blockSize] else []

/-- The request is written inside the block allocated for it without a wrap of `contents_idx`,
and each of its fields is followed by a NUL inside the bytes sent. -/
def RequestInBounds (op : OperationData) : Prop :=
  ∃ name filenameLen opcode packet,
    filenameInPath op = some (name, filenameLen) ∧
    requestOpcode op.operationId = some opcode ∧
    EveryStep requestStatement RequestStatement.Sound (requestBlock op opcode filenameLen)
      (requestStatements op name filenameLen) ∧
    sendRequestPacket op = some (.built packet) ∧
    (requestFields op).flatMap (fun field => field ++ [0]) <+: packet.drop 2

/-- The sizes are right from the filename of the command line to the request that is sent. -/
structure RequestSized (args : InitArguments) (path : List UInt8) : Prop where
  allocated : path.length + 1 ≤ (filenameLength path).toNat
  written : ∀ fd port, ∃ op, tftpInitOperationData (.bound fd port) args = some (.created op) ∧
    op.pathLen.toNat = path.length + 1 ∧ RequestInBounds op

/-- A command line of the client whose mode and block size, if they are looked at, are
accepted. -/
def InitArguments.Accepted (args : InitArguments) (size : UInt16) : Prop :=
  args.operation = .requestDelete ∨
    (args.operation = .receive ∨ args.operation = .send) ∧
      chooseTransferMode args.mode = some .octet ∧ requestedBlockSize args.blocksize = some size ∧
        (size = 0 ∨ tftpBlksizeMin ≤ size.toNat ∧ size.toNat ≤ tftpBlksizeMax)

/-- `contents_idx` is wide enough for the fields of the request. -/
def InitArguments.IndexFits (args : InitArguments) (size : UInt16) (path : List UInt8) : Prop :=
  args.operation = .requestDelete ∨
    (afterLast 47 path).length +
      (if size = 0 ∨ size.toNat = tftpBlksizeDefault then 6 else 21) < 65536

section Requests

variable {op : OperationData} {opcode : TFTPOpcode} {args : InitArguments} {path : List UInt8}
  {size : UInt16}

/-- The fields stand at the start of the contents, one behind the other. -/
theorem requestFields_prefix (hmode : op.transferMode = .octet) :
    (requestFields op).flatMap (fun field => field ++ [0]) <+:
      afterLast 47 op.path ++ 0 :: requestTail op := by
  have hoctet : transferModeString op.transferMode = ascii "octet" := by
    rw [hmode]
    rfl
  unfold requestFields requestTail
  rw [hoctet]
  by_cases hdelete : op.operationId = .requestDelete
  · exact ⟨[0, 0], by simp [hdelete]⟩
  · cases hcustom : customBlockSize op with
    | true => exact ⟨[0], by simp [hdelete]⟩
    | false => exact ⟨[0], by simp [hdelete]⟩

/-- Of an operation whose path has its place, `contents_idx` decides. -/
theorem requestInBounds_iff (hopcode : requestOpcode op.operationId = some opcode)
    (hmode : op.transferMode = .octet) (hpath : ∀ c ∈ op.path, c ≠ 0)
    (hlen : op.path.length < 65535) (hpathLen : op.pathLen = filenameLength op.path) :
    RequestInBounds op ↔ (afterLast 47 op.path).length + 1 + behindFilename op < 65536 := by
  have hfield := filenameInPath_eq hpath hlen hpathLen
  have hreadable : ∀ statement ∈ requestStatements op (afterLast 47 op.path ++ [0])
      ((afterLast 47 op.path).length + 1), statement.Readable :=
    requestStatements_readable (by simp)
  -- the fields can all be read, so only the layout decides
  have hlayout : EveryStep requestStatement RequestStatement.Sound
      (requestBlock op opcode ((afterLast 47 op.path).length + 1))
      (requestStatements op (afterLast 47 op.path ++ [0]) ((afterLast 47 op.path).length + 1)) ↔
        (afterLast 47 op.path).length + 1 + behindFilename op < 65536 := by
    rw [everyStep_sound_iff hreadable]
    exact layout_requestStatements
  constructor
  · rintro ⟨name, filenameLen, opcode', packet, hname, hopcode', hsound, -, -⟩
    rw [hopcode] at hopcode'
    obtain rfl := Option.some.inj hopcode'
    rw [hfield] at hname
    obtain ⟨rfl, rfl⟩ := Prod.mk.inj (Option.some.inj hname)
    exact hlayout.mp hsound
  · intro hfits
    -- the digits of the option end furthest behind, so they fit too
    have hoption : op.operationId ≠ .requestDelete → customBlockSize op = true →
        (afterLast 47 op.path).length + 15 < 65536 := by
      intro htransfer hcustom
      rw [behindFilename, if_neg htransfer, if_pos hcustom] at hfits
      omega
    have hbuilt := sendRequestPacket_eq_of_lt hopcode hmode hpath hlen hpathLen hoption
    refine ⟨_, _, opcode, _, hfield, hopcode, hlayout.mpr hfits, hbuilt, ?_⟩
    exact requestFields_prefix hmode

/-- The index behind the fields, by the block size asked for. -/
theorem behindFilename_of_size {n : Nat} (htransfer : op.operationId ≠ .requestDelete)
    (hmode : op.transferMode = .octet) (hrange : size = 0 ∨ tftpBlksizeMin ≤ size.toNat)
    (hsize : op.blockSize = if size = 0 then UInt16.ofNat tftpBlksizeDefault else size) :
    n + 1 + behindFilename op =
      n + if size = 0 ∨ size.toNat = tftpBlksizeDefault then 6 else 21 := by
  have hoctet : (transferModeString op.transferMode).length = 5 := by
    rw [hmode]
    rfl
  -- only a size that is neither missing nor the default adds the option
  have hcustom : customBlockSize op = !decide (size = 0 ∨ size.toNat = tftpBlksizeDefault) := by
    unfold customBlockSize
    rw [hsize]
    by_cases hzero : size = 0
    · rw [if_pos hzero]
      simp [hzero, tftpBlksizeDefault]
    · have hpos : 0 < size.toNat := by
        have hmin := hrange.resolve_left hzero
        simp only [tftpBlksizeMin] at hmin
        omega
      rw [if_neg hzero]
      by_cases hdefault : size.toNat = tftpBlksizeDefault
      · simp [hdefault]
      · simp [hzero, hdefault, hpos]
  unfold behindFilename
  rw [if_neg htransfer, hoctet, hcustom]
  by_cases hdefault : size = 0 ∨ size.toNat = tftpBlksizeDefault
  · simp only [hdefault, if_true, decide_true, Bool.not_true, Bool.false_eq_true, if_false]
  · simp only [hdefault, if_false, decide_false, Bool.not_false, if_true]

/-- An accepted command line with a path that fits has its operation, with the block size asked
for or the default. -/
theorem created_of_accepted (hpath : cstr args.filename = some path)
    (hlen : path.length < 65535) (haccepted : args.Accepted size) (fd : Int) (port : UInt16) :
    ∃ op, tftpInitOperationData (.bound fd port) args = some (.created op) ∧
      (args.operation ≠ .requestDelete → (size = 0 ∨ tftpBlksizeMin ≤ size.toNat) ∧
        op.blockSize = if size = 0 then UInt16.ofNat tftpBlksizeDefault else size) := by
  rcases haccepted with hdelete | ⟨hoperation, hmode, hsize, hrange⟩
  · refine ⟨_, tftpInitOperationData_delete hpath hlen (by rw [hdelete]; rfl), ?_⟩
    intro htransfer
    exact absurd hdelete htransfer
  · have hnotDelete : args.operation ≠ .undefined ∧ args.operation.isDelete = false := by
      rcases hoperation with hreceive | hsend
      · rw [hreceive]
        exact ⟨nofun, rfl⟩
      · rw [hsend]
        exact ⟨nofun, rfl⟩
    have hinit := tftpInitOperationData_octet fd port hpath hlen hnotDelete.1 hnotDelete.2 hmode
      hsize
    rcases hrange with rfl | ⟨hlow, hhigh⟩
    · exact ⟨_, hinit, fun _ => ⟨Or.inl rfl, rfl⟩⟩
    · have hzero : size ≠ 0 := by
        rintro rfl
        simp [tftpBlksizeMin] at hlow
      -- a size that was given is checked, and is in its range
      obtain ⟨op, hcheck, hblock⟩ := checkBlockSize_in
        (blankOperation args fd port path (UInt16.ofNat (path.length + 1))) hlow hhigh
      rw [hcheck] at hinit
      refine ⟨op, hinit, fun _ => ⟨Or.inr hlow, ?_⟩⟩
      rw [if_neg hzero, hblock]

theorem exists_requestOpcode (haccepted : args.Accepted size) :
    ∃ opcode, requestOpcode args.operation = some opcode := by
  rcases haccepted with hdelete | ⟨hreceive | hsend, -⟩
  · exact ⟨.drq, by rw [hdelete]; rfl⟩
  · exact ⟨.rrq, by rw [hreceive]; rfl⟩
  · exact ⟨.wrq, by rw [hsend]; rfl⟩

/-- The request of an accepted command line is in bounds if `contents_idx` is wide enough. -/
theorem requestInBounds_of_created (hpath : cstr args.filename = some path)
    (hlen : path.length < 65535) (haccepted : args.Accepted size) {fd : Int} {port : UInt16}
    (hcreated : tftpInitOperationData (.bound fd port) args = some (.created op)) :
    RequestInBounds op ↔ args.IndexFits size path := by
  obtain ⟨op', hcreated', hblock⟩ := created_of_accepted hpath hlen haccepted fd port
  rw [hcreated] at hcreated'
  obtain rfl := InitOutcome.created.inj (Option.some.inj hcreated')
  obtain ⟨hid, hopPath, hpathLen, hmode, -⟩ := created_fields hcreated hpath
  obtain ⟨opcode, hopcode⟩ := exists_requestOpcode haccepted
  have hbounds : RequestInBounds op ↔
      (afterLast 47 op.path).length + 1 + behindFilename op < 65536 := by
    refine requestInBounds_iff (hid ▸ hopcode) hmode ?_ (hopPath ▸ hlen) ?_
    · rw [hopPath]
      exact (cstr_eq_some hpath).1
    · rw [hpathLen, hopPath]
      rfl
  rw [hbounds, hopPath, InitArguments.IndexFits]
  by_cases hdelete : args.operation = .requestDelete
  · -- the name is no longer than the path, so a deletion always fits
    have hname := afterLast_length_le 47 path
    rw [behindFilename, if_pos (hid.trans hdelete)]
    exact iff_of_true (by omega) (Or.inl hdelete)
  · obtain ⟨hrange, hsize⟩ := hblock hdelete
    have htransfer : op.operationId ≠ .requestDelete := hid.symm ▸ hdelete
    rw [behindFilename_of_size htransfer hmode hrange hsize, or_iff_right hdelete]

end Requests

/-- For a filename of any length and every accepted mode and block size, the sizes are right
from the allocation of the path to the last byte of the request exactly if the length of the
filename fits `filename_length` and the fields of the request fit `contents_idx`. -/
theorem request_sized_iff {args : InitArguments} {path : List UInt8} {size : UInt16}
    (hpath : cstr args.filename = some path) (haccepted : args.Accepted size) :
    RequestSized args path ↔ path.length < 65535 ∧ args.IndexFits size path := by
  constructor
  · intro h
    have hlen : path.length < 65535 := by
      -- the terminator is counted in, so a path of 65535 bytes wraps the length
      have hallocated := h.allocated
      rw [filenameLength, UInt16.toNat_ofNat'] at hallocated
      omega
    obtain ⟨op, hcreated, -, hbounds⟩ := h.written 0 0
    exact ⟨hlen, (requestInBounds_of_created hpath hlen haccepted hcreated).mp hbounds⟩
  · rintro ⟨hlen, hfits⟩
    have hfilenameLength : (filenameLength path).toNat = path.length + 1 := by
      rw [filenameLength, UInt16.toNat_ofNat']
      omega
    refine ⟨hfilenameLength.ge, ?_⟩
    intro fd port
    obtain ⟨op, hcreated, -⟩ := created_of_accepted hpath hlen haccepted fd port
    obtain ⟨-, -, hpathLen, -, -⟩ := created_fields hcreated hpath
    refine ⟨op, hcreated, ?_, ?_⟩
    · rw [hpathLen]
      exact hfilenameLength
    · exact (requestInBounds_of_created hpath hlen haccepted hcreated).mpr hfits

section FixedRuns

/-- `write <address> <filename> octet 1024`. -/
def writeCommand (path : List UInt8) : InitArguments :=
  { operation := .send
    peer := localhost 69
    filename := path ++ [0]
    mode := some (ascii "octet" ++ [0])
    blocksize := some (ascii "1024" ++ [0]) }

theorem writeCommand_accepted (path : List UInt8) : (writeCommand path).Accepted 1024 := by
  have hmode : chooseTransferMode (some (ascii "octet" ++ [0])) = some .octet := by decide
  have hsize : requestedBlockSize (some (ascii "1024" ++ [0])) = some 1024 := by decide
  exact Or.inr ⟨Or.inr rfl, hmode, hsize, Or.inr (by decide)⟩

/-- A file in a directory. -/
theorem request_sized_short :
    RequestSized (writeCommand (ascii "dir/file")) (ascii "dir/file") :=
  (request_sized_iff (by decide) (writeCommand_accepted _)).mpr
    ⟨by decide, Or.inr (by decide)⟩

/-- A name of 65535 bytes gets no room at all. -/
theorem request_sized_not_long :
    ∃ path, path.length = 65535 ∧ cstr (writeCommand path).filename = some path ∧
      (writeCommand path).Accepted 1024 ∧ ¬ RequestSized (writeCommand path) path := by
  refine ⟨List.replicate 65535 97, List.length_replicate, ?_, writeCommand_accepted _, ?_⟩
  · exact cstr_terminated (fun c hc => by rw [List.eq_of_mem_replicate hc]; decide) []
  · intro h
    have hallocated := h.allocated
    rw [filenameLength, List.length_replicate] at hallocated
    exact absurd hallocated (by decide)

end FixedRuns

end Stftpu
