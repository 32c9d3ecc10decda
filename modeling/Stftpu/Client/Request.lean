import Stftpu.Common

/-!
# `send_request_packet`

The request a client sends: the opcode and the fields behind it, written into a
zeroed block that leaves two spare bytes behind the fields counted.
-/

namespace Stftpu

open Library

/-- `tftp_common.transfer_mode_strings[mode]`. -/
def transferModeString : TFTPTransferMode → List UInt8
  | .unspecified => []
  | .octet => ascii "octet"
  | .netascii => ascii "netascii"
  | .mail => ascii "mail"

/-- `sprintf ("%05u")` of a sixteen-bit value: five digits, whatever the value. -/
def decimal5 (n : UInt16) : List UInt8 :=
  [n.toNat / 10000, n.toNat / 1000 % 10, n.toNat / 100 % 10, n.toNat / 10 % 10, n.toNat % 10].map
    fun d => UInt8.ofNat (48 + d)

/-- What becomes of a request before it is sent. -/
inductive RequestPacket
  /-- `exit (EXIT_FAILURE)`. -/
  | exits
  | built (packet : List UInt8)
  deriving DecidableEq, Repr

/-- The opcode of a client operation, where it has one. -/
def requestOpcode : OperationId → Option TFTPOpcode
  | .receive => some .rrq
  | .send => some .wrq
  | .requestDelete => some .drq
  | .undefined => none
  | .handleDelete => none

/-- A block size other than the default is sent along. -/
def customBlockSize (op : OperationData) : Bool :=
  0 < op.blockSize.toNat && op.blockSize.toNat != tftpBlksizeDefault

/-- The last component of the path and the length of the filename field, terminator
included. -/
def filenameInPath (op : OperationData) : Option (CharPtr × Nat) := do
  let path := op.path ++ [0]
  match ← strrchr 47 path with
  | none => some (path, op.pathLen.toNat)
  | some slash =>
      let name := slash.drop 1
      some (name, (← strlen name) + 1)

/-- `contents_size`: the fields counted, the transfer mode without its terminator. -/
def contentsSize (op : OperationData) (filenameLen : Nat) : Nat :=
  if op.operationId = .requestDelete then
    filenameLen
  else
    filenameLen + ((transferModeString op.transferMode).length +
      if customBlockSize op then 8 + 6 else 0)

/-- The block size option; `contents_idx` is a `uint16_t`. -/
def writeBlockSize (op : OperationData) (packet : List UInt8) (idx : Nat) :
    Option (List UInt8) :=
  if customBlockSize op then do
    let idx := (idx + 1) % 65536
    let packet ← memcpy packet (2 + idx) (tftpBlksizeString ++ [0]) 8
    let idx := (idx + 8) % 65536
    memcpy packet (2 + idx) (decimal5 op.blockSize ++ [0]) 6
  else
    some packet

/-- The fields a delete request does not have. -/
def writeTransferFields (op : OperationData) (packet : List UInt8) (idx : Nat) :
    Option (List UInt8) :=
  if op.operationId = .requestDelete then
    some packet
  else do
    let mode := transferModeString op.transferMode
    let packet ← memcpy packet (2 + idx) (mode ++ [0]) mode.length
    writeBlockSize op packet ((idx + mode.length) % 65536)

/-- The bytes `send_request_packet` hands to `sendto`; `none` when it would read or
write outside its blocks. -/
def sendRequestPacket (op : OperationData) : Option RequestPacket := do
  let (name, filenameLen) ← filenameInPath op
  if op.operationId ≠ .requestDelete ∧ op.transferMode = .unspecified then
    some .exits
  else
    match requestOpcode op.operationId with
    | none => some .exits
    | some opcode => do
        let block := List.replicate (sizeofPacket + contentsSize op filenameLen) 0
        let packet ← writeAt block 0 (wire16 opcode.code)
        let packet ← memcpy packet 2 name filenameLen
        let packet ← writeTransferFields op packet (filenameLen % 65536)
        some (.built packet)

/-! ### The opcode survives the fields -/

theorem memcpy_header {array array' p : List UInt8} {offset n : Nat} (hoff : 2 ≤ offset)
    (h : memcpy array offset p n = some array') : array'.take 2 = array.take 2 := by
  simp only [memcpy, Option.bind_eq_bind, Option.bind_eq_some_iff] at h
  obtain ⟨bytes, -, hwrite⟩ := h
  exact writeAt_take hoff hwrite

theorem writeTransferFields_header {op : OperationData} {packet packet' : List UInt8}
    {idx : Nat} (h : writeTransferFields op packet idx = some packet') :
    packet'.take 2 = packet.take 2 := by
  unfold writeTransferFields at h
  split at h
  · obtain rfl := Option.some.inj h
    rfl
  · simp only [Option.bind_eq_bind, Option.bind_eq_some_iff] at h
    obtain ⟨packet₁, hmode, hsize⟩ := h
    have hfirst := memcpy_header (Nat.le_add_right 2 idx) hmode
    unfold writeBlockSize at hsize
    split at hsize
    · simp only [Option.bind_eq_bind, Option.bind_eq_some_iff] at hsize
      obtain ⟨packet₂, hname, hdigits⟩ := hsize
      rw [memcpy_header (Nat.le_add_right 2 _) hdigits,
        memcpy_header (Nat.le_add_right 2 _) hname, hfirst]
    · obtain rfl := Option.some.inj hsize
      exact hfirst

/-- A request that is sent carries the opcode of its operation. -/
theorem sendRequestPacket_opcode {op : OperationData} {packet : List UInt8}
    (h : sendRequestPacket op = some (.built packet)) :
    ∃ opcode, requestOpcode op.operationId = some opcode ∧ opcodeOf packet = opcode.code := by
  simp only [sendRequestPacket, Option.bind_eq_bind, Option.bind_eq_some_iff] at h
  obtain ⟨⟨name, filenameLen⟩, -, h⟩ := h
  split at h
  · simp at h
  · cases hop : requestOpcode op.operationId with
    | none => simp [hop] at h
    | some opcode =>
        simp only [hop, Option.bind_eq_some_iff] at h
        obtain ⟨packet₁, hopcode, packet₂, hname, packet₃, hfields, hbuilt⟩ := h
        obtain rfl : packet₃ = packet := by simpa using hbuilt
        have hheader : packet₃.take 2 = wire16 opcode.code := by
          rw [writeTransferFields_header hfields, memcpy_header (le_refl 2) hname]
          rw [writeAt_eq (by simp [sizeofPacket]; omega)] at hopcode
          obtain rfl := Option.some.inj hopcode
          simp [wire16]
        refine ⟨opcode, rfl, ?_⟩
        rw [opcodeOf_eq_of_take hheader]

end Stftpu
