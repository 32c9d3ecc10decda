import Stftpu.Client.Request
import Stftpu.Server.Grammar

/-!
# From the client's request to the server's operation

`send_request_packet` counts neither the terminator of the mode nor, always, the one of
the last field; the two spare bytes of `sizeof (Packet_t)` supply them.

* `sendRequestPacket_eq` — the packet, field by field.
* `request_round_trip` — the server makes of it the mirrored operation.
-/

namespace Stftpu

open Library

/-! ## The packet -/

/-- What follows the filename and its terminator in a request. -/
def requestTail (op : OperationData) : List UInt8 :=
  if op.operationId = .requestDelete then
    [0, 0]
  else if customBlockSize op then
    ascii "octet" ++ 0 :: (tftpBlksizeString ++ 0 :: (decimal5 op.blockSize ++ 0 :: [0]))
  else
    ascii "octet" ++ 0 :: [0]

/-- The server's operation for a client's. -/
def mirrored : OperationId → OperationId
  | .receive => .send
  | .send => .receive
  | .requestDelete => .handleDelete
  | operation => operation

section Packet

variable {op : OperationData} {opcode : TFTPOpcode}

theorem requestOperation_requestOpcode (h : requestOpcode op.operationId = some opcode) :
    requestOperation opcode.code = some (mirrored op.operationId) := by
  cases hid : op.operationId <;> simp [requestOpcode, hid] at h <;> subst h <;> rfl

/-- The part of the path behind its last slash is what is sent, terminated. -/
theorem filenameInPath_eq (hpath : ∀ c ∈ op.path, c ≠ 0) (hlen : op.path.length < 65535)
    (hpathLen : op.pathLen = UInt16.ofNat (op.path.length + 1)) :
    filenameInPath op = some (afterLast 47 op.path ++ [0], (afterLast 47 op.path).length + 1) := by
  have hslash := strrchr_terminated (c := 47) hpath []
  by_cases hmem : (47 : UInt8) ∈ op.path
  · have hname : ∀ c ∈ afterLast 47 op.path, c ≠ 0 := fun c hc => hpath c (mem_of_mem_afterLast hc)
    rw [if_pos hmem] at hslash
    simp only [filenameInPath, hslash, Option.bind_eq_bind, Option.bind_some, List.drop_succ_cons,
      List.drop_zero, strlen_terminated hname]
  · have htoNat : op.pathLen.toNat = op.path.length + 1 := by
      rw [hpathLen, UInt16.toNat_ofNat']
      omega
    rw [if_neg hmem] at hslash
    simp only [filenameInPath, hslash, Option.bind_eq_bind, Option.bind_some, htoNat,
      afterLast_of_notMem hmem]

theorem decimal5_length (n : UInt16) : (decimal5 n).length = 5 := rfl

/-- The block size option is written behind the terminator of the mode. -/
theorem writeBlockSize_zeros (hcustom : customBlockSize op = true) (front : List UInt8)
    (idx : Nat) (hidx : 2 + idx = front.length) (hsmall : idx + 9 < 65536) :
    writeBlockSize op (front ++ List.replicate 16 0) idx =
      some (front ++
        0 :: (tftpBlksizeString ++ 0 :: (decimal5 op.blockSize ++ 0 :: [0]))) := by
  have hname := memcpy_zeros (front ++ [0]) (tftpBlksizeString ++ [0]) [] 15
    (by decide)
  have hdigits := memcpy_zeros (front ++ [0] ++ (tftpBlksizeString ++ [0]))
    (decimal5 op.blockSize ++ [0]) [] 7 (by simp [decimal5_length])
  have hfirst : front ++ List.replicate 16 0 = front ++ [0] ++ List.replicate 15 (0 : UInt8) := by
    simp [List.replicate_succ]
  have hblksize : (tftpBlksizeString ++ [0]).length = 8 := by decide
  have hoffset₁ : 2 + (idx + 1) % 65536 = (front ++ [0]).length := by
    rw [List.length_append, ← hidx, List.length_singleton]
    omega
  have hoffset₂ : 2 + ((idx + 1) % 65536 + 8) % 65536 =
      (front ++ [0] ++ (tftpBlksizeString ++ [0])).length := by
    rw [List.length_append, hblksize, List.length_append, ← hidx, List.length_singleton]
    omega
  have hroom : 15 - (tftpBlksizeString ++ [0]).length = 7 := by rw [hblksize]
  have hroom' : 7 - (decimal5 op.blockSize ++ [0]).length = 1 := by simp [decimal5_length]
  have hdigitsLen : (decimal5 op.blockSize ++ [0]).length = 6 := by simp [decimal5_length]
  rw [List.append_nil, hroom, hblksize] at hname
  rw [List.append_nil, hroom', hdigitsLen] at hdigits
  unfold writeBlockSize
  rw [if_pos hcustom]
  simp only [hoffset₁, hoffset₂, hfirst, hname, hdigits, Option.bind_eq_bind, Option.bind_some]
  simp

/-- The block of a request behind its opcode. -/
theorem writeAt_opcode (opcode : TFTPOpcode) (n : Nat) :
    writeAt (List.replicate (sizeofPacket + n) 0) 0 (wire16 opcode.code) =
      some (wire16 opcode.code ++ List.replicate (n + 2) 0) := by
  have hwrite := writeAt_zeros [] (wire16 opcode.code) (sizeofPacket + n)
    (by simp [sizeofPacket]; omega)
  have hroom : sizeofPacket + n - (wire16 opcode.code).length = n + 2 := by
    simp only [sizeofPacket, wire16_length]
    omega
  rw [hroom] at hwrite
  simpa using hwrite

/-- The packet of a request, field by field: every field is terminated inside it.  Only where
a block size is sent can a name be too long for `contents_idx`. -/
theorem sendRequestPacket_eq_of_lt (hopcode : requestOpcode op.operationId = some opcode)
    (hmode : op.transferMode = .octet) (hpath : ∀ c ∈ op.path, c ≠ 0)
    (hlen : op.path.length < 65535) (hpathLen : op.pathLen = UInt16.ofNat (op.path.length + 1))
    (hname : op.operationId ≠ .requestDelete → customBlockSize op = true →
      (afterLast 47 op.path).length + 15 < 65536) :
    sendRequestPacket op = some (.built
      (wire16 opcode.code ++ (afterLast 47 op.path ++ 0 :: requestTail op))) := by
  have hfield := filenameInPath_eq hpath hlen hpathLen
  obtain ⟨name, hnameEq⟩ : ∃ name, name = afterLast 47 op.path := ⟨_, rfl⟩
  have hnameLen := afterLast_length_le 47 op.path
  rw [← hnameEq] at hfield hname hnameLen ⊢
  -- the name fits `path_len`, so `contents_idx` stands right behind it
  have hidx : (name.length + 1) % 65536 = name.length + 1 := by omega
  -- each copy fills the next zeros of the block
  have hnameWrite : ∀ n, memcpy (wire16 opcode.code ++ List.replicate (name.length + 1 + n) 0) 2
      (name ++ [0]) (name.length + 1) =
      some (wire16 opcode.code ++ (name ++ [0]) ++ List.replicate n 0) := by
    intro n
    have hwrite := memcpy_zeros (wire16 opcode.code) (name ++ [0]) []
      (name.length + 1 + n) (by simp)
    simpa using hwrite
  have hmodeLen : (ascii "octet").length = 5 := by decide
  have hmodeWrite : ∀ n, memcpy (wire16 opcode.code ++ (name ++ [0]) ++ List.replicate (5 + n) 0)
      (2 + (name.length + 1)) (ascii "octet" ++ [0]) 5 =
      some (wire16 opcode.code ++ (name ++ [0]) ++ ascii "octet" ++ List.replicate n 0) := by
    intro n
    have hwrite := memcpy_zeros (wire16 opcode.code ++ (name ++ [0])) (ascii "octet") [0]
      (5 + n) (by rw [hmodeLen]; omega)
    have hfront : (wire16 opcode.code ++ (name ++ [0])).length = 2 + (name.length + 1) := by simp
    rw [hfront, hmodeLen, Nat.add_sub_cancel_left] at hwrite
    exact hwrite
  have hmodeString : transferModeString op.transferMode = ascii "octet" := by rw [hmode]; rfl
  have hspecified : ¬ (op.operationId ≠ .requestDelete ∧ op.transferMode = .unspecified) := by
    simp [hmode]
  unfold sendRequestPacket
  simp only [hfield, Option.bind_eq_bind, Option.bind_some, hspecified, if_false, hopcode,
    writeAt_opcode, hidx]
  -- the block is as long as its fields and two bytes more, for the terminators
  by_cases hdelete : op.operationId = .requestDelete
  · simp only [contentsSize, hdelete, if_true, hnameWrite, Option.bind_some, writeTransferFields,
      requestTail]
    simp [List.replicate_succ]
  · cases hcustom : customBlockSize op with
    | false =>
        have hsize : contentsSize op (name.length + 1) + 2 = name.length + 1 + (5 + 2) := by
          simp only [contentsSize, hdelete, if_false, hmodeString, hmodeLen, hcustom,
            Bool.false_eq_true]
        simp only [hsize, hnameWrite, Option.bind_some, writeTransferFields, hdelete, if_false,
          hmodeString, hmodeLen, hmodeWrite, Option.bind_eq_bind, writeBlockSize, hcustom,
          Bool.false_eq_true, requestTail]
        simp [List.replicate_succ]
    | true =>
        have hsize : contentsSize op (name.length + 1) + 2 = name.length + 1 + (5 + 16) := by
          simp only [contentsSize, hdelete, if_false, hmodeString, hmodeLen, hcustom, if_true]
        have hshort := hname hdelete hcustom
        have hoption := writeBlockSize_zeros hcustom
          (wire16 opcode.code ++ (name ++ [0]) ++ ascii "octet")
          ((name.length + 1 + 5) % 65536)
          (by simp only [List.length_append, wire16_length, hmodeLen, List.length_singleton]; omega)
          (by omega)
        simp only [hsize, hnameWrite, Option.bind_some, writeTransferFields, hdelete, if_false,
          hmodeString, hmodeLen, hmodeWrite, Option.bind_eq_bind, hoption, requestTail, hcustom,
          if_true]
        simp

/-- The packet of a request for a name the server takes whole. -/
theorem sendRequestPacket_eq (hopcode : requestOpcode op.operationId = some opcode)
    (hmode : op.transferMode = .octet) (hpath : ∀ c ∈ op.path, c ≠ 0)
    (hlen : op.path.length < 65535) (hpathLen : op.pathLen = UInt16.ofNat (op.path.length + 1))
    (hname : (afterLast 47 op.path).length ≤ tftpFilenameMax) :
    sendRequestPacket op = some (.built
      (wire16 opcode.code ++ (afterLast 47 op.path ++ 0 :: requestTail op))) := by
  simp only [tftpFilenameMax] at hname
  exact sendRequestPacket_eq_of_lt hopcode hmode hpath hlen hpathLen (fun _ _ => by omega)

end Packet

/-! ## The server's side -/

section Fields

variable {op : OperationData} {opcode : TFTPOpcode} {name : List UInt8}

/-- The bytes of a request packet. -/
def requestBytes (op : OperationData) (opcode : TFTPOpcode) (name : List UInt8) : List UInt8 :=
  wire16 opcode.code ++ (name ++ 0 :: requestTail op)

theorem requestBytes_length_le (hname : name.length ≤ tftpFilenameMax) :
    (requestBytes op opcode name).length + 2 ≤ requestBufferSize := by
  have htail : (requestTail op).length ≤ 21 := by
    have hoctet : (ascii "octet").length = 5 := by decide
    have hblksize : tftpBlksizeString.length = 7 := by decide
    unfold requestTail
    split
    · decide
    · split <;> simp [hoctet, hblksize, decimal5_length]
  simp only [requestBytes, List.length_append, List.length_cons, wire16_length, requestBufferSize,
    sizeofPacket, tftpFilenameMax] at *
  omega

@[simp] theorem opcodeOf_requestBytes : opcodeOf (requestBytes op opcode name) = opcode.code :=
  opcodeOf_eq_of_take rfl

theorem requestField_zero (hname : ∀ c ∈ name, c ≠ 0) :
    requestField 0 (requestBytes op opcode name) = name :=
  nulField_zero_terminated hname _

theorem requestField_succ (hname : ∀ c ∈ name, c ≠ 0) (n : Nat) :
    requestField (n + 1) (requestBytes op opcode name) = nulField n (requestTail op) :=
  nulField_succ_terminated hname n _

theorem octet_ne_zero : ∀ c ∈ ascii "octet", c ≠ 0 := ne_zero_of_all (by decide)

theorem decimal5_isDigit (n : UInt16) : ∀ c ∈ decimal5 n, isDigit c = true := by
  have hdigit : ∀ d ≤ 9, isDigit (UInt8.ofNat (48 + d)) = true := by
    intro d hd
    interval_cases d <;> decide
  have hn := n.toNat_lt
  intro c hc
  simp only [decimal5, List.map_cons, List.map_nil, List.mem_cons, List.not_mem_nil, or_false] at hc
  rcases hc with rfl | rfl | rfl | rfl | rfl
  all_goals exact hdigit _ (by omega)

theorem decimal5_ne_zero (n : UInt16) : ∀ c ∈ decimal5 n, c ≠ 0 := by
  rintro c hc rfl
  have hzero := decimal5_isDigit n 0 hc
  revert hzero
  decide

/-- The digits are read back as the number. -/
theorem atoi_decimal5 {p : CharPtr} {n : UInt16} (h : cstr p = some (decimal5 n)) :
    atoi p = some (n.toNat : Int) := by
  have hn := n.toNat_lt
  have hdigit : ∀ d ≤ 9, (UInt8.ofNat (48 + d)).toNat - 48 = d := by
    intro d hd
    interval_cases d <;> decide
  refine atoi_digits h (decimal5_isDigit n) ?_ (by omega)
  simp only [List.map_cons, List.map_nil, List.foldl_cons, List.foldl_nil]
  rw [hdigit _ (by omega), hdigit _ (by omega), hdigit _ (by omega), hdigit _ (by omega),
    hdigit _ (by omega)]
  omega

/-- The mode field of a transfer's request says octet. -/
theorem requestTail_mode (htransfer : op.operationId ≠ .requestDelete) :
    nulField 0 (requestTail op) = ascii "octet" := by
  unfold requestTail
  rw [if_neg htransfer]
  split
  · exact nulField_zero_terminated octet_ne_zero _
  · exact nulField_zero_terminated octet_ne_zero _

/-- The block size option is there exactly when the client wrote it. -/
theorem requestTail_blksize (htransfer : op.operationId ≠ .requestDelete) :
    (if SameIgnoringCase (nulField 1 (requestTail op)) tftpBlksizeString then
        some (nulField 2 (requestTail op))
      else
        none) =
      if customBlockSize op then some (decimal5 op.blockSize) else none := by
  unfold requestTail
  rw [if_neg htransfer]
  cases hcustom : customBlockSize op with
  | true =>
      simp only [if_true]
      rw [nulField_succ_terminated octet_ne_zero, nulField_succ_terminated octet_ne_zero,
        nulField_zero_terminated tftpBlksizeString_ne_zero,
        nulField_succ_terminated tftpBlksizeString_ne_zero,
        nulField_zero_terminated (decimal5_ne_zero _)]
      exact if_pos rfl
  | false =>
      simp only [Bool.false_eq_true, if_false]
      rw [nulField_succ_terminated octet_ne_zero]
      exact if_neg (by decide)

theorem chooseTransferMode_octet {p : CharPtr} (h : cstr p = some (ascii "octet")) :
    chooseTransferMode (some p) = some .octet := by
  have hlen : (ascii "octet").length ≠ 0 := by decide
  have hcompare := strcasecmpEq_of_cstr h octet_ne_zero
  simp only [chooseTransferMode, strlen_of_cstr h, Option.bind_eq_bind, Option.bind_some, hlen,
    if_false, transferModeStrings, lookupTransferMode, hcompare, decide_true, if_true]

end Fields

section Mirrored

variable {op : OperationData} {opcode : TFTPOpcode} {name : List UInt8} {args : InitArguments}
  {source : SockAddr}

theorem operation_of_request (hopcode : requestOpcode op.operationId = some opcode)
    (hmatch : ArgumentsMatch args source (requestBytes op opcode name)) :
    args.operation = mirrored op.operationId := by
  have hoperation := hmatch.operation
  rw [opcodeOf_requestBytes, requestOperation_requestOpcode hopcode] at hoperation
  exact (Option.some.inj hoperation).symm

/-- The mode of a transfer is read as octet. -/
theorem mode_of_request (hname : ∀ c ∈ name, c ≠ 0) (htransfer : op.operationId ≠ .requestDelete)
    (hnotHandle : args.operation ≠ .handleDelete)
    (hmatch : ArgumentsMatch args source (requestBytes op opcode name)) :
    chooseTransferMode args.mode = some .octet := by
  have hfield := hmatch.mode
  rw [grammarMode, if_neg hnotHandle, requestField_succ hname, requestTail_mode htransfer] at hfield
  cases hp : args.mode with
  | none =>
      rw [hp] at hfield
      cases hfield
  | some p =>
      rw [hp] at hfield
      exact chooseTransferMode_octet (Option.some.inj hfield)

/-- Its block size is read as the client's, or is missing where the client left it out. -/
theorem size_of_request (hname : ∀ c ∈ name, c ≠ 0) (htransfer : op.operationId ≠ .requestDelete)
    (hnotHandle : args.operation ≠ .handleDelete)
    (hmatch : ArgumentsMatch args source (requestBytes op opcode name)) :
    requestedBlockSize args.blocksize = some (if customBlockSize op then op.blockSize else 0) := by
  have hfield := hmatch.blocksize
  rw [grammarBlocksize, if_neg hnotHandle, requestField_succ hname, requestField_succ hname,
    requestTail_blksize htransfer] at hfield
  cases hcustom : customBlockSize op with
  | true =>
      rw [hcustom, if_pos rfl] at hfield
      cases hp : args.blocksize with
      | none =>
          rw [hp] at hfield
          cases hfield
      | some p =>
          rw [hp] at hfield
          have hn := op.blockSize.toNat_lt
          rw [requestedBlockSize, atoi_decimal5 (Option.some.inj hfield), Option.map_some,
            if_pos rfl]
          congr 1
          apply UInt16.toNat_inj.mp
          rw [UInt16.toNat_ofNat']
          omega
  | false =>
      rw [hcustom, if_neg Bool.false_ne_true] at hfield
      cases hp : args.blocksize with
      | none => rfl
      | some p =>
          rw [hp] at hfield
          cases hfield

/-- What `server_parse_request_data` makes of a client's request is accepted as the
mirrored operation with the client's block size. -/
theorem initOperation_of_request (hopcode : requestOpcode op.operationId = some opcode)
    (hname : ∀ c ∈ name, c ≠ 0) (hlen : name.length ≤ tftpFilenameMax)
    (hrange : op.operationId.isDelete = false →
      tftpBlksizeMin ≤ op.blockSize.toNat ∧ op.blockSize.toNat ≤ tftpBlksizeMax)
    (hmatch : ArgumentsMatch args source (requestBytes op opcode name)) (fd : Int)
    (port : UInt16) :
    ∃ op', tftpInitOperationData (.bound fd port) args = some (.created op') ∧
      op'.operationId = mirrored op.operationId ∧ op'.path = serverStoragePath ++ name ∧
      (op.operationId ≠ .requestDelete →
        op'.transferMode = .octet ∧ op'.blockSize = op.blockSize) := by
  have hargs := operation_of_request hopcode hmatch
  have hpath := hmatch.path
  rw [requestField_zero hname] at hpath
  have hpathLen : (serverStoragePath ++ name).length < 65535 := by
    have hstorage : serverStoragePath.length = 8 := by decide
    rw [List.length_append, hstorage]
    simp only [tftpFilenameMax] at hlen
    omega
  by_cases hdelete : op.operationId = .requestDelete
  · have hisDelete : args.operation.isDelete = true := by rw [hargs, hdelete]; rfl
    exact ⟨_, tftpInitOperationData_delete hpath hpathLen hisDelete, hargs, rfl,
      fun htransfer => absurd hdelete htransfer⟩
  · have hserver : args.operation ≠ .handleDelete ∧ args.operation.isDelete = false ∧
        op.operationId.isDelete = false ∧ args.operation ≠ .undefined := by
      rw [hargs]
      cases hid : op.operationId <;> simp [requestOpcode, hid] at hopcode hdelete <;>
        exact ⟨by decide, rfl, rfl, by decide⟩
    obtain ⟨hnotHandle, hnotDelete, hclient, hdefined⟩ := hserver
    obtain ⟨hmin, hmax⟩ := hrange hclient
    have hinit := tftpInitOperationData_octet fd port hpath hpathLen hdefined hnotDelete
      (mode_of_request hname hdelete hnotHandle hmatch)
      (size_of_request hname hdelete hnotHandle hmatch)
    cases hcustom : customBlockSize op with
    | true =>
        -- the client has checked the size against the same bounds
        have hpositive : op.blockSize ≠ 0 := by
          intro hzero
          rw [hzero] at hmin
          revert hmin
          decide
        have hbounds : ¬ (op.blockSize.toNat < tftpBlksizeMin ∨
            op.blockSize.toNat > tftpBlksizeMax) := by omega
        rw [hcustom, if_pos rfl, checkBlockSize, if_neg hpositive, if_neg hbounds] at hinit
        exact ⟨_, hinit, hargs, rfl, fun _ => ⟨rfl, rfl⟩⟩
    | false =>
        -- only the default is left out of a request
        have hdefault : op.blockSize = UInt16.ofNat tftpBlksizeDefault := by
          simp only [customBlockSize, Bool.and_eq_false_iff, decide_eq_false_iff_not,
            bne_eq_false_iff_eq] at hcustom
          apply UInt16.toNat_inj.mp
          have hsize : (UInt16.ofNat tftpBlksizeDefault).toNat = tftpBlksizeDefault := by decide
          rw [hsize]
          simp only [tftpBlksizeMin] at hmin
          omega
        rw [hcustom, if_neg Bool.false_ne_true, checkBlockSize, if_pos rfl] at hinit
        exact ⟨_, hinit, hargs, rfl, fun _ => ⟨rfl, hdefault.symm⟩⟩

end Mirrored

/-- Any request of the client's, whatever the listener handled before, reaches the server
as the mirrored operation on the last part of the client's path, in octet mode and with
the client's block size. -/
theorem request_round_trip (host : Host) (mem : ListenerMemory) {history : List Event}
    {s : ListenerState}
    (h : Run (serverListenerLoop host mem) ListenerState.start history s)
    (hpoint : s.point = .awaiting) {clientFd : Int} {clientPort : UInt16} {args : InitArguments}
    {op : OperationData} {path : List UInt8}
    (hoperation : args.operation = .receive ∨ args.operation = .send ∨
      args.operation = .requestDelete)
    (hpath : cstr args.filename = some path) (hlen : path.length < 65535)
    (hname : (afterLast 47 path).length ≤ tftpFilenameMax)
    (hclient : tftpInitOperationData (.bound clientFd clientPort) args = some (.created op))
    (source : SockAddr) (slot : Nat) (fd : Int) (port : UInt16) :
    ∃ packet t op', sendRequestPacket op = some (.built packet) ∧
      Run (serverListenerLoop host mem) s
        [.recvfrom requestBufferSize (.datagram source packet), .poll false,
          .acquire (some slot), .dataSocket (.bound fd port)] t ∧
      t.point = .spawning slot op' ∧ op'.operationId = mirrored op.operationId ∧
      op'.path = serverStoragePath ++ afterLast 47 path ∧
      (op.operationId ≠ .requestDelete →
        op'.transferMode = .octet ∧ op'.blockSize = op.blockSize) := by
  obtain ⟨hid, hopPath, hpathLen, hmode, hrange⟩ := created_fields hclient hpath
  obtain ⟨opcode, hopcode⟩ : ∃ opcode, requestOpcode op.operationId = some opcode := by
    rw [hid]
    rcases hoperation with hargs | hargs | hargs <;> rw [hargs] <;> exact ⟨_, rfl⟩
  have hnonzero := (cstr_eq_some hpath).1
  have hnameNonzero : ∀ c ∈ afterLast 47 path, c ≠ 0 :=
    fun c hc => hnonzero c (mem_of_mem_afterLast hc)
  have hpacket := sendRequestPacket_eq hopcode hmode (by rw [hopPath]; exact hnonzero)
    (by rw [hopPath]; exact hlen) (by rw [hopPath]; exact hpathLen)
    (by rw [hopPath]; exact hname)
  rw [hopPath] at hpacket
  -- the server parses the fields the client has written
  obtain ⟨serverArgs, hrun, hmatch⟩ := run_parse host mem source
    (requestBytes op opcode (afterLast 47 path)) hpoint
    (ListenerState.buffer_zero_of_run h hpoint) (requestBytes_length_le hname)
    (by simp [requestOperation_requestOpcode hopcode])
    (by rw [requestField_zero hnameNonzero]; exact hname) slot
  obtain ⟨op', hinit, hid', hpath', htransfer⟩ :=
    initOperation_of_request hopcode hnameNonzero hname (by rw [hid]; exact hrange) hmatch fd port
  refine ⟨_, _, op', hpacket, hrun.append (Run.single
    (e := Event.dataSocket (.bound fd port))
    (t := s.requested source (requestBytes op opcode (afterLast 47 path)) (.spawning slot op')) ?_),
    rfl, hid', hpath', htransfer⟩
  show some ((s.requested source _ (.initializing slot serverArgs)).onInitialized slot serverArgs
    (.bound fd port)) = _
  simp only [ListenerState.onInitialized, hinit]
  rfl

/-- A write of `dir/a` in blocks of 1024 bytes. -/
theorem request_round_trip_write :
    ∃ s packet t op op',
      Run (serverListenerLoop littleHost ListenerMemory.strict) ListenerState.start
        [.poll false] s ∧
      sendRequestPacket op = some (.built packet) ∧
      Run (serverListenerLoop littleHost ListenerMemory.strict) s
        [.recvfrom requestBufferSize (.datagram (localhost 50001) packet), .poll false,
          .acquire (some 0), .dataSocket (.bound 5 40001)] t ∧
      t.point = .spawning 0 op' ∧ op'.operationId = .receive ∧ op'.path = ascii "storage/a" ∧
      op'.blockSize = 1024 := by
  have hrun : Run (serverListenerLoop littleHost ListenerMemory.strict) ListenerState.start
      [.poll false] { ListenerState.start with point := .awaiting } := Run.single rfl
  have hclient : tftpInitOperationData (.bound 4 50001)
      { operation := .send
        peer := localhost 69
        filename := ascii "dir/a" ++ [0]
        mode := some (ascii "Octet" ++ [0])
        blocksize := some (ascii "1024" ++ [0]) } =
      some (.created
        { operationId := .send
          transferMode := .octet
          blockSize := 1024
          pathLen := 6
          dataSocket := 4
          localAddress := { address := 0, port := 50001 }
          peerAddress := localhost 69
          path := ascii "dir/a" }) := by decide
  obtain ⟨packet, t, op', hpacket, ht, hpoint, hid, hpath, htransfer⟩ :=
    request_round_trip littleHost ListenerMemory.strict hrun rfl (Or.inr (Or.inl rfl))
      (show cstr _ = some (ascii "dir/a") by decide) (by decide) (by decide) hclient
      (localhost 50001) 0 5 40001
  exact ⟨_, packet, t, _, op', hrun, hpacket, ht, hpoint, hid, hpath, (htransfer nofun).2⟩

end Stftpu
