import Stftpu.Operation

/-!
# The block size of an operation

The value of the block size string goes through a `uint16_t` before it is looked at, so the
tests of `tftp_init_operation_data` see it modulo `2 ^ 16`.

* `SizeHonoured` — the operation has the block size asked for, or there is none.
* `SizeSurvives` — the values for which the tests come to the right result.
* `size_honoured_iff` — over every decimal integer that fits an `int` the two agree.
-/

namespace Stftpu

open Library

/-- What comes of a block size: an operation with it, the default for zero, and otherwise
`NULL`. -/
def SizeHonoured (v : Int) (outcome : Option InitOutcome) : Prop :=
  if tftpBlksizeMin ≤ v ∧ v ≤ tftpBlksizeMax then
    ∃ op, outcome = some (.created op) ∧ (op.blockSize.toNat : Int) = v
  else if v = 0 then
    ∃ op, outcome = some (.created op) ∧ op.blockSize.toNat = tftpBlksizeDefault
  else
    ∃ fd reply, outcome = some (.rejected fd reply)

/-- The value is zero or in range, or its residue modulo `2 ^ 16` is neither. -/
def SizeSurvives (v : Int) : Prop :=
  v = 0 ∨ (tftpBlksizeMin ≤ v ∧ v ≤ tftpBlksizeMax) ∨
    (0 < v % 65536 ∧ v % 65536 < tftpBlksizeMin) ∨ tftpBlksizeMax < v % 65536

section Sizes

variable {v : Int} {op : OperationData} {args : InitArguments}

/-- The field holds the residue. -/
theorem residue_toNat (v : Int) :
    ((UInt16.ofNat (v % 65536).toNat).toNat : Int) = v % 65536 := by
  rw [UInt16.toNat_ofNat']
  omega

/-! ### The three outcomes of the check -/

theorem checkBlockSize_zero (op : OperationData) {size : UInt16} (h : size.toNat = 0) :
    ∃ op', checkBlockSize op size = .created op' ∧ op'.blockSize.toNat = tftpBlksizeDefault := by
  have hzero : size = 0 := UInt16.toNat_inj.mp h
  exact ⟨_, if_pos hzero, rfl⟩

theorem checkBlockSize_in (op : OperationData) {size : UInt16}
    (hlow : tftpBlksizeMin ≤ size.toNat) (hhigh : size.toNat ≤ tftpBlksizeMax) :
    ∃ op', checkBlockSize op size = .created op' ∧ op'.blockSize = size := by
  have hzero : size ≠ 0 := by
    rintro rfl
    simp [tftpBlksizeMin] at hlow
  have hrange : ¬ (size.toNat < tftpBlksizeMin ∨ size.toNat > tftpBlksizeMax) := by omega
  exact ⟨{ op with blockSize := size }, by simp [checkBlockSize, hzero, hrange], rfl⟩

theorem checkBlockSize_out (op : OperationData) {size : UInt16} (hpos : 0 < size.toNat)
    (hout : size.toNat < tftpBlksizeMin ∨ size.toNat > tftpBlksizeMax) :
    ∃ fd reply, checkBlockSize op size = .rejected fd reply := by
  have hzero : size ≠ 0 := by
    rintro rfl
    simp at hpos
  rw [checkBlockSize, if_neg hzero, if_pos hout]
  exact ⟨op.dataSocket, _, rfl⟩

/-- A created operation is no rejection. -/
theorem not_sizeHonoured_of_created {op' : OperationData} (hzero : v ≠ 0)
    (hrange : ¬ (tftpBlksizeMin ≤ v ∧ v ≤ tftpBlksizeMax)) :
    ¬ SizeHonoured v (some (.created op')) := by
  simp [SizeHonoured, hzero, hrange]

/-- The check comes to the right result exactly for the values that survive. -/
theorem sizeHonoured_check_iff (v : Int) (op : OperationData) :
    SizeHonoured v (some (checkBlockSize op (UInt16.ofNat (v % 65536).toNat))) ↔
      SizeSurvives v := by
  have hresidue := residue_toNat v
  generalize UInt16.ofNat (v % 65536).toNat = size at hresidue
  by_cases hrange : tftpBlksizeMin ≤ v ∧ v ≤ tftpBlksizeMax
  · -- in range the residue is the value
    have hsame : (size.toNat : Int) = v := by
      simp only [tftpBlksizeMin, tftpBlksizeMax] at hrange
      omega
    refine iff_of_true ?_ (Or.inr (Or.inl hrange))
    have hlow : tftpBlksizeMin ≤ size.toNat := by omega
    have hhigh : size.toNat ≤ tftpBlksizeMax := by omega
    obtain ⟨op', heq, hsize⟩ := checkBlockSize_in op hlow hhigh
    rw [SizeHonoured, if_pos hrange, heq]
    exact ⟨op', rfl, by rw [hsize, hsame]⟩
  · by_cases hzero : v = 0
    · refine iff_of_true ?_ (Or.inl hzero)
      have hnone : size.toNat = 0 := by omega
      obtain ⟨op', heq, hsize⟩ := checkBlockSize_zero op hnone
      rw [SizeHonoured, if_neg hrange, if_pos hzero, heq]
      exact ⟨op', rfl, hsize⟩
    · have hsurvives : SizeSurvives v ↔
          0 < size.toNat ∧ (size.toNat < tftpBlksizeMin ∨ size.toNat > tftpBlksizeMax) := by
        rw [SizeSurvives, or_iff_right hzero, or_iff_right hrange, ← hresidue]
        omega
      rw [hsurvives]
      constructor
      · intro hhonoured
        by_contra hnot
        -- the residue is zero or in range, and an operation is created
        rcases Nat.eq_zero_or_pos size.toNat with hsize | hpos
        · obtain ⟨op', heq, -⟩ := checkBlockSize_zero op hsize
          rw [heq] at hhonoured
          exact not_sizeHonoured_of_created hzero hrange hhonoured
        · have hlow : tftpBlksizeMin ≤ size.toNat := by omega
          have hhigh : size.toNat ≤ tftpBlksizeMax := by omega
          obtain ⟨op', heq, -⟩ := checkBlockSize_in op hlow hhigh
          rw [heq] at hhonoured
          exact not_sizeHonoured_of_created hzero hrange hhonoured
      · rintro ⟨hpos, hout⟩
        obtain ⟨fd, reply, heq⟩ := checkBlockSize_out op hpos hout
        rw [SizeHonoured, if_neg hrange, if_neg hzero, heq]
        exact ⟨fd, reply, rfl⟩

/-- A path too long for `path_len` is written behind the block that was allocated for it. -/
theorem tftpInitOperationData_long {socket : DataSocket} {path : List UInt8}
    (hname : cstr args.filename = some path) (hoperation : args.operation ≠ .undefined)
    (hlong : 65535 ≤ path.length) {fd : Int} {port : UInt16} (hsocket : socket = .bound fd port) :
    tftpInitOperationData socket args = none := by
  have hcut : ¬ path.length + 1 ≤ (UInt16.ofNat (path.length + 1)).toNat := by
    rw [UInt16.toNat_ofNat']
    omega
  simp only [tftpInitOperationData, hname, hsocket, Option.bind_eq_bind, Option.bind_some,
    hoperation, if_false, hcut]

end Sizes

/-- For every decimal integer that fits an `int`, given as block size of a READ or WRITE in
octet mode: it is honoured exactly when it survives the cut to sixteen bits, the socket can be
bound and the path fits its length field. -/
theorem size_honoured_iff {args : InitArguments} {path s : List UInt8} {p : CharPtr} {v : Int}
    (socket : DataSocket) (hname : cstr args.filename = some path)
    (hoperation : args.operation = .receive ∨ args.operation = .send)
    (hmode : chooseTransferMode args.mode = some .octet) (hblocksize : args.blocksize = some p)
    (hstring : cstr p = some s) (hs : DecimalString s v) (hlow : -(2 ^ 31) ≤ v)
    (hhigh : v < 2 ^ 31) :
    SizeHonoured v (tftpInitOperationData socket args) ↔
      (∃ fd port, socket = .bound fd port) ∧ path.length < 65535 ∧ SizeSurvives v := by
  have hdefined : args.operation ≠ .undefined := by
    rcases hoperation with h | h <;> simp [h]
  have hnotDelete : args.operation.isDelete = false := by
    rcases hoperation with h | h <;> simp [h, OperationId.isDelete]
  have hsize : requestedBlockSize args.blocksize = some (UInt16.ofNat (v % 65536).toNat) := by
    rw [hblocksize, requestedBlockSize, atoi_decimal hstring hs hlow hhigh, Option.map_some]
  cases hsocket : socket with
  | exits =>
      -- without a socket nothing is created, so no size can be honoured
      have hexits : tftpInitOperationData .exits args = some .exits := by
        simp [tftpInitOperationData, hname]
      rw [hexits]
      refine iff_of_false ?_ (by simp)
      unfold SizeHonoured
      split
      · simp
      · split <;> simp
  | bound fd port =>
      have hbound : ∃ fd' port', DataSocket.bound fd port = .bound fd' port' := ⟨fd, port, rfl⟩
      simp only [hbound, true_and]
      -- a path whose length wraps is refused before the size is looked at
      rcases Nat.lt_or_ge path.length 65535 with hfit | hlong
      · rw [tftpInitOperationData_octet fd port hname hfit hdefined hnotDelete hmode hsize,
          sizeHonoured_check_iff]
        simp [hfit]
      · rw [tftpInitOperationData_long hname hdefined hlong rfl]
        refine iff_of_false ?_ (by omega)
        unfold SizeHonoured
        split
        · simp
        · split <;> simp

section FixedRuns

/-- A read of `storage/a` with a block size asked for. -/
def sizedRead (size : List UInt8) : InitArguments :=
  { operation := .receive
    peer := localhost 50001
    filename := ascii "storage/a" ++ [0]
    mode := some (ascii "octet" ++ [0])
    blocksize := some (size ++ [0]) }

set_option maxRecDepth 8000 in
theorem size_honoured_1024 :
    SizeHonoured 1024 (tftpInitOperationData (.bound 4 40001) (sizedRead (ascii "1024"))) := by
  have hname : cstr (sizedRead (ascii "1024")).filename = some (ascii "storage/a") := by decide
  have hstring : cstr (ascii "1024" ++ [0]) = some (ascii "1024") := by decide
  have hs : DecimalString (ascii "1024") 1024 := DecimalString.unsigned (by decide)
  refine (size_honoured_iff (.bound 4 40001) hname (Or.inl rfl) (by decide) rfl hstring hs
    (by decide) (by decide)).mpr ⟨⟨4, 40001, rfl⟩, by decide, ?_⟩
  exact Or.inr (Or.inl (by decide))

set_option maxRecDepth 8000 in
/-- 65544 starts an operation with blocks of eight bytes. -/
theorem size_cut_65544 :
    (∃ op, tftpInitOperationData (.bound 4 40001) (sizedRead (ascii "65544")) =
        some (.created op) ∧ op.blockSize = 8) ∧
      DecimalString (ascii "65544") 65544 ∧
      ¬ SizeHonoured 65544
        (tftpInitOperationData (.bound 4 40001) (sizedRead (ascii "65544"))) := by
  have hcreated : tftpInitOperationData (.bound 4 40001) (sizedRead (ascii "65544")) =
      some (.created { sampleOperation with operationId := .receive, localAddress :=
        { address := 0, port := 40001 } }) := by decide
  refine ⟨⟨_, hcreated, rfl⟩, DecimalString.unsigned (by decide), ?_⟩
  rw [hcreated]
  exact not_sizeHonoured_of_created (by decide) (by decide)

end FixedRuns

end Stftpu
