import Mathlib.Data.List.Basic
import Mathlib.Tactic

/-!
# Sixteen-bit fields and reused receive buffers

Header fields travel in network order and are read through a host-order load, so
both are kept apart here: `load16` is what the machine finds in memory, `ntohs` is
the conversion, and `ntohs_load16` says that together they give the network-order
value whatever the host's byte order.  A test on the raw load is a different test.

A `Buffer n` is a block of exactly `n` bytes that is reused between receives:
`Buffer.receive` overwrites its front and leaves the rest as it was.
-/

namespace Library

/-- The byte order of the machine the program runs on. -/
inductive ByteOrder
  | little
  | big
  deriving DecidableEq, Repr

/-- The value of two bytes in network order. -/
def be16 (hi lo : UInt8) : UInt16 :=
  UInt16.ofNat (hi.toNat * 256 + lo.toNat)

/-- The more significant byte. -/
def hiByte (n : UInt16) : UInt8 :=
  UInt8.ofNat (n.toNat / 256)

/-- The less significant byte. -/
def loByte (n : UInt16) : UInt8 :=
  UInt8.ofNat (n.toNat % 256)

/-- A sixteen-bit value as it travels: the bytes left in memory by storing
`htons (n)`. -/
def wire16 (n : UInt16) : List UInt8 :=
  [hiByte n, loByte n]

/-- A sixteen-bit load from two adjacent bytes. -/
def load16 : ByteOrder → UInt8 → UInt8 → UInt16
  | .little, first, second => be16 second first
  | .big, first, second => be16 first second

/-- Network order to host order. -/
def ntohs : ByteOrder → UInt16 → UInt16
  | .little, n => be16 (loByte n) (hiByte n)
  | .big, n => n

theorem be16_toNat (hi lo : UInt8) : (be16 hi lo).toNat = hi.toNat * 256 + lo.toNat := by
  have hhi := hi.toNat_lt
  have hlo := lo.toNat_lt
  simp only [be16, UInt16.toNat_ofNat']
  omega

@[simp] theorem hiByte_be16 (hi lo : UInt8) : hiByte (be16 hi lo) = hi := by
  have hlo := lo.toNat_lt
  apply UInt8.toNat_inj.mp
  have hhi := hi.toNat_lt
  simp only [hiByte, be16_toNat, UInt8.toNat_ofNat']
  omega

@[simp] theorem loByte_be16 (hi lo : UInt8) : loByte (be16 hi lo) = lo := by
  have hlo := lo.toNat_lt
  apply UInt8.toNat_inj.mp
  simp only [loByte, be16_toNat, UInt8.toNat_ofNat']
  omega

@[simp] theorem be16_bytes (n : UInt16) : be16 (hiByte n) (loByte n) = n := by
  have hn := n.toNat_lt
  apply UInt16.toNat_inj.mp
  simp only [be16_toNat, hiByte, loByte, UInt8.toNat_ofNat']
  omega

/-- Two bytes give a value exactly when they are its bytes. -/
theorem be16_eq_iff (hi lo : UInt8) (n : UInt16) :
    be16 hi lo = n ↔ hi = hiByte n ∧ lo = loByte n := by
  constructor
  · rintro rfl
    simp
  · rintro ⟨rfl, rfl⟩
    exact be16_bytes n

@[simp] theorem wire16_length (n : UInt16) : (wire16 n).length = 2 := rfl

/-- Loading a field and converting it gives its network-order value. -/
@[simp] theorem ntohs_load16 (order : ByteOrder) (first second : UInt8) :
    ntohs order (load16 order first second) = be16 first second := by
  cases order with
  | little => simp [ntohs, load16]
  | big => rfl

/-- A block of memory of exactly `n` bytes. -/
structure Buffer (n : Nat) where
  bytes : List UInt8
  length_eq : bytes.length = n
  deriving DecidableEq, Repr

namespace Buffer

variable {n : Nat}

@[ext] theorem ext {a b : Buffer n} (h : a.bytes = b.bytes) : a = b := by
  cases a
  cases b
  simpa using h

/-- A block just cleared. -/
def zero (n : Nat) : Buffer n :=
  ⟨List.replicate n 0, by simp⟩

/-- The byte at an index; indices past the end are never used by the model. -/
def byte (buf : Buffer n) (i : Nat) : UInt8 :=
  buf.bytes.getD i 0

/-- Overwrite the block from an offset on; what does not fit is dropped. -/
def store (buf : Buffer n) (offset : Nat) (bytes : List UInt8) : Buffer n :=
  ⟨buf.bytes.take offset ++ bytes.take (n - offset) ++
      buf.bytes.drop (offset + bytes.length), by
    have := buf.length_eq
    simp only [List.length_append, List.length_take, List.length_drop]
    omega⟩

/-- Receiving a datagram overwrites the front of the block, drops what does not
fit and leaves the bytes behind the datagram as they were. -/
def receive (buf : Buffer n) (datagram : List UInt8) : Buffer n :=
  buf.store 0 datagram

@[simp] theorem zero_bytes (n : Nat) : (zero n).bytes = List.replicate n 0 := rfl

/-- A store leaves what lies before it. -/
theorem store_take_of_le (buf : Buffer n) {offset k : Nat} (bytes : List UInt8)
    (hk : k ≤ offset) (hn : offset ≤ n) :
    (buf.store offset bytes).bytes.take k = buf.bytes.take k := by
  have hlen : k ≤ (buf.bytes.take offset).length := by
    rw [List.length_take, buf.length_eq]
    omega
  simp only [store]
  rw [List.append_assoc, List.take_append_of_le_length hlen, List.take_take,
    min_eq_left hk]

/-- A store that fits is read back behind what lies before it. -/
theorem store_take (buf : Buffer n) (offset : Nat) (bytes : List UInt8)
    (hn : offset + bytes.length ≤ n) :
    (buf.store offset bytes).bytes.take (offset + bytes.length) =
      buf.bytes.take offset ++ bytes := by
  have hfit : bytes.take (n - offset) = bytes := List.take_of_length_le (by omega)
  have hlen : (buf.bytes.take offset ++ bytes).length = offset + bytes.length := by
    rw [List.length_append, List.length_take, buf.length_eq]
    omega
  simp only [store, hfit]
  rw [← hlen, List.take_left]

theorem receive_bytes (buf : Buffer n) (datagram : List UInt8) :
    (buf.receive datagram).bytes = datagram.take n ++ buf.bytes.drop datagram.length := by
  simp [receive, store]

/-- Bytes that arrived are read back as they arrived. -/
theorem receive_byte (buf : Buffer n) {datagram : List UInt8} {i : Nat}
    (hi : i < datagram.length) (hn : i < n) :
    (buf.receive datagram).byte i = datagram.getD i 0 := by
  have hlen : i < (datagram.take n).length := by
    simp only [List.length_take]
    omega
  simp only [byte, receive_bytes, List.getD_eq_getElem?_getD]
  rw [List.getElem?_append_left hlen, List.getElem?_take, if_pos hn]

/-- A datagram and what stands behind it in a block. -/
def completed (buf : Buffer n) (datagram : List UInt8) : List UInt8 :=
  datagram ++ buf.bytes.drop datagram.length

/-- Behind a receive, every byte is the datagram's or was there before. -/
theorem receive_byte_completed (buf : Buffer n) (datagram : List UInt8) {i : Nat} (hi : i < n) :
    (buf.receive datagram).byte i = (buf.completed datagram).getD i 0 := by
  simp only [byte, receive_bytes, completed, List.getD_eq_getElem?_getD]
  rcases Nat.lt_or_ge n datagram.length with hlong | hfit
  · have hfront : i < (datagram.take n).length := by
      rw [List.length_take]
      omega
    rw [List.getElem?_append_left hfront, List.getElem?_append_left (by omega),
      List.getElem?_take, if_pos hi]
  · rw [List.take_of_length_le hfit]

/-- Receiving into a cleared block pads the datagram with zero bytes. -/
theorem receive_zero_bytes {datagram : List UInt8} (h : datagram.length ≤ n) :
    ((zero n).receive datagram).bytes =
      datagram ++ List.replicate (n - datagram.length) 0 := by
  rw [receive_bytes, List.take_of_length_le h]
  simp

/-- A datagram that does not stop inside a pattern settles by itself whether the block begins
with the pattern. -/
theorem prefix_completed_congr (buf buf' : Buffer n) {datagram pattern : List UInt8}
    (h : ¬ (datagram.length < pattern.length ∧ datagram <+: pattern)) :
    pattern <+: buf.completed datagram ↔ pattern <+: buf'.completed datagram := by
  rcases Nat.lt_or_ge datagram.length pattern.length with hshort | hlong
  · have hnot : ∀ buf : Buffer n, ¬ pattern <+: buf.completed datagram := by
      intro buf hbegins
      exact h ⟨hshort,
        List.prefix_of_prefix_length_le (List.prefix_append _ _) hbegins (le_of_lt hshort)⟩
    exact iff_of_false (hnot buf) (hnot buf')
  · have hown : ∀ buf : Buffer n, pattern <+: buf.completed datagram ↔ pattern <+: datagram := by
      intro buf
      constructor
      · intro hbegins
        exact List.prefix_of_prefix_length_le hbegins (List.prefix_append _ _) hlong
      · intro hbegins
        exact hbegins.trans (List.prefix_append _ _)
    rw [hown, hown]

/-- One that does is completed to the pattern by some block, -/
theorem exists_prefix_completed {datagram pattern : List UInt8} (hfit : pattern.length ≤ n)
    (h : datagram <+: pattern) : ∃ buf : Buffer n, pattern <+: buf.completed datagram := by
  obtain ⟨rest, rfl⟩ := h
  refine ⟨⟨datagram ++ rest ++ List.replicate (n - (datagram ++ rest).length) 0, ?_⟩, ?_⟩
  · rw [List.length_append, List.length_replicate]
    omega
  · simp [completed, List.append_assoc]

/-- and not by another. -/
theorem exists_not_prefix_completed {datagram pattern : List UInt8}
    (h : datagram.length < pattern.length) :
    ∃ buf : Buffer n, ¬ pattern <+: buf.completed datagram := by
  refine ⟨⟨List.replicate n (pattern[datagram.length] + 1), by simp⟩, ?_⟩
  intro hbegins
  have hbyte := hbegins.getElem h
  simp only [completed, List.getElem_append_right (le_refl _), List.getElem_drop,
    List.getElem_replicate] at hbyte
  have hval := congrArg UInt8.toNat hbyte
  rw [UInt8.toNat_add] at hval
  have hlt := pattern[datagram.length].toNat_lt
  have hone : (1 : UInt8).toNat = 1 := rfl
  omega

end Buffer

end Library
