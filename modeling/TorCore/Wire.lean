import Mathlib.Data.List.Basic
import Mathlib.Tactic.Ring

/-!
# `TorCore.Wire` — bytes, network-order words and addresses

Every wire format in this development is read and written through the same few primitives:
`get_uint8`, `get_uint32` under `ntohl`, and `set_uint32` under `htonl`. A buffer is a
`List UInt8`; reading past its end yields `0`, which no theorem below relies on (every read the
modelled code performs is shown to stay inside the buffer).

## Contents
- **Byte access.** `getUint8`, `getUint32` (big-endian), `setUint32`, and the round trips
  `getUint32_setUint32` at any offset and `setUint32_getUint32`.
- **C strings.** `CString` carries the absence of a NUL byte, so that `strlen` is its length.
- **Sizes.** `sizeSub`, the wrapping subtraction of `size_t`, and `sizeAddSigned`, the addition
  of an `ssize_t` to it.
- **Addresses.** `In6Addr` carries its 16-byte length as a field; `TorAddr` is the part of
  `tor_addr_t` the code inspects (its family and value).
- **Cells.** `CellDirection` and the relay-carrying `CellCommand`s.
-/

namespace TorCore

/-! ## Byte access -/

/-- `get_uint8 (p + i)`: the byte at offset `i` of a buffer. -/
def getUint8 (p : List UInt8) (i : Nat) : UInt8 := p.getD i 0

/-- `ntohl (get_uint32 (p + i))`: the network-order 32-bit word at offset `i`. -/
def getUint32 (p : List UInt8) (i : Nat) : UInt32 :=
  UInt32.ofNat ((getUint8 p i).toNat * 2 ^ 24 + (getUint8 p (i + 1)).toNat * 2 ^ 16 +
    (getUint8 p (i + 2)).toNat * 2 ^ 8 + (getUint8 p (i + 3)).toNat)

/-- The four bytes `set_uint32 (p, htonl v)` stores. -/
def setUint32 (v : UInt32) : List UInt8 :=
  [UInt8.ofNat (v.toNat / 2 ^ 24), UInt8.ofNat (v.toNat / 2 ^ 16),
    UInt8.ofNat (v.toNat / 2 ^ 8), UInt8.ofNat v.toNat]

@[simp] theorem setUint32_length (v : UInt32) : (setUint32 v).length = 4 := rfl

/-- A read after a known prefix reads the suffix. -/
@[simp] theorem getUint8_append_left (pre l : List UInt8) (i : Nat) :
    getUint8 (pre ++ l) (pre.length + i) = getUint8 l i := by
  simp [getUint8, List.getD_eq_getElem?_getD, List.getElem?_append_right]

/-- A read inside a known prefix ignores what follows it. -/
theorem getUint8_append_of_lt {pre l : List UInt8} {i : Nat} (h : i < pre.length) :
    getUint8 (pre ++ l) i = getUint8 pre i := by
  simp [getUint8, List.getD_eq_getElem?_getD, List.getElem?_append_left h]

theorem getUint32_append_left (pre l : List UInt8) (i : Nat) :
    getUint32 (pre ++ l) (pre.length + i) = getUint32 l i := by
  simp only [getUint32, Nat.add_assoc, getUint8_append_left]

/-- **`ntohl ∘ get_uint32` inverts `set_uint32 ∘ htonl`.** -/
theorem getUint32_setUint32 (v : UInt32) (rest : List UInt8) :
    getUint32 (setUint32 v ++ rest) 0 = v := by
  apply UInt32.toNat.inj
  have hv := v.toNat_lt_size
  simp only [getUint32, setUint32, getUint8, List.cons_append, List.getD_cons_zero,
    List.getD_cons_succ, UInt32.toNat, UInt32.ofNat, UInt8.toNat, UInt8.ofNat,
    BitVec.toNat_ofNat] at *
  simp only [UInt32.size] at hv
  omega

/-- The word stored after any prefix reads back at that prefix's length. -/
theorem getUint32_setUint32_at (pre : List UInt8) (v : UInt32) (rest : List UInt8) :
    getUint32 (pre ++ (setUint32 v ++ rest)) pre.length = v := by
  have h := getUint32_append_left pre (setUint32 v ++ rest) 0
  rw [Nat.add_zero] at h
  rw [h, getUint32_setUint32]

/-- `len` bytes starting at offset `i`: what a `memcpy (dst, p + i, len)` copies out. -/
def bytesAt (p : List UInt8) (i len : Nat) : List UInt8 :=
  (List.range len).map fun k => getUint8 p (i + k)

@[simp] theorem bytesAt_length (p : List UInt8) (i len : Nat) : (bytesAt p i len).length = len := by
  simp [bytesAt]

/-- The bytes copied in after a prefix are copied back out at that prefix's length. -/
theorem bytesAt_append (pre v rest : List UInt8) :
    bytesAt (pre ++ (v ++ rest)) pre.length v.length = v := by
  apply List.ext_getElem (by simp)
  intro k hk _
  simp only [bytesAt_length] at hk
  simp only [bytesAt, List.getElem_map, List.getElem_range]
  rw [getUint8_append_left, getUint8_append_of_lt hk]
  simp [getUint8, List.getD_eq_getElem?_getD, List.getElem?_eq_getElem hk]

/-- A byte read from a copy-out is the byte at the same place of the buffer. -/
theorem getUint8_bytesAt (p : List UInt8) (i : Nat) {n k : Nat} (hk : k < n) :
    getUint8 (bytesAt p i n) k = getUint8 p (i + k) := by
  simp [getUint8, bytesAt, List.getD_eq_getElem?_getD, List.getElem?_range hk]

/-- A word read from a copy-out is the word at the same place of the buffer. -/
theorem getUint32_bytesAt (p : List UInt8) (i : Nat) {n k : Nat} (hk : k + 4 ≤ n) :
    getUint32 (bytesAt p i n) k = getUint32 p (i + k) := by
  simp only [getUint32, Nat.add_assoc, getUint8_bytesAt p i (show k < n by omega),
    getUint8_bytesAt p i (show k + 1 < n by omega), getUint8_bytesAt p i (show k + 2 < n by omega),
    getUint8_bytesAt p i (show k + 3 < n by omega)]

theorem bytesAt_bytesAt (p : List UInt8) (i : Nat) {n k len : Nat} (h : k + len ≤ n) :
    bytesAt (bytesAt p i n) k len = bytesAt p (i + k) len :=
  List.map_congr_left fun j hj => by
    rw [getUint8_bytesAt p i (by simp at hj; omega), Nat.add_assoc]

/-- A read below `n` does not see past the first `n` bytes. -/
theorem getUint8_take (p : List UInt8) {n i : Nat} (h : i < n) :
    getUint8 (p.take n) i = getUint8 p i := by
  simp [getUint8, List.getD_eq_getElem?_getD, List.getElem?_take, h]

theorem bytesAt_take (p : List UInt8) {n i len : Nat} (h : i + len ≤ n) :
    bytesAt (p.take n) i len = bytesAt p i len :=
  List.map_congr_left fun k hk => getUint8_take p (by simp at hk; omega)

/-- Inside the buffer, a copy-out is a slice. -/
theorem bytesAt_eq_take_drop (p : List UInt8) {i n : Nat} (h : i + n ≤ p.length) :
    bytesAt p i n = (p.drop i).take n := by
  apply List.ext_getElem (by simp; omega)
  intro k hk _
  simp only [bytesAt_length] at hk
  simp [bytesAt, getUint8, List.getD_eq_getElem?_getD,
    List.getElem?_eq_getElem (show i + k < p.length by omega)]

/-- **`set_uint32 ∘ htonl` inverts `ntohl ∘ get_uint32`**: the word read at offset `i`, stored,
    gives back the four bytes it was read from. -/
theorem setUint32_getUint32 (p : List UInt8) (i : Nat) :
    setUint32 (getUint32 p i) = bytesAt p i 4 := by
  have h0 := (getUint8 p i).toNat_lt_size
  have h1 := (getUint8 p (i + 1)).toNat_lt_size
  have h2 := (getUint8 p (i + 2)).toNat_lt_size
  have h3 := (getUint8 p (i + 3)).toNat_lt_size
  show _ = [getUint8 p (i + 0), getUint8 p (i + 1), getUint8 p (i + 2), getUint8 p (i + 3)]
  simp only [setUint32, getUint32, List.cons.injEq, and_true, Nat.add_zero]
  refine ⟨?_, ?_, ?_, ?_⟩ <;> apply UInt8.toNat.inj <;>
    simp only [UInt32.toNat, UInt32.ofNat, UInt8.toNat, UInt8.ofNat, BitVec.toNat_ofNat,
      UInt8.size] at * <;>
    omega

/-- The content of a C string: the bytes before its terminating NUL, so `strlen` is `length`. -/
structure CString where
  bytes : List UInt8
  no_nul : 0 ∉ bytes
  deriving DecidableEq

/-! ## Sizes -/

/-- `size_t` subtraction: it wraps modulo `SIZE_MAX + 1 = 2^64` when `b` exceeds `a`. -/
def sizeSub (a b : Nat) : Nat := if b ≤ a then a - b else a + 2 ^ 64 - b

theorem sizeSub_of_le {a b : Nat} (h : b ≤ a) : sizeSub a b = a - b := if_pos h

/-- `size_t += ssize_t`: a negative `s` converts to `size_t` as `SIZE_MAX + 1 + s`, so it
    subtracts, wrapping below zero. -/
def sizeAddSigned (a : Nat) (s : Int) : Nat := if 0 ≤ s then a + s.toNat else sizeSub a (-s).toNat

@[simp] theorem sizeAddSigned_zero (a : Nat) : sizeAddSigned a 0 = a := rfl

/-! ## Addresses -/

/-- `struct in6_addr`: sixteen bytes, in network order. -/
structure In6Addr where
  bytes : List UInt8
  length_eq : bytes.length = 16
  deriving DecidableEq

/-- `tor_addr_t` as far as the modelled code looks at it: its family and its value.
    IPv4 values are kept in host order, as `tor_addr_to_ipv4h` returns them. -/
inductive TorAddr where
  | unspec
  | ipv4 (a : UInt32)
  | ipv6 (a : In6Addr)
  deriving DecidableEq

/-- `tor_addr_from_ipv6_bytes (p + i)`: the sixteen bytes at offset `i`. -/
def In6Addr.ofBytes (p : List UInt8) (i : Nat) : In6Addr :=
  ⟨bytesAt p i 16, bytesAt_length p i 16⟩

/-- Reading an address's sixteen bytes back after a prefix gives the address. -/
theorem In6Addr.ofBytes_append (pre : List UInt8) (a : In6Addr) (rest : List UInt8) :
    In6Addr.ofBytes (pre ++ (a.bytes ++ rest)) pre.length = a := by
  obtain ⟨b, hb⟩ := a
  simp only [In6Addr.ofBytes, In6Addr.mk.injEq]
  exact hb ▸ bytesAt_append pre b rest

/-! ## Cells -/

/-- `CELL_DIRECTION_OUT` (away from the circuit's origin) and `CELL_DIRECTION_IN`. -/
inductive CellDirection where
  | outward
  | inward
  deriving DecidableEq, Repr

/-- `CELL_RELAY` and `CELL_RELAY_EARLY`, the two cell commands that carry relay messages. -/
inductive CellCommand where
  | relay
  | relayEarly
  deriving DecidableEq, Repr

end TorCore
