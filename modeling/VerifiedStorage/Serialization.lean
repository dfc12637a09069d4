-- Fixed-width little-endian integers on byte lists, as vstd's `spec_u64_to_le_bytes`
-- family gives them, and the `Serializable` trait that the metadata records implement.
-- Both round trips hold for every value and for every byte list of the width.
import Mathlib.Algebra.Order.Group.Nat
import Mathlib.Data.List.Basic

namespace verified_storage

abbrev U32 := BitVec 32
abbrev U64 := BitVec 64
abbrev U128 := BitVec 128

/-- `u128::MAX`. -/
def U128_MAX : Nat := 2 ^ 128 - 1

/-! ## Little-endian encodings -/

/-- The `w` bytes of `n`, least significant first; bits past `8 * w` are dropped. -/
def natToLeBytes : Nat → Nat → List UInt8
  | 0, _ => []
  | w + 1, n => UInt8.ofNat (n % 256) :: natToLeBytes w (n / 256)

/-- The number whose little-endian bytes are `s`. -/
def natFromLeBytes : List UInt8 → Nat
  | [] => 0
  | b :: s => b.toNat + 256 * natFromLeBytes s

/-- The `w` little-endian bytes of a `w`-byte integer. -/
def bitVecToLeBytes (w : Nat) (x : BitVec (8 * w)) : List UInt8 := natToLeBytes w x.toNat

/-- The `w`-byte integer read from little-endian bytes. -/
def bitVecFromLeBytes (w : Nat) (s : List UInt8) : BitVec (8 * w) :=
  BitVec.ofNat (8 * w) (natFromLeBytes s)

def specU32ToLeBytes (x : U32) : List UInt8 := bitVecToLeBytes 4 x
def specU64ToLeBytes (x : U64) : List UInt8 := bitVecToLeBytes 8 x
def specU128ToLeBytes (x : U128) : List UInt8 := bitVecToLeBytes 16 x
def specU32FromLeBytes (s : List UInt8) : U32 := bitVecFromLeBytes 4 s
def specU64FromLeBytes (s : List UInt8) : U64 := bitVecFromLeBytes 8 s
def specU128FromLeBytes (s : List UInt8) : U128 := bitVecFromLeBytes 16 s

@[simp] theorem length_natToLeBytes (w n : Nat) : (natToLeBytes w n).length = w := by
  induction w generalizing n with
  | zero => rfl
  | succ w ih => simp [natToLeBytes, ih]

theorem natFromLeBytes_natToLeBytes (w n : Nat) :
    natFromLeBytes (natToLeBytes w n) = n % 256 ^ w := by
  induction w generalizing n with
  | zero => simp [natToLeBytes, natFromLeBytes, Nat.mod_one]
  | succ w ih =>
    have hb : (UInt8.ofNat (n % 256)).toNat = n % 256 :=
      UInt8.toNat_ofNat_of_lt (Nat.mod_lt _ (by decide))
    rw [natToLeBytes, natFromLeBytes, ih, hb, pow_succ', Nat.mod_mul]

theorem natFromLeBytes_lt (s : List UInt8) : natFromLeBytes s < 256 ^ s.length := by
  induction s with
  | nil => simp [natFromLeBytes]
  | cons b s ih =>
    have hb := b.toNat_lt_size
    simp only [natFromLeBytes, List.length_cons, pow_succ]
    simp only [UInt8.size] at hb
    omega

theorem natToLeBytes_natFromLeBytes (s : List UInt8) :
    natToLeBytes s.length (natFromLeBytes s) = s := by
  induction s with
  | nil => rfl
  | cons b s ih =>
    have hb : b.toNat < 256 := b.toNat_lt_size
    have hlo : (b.toNat + 256 * natFromLeBytes s) % 256 = b.toNat := by omega
    have hhi : (b.toNat + 256 * natFromLeBytes s) / 256 = natFromLeBytes s := by omega
    rw [List.length_cons, natToLeBytes, natFromLeBytes, hlo, hhi, ih]
    exact congrArg (· :: s) (UInt8.toNat.inj (UInt8.toNat_ofNat_of_lt hb))

theorem two_pow_eight_mul (w : Nat) : 2 ^ (8 * w) = 256 ^ w := by
  rw [Nat.pow_mul]

@[simp] theorem length_bitVecToLeBytes (w : Nat) (x : BitVec (8 * w)) :
    (bitVecToLeBytes w x).length = w :=
  length_natToLeBytes w _

@[simp] theorem bitVecFromLeBytes_bitVecToLeBytes (w : Nat) (x : BitVec (8 * w)) :
    bitVecFromLeBytes w (bitVecToLeBytes w x) = x := by
  apply BitVec.eq_of_toNat_eq
  have hx := x.isLt
  rw [two_pow_eight_mul] at hx
  rw [bitVecFromLeBytes, bitVecToLeBytes, BitVec.toNat_ofNat, natFromLeBytes_natToLeBytes,
    Nat.mod_eq_of_lt hx, Nat.mod_eq_of_lt (two_pow_eight_mul w ▸ hx)]

theorem bitVecToLeBytes_bitVecFromLeBytes (w : Nat) (s : List UInt8) (h : s.length = w) :
    bitVecToLeBytes w (bitVecFromLeBytes w s) = s := by
  subst h
  have hs := natFromLeBytes_lt s
  rw [bitVecToLeBytes, bitVecFromLeBytes, BitVec.toNat_ofNat, two_pow_eight_mul,
    Nat.mod_eq_of_lt hs, natToLeBytes_natFromLeBytes]

@[simp] theorem specU32FromLeBytes_specU32ToLeBytes (x : U32) :
    specU32FromLeBytes (specU32ToLeBytes x) = x := bitVecFromLeBytes_bitVecToLeBytes 4 x

@[simp] theorem specU64FromLeBytes_specU64ToLeBytes (x : U64) :
    specU64FromLeBytes (specU64ToLeBytes x) = x := bitVecFromLeBytes_bitVecToLeBytes 8 x

@[simp] theorem specU128FromLeBytes_specU128ToLeBytes (x : U128) :
    specU128FromLeBytes (specU128ToLeBytes x) = x := bitVecFromLeBytes_bitVecToLeBytes 16 x

@[simp] theorem length_specU32ToLeBytes (x : U32) : (specU32ToLeBytes x).length = 4 :=
  length_bitVecToLeBytes 4 x

@[simp] theorem length_specU64ToLeBytes (x : U64) : (specU64ToLeBytes x).length = 8 :=
  length_bitVecToLeBytes 8 x

@[simp] theorem length_specU128ToLeBytes (x : U128) : (specU128ToLeBytes x).length = 16 :=
  length_bitVecToLeBytes 16 x

theorem specU32ToLeBytes_specU32FromLeBytes {s : List UInt8} (h : s.length = 4) :
    specU32ToLeBytes (specU32FromLeBytes s) = s := bitVecToLeBytes_bitVecFromLeBytes 4 s h

theorem specU64ToLeBytes_specU64FromLeBytes {s : List UInt8} (h : s.length = 8) :
    specU64ToLeBytes (specU64FromLeBytes s) = s := bitVecToLeBytes_bitVecFromLeBytes 8 s h

theorem specU64FromLeBytes_injective {a b : List UInt8} (ha : a.length = 8) (hb : b.length = 8)
    (h : specU64FromLeBytes a = specU64FromLeBytes b) : a = b := by
  rw [← specU64ToLeBytes_specU64FromLeBytes ha, h, specU64ToLeBytes_specU64FromLeBytes hb]

theorem specU128ToLeBytes_specU128FromLeBytes {s : List UInt8} (h : s.length = 16) :
    specU128ToLeBytes (specU128FromLeBytes s) = s := bitVecToLeBytes_bitVecFromLeBytes 16 s h

/-! ## Subranges -/

/-- `extract_bytes`: the `len` bytes of `bytes` at `pos`, that is `bytes.subrange(pos, pos + len)`. -/
def extractBytes (bytes : List UInt8) (pos len : Nat) : List UInt8 := (bytes.drop pos).take len

theorem length_extractBytes {bytes : List UInt8} {pos len : Nat} (h : pos + len ≤ bytes.length) :
    (extractBytes bytes pos len).length = len := by
  simp only [extractBytes, List.length_take, List.length_drop]
  omega

@[simp] theorem extractBytes_zero_length (bytes : List UInt8) :
    extractBytes bytes 0 bytes.length = bytes := by
  simp [extractBytes]

/-- Two adjacent ranges make one. -/
theorem extractBytes_append_extractBytes (bytes : List UInt8) {pos m q : Nat} (n : Nat)
    (h : pos + m = q) :
    extractBytes bytes pos m ++ extractBytes bytes q n = extractBytes bytes pos (m + n) := by
  subst h
  simp only [extractBytes, List.take_add, List.drop_drop, Nat.add_comm m pos]

/-- The bytes of `extract_bytes`, one at a time. -/
theorem getElem?_extractBytes (bytes : List UInt8) (pos len i : Nat) :
    (extractBytes bytes pos len)[i]? = if i < len then bytes[pos + i]? else none := by
  simp only [extractBytes, List.getElem?_take, List.getElem?_drop]

/-- `extract_bytes` reads only the bytes of its range. -/
theorem extractBytes_congr {a b : List UInt8} {pos len : Nat}
    (h : ∀ i, pos ≤ i → i < pos + len → a[i]? = b[i]?) :
    extractBytes a pos len = extractBytes b pos len := by
  apply List.ext_getElem?
  intro i
  rw [getElem?_extractBytes, getElem?_extractBytes]
  split
  · exact h _ (by omega) (by omega)
  · rfl

/-! ## The `Serializable` trait -/

/-- The spec half of the trait `Serializable`: every record has a byte encoding, a decoding,
and a fixed encoded length. Its closed `spec_crc` is the separate `SpecCrc` below. -/
class Serializable (S : Type) where
  specSerialize : S → List UInt8
  specDeserialize : List UInt8 → S
  specSerializedLen : Nat

export Serializable (specSerialize specDeserialize specSerializedLen)

/-- `u64` as a serializable value, for the CRCs and the CDB. -/
instance : Serializable U64 where
  specSerialize := specU64ToLeBytes
  specDeserialize := specU64FromLeBytes
  specSerializedLen := 8

/-- `spec_crc`, closed in every implementation of the trait: one uninterpreted CRC for each
serializable type. The results hold for every choice. -/
abbrev SpecCrc := ∀ {S : Type} [Serializable S], S → U64

end verified_storage
