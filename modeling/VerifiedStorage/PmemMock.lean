-- The mock device of `pmemmock_t.rs`: a vector of bytes that `read` slices and `write`
-- splices. Its bodies are external, so the verifier takes them on trust to meet the contract of
-- the trait `PersistentMemory` of `pmemspec_t.rs`. They meet the contract of `write`, and so
-- carry out every run of writes that the permission gate admits. They meet the contract of
-- `read` exactly when `maybe_corrupted_byte` holds of every byte and itself, and neither
-- axiom on corruption says so.
import VerifiedStorage.WriteRestricted

namespace verified_storage

/-- `VolatileMemoryMockingPersistentMemory`: the contents, held in a `Vec<u8>`. -/
structure VolatileMemoryMockingPersistentMemory where
  contents : List UInt8

namespace VolatileMemoryMockingPersistentMemory

/-- `view`. -/
def view (self : VolatileMemoryMockingPersistentMemory) : List UInt8 := self.contents

/-- `inv`: the length fits in a `u64`. -/
def inv (self : VolatileMemoryMockingPersistentMemory) : Prop := self.contents.length ≤ U64_MAX

/-- `impervious_to_corruption`. -/
def impervious_to_corruption (_self : VolatileMemoryMockingPersistentMemory) : Bool := true

/-- `new`: `capacity` zero bytes. -/
def new (capacity : U64) : Except Unit VolatileMemoryMockingPersistentMemory :=
  .ok ⟨List.replicate capacity.toNat 0⟩

/-- `read`: the slice `[addr, addr + num_bytes)` of the contents, a panic when it passes their
end. The trait's `read` also returns the addresses read, `readAddrs addr num_bytes`. -/
def read (self : VolatileMemoryMockingPersistentMemory) (addr num_bytes : U64) :
    Option (List UInt8) :=
  if addr.toNat + num_bytes.toNat ≤ self.contents.length then
    some (extractBytes self.contents addr.toNat num_bytes.toNat)
  else none

/-- `write`: the `splice` of `bytes` over `[addr, addr + bytes.len())`, a panic when the range
passes the end of the contents. -/
def write (self : VolatileMemoryMockingPersistentMemory) (addr : U64) (bytes : List UInt8) :
    Option VolatileMemoryMockingPersistentMemory :=
  if addr.toNat + bytes.length ≤ self.contents.length then
    some ⟨self.contents.take addr.toNat ++ bytes ++ self.contents.drop (addr.toNat + bytes.length)⟩
  else none

variable {pm : VolatileMemoryMockingPersistentMemory}

theorem read_eq_some {addr num_bytes : U64} (h : addr.toNat + num_bytes.toNat ≤ pm.view.length) :
    pm.read addr num_bytes = some (extractBytes pm.view addr.toNat num_bytes.toNat) :=
  if_pos h

end VolatileMemoryMockingPersistentMemory

open VolatileMemoryMockingPersistentMemory

namespace VolatileMemoryMockingPersistentMemory

/-- The `ensures` of `read` under `cm`, for the bytes `bytes` of a read of `num_bytes` bytes at
`addr`. -/
structure ReadEnsures (cm : CorruptionModel) (pm : VolatileMemoryMockingPersistentMemory)
    (addr num_bytes : Nat) (bytes : List UInt8) : Prop where
  maybe_corrupted : maybeCorrupted cm.maybe_corrupted_byte bytes
    (extractBytes pm.view addr num_bytes) (readAddrs addr num_bytes)
  unique : allElementsUnique (readAddrs addr num_bytes)
  impervious : pm.impervious_to_corruption = true → bytes = extractBytes pm.view addr num_bytes

/-- Every read in range returns, with no panic, bytes that meet the `ensures` of `read`. -/
def MeetsReadContract (cm : CorruptionModel) : Prop :=
  ∀ (pm : VolatileMemoryMockingPersistentMemory) (addr num_bytes : U64), pm.inv →
    addr.toNat + num_bytes.toNat ≤ pm.view.length →
    ∃ bytes, pm.read addr num_bytes = some bytes ∧ ReadEnsures cm pm addr.toNat num_bytes.toNat bytes

end VolatileMemoryMockingPersistentMemory

theorem length_readAddrs (addr num_bytes : Nat) : (readAddrs addr num_bytes).length = num_bytes := by
  rw [readAddrs, List.length_map, List.length_range]

theorem getD_readAddrs {addr num_bytes i : Nat} (h : i < num_bytes) :
    (readAddrs addr num_bytes).getD i 0 = ((i + addr : Nat) : Int) := by
  rw [readAddrs, List.getD_eq_getElem?_getD, List.getElem?_map, List.getElem?_range h,
    Option.map_some', Option.getD_some]

/-- A read of one byte at `a` from a device that holds `a + 1` copies of `b` returns `b`, so if
the reads of the mock meet the contract then `maybe_corrupted_byte` holds of `b` and itself
at `a`. -/
theorem reflexive_of_meetsReadContract {cm : CorruptionModel} (h : MeetsReadContract cm)
    (b : UInt8) (a : Nat) (ha : a < U64_MAX) : cm.maybe_corrupted_byte b b a := by
  have ha' : a < 2 ^ 64 := by simp only [U64_MAX] at ha; omega
  have hn : (BitVec.ofNat 64 1).toNat = 1 := rfl
  have hr : (BitVec.ofNat 64 a).toNat + (BitVec.ofNat 64 1).toNat ≤
      (⟨List.replicate (a + 1) b⟩ : VolatileMemoryMockingPersistentMemory).view.length := by
    simp only [view, List.length_replicate, BitVec.toNat_ofNat, Nat.mod_eq_of_lt ha', hn]
    omega
  obtain ⟨bytes, hread, hens⟩ := h _ _ _ (by simp only [inv, List.length_replicate]; omega) hr
  have hex : extractBytes (List.replicate (a + 1) b) a 1 = [b] := by
    simp only [extractBytes, List.drop_replicate, Nat.add_sub_cancel_left, List.take_replicate]
    rfl
  rw [read_eq_some hr, Option.some.injEq] at hread
  simp only [view, BitVec.toNat_ofNat, Nat.mod_eq_of_lt ha', hn, hex] at hread hens
  subst hread
  simpa only [view, hex, List.getD_cons_zero, getD_readAddrs Nat.one_pos, Nat.zero_add] using
    hens.maybe_corrupted.2.2 0 Nat.one_pos

/-- When `maybe_corrupted_byte` holds of every byte and itself, the exact reads of the mock meet
the contract of `read`. -/
theorem meetsReadContract_of_reflexive {cm : CorruptionModel}
    (h : ∀ (b : UInt8) (a : Nat), a < U64_MAX → cm.maybe_corrupted_byte b b a) :
    MeetsReadContract cm := fun pm addr num_bytes hinv hr =>
  ⟨_, read_eq_some hr, ⟨⟨rfl, by rw [length_extractBytes hr, length_readAddrs], fun i hi => by
    rw [length_extractBytes hr] at hi
    rw [getD_readAddrs hi]
    exact h _ _ (by simp only [inv, view, U64_MAX] at hinv hr ⊢; omega)⟩,
    allElementsUnique_readAddrs _ _, fun _ => rfl⟩⟩

/-- A corruption model under which no byte can be read, not even as itself. Both axioms hold
of it, since no nonempty read meets their hypotheses. -/
def unreadableCorruption : CorruptionModel where
  maybe_corrupted_byte _ _ _ := False
  spec_crc_bytes _ := List.replicate CRC_SIZE 0
  length_spec_crc_bytes _ := List.length_replicate _ _
  axiom_bytes_uncorrupted x_c x _ _ _ _ hx _ _ _ _ _ := by
    have h0 : x_c.length = 0 := Nat.eq_zero_of_not_pos fun hpos => hx.2.2 0 hpos
    rw [List.eq_nil_of_length_eq_zero h0, List.eq_nil_of_length_eq_zero (hx.1.symm.trans h0)]
  axiom_corruption_detecting_boolean _ _ _ h _ _ _ :=
    (h.2.2 0 (by rw [length_specU64ToLeBytes]; decide)).elim

/-- The mock is trusted to meet the contract of `PersistentMemory`. Its reads meet the contract
of `read` under a corruption model exactly when `maybe_corrupted_byte` holds of every byte and
itself, as it does under `addressZeroCorruption`. The two axioms on corruption do not give
this: they hold under `unreadableCorruption`, where the reads of the mock break the contract. -/
theorem mock_reads_meet_their_contract_only_under_reflexive_corruption :
    (∀ cm : CorruptionModel, MeetsReadContract cm ↔
      ∀ (b : UInt8) (a : Nat), a < U64_MAX → cm.maybe_corrupted_byte b b a) ∧
    MeetsReadContract addressZeroCorruption ∧ ¬ MeetsReadContract unreadableCorruption :=
  ⟨fun _ => ⟨fun h => reflexive_of_meetsReadContract h, meetsReadContract_of_reflexive⟩,
    meetsReadContract_of_reflexive fun _ _ _ => Or.inl rfl,
    fun h => reflexive_of_meetsReadContract h 0 0 (by decide)⟩

end verified_storage
