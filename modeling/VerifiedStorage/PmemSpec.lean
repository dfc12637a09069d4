-- The persistent-memory region of `pmemspec_t.rs`: what a write does, what a crash in the
-- middle of a write can leave behind (any set of 8-byte persistence chunks flushed), and
-- the two assumptions on how CRCs and the corruption-detecting boolean detect corruption.
import Mathlib.Data.List.GetD
import VerifiedStorage.Serialization

namespace verified_storage

/-! ## Writes and partially flushed writes -/

/-- `persistence_chunk_size`: chunk `id` is the addresses `addr` with `addr / 8 = id`. -/
def persistence_chunk_size : Nat := 8

/-- The byte at `addr` after writing `write_bytes` at `write_addr`, if it was `prewrite_byte`. -/
def updateByteToReflectWrite (addr : Nat) (prewrite_byte : UInt8) (write_addr : Nat)
    (write_bytes : List UInt8) : UInt8 :=
  if write_addr ≤ addr ∧ addr < write_addr + write_bytes.length then
    write_bytes.getD (addr - write_addr) 0
  else prewrite_byte

/-- `update_contents_to_reflect_write`: the contents after the write. -/
def updateContentsToReflectWrite (prewrite_contents : List UInt8) (write_addr : Nat)
    (write_bytes : List UInt8) : List UInt8 :=
  prewrite_contents.mapIdx fun addr b => updateByteToReflectWrite addr b write_addr write_bytes

/-- The byte at `addr` after a write of which only the chunks in `chunks_flushed` reached
the media. A set of chunk ids is a predicate on them. -/
def updateByteToReflectPartiallyFlushedWrite (addr : Nat) (prewrite_byte : UInt8)
    (write_addr : Nat) (write_bytes : List UInt8) (chunks_flushed : Nat → Bool) : UInt8 :=
  if chunks_flushed (addr / persistence_chunk_size) then
    updateByteToReflectWrite addr prewrite_byte write_addr write_bytes
  else prewrite_byte

/-- `update_contents_to_reflect_partially_flushed_write`: a crash state of the write. -/
def updateContentsToReflectPartiallyFlushedWrite (contents : List UInt8) (write_addr : Nat)
    (write_bytes : List UInt8) (chunks_flushed : Nat → Bool) : List UInt8 :=
  contents.mapIdx fun addr b =>
    updateByteToReflectPartiallyFlushedWrite addr b write_addr write_bytes chunks_flushed

section Writes

variable (cs : List UInt8) (a : Nat) (w : List UInt8) (F : Nat → Bool)

@[simp] theorem length_updateContentsToReflectWrite :
    (updateContentsToReflectWrite cs a w).length = cs.length := by
  simp [updateContentsToReflectWrite]

@[simp] theorem length_updateContentsToReflectPartiallyFlushedWrite :
    (updateContentsToReflectPartiallyFlushedWrite cs a w F).length = cs.length := by
  simp [updateContentsToReflectPartiallyFlushedWrite]

theorem getElem?_updateContentsToReflectWrite_of_not_mem {i : Nat}
    (h : i < a ∨ a + w.length ≤ i) : (updateContentsToReflectWrite cs a w)[i]? = cs[i]? := by
  simp only [updateContentsToReflectWrite, List.getElem?_mapIdx, updateByteToReflectWrite]
  cases cs[i]? <;> simp only [Option.map_none', Option.map_some']
  rw [if_neg (by omega)]

theorem getElem?_updateContentsToReflectWrite_of_mem {i : Nat} (h1 : a ≤ i)
    (h2 : i < a + w.length) (hc : i < cs.length) :
    (updateContentsToReflectWrite cs a w)[i]? = w[i - a]? := by
  simp only [updateContentsToReflectWrite, List.getElem?_mapIdx, updateByteToReflectWrite,
    List.getElem?_eq_getElem hc, Option.map_some', if_pos (And.intro h1 h2),
    List.getD_eq_getElem?_getD, List.getElem?_eq_getElem (show i - a < w.length by omega),
    Option.getD_some]

/-- Each byte of a crash state is the old byte or the completed write's byte: the one of its
chunk, whichever that is. -/
theorem getElem?_updateContentsToReflectPartiallyFlushedWrite (i : Nat) :
    (updateContentsToReflectPartiallyFlushedWrite cs a w F)[i]? =
      if F (i / persistence_chunk_size) then (updateContentsToReflectWrite cs a w)[i]? else cs[i]? := by
  simp only [updateContentsToReflectPartiallyFlushedWrite, updateContentsToReflectWrite,
    List.getElem?_mapIdx, updateByteToReflectPartiallyFlushedWrite]
  cases cs[i]? <;> split <;> simp_all

theorem getElem?_updateContentsToReflectPartiallyFlushedWrite_of_not_mem {i : Nat}
    (h : i < a ∨ a + w.length ≤ i) :
    (updateContentsToReflectPartiallyFlushedWrite cs a w F)[i]? = cs[i]? := by
  rw [getElem?_updateContentsToReflectPartiallyFlushedWrite,
    getElem?_updateContentsToReflectWrite_of_not_mem cs a w h, ite_self]

@[simp] theorem updateContentsToReflectPartiallyFlushedWrite_all :
    updateContentsToReflectPartiallyFlushedWrite cs a w (fun _ => true) =
      updateContentsToReflectWrite cs a w := by
  simp [updateContentsToReflectPartiallyFlushedWrite, updateContentsToReflectWrite,
    updateByteToReflectPartiallyFlushedWrite]

@[simp] theorem updateContentsToReflectPartiallyFlushedWrite_none :
    updateContentsToReflectPartiallyFlushedWrite cs a w (fun _ => false) = cs := by
  simp only [updateContentsToReflectPartiallyFlushedWrite,
    updateByteToReflectPartiallyFlushedWrite, Bool.false_eq_true, if_false]
  exact List.mapIdx_eq_iff.2 fun i => by cases cs[i]? <;> rfl

/-- A write inside one persistence chunk is atomic: a crash keeps all of it or none of it. -/
theorem updateContentsToReflectPartiallyFlushedWrite_of_chunk {c : Nat}
    (hc : ∀ i, a ≤ i → i < a + w.length → i / persistence_chunk_size = c) :
    updateContentsToReflectPartiallyFlushedWrite cs a w F =
      if F c then updateContentsToReflectWrite cs a w else cs := by
  apply List.ext_getElem?
  intro i
  rw [getElem?_updateContentsToReflectPartiallyFlushedWrite]
  by_cases hi : a ≤ i ∧ i < a + w.length
  · rw [hc i hi.1 hi.2]
    cases F c <;> rfl
  · have h : (updateContentsToReflectWrite cs a w)[i]? = cs[i]? :=
      getElem?_updateContentsToReflectWrite_of_not_mem cs a w (by omega)
    rw [h, ite_self]
    cases F c <;> simp only [h, if_true, Bool.false_eq_true, if_false]

theorem extractBytes_updateContentsToReflectWrite (h : a + w.length ≤ cs.length) :
    extractBytes (updateContentsToReflectWrite cs a w) a w.length = w := by
  apply List.ext_getElem?
  intro i
  rw [getElem?_extractBytes]
  split
  · rw [getElem?_updateContentsToReflectWrite_of_mem cs a w (by omega) (by omega) (by omega),
      Nat.add_sub_cancel_left]
  · rw [List.getElem?_eq_none (by omega)]

end Writes

/-! ## Corruption -/

/-- `crc_size`: a CRC is 8 bytes. -/
def CRC_SIZE : Nat := 8

/-- `maybe_corrupted`: `bytes`, read from the addresses `addrs`, may be a corruption of
`true_bytes`, byte by byte. -/
def maybeCorrupted (maybe_corrupted_byte : UInt8 → UInt8 → Int → Prop)
    (bytes true_bytes : List UInt8) (addrs : List Int) : Prop :=
  bytes.length = true_bytes.length ∧ bytes.length = addrs.length ∧
    ∀ i < bytes.length, maybe_corrupted_byte (bytes.getD i 0) (true_bytes.getD i 0) (addrs.getD i 0)

/-- `all_elements_unique`. -/
def allElementsUnique (seq : List Int) : Prop :=
  ∀ i j, i < j → j < seq.length → seq.getD i 0 ≠ seq.getD j 0

/-- `cdb0_val`, the CRC of `b"0"`; the storage node calls it `CDB_FALSE`. -/
def CDB_FALSE : U64 := 0xa32842d19001605e

/-- `cdb1_val`, the CRC of `b"1"`; the storage node calls it `CDB_TRUE`. -/
def CDB_TRUE : U64 := 0xab21aa73069531b7

/-- The closed spec functions `maybe_corrupted_byte` and `spec_crc_bytes`, with the two
external-body proof functions that the code assumes of them, and the length `bytes_crc`
ensures of its output. -/
structure CorruptionModel where
  maybe_corrupted_byte : UInt8 → UInt8 → Int → Prop
  spec_crc_bytes : List UInt8 → List UInt8
  length_spec_crc_bytes : ∀ s, (spec_crc_bytes s).length = CRC_SIZE
  axiom_bytes_uncorrupted : ∀ (x_c x : List UInt8) (x_addrs : List Int)
    (y_c y : List UInt8) (y_addrs : List Int),
    maybeCorrupted maybe_corrupted_byte x_c x x_addrs →
    maybeCorrupted maybe_corrupted_byte y_c y y_addrs →
    y = spec_crc_bytes x → y_c = spec_crc_bytes x_c →
    allElementsUnique x_addrs → allElementsUnique y_addrs → x = x_c
  axiom_corruption_detecting_boolean : ∀ (cdb_c cdb : U64) (addrs : List Int),
    maybeCorrupted maybe_corrupted_byte (specU64ToLeBytes cdb_c) (specU64ToLeBytes cdb) addrs →
    allElementsUnique addrs →
    (cdb = CDB_FALSE ∨ cdb = CDB_TRUE) → (cdb_c = CDB_FALSE ∨ cdb_c = CDB_TRUE) → cdb_c = cdb

/-- Modelled from the spec: the CRC of a record, `spec_crc_bytes` of its encoding read as a
`u64` (§4.B); `spec_crc` of `serialization_t.rs` under this model. -/
def CorruptionModel.specCrc (cm : CorruptionModel) : SpecCrc :=
  fun x => specU64FromLeBytes (cm.spec_crc_bytes (specSerialize x))

theorem CorruptionModel.eq_specCrcBytes (cm : CorruptionModel) {S : Type} [Serializable S]
    (hS : ∀ s : List UInt8, s.length = specSerializedLen S → specSerialize (specDeserialize s : S) = s)
    {x y : List UInt8} (hx : x.length = specSerializedLen S) (hy : y.length = 8)
    (h : specU64FromLeBytes y = cm.specCrc (specDeserialize x : S)) : y = cm.spec_crc_bytes x := by
  refine specU64FromLeBytes_injective hy (cm.length_spec_crc_bytes x) ?_
  rw [h, CorruptionModel.specCrc, hS x hx]

/-- The addresses `addr, addr + 1, ...` that a read of `num_bytes` bytes reports. -/
def readAddrs (addr num_bytes : Nat) : List Int :=
  (List.range num_bytes).map fun (i : Nat) => ((i + addr : Nat) : Int)

theorem allElementsUnique_readAddrs (addr num_bytes : Nat) :
    allElementsUnique (readAddrs addr num_bytes) := by
  intro i j hij hj
  simp only [readAddrs, List.length_map, List.length_range] at hj
  simp only [readAddrs, List.getD_eq_getElem?_getD, List.getElem?_map,
    List.getElem?_range (show i < num_bytes by omega), List.getElem?_range hj, Option.map_some',
    Option.getD_some]
  omega

/-! ## A model of the corruption assumptions

The two assumptions hold of a device that may corrupt the byte at address 0 and of a CRC that
repeats the sum of the bytes: two reads from distinct addresses are corrupted in one place at
most, which changes the sum of a record, and no one change turns one CDB value into the other. -/

/-- Only the byte at address 0 may read differently from the committed one. -/
def addressZeroCorrupted (b t : UInt8) (addr : Int) : Prop := b = t ∨ addr = 0

/-- The sum of the bytes of `s`. -/
def byteTotal : List UInt8 → Nat
  | [] => 0
  | b :: s => b.toNat + byteTotal s

/-- The byte sum of `s` modulo 256. -/
def byteSum (s : List UInt8) : UInt8 := UInt8.ofNat (byteTotal s)

/-- The CRC of this model: the byte sum, eight times. -/
def byteSumCrcBytes (s : List UInt8) : List UInt8 := List.replicate CRC_SIZE (byteSum s)

theorem getD_byteSumCrcBytes (s : List UInt8) {k : Nat} (hk : k < CRC_SIZE) :
    (byteSumCrcBytes s).getD k 0 = byteSum s := by
  simp only [byteSumCrcBytes, List.getD_eq_getElem?_getD, List.getElem?_replicate, hk, if_true,
    Option.getD_some]

theorem eq_of_getD_eq {xs ts : List UInt8} (hl : xs.length = ts.length)
    (h : ∀ i < xs.length, xs.getD i 0 = ts.getD i 0) : xs = ts :=
  List.ext_getElem hl fun i h1 h2 => by
    simpa only [List.getD_eq_getElem _ _ h1, List.getD_eq_getElem _ _ h2] using h i h1

theorem eq_of_addressZeroCorrupted {bytes true_bytes : List UInt8} {addrs : List Int}
    (h : maybeCorrupted addressZeroCorrupted bytes true_bytes addrs) (hu : allElementsUnique addrs)
    {i j : Nat} (hi : i < bytes.length) (hj : j < bytes.length)
    (hbi : bytes.getD i 0 ≠ true_bytes.getD i 0) (hbj : bytes.getD j 0 ≠ true_bytes.getD j 0) :
    i = j := by
  have hai := (h.2.2 i hi).resolve_left hbi
  have haj := (h.2.2 j hj).resolve_left hbj
  rcases Nat.lt_trichotomy i j with hij | hij | hij
  · exact absurd (hai.trans haj.symm) (hu i j hij (h.2.1 ▸ hj))
  · exact hij
  · exact absurd (haj.trans hai.symm) (hu j i hij (h.2.1 ▸ hi))

theorem sum_add_getD_eq {xs ts : List UInt8} (hl : xs.length = ts.length) (i : Nat)
    (h : ∀ j, j ≠ i → xs.getD j 0 = ts.getD j 0) :
    byteTotal xs + (ts.getD i 0).toNat = byteTotal ts + (xs.getD i 0).toNat := by
  induction xs generalizing ts i with
  | nil => cases ts <;> simp_all
  | cons x xs ih =>
    cases ts with
    | nil => simp at hl
    | cons t ts =>
      simp only [List.length_cons, Nat.add_right_cancel_iff] at hl
      cases i with
      | zero =>
        have htail := ih hl xs.length fun j _ => h (j + 1) (by omega)
        simp only [List.getD_eq_default _ _ (le_refl _), List.getD_eq_default _ _ hl.ge] at htail
        simp only [byteTotal, List.getD_cons_zero]
        omega
      | succ k =>
        have hx : x = t := h 0 (by omega)
        have htail := ih hl k fun j hj => h (j + 1) (by omega)
        simp only [byteTotal, List.getD_cons_succ, hx]
        omega

theorem toNat_uInt8_ofNat (n : Nat) : (UInt8.ofNat n).toNat = n % 256 := by
  simp [UInt8.ofNat, UInt8.toNat]

/-- A one-place corruption changes the byte sum modulo 256. -/
theorem byteSum_ne {xs ts : List UInt8} (hl : xs.length = ts.length) {i : Nat}
    (h : ∀ j, j ≠ i → xs.getD j 0 = ts.getD j 0) (hi : xs.getD i 0 ≠ ts.getD i 0) :
    byteSum xs ≠ byteSum ts := by
  intro heq
  have hsum := sum_add_getD_eq hl i h
  have hbyte := congrArg UInt8.toNat heq
  simp only [byteSum, toNat_uInt8_ofNat] at hbyte
  have hne : (xs.getD i 0).toNat ≠ (ts.getD i 0).toNat := fun e => hi (UInt8.toNat.inj e)
  have := (xs.getD i 0).toBitVec.isLt
  have := (ts.getD i 0).toBitVec.isLt
  simp only [UInt8.toNat] at hsum hne
  omega

/-- A corruption of address 0 with the byte-sum CRC satisfies both assumptions. -/
def addressZeroCorruption : CorruptionModel where
  maybe_corrupted_byte := addressZeroCorrupted
  spec_crc_bytes := byteSumCrcBytes
  length_spec_crc_bytes _ := List.length_replicate _ _
  axiom_bytes_uncorrupted x_c x _ y_c y _ hx hy hyx hyxc hux huy := by
    by_contra hne
    obtain ⟨i, hi, hdiff⟩ : ∃ i < x_c.length, x_c.getD i 0 ≠ x.getD i 0 := by
      by_contra hall
      push_neg at hall
      exact hne (eq_of_getD_eq hx.1 hall).symm
    have hagree : ∀ j, j ≠ i → x_c.getD j 0 = x.getD j 0 := fun j hj => by
      by_cases hj' : j < x_c.length
      · by_contra hd
        exact hj (eq_of_addressZeroCorrupted hx hux hj' hi hd hdiff)
      · rw [List.getD_eq_default _ _ (not_lt.1 hj'), List.getD_eq_default _ _ (hx.1 ▸ not_lt.1 hj')]
    have hsum := byteSum_ne hx.1 hagree hdiff
    have hlen : y_c.length = CRC_SIZE := hyxc ▸ List.length_replicate _ _
    have hdiff_at : ∀ k < CRC_SIZE, y_c.getD k 0 ≠ y.getD k 0 := fun k hk => by
      rw [hyxc, hyx, getD_byteSumCrcBytes _ hk, getD_byteSumCrcBytes _ hk]
      exact hsum
    exact absurd (eq_of_addressZeroCorrupted hy huy (hlen ▸ (by decide : 0 < CRC_SIZE))
      (hlen ▸ (by decide : 1 < CRC_SIZE)) (hdiff_at 0 (by decide)) (hdiff_at 1 (by decide)))
      (by decide)
  axiom_corruption_detecting_boolean cdb_c cdb addrs h hu hcdb hcdb_c := by
    have hlen : (specU64ToLeBytes cdb_c).length = 8 := length_specU64ToLeBytes _
    rcases hcdb with rfl | rfl <;> rcases hcdb_c with rfl | rfl
    · rfl
    · exact absurd (eq_of_addressZeroCorrupted h hu (hlen ▸ (by decide : 0 < 8))
        (hlen ▸ (by decide : 1 < 8)) (by decide) (by decide)) (by decide)
    · exact absurd (eq_of_addressZeroCorrupted h hu (hlen ▸ (by decide : 0 < 8))
        (hlen ▸ (by decide : 1 < 8)) (by decide) (by decide)) (by decide)
    · rfl

end verified_storage
