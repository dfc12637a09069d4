-- The file-backed regions of `pmem/windows_pmemfile_t.rs`: one memory-mapped file whose size is
-- the sum of the region sizes, carved into one section per region. `from_file` maps a file of the
-- size asked, and the bounds check of `MemoryMappedFileSection::new` refuses a section that ends
-- at the end of the file, so the last section is always refused and no set of regions can be
-- built. The overflow check of the sizes is exact.
import VerifiedStorage.Serialization

namespace verified_storage.pmem

/-- `usize::MAX` and `isize::MAX` on the 64-bit targets of the code. -/
def USIZE_MAX : Nat := 2 ^ 64 - 1
def ISIZE_MAX : Nat := 2 ^ 63 - 1

/-- Modelled from the spec: the device errors `PmemError` (§7). -/
inductive PmemError where
  | CannotOpenPmFile
  | AccessOutOfRange
  | InvalidFileName
  deriving DecidableEq, Repr

/-- What carving reads of a `MemoryMappedFile`: the number of bytes mapped. -/
structure MemoryMappedFile where
  size : Nat
  deriving DecidableEq, Repr

/-- A `MemoryMappedFileSection`: its mapping, where it starts in the mapping (its address
`h_map_addr` less the mapping's), and its number of bytes. -/
structure MemoryMappedFileSection where
  mmf : MemoryMappedFile
  offset : Nat
  size : Nat
  deriving DecidableEq, Repr

/-- What `MemoryMappedFile::from_file` depends on besides the size: whether the path fails to
convert to a C string, and, for each size, whether Windows fails to create or open the file, to
create its mapping or to map its view. The results hold for every such system. -/
structure FileSystem where
  invalid_file_name : Bool
  cannot_open : Nat → Bool

/-- `MemoryMappedFile::from_file`: the file mapped whole, of the size asked. A `usize` size
always converts to the `u64` that Windows takes. -/
def MemoryMappedFile.fromFile (fs : FileSystem) (size : Nat) : Except PmemError MemoryMappedFile :=
  if fs.invalid_file_name then .error .InvalidFileName
  else if fs.cannot_open size then .error .CannotOpenPmFile
  else .ok ⟨size⟩

/-- `MemoryMappedFileSection::new`. The sum `offset + len` does not overflow in the callers,
which keep it within the file. -/
def MemoryMappedFileSection.new (mmf : MemoryMappedFile) (offset len : Nat) :
    Except PmemError MemoryMappedFileSection :=
  if offset + len ≥ mmf.size then .error .AccessOutOfRange
  else if offset > ISIZE_MAX then .error .AccessOutOfRange
  else .ok ⟨mmf, offset, len⟩

/-- The first loop of `FileBackedPersistentMemoryRegions::new_internal`: the total size of the
regions, refused once a region would take it to `usize::MAX`. -/
def sumRegionSizes : List U64 → Nat → Except PmemError Nat
  | [], total_size => .ok total_size
  | region_size :: region_sizes, total_size =>
    if region_size.toNat ≥ USIZE_MAX - total_size then .error .AccessOutOfRange
    else sumRegionSizes region_sizes (total_size + region_size.toNat)

/-- The second loop of `new_internal`: one section per region, each starting where the one
before ends; the first error ends the loop. -/
def carveSections (mmf : MemoryMappedFile) :
    List U64 → Nat → Except PmemError (List MemoryMappedFileSection)
  | [], _ => .ok []
  | region_size :: region_sizes, current_offset => do
    let «section» ← MemoryMappedFileSection.new mmf current_offset region_size.toNat
    let sections ← carveSections mmf region_sizes (current_offset + region_size.toNat)
    return «section» :: sections

/-- `FileBackedPersistentMemoryRegions::new_internal`. -/
def newInternal (fs : FileSystem) (region_sizes : List U64) :
    Except PmemError (List MemoryMappedFileSection) := do
  let total_size ← sumRegionSizes region_sizes 0
  let mmf ← MemoryMappedFile.fromFile fs total_size
  carveSections mmf region_sizes 0

/-- `FileBackedPersistentMemoryRegion::new_internal`: one region, the whole file. -/
def newRegionInternal (fs : FileSystem) (region_size : U64) :
    Except PmemError MemoryMappedFileSection := do
  let mmf ← MemoryMappedFile.fromFile fs region_size.toNat
  MemoryMappedFileSection.new mmf 0 region_size.toNat

/-! ## Carving refuses the last section -/

/-- The sum of the region sizes. -/
def totalSize : List U64 → Nat
  | [] => 0
  | region_size :: region_sizes => region_size.toNat + totalSize region_sizes

theorem sumRegionSizes_eq_ok :
    ∀ {region_sizes : List U64} {total_size s : Nat},
      sumRegionSizes region_sizes total_size = .ok s → s = total_size + totalSize region_sizes
  | [], _, _, h => by cases h; rfl
  | region_size :: region_sizes, total_size, s, h => by
    unfold sumRegionSizes at h
    split at h
    · cases h
    · rw [sumRegionSizes_eq_ok h, totalSize]
      omega

/-- Carving a file that ends where the regions end fails: the section that ends at the end of
the file is refused, and with it the loop. -/
theorem carveSections_eq_error (mmf : MemoryMappedFile) :
    ∀ (region_sizes : List U64) (current_offset : Nat), region_sizes ≠ [] →
      mmf.size = current_offset + totalSize region_sizes →
      carveSections mmf region_sizes current_offset = .error .AccessOutOfRange
  | [], _, h, _ => absurd rfl h
  | region_size :: region_sizes, current_offset, _, hsize => by
    simp only [totalSize] at hsize
    unfold carveSections MemoryMappedFileSection.new
    split
    · rfl
    split
    · rfl
    have hne : region_sizes ≠ [] := by
      rintro rfl
      simp only [totalSize] at hsize
      omega
    rw [carveSections_eq_error mmf region_sizes (current_offset + region_size.toNat) hne (by omega)]
    rfl

/-- Neither constructor builds its regions when `from_file` maps the file. The set of regions is
refused for every nonempty list of sizes that passes the overflow check, and the single region
is refused for every size, since its section ends at the end of the file. -/
theorem carving_refuses_every_file_backed_region (fs : FileSystem) :
    (∀ region_sizes total_size, region_sizes ≠ [] →
      sumRegionSizes region_sizes 0 = .ok total_size →
        MemoryMappedFile.fromFile fs total_size = .ok ⟨total_size⟩ →
        newInternal fs region_sizes = .error .AccessOutOfRange) ∧
    ∀ region_size : U64, MemoryMappedFile.fromFile fs region_size.toNat = .ok ⟨region_size.toNat⟩ →
      newRegionInternal fs region_size = .error .AccessOutOfRange := by
  refine ⟨fun region_sizes total_size hne hsum hfile => ?_, fun region_size hfile => ?_⟩
  · have hcarve := carveSections_eq_error ⟨total_size⟩ region_sizes 0 hne
      (by rw [sumRegionSizes_eq_ok hsum])
    simp only [newInternal, hsum, bind, Except.bind, hfile, hcarve]
  · simp only [newRegionInternal, hfile, bind, Except.bind, MemoryMappedFileSection.new,
      Nat.zero_add, ge_iff_le, le_refl, if_true]

theorem carving_refuses_every_file_backed_region_of_one_page :
    newInternal ⟨false, fun _ => false⟩ [4096] = .error .AccessOutOfRange ∧
      newRegionInternal ⟨false, fun _ => false⟩ 4096 = .error .AccessOutOfRange :=
  ⟨(carving_refuses_every_file_backed_region _).1 [4096] 4096 (List.cons_ne_nil _ _) rfl rfl,
    (carving_refuses_every_file_backed_region _).2 4096 rfl⟩

/-! ## The overflow check -/

/-- The first loop from a running total below `usize::MAX`: it passes exactly when the total of
all the sizes stays below `usize::MAX`, and then returns that total. -/
theorem sumRegionSizes_eq :
    ∀ (region_sizes : List U64) {total_size : Nat}, total_size < USIZE_MAX →
      sumRegionSizes region_sizes total_size =
        if total_size + totalSize region_sizes < USIZE_MAX then
          .ok (total_size + totalSize region_sizes)
        else .error .AccessOutOfRange
  | [], total_size, h => by simp [sumRegionSizes, totalSize, h]
  | region_size :: region_sizes, total_size, h => by
    unfold sumRegionSizes
    split
    · rw [if_neg (by simp only [totalSize]; omega)]
    · rw [sumRegionSizes_eq region_sizes (by omega), totalSize, Nat.add_assoc]

/-- The overflow check of `new_internal` is exact: the sizes are refused exactly when their
total reaches `usize::MAX`, so no partial sum of sizes that pass overflows, and the file asked
for has their total size. -/
theorem region_size_sum_check_is_exact (region_sizes : List U64) :
    sumRegionSizes region_sizes 0 =
      if totalSize region_sizes < USIZE_MAX then .ok (totalSize region_sizes)
      else .error .AccessOutOfRange := by
  rw [sumRegionSizes_eq region_sizes (by decide), Nat.zero_add]

end verified_storage.pmem
