-- The commit of the multilog (§4.G): every region gets its new log metadata and CRC in the
-- copy that the CDB leaves inactive, then the CDB of region 0 flips in one 8-byte write. A
-- crash in the first step recovers the old state; one in the second recovers the old state or
-- the new one, as the single persistence chunk of the CDB did or did not reach the media.
import VerifiedStorage.Multilog.Frame

namespace verified_storage.multilog

open verified_storage

section Commit

variable (spec_crc : SpecCrc)

/-! ## The two steps -/

/-- Modelled from the spec: the writes of step 1 of a commit to one region (§4.G), the log
metadata `m` into the copy at `get_log_metadata_pos(cdb)` and then its CRC. `F` and `G` are
the chunks of each write that reached the media. -/
def writeLogMetadata (mem : List UInt8) (cdb : Bool) (m : LogMetadata) (F G : Nat → Bool) :
    List UInt8 :=
  updateContentsToReflectPartiallyFlushedWrite
    (updateContentsToReflectPartiallyFlushedWrite mem (getLogMetadataPos cdb) m.specSerialize F)
    (getLogCrcPos cdb) (specU64ToLeBytes (spec_crc m)) G

/-- Modelled from the spec: step 1 of a commit, region `i` getting `m i` in the copy that the
CDB `cdb` leaves inactive. -/
def writeInactiveLogMetadata (mems : List (List UInt8)) (cdb : Bool) (m : Nat → LogMetadata)
    (F G : Nat → Nat → Bool) : List (List UInt8) :=
  mems.mapIdx fun i mem => writeLogMetadata spec_crc mem (!cdb) (m i) (F i) (G i)

/-- Modelled from the spec: step 2 of a commit, the CDB of region 0 switched to `!cdb`; `H`
is the set of chunks that reached the media. -/
def flipLogCdb (mems : List (List UInt8)) (cdb : Bool) (H : Nat → Bool) : List (List UInt8) :=
  mems.modifyHead fun mem => updateContentsToReflectPartiallyFlushedWrite mem
    ABSOLUTE_POS_OF_LOG_CDB (specU64ToLeBytes (cdbValue (!cdb))) H

/-- The state that a commit of `m` installs: region `i` holds the log that `m i` describes in
its log area. -/
def committedState (mems : List (List UInt8)) (m : Nat → LogMetadata) : AbstractMultiLogState :=
  ⟨mems.mapIdx fun i mem =>
    let lola := (deserializeRegionMetadata mem).log_area_len.toNat
    ⟨(m i).head.toNat, extractLog mem lola (m i).head.toNat (m i).log_length.toNat, [], lola⟩⟩

/-! ## One region -/

section Region

variable {mem : List UInt8} {cdb : Bool} {m : LogMetadata} {F G : Nat → Bool}

theorem getLogCrcPos_add (cdb : Bool) : getLogCrcPos cdb + CRC_SIZE = getLogCrcEnd cdb := by
  cases cdb <;> rfl

/-- Step 1 misses every byte that recovery reads under the old CDB. -/
theorem sameLiveBytes_writeLogMetadata (mem : List UInt8) (cdb : Bool) (m : LogMetadata)
    (F G : Nat → Bool) : SameLiveBytes mem (writeLogMetadata spec_crc mem (!cdb) m F G) cdb := by
  have hge := getLogMetadataPos_ge (!cdb)
  have hle := getLogCrcEnd_le (!cdb)
  have hpos := getLogCrcPos_eq (!cdb)
  have hend := getLogCrcPos_add (!cdb)
  have hlen := LogMetadata.length_specSerialize m
  simp only [LENGTH_OF_LOG_METADATA, CRC_SIZE] at hpos hend hlen
  refine (sameLiveBytes_of_writeFrame (writeFrame_updateContentsToReflectPartiallyFlushedWrite F)
    mem (by omega) (disjoint_of_inactive le_rfl (by omega)) (by omega)).trans
    (sameLiveBytes_of_writeFrame (writeFrame_updateContentsToReflectPartiallyFlushedWrite G) _
      (by omega) (disjoint_of_inactive (by omega) ?_) (by simp; omega))
  simp only [length_specU64ToLeBytes]
  omega

theorem sameBytes_writeLogMetadata (mem : List UInt8) (cdb : Bool) (m : LogMetadata)
    (F G : Nat → Bool) :
    SameBytes mem (writeLogMetadata spec_crc mem cdb m F G) 0
      (ABSOLUTE_POS_OF_LOG_CDB + CRC_SIZE) := by
  have hge := getLogMetadataPos_ge cdb
  have hpos := getLogCrcPos_eq cdb
  simp only [LENGTH_OF_LOG_METADATA] at hpos
  exact (sameBytes_of_writeFrame (writeFrame_updateContentsToReflectPartiallyFlushedWrite F) mem
    (Or.inl hge)).trans
    (sameBytes_of_writeFrame (writeFrame_updateContentsToReflectPartiallyFlushedWrite G) _
      (Or.inl (by omega)))

@[simp] theorem length_writeLogMetadata :
    (writeLogMetadata spec_crc mem cdb m F G).length = mem.length := by
  simp [writeLogMetadata]

theorem writeLogMetadata_getElem?_of_le {i : Nat} (hi : ABSOLUTE_POS_OF_LOG_AREA ≤ i) :
    (writeLogMetadata spec_crc mem cdb m F G)[i]? = mem[i]? := by
  have hle := getLogCrcEnd_le cdb
  have hend := getLogCrcPos_add cdb
  have hlen := LogMetadata.length_specSerialize m
  simp only [getLogCrcEnd, LENGTH_OF_LOG_METADATA, CRC_SIZE] at hle hend hlen
  rw [writeLogMetadata, getElem?_updateContentsToReflectPartiallyFlushedWrite_of_not_mem _ _ _ _
      (Or.inr (by simp only [length_specU64ToLeBytes]; omega)),
    getElem?_updateContentsToReflectPartiallyFlushedWrite_of_not_mem _ _ _ _ (Or.inr (by omega))]

section Flushed

variable (hmem : getLogCrcEnd cdb ≤ mem.length)
include hmem

theorem deserializeLogMetadata_writeLogMetadata :
    deserializeLogMetadata (writeLogMetadata spec_crc mem cdb m (fun _ => true) (fun _ => true))
      cdb = m := by
  have hpos := getLogCrcPos_eq cdb
  have hlen := LogMetadata.length_specSerialize m
  simp only [getLogCrcEnd] at hmem
  simp only [writeLogMetadata, updateContentsToReflectPartiallyFlushedWrite_all,
    deserializeLogMetadata, extractLogMetadata]
  rw [(sameBytes_of_writeFrame writeFrame_updateContentsToReflectWrite _
      (Or.inl hpos.ge)).extractBytes_eq _ _ le_rfl le_rfl, ← hlen,
    extractBytes_updateContentsToReflectWrite _ _ _ (by omega),
    LogMetadata.specDeserialize_specSerialize]

theorem deserializeLogCrc_writeLogMetadata :
    deserializeLogCrc (writeLogMetadata spec_crc mem cdb m (fun _ => true) (fun _ => true)) cdb =
      spec_crc m := by
  have hend := getLogCrcPos_add cdb
  simp only [CRC_SIZE] at hend
  simp only [writeLogMetadata, updateContentsToReflectPartiallyFlushedWrite_all,
    deserializeLogCrc, extractLogCrc]
  have hcrc : CRC_SIZE = (specU64ToLeBytes (spec_crc m)).length := rfl
  rw [hcrc, extractBytes_updateContentsToReflectWrite _ _ _ (by simp; omega),
    specU64FromLeBytes_specU64ToLeBytes]

theorem regionView_writeLogMetadata (cdb' : Bool) :
    regionView (writeLogMetadata spec_crc mem cdb m (fun _ => true) (fun _ => true)) cdb =
      { regionView mem cdb' with log_metadata := m, log_crc := spec_crc m } := by
  have h := (sameBytes_writeLogMetadata spec_crc mem cdb m (fun _ => true)
    (fun _ => true)).mono le_rfl (Nat.le_add_right _ _)
  simp only [regionView, length_writeLogMetadata, deserializeGlobalMetadata_congr h,
    deserializeGlobalCrc_congr h, deserializeRegionMetadata_congr h, deserializeRegionCrc_congr h,
    deserializeLogMetadata_writeLogMetadata spec_crc hmem,
    deserializeLogCrc_writeLogMetadata spec_crc hmem]

/-- With every chunk flushed, the region holds under `cdb` the log that `m` describes. -/
theorem regionState_writeLogMetadata
    (hlen : m.log_length.toNat ≤ (deserializeRegionMetadata mem).log_area_len.toNat) :
    regionState (writeLogMetadata spec_crc mem cdb m (fun _ => true) (fun _ => true)) cdb =
      ⟨m.head.toNat, extractLog mem (deserializeRegionMetadata mem).log_area_len.toNat m.head.toNat
        m.log_length.toNat, [], (deserializeRegionMetadata mem).log_area_len.toNat⟩ := by
  have h := (sameBytes_writeLogMetadata spec_crc mem cdb m (fun _ => true)
    (fun _ => true)).mono le_rfl (Nat.le_add_right _ _)
  simp only [regionState, deserializeRegionMetadata_congr h,
    deserializeLogMetadata_writeLogMetadata spec_crc hmem,
    extractLog_congr hlen fun _ _ =>
      writeLogMetadata_getElem?_of_le spec_crc (Nat.le_add_right _ _)]

end Flushed

/-- With every chunk flushed, a region that passed the checks under one CDB passes them under
the copy just written, when `m` fits in its log area. -/
theorem regionValid_writeLogMetadata {multilog_id : U128} {num_logs which_log : Nat} {cdb' : Bool}
    (hv : RegionValid spec_crc mem multilog_id num_logs which_log cdb')
    (h1 : m.log_length.toNat ≤ (deserializeRegionMetadata mem).log_area_len.toNat)
    (h2 : m.head.toNat + m.log_length.toNat ≤ U128_MAX) :
    RegionValid spec_crc (writeLogMetadata spec_crc mem cdb m (fun _ => true) (fun _ => true))
      multilog_id num_logs which_log cdb := by
  have hmem : getLogCrcEnd cdb ≤ mem.length :=
    le_trans (getLogCrcEnd_le cdb) (le_trans (Nat.le_add_right _ _) hv.size)
  unfold RegionValid
  rw [regionView_writeLogMetadata spec_crc hmem cdb']
  exact ⟨hv.size, hv.global_crc, hv.program_guid, hv.version_number, hv.length_of_region_metadata,
    hv.region_crc, hv.region_size, hv.multilog_id, hv.num_logs, hv.which_log, hv.log_area_len,
    hv.log_area, rfl, h1, h2⟩

end Region

/-! ## The whole multilog -/

section Multilog

variable {mems : List (List UInt8)} {multilog_id : U128} {A : AbstractMultiLogState} {b : Bool}

/-- A crash during step 1 recovers the old state, whatever chunks of its writes reached the
media. -/
theorem recoverAll_writeInactiveLogMetadata (hA : recoverAll spec_crc mems multilog_id = some A)
    (hcdb : recoverCdb spec_crc (mems.getD 0 []) = some b) (m : Nat → LogMetadata)
    (F G : Nat → Nat → Bool) :
    recoverAll spec_crc (writeInactiveLogMetadata spec_crc mems b m F G) multilog_id = some A := by
  refine recoverAll_congr spec_crc hA hcdb List.length_mapIdx (fun i mem mem' hm hm' => ?_) ?_
  · rw [writeInactiveLogMetadata, List.getElem?_mapIdx, hm, Option.map_some'] at hm'
    obtain rfl := Option.some.inj hm'
    exact sameLiveBytes_writeLogMetadata spec_crc mem b (m i) (F i) (G i)
  · rw [writeInactiveLogMetadata, List.getD_eq_getElem?_getD, List.getD_eq_getElem?_getD,
      List.getElem?_mapIdx]
    rcases mems[0]? with _ | mem
    · exact SameBytes.refl _ _ _
    · exact (sameBytes_writeLogMetadata spec_crc mem (!b) (m 0) (F 0) (G 0)).mono (Nat.zero_le _)
        le_rfl

/-- The CDB lies in one persistence chunk, so a crash during step 2 leaves its write whole or
not at all. -/
theorem flipLogCdb_eq_ite (mems : List (List UInt8)) (cdb : Bool) (H : Nat → Bool) :
    flipLogCdb mems cdb H =
      if H (ABSOLUTE_POS_OF_LOG_CDB / persistence_chunk_size) then flipLogCdb mems cdb fun _ => true
      else mems := by
  have hc : ∀ i, ABSOLUTE_POS_OF_LOG_CDB ≤ i →
      i < ABSOLUTE_POS_OF_LOG_CDB + (specU64ToLeBytes (cdbValue (!cdb))).length →
      i / persistence_chunk_size = ABSOLUTE_POS_OF_LOG_CDB / persistence_chunk_size := by
    simp only [length_specU64ToLeBytes, ABSOLUTE_POS_OF_LOG_CDB, persistence_chunk_size]
    omega
  simp only [flipLogCdb, updateContentsToReflectPartiallyFlushedWrite_of_chunk _ _ _ _ hc,
    updateContentsToReflectPartiallyFlushedWrite_all]
  cases H (ABSOLUTE_POS_OF_LOG_CDB / persistence_chunk_size)
  · cases mems <;> rfl
  · rfl

theorem getD_writeInactiveLogMetadata (mems : List (List UInt8)) (cdb : Bool)
    (m : Nat → LogMetadata) (F G : Nat → Nat → Bool) :
    (writeInactiveLogMetadata spec_crc mems cdb m F G).getD 0 [] =
      writeLogMetadata spec_crc (mems.getD 0 []) (!cdb) (m 0) (F 0) (G 0) := by
  cases mems <;>
    simp [writeInactiveLogMetadata, writeLogMetadata, updateContentsToReflectPartiallyFlushedWrite]

theorem getD_flipLogCdb (mems : List (List UInt8)) (cdb : Bool) (H : Nat → Bool) :
    (flipLogCdb mems cdb H).getD 0 [] = updateContentsToReflectPartiallyFlushedWrite
      (mems.getD 0 []) ABSOLUTE_POS_OF_LOG_CDB (specU64ToLeBytes (cdbValue (!cdb))) H := by
  cases mems <;> simp [flipLogCdb, updateContentsToReflectPartiallyFlushedWrite]

theorem deserializeLogCdb_updateContentsToReflectWrite {mem : List UInt8}
    (hmem : ABSOLUTE_POS_OF_LOG_CDB + CRC_SIZE ≤ mem.length) (v : U64) :
    deserializeLogCdb (updateContentsToReflectWrite mem ABSOLUTE_POS_OF_LOG_CDB
      (specU64ToLeBytes v)) = v := by
  have hcrc : CRC_SIZE = (specU64ToLeBytes v).length := rfl
  rw [deserializeLogCdb, extractLogCdb, hcrc,
    extractBytes_updateContentsToReflectWrite _ _ _ (hcrc ▸ hmem),
    specU64FromLeBytes_specU64ToLeBytes]

theorem CdbReadable.of_sameBytes {mem mem' : List UInt8} (h : CdbReadable spec_crc mem)
    (hlen : mem'.length = mem.length) (hmeta : SameBytes mem mem' 0 ABSOLUTE_POS_OF_LOG_CDB) :
    CdbReadable spec_crc mem' := by
  refine ⟨hlen ▸ h.size, ?_, ?_, ?_⟩ <;>
    simp only [deserializeGlobalMetadata_congr hmeta, deserializeGlobalCrc_congr hmeta]
  exacts [h.global_crc, h.program_guid, h.version_number]

/-- The regions after step 1, every chunk flushed, recover under the new CDB to the committed
state. -/
theorem recoverGivenCdb_writeInactiveLogMetadata
    (hg : recoverGivenCdb spec_crc mems multilog_id b = some A) {m : Nat → LogMetadata}
    (hm : ∀ (i : Nat) (mem : List UInt8), mems[i]? = some mem →
      (m i).log_length.toNat ≤ (deserializeRegionMetadata mem).log_area_len.toNat ∧
      (m i).head.toNat + (m i).log_length.toNat ≤ U128_MAX) :
    recoverGivenCdb spec_crc
      (writeInactiveLogMetadata spec_crc mems b m (fun _ _ => true) (fun _ _ => true)) multilog_id
      (!b) = some (committedState mems m) := by
  have hv := ((recoverGivenCdb_eq_some spec_crc).1 hg).1
  refine (recoverGivenCdb_eq_some spec_crc).2 ⟨fun i mem' hm' => ?_, ?_⟩
  · rw [writeInactiveLogMetadata, List.getElem?_mapIdx] at hm'
    obtain ⟨mem, hmi, rfl⟩ := Option.map_eq_some'.1 hm'
    rw [writeInactiveLogMetadata, List.length_mapIdx]
    exact regionValid_writeLogMetadata spec_crc (hv i mem hmi) (hm i mem hmi).1 (hm i mem hmi).2
  · refine congrArg _ (List.ext_getElem? fun i => ?_)
    rw [List.getElem?_mapIdx, List.getElem?_map, writeInactiveLogMetadata, List.getElem?_mapIdx]
    rcases hmi : mems[i]? with _ | mem
    · rfl
    · have hmem : getLogCrcEnd (!b) ≤ mem.length :=
        le_trans (getLogCrcEnd_le _) (le_trans (Nat.le_add_right _ _) (hv i mem hmi).size)
      simp only [Option.map_some', regionState_writeLogMetadata spec_crc hmem (hm i mem hmi).1]

/-- Step 2 with its chunk flushed switches the CDB that recovery reads. -/
theorem recoverCdb_flipLogCdb (hcdb : recoverCdb spec_crc (mems.getD 0 []) = some b)
    (m : Nat → LogMetadata) :
    recoverCdb spec_crc ((flipLogCdb (writeInactiveLogMetadata spec_crc mems b m
      (fun _ _ => true) (fun _ _ => true)) b fun _ => true).getD 0 []) = some (!b) := by
  obtain ⟨hr, -⟩ := (recoverCdb_eq_some spec_crc).1 hcdb
  rw [getD_flipLogCdb, getD_writeInactiveLogMetadata,
    updateContentsToReflectPartiallyFlushedWrite_all]
  have hmeta := (sameBytes_writeLogMetadata spec_crc (mems.getD 0 []) (!b) (m 0)
    (fun _ => true) (fun _ => true)).mono le_rfl (Nat.le_add_right _ _)
  refine (recoverCdb_eq_some spec_crc).2 ⟨hr.of_sameBytes spec_crc (by simp) (hmeta.trans
    (sameBytes_of_writeFrame writeFrame_updateContentsToReflectWrite _ (Or.inl le_rfl))), ?_⟩
  exact deserializeLogCdb_updateContentsToReflectWrite (by simpa using hr.size) _

/-- Step 2 with its chunk flushed installs the committed state. -/
theorem recoverAll_flipLogCdb (hA : recoverAll spec_crc mems multilog_id = some A)
    (hcdb : recoverCdb spec_crc (mems.getD 0 []) = some b) {m : Nat → LogMetadata}
    (hm : ∀ (i : Nat) (mem : List UInt8), mems[i]? = some mem →
      (m i).log_length.toNat ≤ (deserializeRegionMetadata mem).log_area_len.toNat ∧
      (m i).head.toNat + (m i).log_length.toNat ≤ U128_MAX) :
    recoverAll spec_crc (flipLogCdb (writeInactiveLogMetadata spec_crc mems b m
      (fun _ _ => true) (fun _ _ => true)) b fun _ => true) multilog_id =
        some (committedState mems m) := by
  obtain ⟨h1, h2, c, hc, hg⟩ := (recoverAll_eq_some spec_crc).1 hA
  obtain rfl : c = b := Option.some.inj (hc.symm.trans hcdb)
  have hlen : (writeInactiveLogMetadata spec_crc mems c m (fun _ _ => true)
      (fun _ _ => true)).length = mems.length := List.length_mapIdx
  have hge := getLogMetadataPos_ge (!c)
  have hsame : ∀ (i : Nat) (mem mem' : List UInt8),
      (writeInactiveLogMetadata spec_crc mems c m (fun _ _ => true) (fun _ _ => true))[i]? =
        some mem →
      (flipLogCdb (writeInactiveLogMetadata spec_crc mems c m (fun _ _ => true)
        (fun _ _ => true)) c fun _ => true)[i]? = some mem' →
      SameLiveBytes mem mem' (!c) := by
    intro i mem mem' hm1 hm2
    rw [flipLogCdb, List.getElem?_modifyHead, hm1] at hm2
    split at hm2
    · obtain rfl := Option.some.inj hm2
      exact sameLiveBytes_of_writeFrame (writeFrame_updateContentsToReflectPartiallyFlushedWrite _)
        mem le_rfl (Or.inl hge) (by simp [ABSOLUTE_POS_OF_LOG_CDB, ABSOLUTE_POS_OF_LOG_AREA])
    · obtain rfl := Option.some.inj hm2
      exact SameLiveBytes.refl _ _
  have hc' := recoverCdb_flipLogCdb spec_crc hcdb m
  refine (recoverAll_eq_some spec_crc).2 ⟨?_, ?_, !c, hc', recoverGivenCdb_congr spec_crc
    (by rw [flipLogCdb, List.length_modifyHead]) hsame
    (recoverGivenCdb_writeInactiveLogMetadata spec_crc hg hm)⟩ <;>
  simp only [flipLogCdb, List.length_modifyHead, hlen] <;> omega

/-- The metadata switch of a commit is crash atomic. A crash during step 1 recovers the old
state, whatever chunks of its writes reached the media; a crash during step 2 recovers the old
state, or the committed one once the single chunk of the CDB reached the media. -/
theorem commit_switches_the_metadata_atomically :
    ∀ (mems : List (List UInt8)) (multilog_id : U128) (A : AbstractMultiLogState) (b : Bool)
      (m : Nat → LogMetadata),
      recoverAll spec_crc mems multilog_id = some A →
      recoverCdb spec_crc (mems.getD 0 []) = some b →
      (∀ (i : Nat) (mem : List UInt8), mems[i]? = some mem →
        (m i).log_length.toNat ≤ (deserializeRegionMetadata mem).log_area_len.toNat ∧
        (m i).head.toNat + (m i).log_length.toNat ≤ U128_MAX) →
      (∀ F G : Nat → Nat → Bool,
        recoverAll spec_crc (writeInactiveLogMetadata spec_crc mems b m F G) multilog_id =
          some A) ∧
      (∀ H : Nat → Bool,
        recoverAll spec_crc (flipLogCdb (writeInactiveLogMetadata spec_crc mems b m
          (fun _ _ => true) (fun _ _ => true)) b H) multilog_id =
        if H (ABSOLUTE_POS_OF_LOG_CDB / persistence_chunk_size) then some (committedState mems m)
        else some A) := by
  intro mems multilog_id A b m hA hcdb hm
  refine ⟨recoverAll_writeInactiveLogMetadata spec_crc hA hcdb m, fun H => ?_⟩
  rw [flipLogCdb_eq_ite]
  by_cases hH : H (ABSOLUTE_POS_OF_LOG_CDB / persistence_chunk_size) = true
  · rw [if_pos hH, if_pos hH]
    exact recoverAll_flipLogCdb spec_crc hA hcdb hm
  · rw [if_neg hH, if_neg hH]
    exact recoverAll_writeInactiveLogMetadata spec_crc hA hcdb m _ _

set_option maxRecDepth 10000 in
/-- A commit of `⟨2, 0, 0⟩` to both regions of the sample multilog: step 1 with the CRC writes
lost recovers the old state, and step 2 completed recovers the two-byte logs. -/
theorem commit_switches_the_metadata_atomically_on_the_sample :
    recoverAll (fun _ => 0) (writeInactiveLogMetadata (fun _ => 0)
      [sampleRegion 0, sampleRegion 1] false (fun _ => ⟨2, 0, 0⟩) (fun _ _ => true)
      (fun _ _ => false)) 0 = some ⟨[⟨0, [7], [], 2⟩, ⟨0, [7], [], 2⟩]⟩ ∧
    recoverAll (fun _ => 0) (flipLogCdb (writeInactiveLogMetadata (fun _ => 0)
      [sampleRegion 0, sampleRegion 1] false (fun _ => ⟨2, 0, 0⟩) (fun _ _ => true)
      (fun _ _ => true)) false fun _ => true) 0 =
        some ⟨[⟨0, [7, 0], [], 2⟩, ⟨0, [7, 0], [], 2⟩]⟩ := by
  have hA : recoverAll (fun _ => 0) [sampleRegion 0, sampleRegion 1] 0 =
      some ⟨[⟨0, [7], [], 2⟩, ⟨0, [7], [], 2⟩]⟩ := rfl
  have hm : ∀ (i : Nat) (mem : List UInt8), [sampleRegion 0, sampleRegion 1][i]? = some mem →
      (2 : U64).toNat ≤ (deserializeRegionMetadata mem).log_area_len.toNat ∧
      (0 : U128).toNat + (2 : U64).toNat ≤ U128_MAX := by
    intro i mem h
    rcases i with _ | _ | i
    · obtain rfl := Option.some.inj h
      decide
    · obtain rfl := Option.some.inj h
      decide
    · simp at h
  obtain ⟨h1, h2⟩ := commit_switches_the_metadata_atomically (fun _ => 0) _ _ _ false
    (fun _ => ⟨2, 0, 0⟩) hA rfl hm
  have h2' := h2 fun _ => true
  rw [if_pos rfl] at h2'
  exact ⟨h1 _ _, h2'.trans rfl⟩

end Multilog

end Commit

end verified_storage.multilog
