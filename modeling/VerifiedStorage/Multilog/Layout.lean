-- A well-formed multilog layout: every region holds the metadata of this program, its own
-- region metadata and the log metadata that the CDB selects, each record followed by its CRC,
-- and region 0 holds the CDB. Recovery decodes every such layout to the state it encodes,
-- whatever the other bytes hold.
import VerifiedStorage.Multilog.Recovery

namespace verified_storage.multilog

open verified_storage

section Layout

variable (spec_crc : SpecCrc)

/-- Region `which_log` of `num_logs` laid out under the CDB `cdb`: the global metadata of this
program, the region metadata with the given padding and log-area length, and the log metadata
`m` in the copy that `cdb` selects, each record followed by the encoding of its CRC. -/
structure EncodedRegion (mem : List UInt8) (multilog_id : U128) (num_logs which_log : Nat)
    (cdb : Bool) (padding log_area_len : U64) (m : LogMetadata) : Prop where
  global_metadata : extractBytes mem ABSOLUTE_POS_OF_GLOBAL_METADATA LENGTH_OF_GLOBAL_METADATA =
    GlobalMetadata.specSerialize ⟨1, 48, MULTILOG_PROGRAM_GUID⟩
  global_crc : extractBytes mem ABSOLUTE_POS_OF_GLOBAL_CRC CRC_SIZE =
    specU64ToLeBytes (spec_crc (⟨1, 48, MULTILOG_PROGRAM_GUID⟩ : GlobalMetadata))
  region_metadata : extractBytes mem ABSOLUTE_POS_OF_REGION_METADATA LENGTH_OF_REGION_METADATA =
    RegionMetadata.specSerialize ⟨BitVec.ofNat 32 num_logs, BitVec.ofNat 32 which_log, padding,
      BitVec.ofNat 64 mem.length, log_area_len, multilog_id⟩
  region_crc : extractBytes mem ABSOLUTE_POS_OF_REGION_CRC CRC_SIZE =
    specU64ToLeBytes (spec_crc (⟨BitVec.ofNat 32 num_logs, BitVec.ofNat 32 which_log, padding,
      BitVec.ofNat 64 mem.length, log_area_len, multilog_id⟩ : RegionMetadata))
  log_metadata : extractBytes mem (getLogMetadataPos cdb) LENGTH_OF_LOG_METADATA = m.specSerialize
  log_crc : extractBytes mem (getLogCrcPos cdb) CRC_SIZE = specU64ToLeBytes (spec_crc m)

variable {spec_crc} {mem : List UInt8} {multilog_id : U128} {num_logs which_log : Nat} {cdb : Bool}
  {padding log_area_len : U64} {m : LogMetadata}

theorem EncodedRegion.regionView_eq
    (h : EncodedRegion spec_crc mem multilog_id num_logs which_log cdb padding log_area_len m) :
    regionView mem cdb =
      ⟨mem.length, ⟨1, 48, MULTILOG_PROGRAM_GUID⟩, spec_crc (⟨1, 48, MULTILOG_PROGRAM_GUID⟩ :
        GlobalMetadata), ⟨BitVec.ofNat 32 num_logs, BitVec.ofNat 32 which_log, padding,
        BitVec.ofNat 64 mem.length, log_area_len, multilog_id⟩,
        spec_crc (⟨BitVec.ofNat 32 num_logs, BitVec.ofNat 32 which_log, padding,
        BitVec.ofNat 64 mem.length, log_area_len, multilog_id⟩ : RegionMetadata), m,
        spec_crc m⟩ := by
  simp only [regionView, deserializeGlobalMetadata, extractGlobalMetadata, h.global_metadata,
    GlobalMetadata.specDeserialize_specSerialize, deserializeGlobalCrc, extractGlobalCrc,
    h.global_crc, specU64FromLeBytes_specU64ToLeBytes, deserializeRegionMetadata,
    extractRegionMetadata, h.region_metadata, RegionMetadata.specDeserialize_specSerialize,
    deserializeRegionCrc, extractRegionCrc, h.region_crc, deserializeLogMetadata,
    extractLogMetadata, h.log_metadata, LogMetadata.specDeserialize_specSerialize,
    deserializeLogCrc, extractLogCrc, h.log_crc]

/-- An encoded region whose sizes fit passes every check of recovery. -/
theorem EncodedRegion.regionValid
    (h : EncodedRegion spec_crc mem multilog_id num_logs which_log cdb padding log_area_len m)
    (hnum : num_logs ≤ U32_MAX) (hwhich : which_log < num_logs)
    (hlola : 1 ≤ log_area_len.toNat) (hsize : ABSOLUTE_POS_OF_LOG_AREA + log_area_len.toNat ≤ mem.length)
    (hsize' : mem.length < 2 ^ 64) (hlen : m.log_length.toNat ≤ log_area_len.toNat)
    (hhead : m.head.toNat + m.log_length.toNat ≤ U128_MAX) :
    RegionValid spec_crc mem multilog_id num_logs which_log cdb := by
  have h32 : ∀ n, n ≤ U32_MAX → (BitVec.ofNat 32 n).toNat = n := fun n hn => by
    rw [BitVec.toNat_ofNat, Nat.mod_eq_of_lt (by simp only [U32_MAX] at hn; omega)]
  unfold RegionValid
  rw [h.regionView_eq]
  exact ⟨by simp only [MIN_LOG_AREA_SIZE]; omega, rfl, rfl, rfl, rfl, rfl,
    by rw [BitVec.toNat_ofNat, Nat.mod_eq_of_lt hsize'], rfl, h32 _ hnum, h32 _ (by omega),
    hlola, hsize, rfl, hlen, hhead⟩

theorem EncodedRegion.regionState_eq
    (h : EncodedRegion spec_crc mem multilog_id num_logs which_log cdb padding log_area_len m) :
    regionState mem cdb = ⟨m.head.toNat, extractLog mem log_area_len.toNat m.head.toNat
      m.log_length.toNat, [], log_area_len.toNat⟩ := by
  have hv := h.regionView_eq
  simp only [regionView, RegionView.mk.injEq] at hv
  simp only [regionState, hv]

theorem EncodedRegion.recoverCdb_eq
    (h : EncodedRegion spec_crc mem multilog_id num_logs which_log cdb padding log_area_len m)
    (hsize : ABSOLUTE_POS_OF_LOG_CDB + CRC_SIZE ≤ mem.length)
    (hcdb : extractBytes mem ABSOLUTE_POS_OF_LOG_CDB CRC_SIZE = specU64ToLeBytes (cdbValue cdb)) :
    recoverCdb spec_crc mem = some cdb := by
  have hv := h.regionView_eq
  simp only [regionView, RegionView.mk.injEq] at hv
  obtain ⟨-, hg, hgc, -⟩ := hv
  refine (recoverCdb_eq_some spec_crc).2 ⟨⟨hsize, by rw [hg, hgc], by rw [hg], by rw [hg]⟩, ?_⟩
  rw [deserializeLogCdb, extractLogCdb, hcdb, specU64FromLeBytes_specU64ToLeBytes]

variable (spec_crc)

/-- Recovery decodes every well-formed layout to the state it encodes: each region holds the
log that its log metadata describes, read from its own log area. -/
theorem recovery_decodes_every_encoded_layout :
    ∀ (mems : List (List UInt8)) (multilog_id : U128) (cdb : Bool)
      (padding log_area_len : Nat → U64) (m : Nat → LogMetadata),
      1 ≤ mems.length → mems.length ≤ U32_MAX →
      (∀ (i : Nat) (mem : List UInt8), mems[i]? = some mem →
        1 ≤ (log_area_len i).toNat ∧ ABSOLUTE_POS_OF_LOG_AREA + (log_area_len i).toNat ≤ mem.length ∧
        mem.length < 2 ^ 64 ∧ (m i).log_length.toNat ≤ (log_area_len i).toNat ∧
        (m i).head.toNat + (m i).log_length.toNat ≤ U128_MAX ∧
        EncodedRegion spec_crc mem multilog_id mems.length i cdb (padding i) (log_area_len i) (m i)) →
      extractBytes (mems.getD 0 []) ABSOLUTE_POS_OF_LOG_CDB CRC_SIZE =
        specU64ToLeBytes (cdbValue cdb) →
      recoverAll spec_crc mems multilog_id = some ⟨mems.mapIdx fun i mem =>
        ⟨(m i).head.toNat, extractLog mem (log_area_len i).toNat (m i).head.toNat
          (m i).log_length.toNat, [], (log_area_len i).toNat⟩⟩ := by
  intro mems multilog_id cdb padding log_area_len m h1 h2 hr hcdb
  have h0 : mems[0]? = some (mems.getD 0 []) := by
    rw [List.getD_eq_getElem?_getD, List.getElem?_eq_getElem (by omega), Option.getD_some]
  obtain ⟨-, hs0, -, -, -, he0⟩ := hr 0 _ h0
  refine (recoverAll_eq_some spec_crc).2 ⟨h1, h2, cdb,
    he0.recoverCdb_eq (le_trans (le_trans (by decide) (Nat.le_add_right _ _)) hs0) hcdb,
    (recoverGivenCdb_eq_some spec_crc).2 ⟨fun i mem hm => ?_, ?_⟩⟩
  · obtain ⟨hl, hs, hs', hlen, hh, he⟩ := hr i mem hm
    exact he.regionValid h2 (List.getElem?_eq_some_iff.1 hm).1 hl hs hs' hlen hh
  · refine congrArg _ (List.ext_getElem? fun i => ?_)
    rw [List.getElem?_mapIdx, List.getElem?_map]
    rcases hm : mems[i]? with _ | mem
    · rfl
    · rw [Option.map_some', Option.map_some', (hr i mem hm).2.2.2.2.2.regionState_eq]

set_option maxRecDepth 10000 in
/-- The sample multilog is a well-formed layout of two one-byte logs, and decodes to them. -/
theorem recovery_decodes_every_encoded_layout_on_the_sample :
    recoverAll (fun _ => 0) [sampleRegion 0, sampleRegion 1] 0 =
      some ⟨[⟨0, [7], [], 2⟩, ⟨0, [7], [], 2⟩]⟩ := by
  have hr : ∀ (i : Nat) (mem : List UInt8), [sampleRegion 0, sampleRegion 1][i]? = some mem →
      1 ≤ (2 : U64).toNat ∧ ABSOLUTE_POS_OF_LOG_AREA + (2 : U64).toNat ≤ mem.length ∧
      mem.length < 2 ^ 64 ∧ (1 : U64).toNat ≤ (2 : U64).toNat ∧
      (0 : U128).toNat + (1 : U64).toNat ≤ U128_MAX ∧
      EncodedRegion (fun _ => 0) mem 0 2 i false 0 2 ⟨1, 0, 0⟩ := by
    intro i mem h
    rcases i with _ | _ | i
    · obtain rfl := Option.some.inj h
      exact ⟨by decide, by decide, by decide, by decide, by decide, rfl, rfl, rfl, rfl, rfl, rfl⟩
    · obtain rfl := Option.some.inj h
      exact ⟨by decide, by decide, by decide, by decide, by decide, rfl, rfl, rfl, rfl, rfl, rfl⟩
    · simp at h
  exact (recovery_decodes_every_encoded_layout (fun _ => 0) [sampleRegion 0, sampleRegion 1] 0
    false (fun _ => 0) (fun _ => 2) (fun _ => ⟨1, 0, 0⟩) (by decide) (by decide) hr rfl).trans rfl

end Layout

end verified_storage.multilog
