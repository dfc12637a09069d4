-- Starting a log (`log/start_v.rs`): `read_cdb` and `read_log_variables` read the metadata of a
-- region through reads that may be corrupted, check each record against the CRC read after
-- it, and build the `LogInfo`. On a device impervious to corruption they agree with the
-- recovery of §4.E. On any device, when recovery succeeds they return its values or report a
-- CRC mismatch; a success shows that recovery succeeds when the committed records match their
-- CRCs, and not otherwise.
import VerifiedStorage.Multilog.Recovery

namespace verified_storage.log

open verified_storage
open verified_storage.multilog hiding recoverGivenCdb

/-! ## The device -/

/-- Modelled from the spec: a persistent-memory region with no outstanding writes (§4.A): its
committed contents, whose length `get_region_size` gives as a `u64`, whether it is impervious to
corruption, and the bytes that a read of `num_bytes` bytes at `addr` returns. -/
structure PersistentMemoryRegion where
  committed : List UInt8
  impervious_to_corruption : Bool
  read : Nat → Nat → List UInt8
  size_lt : committed.length < 2 ^ 64

namespace PersistentMemoryRegion

/-- Every read in range returns the committed bytes. -/
def ReadsExact (pm : PersistentMemoryRegion) : Prop :=
  ∀ addr num_bytes, addr + num_bytes ≤ pm.committed.length →
    pm.read addr num_bytes = extractBytes pm.committed addr num_bytes

/-- The `ensures` of `read` in range: the bytes may be a corruption of the committed ones,
read from distinct addresses, and are the committed ones on an impervious device. -/
structure ReadsOk (cm : CorruptionModel) (pm : PersistentMemoryRegion) : Prop where
  maybe_corrupted : ∀ addr num_bytes, addr + num_bytes ≤ pm.committed.length →
    maybeCorrupted cm.maybe_corrupted_byte (pm.read addr num_bytes)
      (extractBytes pm.committed addr num_bytes) (readAddrs addr num_bytes)
  impervious : pm.impervious_to_corruption = true → pm.ReadsExact

/-- `get_region_size`. -/
def getRegionSize (pm : PersistentMemoryRegion) : U64 := BitVec.ofNat 64 pm.committed.length

/-- Modelled from the spec: `read_and_deserialize`, the value decoded from a read of its
serialized length. -/
def readAndDeserialize (S : Type) [Serializable S] (pm : PersistentMemoryRegion) (addr : Nat) : S :=
  specDeserialize (pm.read addr (@specSerializedLen S _))

end PersistentMemoryRegion

@[simp] theorem toNat_getRegionSize (pm : PersistentMemoryRegion) :
    pm.getRegionSize.toNat = pm.committed.length := by
  rw [PersistentMemoryRegion.getRegionSize, BitVec.toNat_ofNat, Nat.mod_eq_of_lt pm.size_lt]

/-! ## CRC checks -/

/-- Modelled from the spec: `check_crc_deserialized` of `pmemutil_v.rs`, the CRC read is the CRC
of the record read. -/
def checkCrcDeserialized (spec_crc : SpecCrc) {S : Type} [Serializable S] (data_c : S)
    (crc_c : U64) : Bool :=
  crc_c == spec_crc data_c

/-- Modelled from the spec: `check_cdb` of `pmemutil_v.rs`, the boolean a CDB value encodes. -/
def checkCdb (log_cdb : U64) : Option Bool :=
  if log_cdb = CDB_FALSE then some false
  else if log_cdb = CDB_TRUE then some true
  else none

@[simp] theorem checkCrcDeserialized_eq_true {spec_crc : SpecCrc} {S : Type} [Serializable S]
    {x : S} {c : U64} : checkCrcDeserialized spec_crc x c = true ↔ c = spec_crc x :=
  beq_iff_eq

theorem checkCdb_eq_some {log_cdb : U64} {b : Bool} :
    checkCdb log_cdb = some b ↔ log_cdb = cdbValue b := by
  unfold checkCdb cdbValue
  have hne : CDB_FALSE ≠ CDB_TRUE := by decide
  cases b <;> split_ifs <;> simp_all [Ne.symm hne]

theorem cdbValue_eq_or (b : Bool) : cdbValue b = CDB_FALSE ∨ cdbValue b = CDB_TRUE := by
  cases b
  · exact .inl rfl
  · exact .inr rfl

theorem cdbValue_injective {b b' : Bool} (h : cdbValue b = cdbValue b') : b = b' := by
  cases b <;> cases b' <;> first | rfl | exact absurd h (by decide)

/-! ## What start returns -/

/-- Modelled from the spec: the errors of `LogErr` (`log/logimpl_t.rs`) that starting a log
returns (§7). -/
inductive LogErr where
  | CRCMismatch
  | StartFailedDueToInvalidMemoryContents
  | StartFailedDueToProgramVersionNumberUnsupported (version_number max_supported : U64)
  | StartFailedDueToLogIDMismatch (log_id_expected log_id_read : U128)
  | StartFailedDueToRegionSizeMismatch (region_size_expected region_size_read : U64)
  deriving DecidableEq, Repr

/-- Modelled from the spec: `LogInfo` of `log/logimpl_v.rs`, what the engine keeps in memory
about its log (§3). -/
structure LogInfo where
  log_area_len : U64
  head : U128
  head_log_area_offset : U64
  log_length : U64
  log_plus_pending_length : U64
  deriving DecidableEq, Repr

/-- Modelled from the spec: `LOG_PROGRAM_VERSION_NUMBER`, the only version start reads (§4.E). -/
def LOG_PROGRAM_VERSION_NUMBER : U64 := 1

/-- `info` describes the recovered state `s` as step 7 of §4.E builds it. -/
structure LogInfo.Describes (info : LogInfo) (s : AbstractLogState) : Prop where
  log_area_len : info.log_area_len.toNat = s.capacity
  head : info.head.toNat = s.head
  log_length : info.log_length.toNat = s.log.length
  head_log_area_offset : info.head_log_area_offset.toNat = s.head % s.capacity
  log_plus_pending_length : info.log_plus_pending_length = info.log_length

section Start

/- `LOG_PROGRAM_GUID` is a constant of `log/layout_v.rs`; the results hold for every value. -/
variable (spec_crc : SpecCrc) (LOG_PROGRAM_GUID : U128)

/-! ## Recovery of a single log -/

/-- Modelled from the spec: `recover_given_cdb` of `log/layout_v.rs`, the recovery of §4.E of
one log from its region under `cdb`. Its region metadata has the layout of §3, the `id` being
the field `multilog_id`, and it has no `num_logs` or `which_log` check. -/
def recoverGivenCdb (mem : List UInt8) (log_id : U128) (cdb : Bool) : Option AbstractLogState :=
  if mem.length < ABSOLUTE_POS_OF_LOG_AREA + MIN_LOG_AREA_SIZE then none
  else
    let global_metadata := deserializeGlobalMetadata mem
    let global_crc := deserializeGlobalCrc mem
    if global_crc ≠ spec_crc global_metadata then none
    else if global_metadata.program_guid ≠ LOG_PROGRAM_GUID then none
    else if global_metadata.version_number = 1 then
      if global_metadata.length_of_region_metadata.toNat ≠ LENGTH_OF_REGION_METADATA then none
      else
        let region_metadata := deserializeRegionMetadata mem
        let region_crc := deserializeRegionCrc mem
        if region_crc ≠ spec_crc region_metadata then none
        else if region_metadata.region_size.toNat ≠ mem.length ∨
            region_metadata.multilog_id ≠ log_id ∨
            region_metadata.log_area_len.toNat < MIN_LOG_AREA_SIZE ∨
            mem.length < ABSOLUTE_POS_OF_LOG_AREA + region_metadata.log_area_len.toNat then none
        else
          let log_metadata := deserializeLogMetadata mem cdb
          let log_crc := deserializeLogCrc mem cdb
          if log_crc ≠ spec_crc log_metadata then none
          else
            recoverAbstractLogFromRegionGivenMetadata mem region_metadata.log_area_len
              log_metadata.head log_metadata.log_length
    else none

/-- The checks of §4.E for a single log, each one passed. -/
structure LogValid (v : RegionView) (log_id : U128) : Prop where
  size : ABSOLUTE_POS_OF_LOG_AREA + MIN_LOG_AREA_SIZE ≤ v.len
  global_crc : v.global_crc = spec_crc v.global_metadata
  program_guid : v.global_metadata.program_guid = LOG_PROGRAM_GUID
  version_number : v.global_metadata.version_number = 1
  length_of_region_metadata :
    v.global_metadata.length_of_region_metadata.toNat = LENGTH_OF_REGION_METADATA
  region_crc : v.region_crc = spec_crc v.region_metadata
  region_size : v.region_metadata.region_size.toNat = v.len
  log_id : v.region_metadata.multilog_id = log_id
  log_area_len : MIN_LOG_AREA_SIZE ≤ v.region_metadata.log_area_len.toNat
  log_area : ABSOLUTE_POS_OF_LOG_AREA + v.region_metadata.log_area_len.toNat ≤ v.len
  log_crc : v.log_crc = spec_crc v.log_metadata
  log_length : v.log_metadata.log_length.toNat ≤ v.region_metadata.log_area_len.toNat
  head : v.log_metadata.head.toNat + v.log_metadata.log_length.toNat ≤ U128_MAX

theorem recoverGivenCdb_eq_some {mem : List UInt8} {log_id : U128} {cdb : Bool}
    {s : AbstractLogState} :
    recoverGivenCdb spec_crc LOG_PROGRAM_GUID mem log_id cdb = some s ↔
      LogValid spec_crc LOG_PROGRAM_GUID (regionView mem cdb) log_id ∧ s = regionState mem cdb := by
  unfold recoverGivenCdb
  simp only [Option.ite_none_left_eq_some, Option.ite_none_right_eq_some, ne_eq, not_not, not_or,
    not_lt, recoverAbstractLogFromRegionGivenMetadata_eq_some]
  constructor
  · rintro ⟨h1, h2, h3, h4, h5, h6, ⟨h71, h72, h73, h74⟩, h8, hl, hh, rfl⟩
    exact ⟨⟨h1, h2, h3, h4, h5, h6, h71, h72, h73, h74, h8, hl, hh⟩, rfl⟩
  · rintro ⟨hv, rfl⟩
    exact ⟨hv.size, hv.global_crc, hv.program_guid, hv.version_number,
      hv.length_of_region_metadata, hv.region_crc, ⟨hv.region_size, hv.log_id, hv.log_area_len,
      hv.log_area⟩, hv.log_crc, hv.log_length, hv.head, rfl⟩

/-! ## The code -/

/-- `read_cdb`. -/
def readCdb (pm : PersistentMemoryRegion) : Except LogErr Bool :=
  let log_cdb := pm.readAndDeserialize U64 ABSOLUTE_POS_OF_LOG_CDB
  match checkCdb log_cdb with
  | some b => .ok b
  | none => .error .CRCMismatch

/-- `read_log_variables`. The checks of the region metadata avoid overflow: `log_area_len + 256 >
region_size` as `region_size - log_area_len < 256` after `log_area_len > region_size`, and
`head + log_length > u128::MAX` as `log_length > u128::MAX - head`. -/
def readLogVariables (pm : PersistentMemoryRegion) (log_id : U128) (cdb : Bool) :
    Except LogErr LogInfo :=
  let region_size := pm.getRegionSize
  if region_size.toNat < ABSOLUTE_POS_OF_LOG_AREA + MIN_LOG_AREA_SIZE then
    .error .StartFailedDueToInvalidMemoryContents
  else
  let global_metadata := pm.readAndDeserialize GlobalMetadata ABSOLUTE_POS_OF_GLOBAL_METADATA
  let global_crc := pm.readAndDeserialize U64 ABSOLUTE_POS_OF_GLOBAL_CRC
  if !checkCrcDeserialized spec_crc global_metadata global_crc then .error .CRCMismatch
  else if global_metadata.program_guid ≠ LOG_PROGRAM_GUID then
    .error .StartFailedDueToInvalidMemoryContents
  else if global_metadata.version_number ≠ LOG_PROGRAM_VERSION_NUMBER then
    .error (.StartFailedDueToProgramVersionNumberUnsupported global_metadata.version_number
      LOG_PROGRAM_VERSION_NUMBER)
  else if global_metadata.length_of_region_metadata.toNat ≠ LENGTH_OF_REGION_METADATA then
    .error .StartFailedDueToInvalidMemoryContents
  else
  let region_metadata := pm.readAndDeserialize RegionMetadata ABSOLUTE_POS_OF_REGION_METADATA
  let region_crc := pm.readAndDeserialize U64 ABSOLUTE_POS_OF_REGION_CRC
  if !checkCrcDeserialized spec_crc region_metadata region_crc then .error .CRCMismatch
  else if region_metadata.region_size ≠ region_size then
    .error (.StartFailedDueToRegionSizeMismatch region_size region_metadata.region_size)
  else if region_metadata.multilog_id ≠ log_id then
    .error (.StartFailedDueToLogIDMismatch log_id region_metadata.multilog_id)
  else if region_size < region_metadata.log_area_len then
    .error .StartFailedDueToInvalidMemoryContents
  else if (region_size - region_metadata.log_area_len).toNat < ABSOLUTE_POS_OF_LOG_AREA then
    .error .StartFailedDueToInvalidMemoryContents
  else if region_metadata.log_area_len.toNat < MIN_LOG_AREA_SIZE then
    .error .StartFailedDueToInvalidMemoryContents
  else
  let log_metadata_pos := if cdb then ABSOLUTE_POS_OF_LOG_METADATA_FOR_CDB_TRUE
    else ABSOLUTE_POS_OF_LOG_METADATA_FOR_CDB_FALSE
  let log_crc_pos := if cdb then ABSOLUTE_POS_OF_LOG_CRC_FOR_CDB_TRUE
    else ABSOLUTE_POS_OF_LOG_CRC_FOR_CDB_FALSE
  let log_metadata := pm.readAndDeserialize LogMetadata log_metadata_pos
  let log_crc := pm.readAndDeserialize U64 log_crc_pos
  if !checkCrcDeserialized spec_crc log_metadata log_crc then .error .CRCMismatch
  else
  let head := log_metadata.head
  let log_length := log_metadata.log_length
  if region_metadata.log_area_len < log_length then .error .StartFailedDueToInvalidMemoryContents
  else if BitVec.allOnes 128 - head < log_length.setWidth 128 then
    .error .StartFailedDueToInvalidMemoryContents
  else
  let head_log_area_offset : U64 := (head % region_metadata.log_area_len.setWidth 128).setWidth 64
  .ok { log_area_len := region_metadata.log_area_len
        head := head
        head_log_area_offset := head_log_area_offset
        log_length := log_length
        log_plus_pending_length := log_length }

end Start

/-! ## What the code reads -/

/-- What `read_log_variables` reads of a region under `cdb`: each record and CRC as its read
returns it. -/
def readView (pm : PersistentMemoryRegion) (cdb : Bool) : RegionView :=
  ⟨pm.committed.length, pm.readAndDeserialize GlobalMetadata ABSOLUTE_POS_OF_GLOBAL_METADATA,
    pm.readAndDeserialize U64 ABSOLUTE_POS_OF_GLOBAL_CRC,
    pm.readAndDeserialize RegionMetadata ABSOLUTE_POS_OF_REGION_METADATA,
    pm.readAndDeserialize U64 ABSOLUTE_POS_OF_REGION_CRC,
    pm.readAndDeserialize LogMetadata (getLogMetadataPos cdb),
    pm.readAndDeserialize U64 (getLogCrcPos cdb)⟩

/-- The `LogInfo` that `read_log_variables` builds from the metadata it read. -/
def LogInfo.ofView (v : RegionView) : LogInfo :=
  ⟨v.region_metadata.log_area_len, v.log_metadata.head,
    (v.log_metadata.head % v.region_metadata.log_area_len.setWidth 128).setWidth 64,
    v.log_metadata.log_length, v.log_metadata.log_length⟩

/-- The code's form of `log_area_len + 256 ≤ region_size`, with no overflow. -/
theorem log_area_fits_iff {region_size log_area_len : U64} :
    (¬ region_size < log_area_len ∧
      ABSOLUTE_POS_OF_LOG_AREA ≤ (region_size - log_area_len).toNat) ↔
      ABSOLUTE_POS_OF_LOG_AREA + log_area_len.toNat ≤ region_size.toNat := by
  rw [BitVec.lt_def, BitVec.toNat_sub]
  have := region_size.isLt
  simp only [ABSOLUTE_POS_OF_LOG_AREA]
  omega

/-- The code's form of `head + log_length ≤ u128::MAX`, with no overflow. -/
theorem head_fits_iff {head : U128} {log_length : U64} :
    ¬ BitVec.allOnes 128 - head < log_length.setWidth 128 ↔
      head.toNat + log_length.toNat ≤ U128_MAX := by
  rw [BitVec.lt_def, BitVec.toNat_sub, BitVec.toNat_allOnes, BitVec.toNat_setWidth]
  have := head.isLt
  have := log_length.isLt
  simp only [U128_MAX]
  omega

theorem toNat_headLogAreaOffset (head : U128) {log_area_len : U64} (h : 0 < log_area_len.toNat) :
    ((head % log_area_len.setWidth 128).setWidth 64).toNat = head.toNat % log_area_len.toNat := by
  have := log_area_len.isLt
  rw [BitVec.toNat_setWidth, BitVec.toNat_umod, BitVec.toNat_setWidth,
    Nat.mod_eq_of_lt (show log_area_len.toNat < 2 ^ 128 by omega)]
  exact Nat.mod_eq_of_lt (lt_trans (Nat.mod_lt _ h) this)

theorem ite_error_eq_ok {α : Type} {c : Prop} [Decidable c] {e : LogErr} {x : Except LogErr α}
    {r : α} : (if c then .error e else x) = .ok r ↔ ¬c ∧ x = .ok r := by
  by_cases h : c <;> simp [h]

section Refinement

variable (spec_crc : SpecCrc) (LOG_PROGRAM_GUID : U128)

/-- `read_log_variables` succeeds exactly when what it read passes the checks of §4.E, and
then returns the `LogInfo` of what it read. -/
theorem readLogVariables_eq_ok {pm : PersistentMemoryRegion} {log_id : U128} {cdb : Bool}
    {info : LogInfo} :
    readLogVariables spec_crc LOG_PROGRAM_GUID pm log_id cdb = .ok info ↔
      LogValid spec_crc LOG_PROGRAM_GUID (readView pm cdb) log_id ∧
        info = LogInfo.ofView (readView pm cdb) := by
  unfold readLogVariables
  simp only [ite_error_eq_ok, Bool.not_eq_true', Bool.not_eq_false, checkCrcDeserialized_eq_true,
    ne_eq, not_not, not_lt, Except.ok.injEq, toNat_getRegionSize]
  have hlen : (readView pm cdb).len = pm.getRegionSize.toNat := (toNat_getRegionSize pm).symm
  constructor
  · rintro ⟨h1, h2, h3, h4, h5, h6, h7, h8, h9, h10, h11, h12, h13, h14, rfl⟩
    refine ⟨⟨h1, h2, h3, h4, h5, h6, by rw [hlen, ← h7]; rfl, h8, h11, ?_, h12, ?_,
      head_fits_iff.1 h14⟩, rfl⟩
    · exact hlen ▸ log_area_fits_iff.1 ⟨h9, h10⟩
    · simpa only [BitVec.lt_def, not_lt] using h13
  · rintro ⟨hv, rfl⟩
    have hfits := log_area_fits_iff.2 (hlen ▸ hv.log_area)
    refine ⟨hv.size, hv.global_crc, hv.program_guid, hv.version_number,
      hv.length_of_region_metadata, hv.region_crc, BitVec.eq_of_toNat_eq (hlen ▸ hv.region_size),
      hv.log_id, hfits.1, hfits.2, hv.log_area_len, hv.log_crc, ?_, head_fits_iff.2 hv.head, rfl⟩
    simpa only [BitVec.lt_def, not_lt] using hv.log_length

/-- On a valid region, the `LogInfo` built from its metadata is the one that describes the
recovered state. -/
theorem eq_ofView_iff_describes {mem : List UInt8} {log_id : U128} {cdb : Bool} {info : LogInfo}
    (hv : LogValid spec_crc LOG_PROGRAM_GUID (regionView mem cdb) log_id) :
    info = LogInfo.ofView (regionView mem cdb) ↔ info.Describes (regionState mem cdb) := by
  have hoff := toNat_headLogAreaOffset (deserializeLogMetadata mem cdb).head
    (lt_of_lt_of_le Nat.one_pos hv.log_area_len)
  constructor
  · rintro rfl
    exact ⟨rfl, rfl, (length_extractLog _ _ _ _).symm, hoff, rfl⟩
  · rintro ⟨h1, h2, h3, h4, h5⟩
    simp only [regionState, length_extractLog] at h1 h2 h3 h4
    cases info
    simp only at h1 h2 h3 h4 h5
    subst h5
    simp only [LogInfo.ofView, regionView, LogInfo.mk.injEq]
    exact ⟨BitVec.eq_of_toNat_eq h1, BitVec.eq_of_toNat_eq h2, BitVec.eq_of_toNat_eq (h4.trans hoff.symm),
      BitVec.eq_of_toNat_eq h3, BitVec.eq_of_toNat_eq h3⟩

end Refinement

/-! ## Start on an impervious device -/

theorem readView_eq_regionView {pm : PersistentMemoryRegion} (h : pm.ReadsExact)
    (hlen : ABSOLUTE_POS_OF_LOG_AREA ≤ pm.committed.length) (cdb : Bool) :
    readView pm cdb = regionView pm.committed cdb := by
  have hr : ∀ (S : Type) [Serializable S] (addr : Nat),
      addr + specSerializedLen S ≤ ABSOLUTE_POS_OF_LOG_AREA →
      pm.readAndDeserialize S addr =
        specDeserialize (extractBytes pm.committed addr (specSerializedLen S)) :=
    fun S _ addr ha => congrArg specDeserialize (h _ _ (by omega))
  simp only [readView, regionView, RegionView.mk.injEq]
  exact ⟨trivial, hr _ _ (by decide), hr _ _ (by decide), hr _ _ (by decide), hr _ _ (by decide),
    hr _ _ (by cases cdb <;> decide), hr _ _ (by cases cdb <;> decide)⟩

section Impervious

variable (spec_crc : SpecCrc) (LOG_PROGRAM_GUID : U128) {pm : PersistentMemoryRegion}
  (h : pm.ReadsExact)
include h

/-- On an impervious device, `read_log_variables` succeeds exactly when recovery does, and
returns the `LogInfo` that describes the recovered state. -/
theorem readLogVariables_eq_ok_iff {log_id : U128} {cdb : Bool} {info : LogInfo} :
    readLogVariables spec_crc LOG_PROGRAM_GUID pm log_id cdb = .ok info ↔
      ∃ s, recoverGivenCdb spec_crc LOG_PROGRAM_GUID pm.committed log_id cdb = some s ∧
        info.Describes s := by
  simp only [readLogVariables_eq_ok, recoverGivenCdb_eq_some]
  by_cases hlen : ABSOLUTE_POS_OF_LOG_AREA ≤ pm.committed.length
  · rw [readView_eq_regionView h hlen]
    constructor
    · rintro ⟨hv, hi⟩
      exact ⟨_, ⟨hv, rfl⟩, (eq_ofView_iff_describes spec_crc LOG_PROGRAM_GUID hv).1 hi⟩
    · rintro ⟨_, ⟨hv, rfl⟩, hd⟩
      exact ⟨hv, (eq_ofView_iff_describes spec_crc LOG_PROGRAM_GUID hv).2 hd⟩
  · exact iff_of_false (fun ⟨hv, _⟩ => hlen (le_trans (Nat.le_add_right _ _) hv.size))
      (fun ⟨_, ⟨hv, _⟩, _⟩ => hlen (le_trans (Nat.le_add_right _ _) hv.size))

/-- On an impervious device `read_cdb` returns the boolean that the committed CDB encodes. -/
theorem readCdb_eq_ok (hlen : ABSOLUTE_POS_OF_LOG_CDB + CRC_SIZE ≤ pm.committed.length)
    {b : Bool} (hcdb : deserializeLogCdb pm.committed = cdbValue b) : readCdb pm = .ok b := by
  have hread : pm.readAndDeserialize U64 ABSOLUTE_POS_OF_LOG_CDB = deserializeLogCdb pm.committed :=
    congrArg specU64FromLeBytes (h _ _ hlen)
  rw [readCdb, hread, hcdb, checkCdb_eq_some.2 rfl]

end Impervious

/-! ## Start on a device that may corrupt its reads -/

/-- The result is `Ok(info)` or `CRCMismatch`. -/
def OkOrCrcMismatch (result : Except LogErr LogInfo) (info : LogInfo) : Prop :=
  result = .ok info ∨ result = .error .CRCMismatch

theorem okOrCrcMismatch_check {c : Bool} {k : Except LogErr LogInfo} {info : LogInfo}
    (h : c = true → OkOrCrcMismatch k info) :
    OkOrCrcMismatch (if !c then .error .CRCMismatch else k) info := by
  cases c
  · exact .inr rfl
  · exact h rfl

theorem okOrCrcMismatch_pass {c : Prop} [Decidable c] {e : LogErr} {k : Except LogErr LogInfo}
    {info : LogInfo} (hc : ¬c) (h : OkOrCrcMismatch k info) :
    OkOrCrcMismatch (if c then .error e else k) info := by
  rwa [if_neg hc]

/-- The records of a region under `cdb` each match the CRC stored after them: the global
metadata, the region metadata and the log metadata that `cdb` makes active. -/
structure CrcsMatch (spec_crc : SpecCrc) (v : RegionView) : Prop where
  global_crc : v.global_crc = spec_crc v.global_metadata
  region_crc : v.region_crc = spec_crc v.region_metadata
  log_crc : v.log_crc = spec_crc v.log_metadata

section Corruption

variable (cm : CorruptionModel) {pm : PersistentMemoryRegion} (hpm : pm.ReadsOk cm)
include hpm

/-- `axiom_bytes_uncorrupted` for one record: a record whose read matches the CRC read after it
is the committed record, when the committed CRC is the CRC of the committed record. -/
theorem readAndDeserialize_eq_of_crc {S : Type} [Serializable S]
    (hS : ∀ s : List UInt8, s.length = specSerializedLen S → specSerialize (specDeserialize s : S) = s)
    (addr crc_addr : Nat) (hx : addr + specSerializedLen S ≤ pm.committed.length)
    (hy : crc_addr + CRC_SIZE ≤ pm.committed.length)
    (htrue : specU64FromLeBytes (extractBytes pm.committed crc_addr CRC_SIZE) =
      cm.specCrc (specDeserialize (extractBytes pm.committed addr (specSerializedLen S)) : S))
    (hcheck : pm.readAndDeserialize U64 crc_addr = cm.specCrc (pm.readAndDeserialize S addr)) :
    pm.readAndDeserialize S addr =
      specDeserialize (extractBytes pm.committed addr (specSerializedLen S)) := by
  have hmx := hpm.maybe_corrupted _ _ hx
  have hmy := hpm.maybe_corrupted _ _ hy
  have hxl : (pm.read addr (specSerializedLen S)).length = specSerializedLen S :=
    hmx.1.trans (length_extractBytes hx)
  have hyl : (pm.read crc_addr CRC_SIZE).length = CRC_SIZE := hmy.1.trans (length_extractBytes hy)
  have huncorrupted := cm.axiom_bytes_uncorrupted _ _ _ _ _ _ hmx hmy
    (cm.eq_specCrcBytes hS (length_extractBytes hx) (length_extractBytes hy) htrue)
    (cm.eq_specCrcBytes hS hxl hyl hcheck) (allElementsUnique_readAddrs _ _)
    (allElementsUnique_readAddrs _ _)
  rw [PersistentMemoryRegion.readAndDeserialize, ← huncorrupted]

variable (LOG_PROGRAM_GUID : U128) {log_id : U128} {cdb : Bool}

/-- When the committed records match their CRCs, the reads whose CRC checks pass are the
committed records and CRCs. -/
theorem readView_eq_regionView_of_crcs (hlen : ABSOLUTE_POS_OF_LOG_AREA ≤ pm.committed.length)
    (hm : CrcsMatch cm.specCrc (regionView pm.committed cdb))
    (hr : CrcsMatch cm.specCrc (readView pm cdb)) :
    readView pm cdb = regionView pm.committed cdb := by
  have hg := readAndDeserialize_eq_of_crc cm hpm
    (fun _ => GlobalMetadata.specSerialize_specDeserialize) ABSOLUTE_POS_OF_GLOBAL_METADATA
    ABSOLUTE_POS_OF_GLOBAL_CRC (le_trans (by decide) hlen) (le_trans (by decide) hlen) hm.global_crc
    hr.global_crc
  have hrg := readAndDeserialize_eq_of_crc cm hpm
    (fun _ => RegionMetadata.specSerialize_specDeserialize) ABSOLUTE_POS_OF_REGION_METADATA
    ABSOLUTE_POS_OF_REGION_CRC (le_trans (by decide) hlen) (le_trans (by decide) hlen) hm.region_crc
    hr.region_crc
  have hl := readAndDeserialize_eq_of_crc cm hpm
    (fun _ => LogMetadata.specSerialize_specDeserialize) (getLogMetadataPos cdb) (getLogCrcPos cdb)
    (le_trans (by cases cdb <;> decide) hlen) (le_trans (by cases cdb <;> decide) hlen) hm.log_crc
    hr.log_crc
  have hcrc : ∀ {S : Type} [Serializable S] {x x' : S} {c c' : U64}, c' = cm.specCrc x' → x' = x →
      c = cm.specCrc x → c' = c := fun h' hx h => by rw [h', hx, h]
  simp only [readView, regionView, RegionView.mk.injEq]
  exact ⟨trivial, hg, hcrc hr.global_crc hg hm.global_crc, hrg,
    hcrc hr.region_crc hrg hm.region_crc, hl, hcrc hr.log_crc hl hm.log_crc⟩

/-- `axiom_bytes_uncorrupted` for `read_log_variables`: when the committed records match their
CRCs, a success of the code is a success of recovery, with the `LogInfo` that describes the
recovered state. -/
theorem recoverGivenCdb_of_readLogVariables {info : LogInfo}
    (h : readLogVariables cm.specCrc LOG_PROGRAM_GUID pm log_id cdb = .ok info)
    (hm : CrcsMatch cm.specCrc (regionView pm.committed cdb)) :
    ∃ s, recoverGivenCdb cm.specCrc LOG_PROGRAM_GUID pm.committed log_id cdb = some s ∧
      info.Describes s := by
  obtain ⟨hv, rfl⟩ := (readLogVariables_eq_ok _ _).1 h
  have hlen : ABSOLUTE_POS_OF_LOG_AREA ≤ pm.committed.length :=
    le_trans (Nat.le_add_right _ _) hv.size
  have heq := readView_eq_regionView_of_crcs cm hpm hlen hm ⟨hv.global_crc, hv.region_crc,
    hv.log_crc⟩
  rw [heq] at hv ⊢
  exact ⟨_, (recoverGivenCdb_eq_some _ _).2 ⟨hv, rfl⟩, (eq_ofView_iff_describes _ _ hv).1 rfl⟩

/-- When the committed region recovers, each read whose CRC matches is the committed record, so
`read_log_variables` fails no check but a CRC check. -/
theorem readLogVariables_okOrCrcMismatch
    (hv : LogValid cm.specCrc LOG_PROGRAM_GUID (regionView pm.committed cdb) log_id) :
    OkOrCrcMismatch (readLogVariables cm.specCrc LOG_PROGRAM_GUID pm log_id cdb)
      (LogInfo.ofView (regionView pm.committed cdb)) := by
  have hsize : 257 ≤ pm.committed.length := hv.size
  have hlen := toNat_getRegionSize pm
  unfold readLogVariables
  refine okOrCrcMismatch_pass (by rw [hlen]; exact Nat.not_lt.2 hv.size)
    (okOrCrcMismatch_check fun h1 => ?_)
  rw [readAndDeserialize_eq_of_crc cm hpm (fun _ => GlobalMetadata.specSerialize_specDeserialize)
    ABSOLUTE_POS_OF_GLOBAL_METADATA ABSOLUTE_POS_OF_GLOBAL_CRC (le_trans (by decide) hsize)
    (le_trans (by decide) hsize) hv.global_crc
    (checkCrcDeserialized_eq_true.1 h1)]
  refine okOrCrcMismatch_pass (not_not.2 hv.program_guid) (okOrCrcMismatch_pass
    (not_not.2 hv.version_number) (okOrCrcMismatch_pass (not_not.2 hv.length_of_region_metadata)
    (okOrCrcMismatch_check fun h2 => ?_)))
  rw [readAndDeserialize_eq_of_crc cm hpm (fun _ => RegionMetadata.specSerialize_specDeserialize)
    ABSOLUTE_POS_OF_REGION_METADATA ABSOLUTE_POS_OF_REGION_CRC (le_trans (by decide) hsize)
    (le_trans (by decide) hsize) hv.region_crc
    (checkCrcDeserialized_eq_true.1 h2)]
  have hfits : ¬ pm.getRegionSize < (deserializeRegionMetadata pm.committed).log_area_len ∧
      ABSOLUTE_POS_OF_LOG_AREA ≤
        (pm.getRegionSize - (deserializeRegionMetadata pm.committed).log_area_len).toNat :=
    log_area_fits_iff.2 (by rw [hlen]; exact hv.log_area)
  refine okOrCrcMismatch_pass (not_not.2 (BitVec.eq_of_toNat_eq (by rw [hlen]; exact hv.region_size)))
    (okOrCrcMismatch_pass (not_not.2 hv.log_id) (okOrCrcMismatch_pass hfits.1
    (okOrCrcMismatch_pass (Nat.not_lt.2 hfits.2) (okOrCrcMismatch_pass
    (Nat.not_lt.2 hv.log_area_len) (okOrCrcMismatch_check fun h3 => ?_)))))
  rw [readAndDeserialize_eq_of_crc cm hpm (fun _ => LogMetadata.specSerialize_specDeserialize)
    (if cdb then ABSOLUTE_POS_OF_LOG_METADATA_FOR_CDB_TRUE
      else ABSOLUTE_POS_OF_LOG_METADATA_FOR_CDB_FALSE)
    (if cdb then ABSOLUTE_POS_OF_LOG_CRC_FOR_CDB_TRUE else ABSOLUTE_POS_OF_LOG_CRC_FOR_CDB_FALSE)
    (le_trans (by cases cdb <;> decide) hsize) (le_trans (by cases cdb <;> decide) hsize) hv.log_crc
    (checkCrcDeserialized_eq_true.1 h3)]
  exact okOrCrcMismatch_pass (by rw [BitVec.lt_def]; exact Nat.not_lt.2 hv.log_length)
    (okOrCrcMismatch_pass (head_fits_iff.2 hv.head) (.inl rfl))

/-- The `ensures` of `read_log_variables`: when the committed region recovers, the code returns
the `LogInfo` that describes the recovered state, or `CRCMismatch` on a device that is not
impervious. -/
theorem readLogVariables_of_recoverGivenCdb {s : AbstractLogState}
    (hs : recoverGivenCdb cm.specCrc LOG_PROGRAM_GUID pm.committed log_id cdb = some s) :
    (∃ info, readLogVariables cm.specCrc LOG_PROGRAM_GUID pm log_id cdb = .ok info ∧
        info.Describes s) ∨
      (readLogVariables cm.specCrc LOG_PROGRAM_GUID pm log_id cdb = .error .CRCMismatch ∧
        pm.impervious_to_corruption = false) := by
  obtain ⟨hv, rfl⟩ := (recoverGivenCdb_eq_some _ _).1 hs
  have hd := (eq_ofView_iff_describes _ _ hv).1 rfl
  rcases readLogVariables_okOrCrcMismatch cm hpm LOG_PROGRAM_GUID hv with hok | hcrc
  · exact .inl ⟨_, hok, hd⟩
  · refine .inr ⟨hcrc, ?_⟩
    cases himp : pm.impervious_to_corruption
    · rfl
    · exact nomatch hcrc.symm.trans ((readLogVariables_eq_ok_iff _ _ (hpm.impervious himp)).2
        ⟨_, hs, hd⟩)

/-- The `ensures` of `read_cdb`: when the committed CDB encodes `b`, the code returns `b`,
or `CRCMismatch` on a device that is not impervious. By
`axiom_corruption_detecting_boolean`, a read CDB that is one of the two values is the committed
one. -/
theorem readCdb_of_deserializeLogCdb
    (hlen : ABSOLUTE_POS_OF_LOG_CDB + CRC_SIZE ≤ pm.committed.length) {b : Bool}
    (hcdb : deserializeLogCdb pm.committed = cdbValue b) :
    readCdb pm = .ok b ∨
      (readCdb pm = .error .CRCMismatch ∧ pm.impervious_to_corruption = false) := by
  cases himp : pm.impervious_to_corruption
  · have hm := hpm.maybe_corrupted _ _ hlen
    have hr : (pm.read ABSOLUTE_POS_OF_LOG_CDB CRC_SIZE).length = 8 :=
      hm.1.trans (length_extractBytes hlen)
    have he : (extractBytes pm.committed ABSOLUTE_POS_OF_LOG_CDB CRC_SIZE).length = 8 :=
      length_extractBytes hlen
    rw [← specU64ToLeBytes_specU64FromLeBytes hr, ← specU64ToLeBytes_specU64FromLeBytes he] at hm
    cases hb : checkCdb (pm.readAndDeserialize U64 ABSOLUTE_POS_OF_LOG_CDB) with
    | none => exact .inr ⟨by simp only [readCdb, hb], rfl⟩
    | some b' =>
      have hc := checkCdb_eq_some.1 hb
      refine .inl ((by simp only [readCdb, hb] : readCdb pm = .ok b').trans
        (congrArg _ (cdbValue_injective ?_)))
      rw [← hc, ← hcdb]
      exact cm.axiom_corruption_detecting_boolean _ _ _ hm (allElementsUnique_readAddrs _ _)
        (hcdb ▸ cdbValue_eq_or b) (hc ▸ cdbValue_eq_or b')
  · exact .inl (readCdb_eq_ok (hpm.impervious himp) hlen hcdb)

end Corruption

/-! ## Regions and devices for the examples -/

/-- A log region laid out as §3: the three records, each followed by its CRC, the CDB, one
log-metadata copy and its CRC, padding up to the log area, and the log area. -/
def layoutRegion (spec_crc : SpecCrc) (g : GlobalMetadata) (r : RegionMetadata) (cdb : U64)
    (l : LogMetadata) (log_area : List UInt8) : List UInt8 :=
  g.specSerialize ++ specU64ToLeBytes (spec_crc g) ++ r.specSerialize ++
    specU64ToLeBytes (spec_crc r) ++ specU64ToLeBytes cdb ++ l.specSerialize ++
    specU64ToLeBytes (spec_crc l) ++ List.replicate 112 0 ++ log_area

@[simp] theorem length_layoutRegion (spec_crc : SpecCrc) (g : GlobalMetadata) (r : RegionMetadata)
    (cdb : U64) (l : LogMetadata) (log_area : List UInt8) :
    (layoutRegion spec_crc g r cdb l log_area).length = ABSOLUTE_POS_OF_LOG_AREA + log_area.length := by
  simp only [layoutRegion, List.length_append, GlobalMetadata.length_specSerialize,
    RegionMetadata.length_specSerialize, LogMetadata.length_specSerialize,
    length_specU64ToLeBytes, List.length_replicate, ABSOLUTE_POS_OF_LOG_AREA,
    LENGTH_OF_GLOBAL_METADATA, LENGTH_OF_REGION_METADATA, LENGTH_OF_LOG_METADATA]

/-- A device whose reads return the bytes of `read_from` meets the `ensures` of `read`
under `addressZeroCorruption` when `read_from` differs from the committed bytes at address 0
at most, and is them on an impervious device. -/
theorem readsOk_addressZeroCorruption {pm : PersistentMemoryRegion} {read_from : List UInt8}
    (hread : ∀ addr num_bytes, pm.read addr num_bytes = extractBytes read_from addr num_bytes)
    (hlen : read_from.length = pm.committed.length)
    (hdiff : ∀ i, i ≠ 0 → read_from[i]? = pm.committed[i]?)
    (himp : pm.impervious_to_corruption = true → read_from = pm.committed) :
    pm.ReadsOk addressZeroCorruption where
  maybe_corrupted addr num_bytes hn := by
    have hn' : addr + num_bytes ≤ read_from.length := hlen ▸ hn
    rw [hread]
    refine ⟨by rw [length_extractBytes hn', length_extractBytes hn],
      by rw [length_extractBytes hn', readAddrs, List.length_map, List.length_range], fun k hk => ?_⟩
    rw [length_extractBytes hn'] at hk
    by_cases hz : addr + k = 0
    · right
      simp only [readAddrs, List.getD_eq_getElem?_getD, List.getElem?_map, List.getElem?_range hk,
        Option.map_some', Option.getD_some]
      omega
    · left
      simp only [List.getD_eq_getElem?_getD, getElem?_extractBytes, if_pos hk, hdiff _ hz]
  impervious h addr num_bytes _ := by rw [hread, himp h]

/-! ## Start refines recovery -/

/-- Start refines the single-log recovery of §4.E. On an impervious device `read_log_variables`
succeeds exactly when recovery does, with the `LogInfo` that describes the recovered state, and
`read_cdb` returns the committed CDB. On any device, a success of `read_log_variables` is one of
recovery, with the same `LogInfo`, when the committed records match their CRCs; and when recovery
succeeds, each returns those values or reports a CRC mismatch, and only on a device that is not
impervious. -/
theorem start_refines_log_recovery (cm : CorruptionModel) (LOG_PROGRAM_GUID : U128)
    (pm : PersistentMemoryRegion) (hpm : pm.ReadsOk cm) (log_id : U128) (cdb : Bool) :
    (pm.impervious_to_corruption = true →
      (∀ info, readLogVariables cm.specCrc LOG_PROGRAM_GUID pm log_id cdb = .ok info →
        ∃ s, recoverGivenCdb cm.specCrc LOG_PROGRAM_GUID pm.committed log_id cdb = some s ∧
          info.Describes s) ∧
      (∀ s, recoverGivenCdb cm.specCrc LOG_PROGRAM_GUID pm.committed log_id cdb = some s →
        ∃ info, readLogVariables cm.specCrc LOG_PROGRAM_GUID pm log_id cdb = .ok info ∧
          info.Describes s) ∧
      ∀ b, ABSOLUTE_POS_OF_LOG_CDB + CRC_SIZE ≤ pm.committed.length →
        deserializeLogCdb pm.committed = cdbValue b → readCdb pm = .ok b) ∧
    (∀ info, readLogVariables cm.specCrc LOG_PROGRAM_GUID pm log_id cdb = .ok info →
      CrcsMatch cm.specCrc (regionView pm.committed cdb) →
      ∃ s, recoverGivenCdb cm.specCrc LOG_PROGRAM_GUID pm.committed log_id cdb = some s ∧
        info.Describes s) ∧
    (∀ s, recoverGivenCdb cm.specCrc LOG_PROGRAM_GUID pm.committed log_id cdb = some s →
      (∃ info, readLogVariables cm.specCrc LOG_PROGRAM_GUID pm log_id cdb = .ok info ∧
          info.Describes s) ∨
        (readLogVariables cm.specCrc LOG_PROGRAM_GUID pm log_id cdb = .error .CRCMismatch ∧
          pm.impervious_to_corruption = false)) ∧
    ∀ b, ABSOLUTE_POS_OF_LOG_CDB + CRC_SIZE ≤ pm.committed.length →
      deserializeLogCdb pm.committed = cdbValue b →
        readCdb pm = .ok b ∨
          (readCdb pm = .error .CRCMismatch ∧ pm.impervious_to_corruption = false) :=
  ⟨fun himp => ⟨fun _ h => (readLogVariables_eq_ok_iff _ _ (hpm.impervious himp)).1 h,
      fun _ hs => (readLogVariables_of_recoverGivenCdb cm hpm LOG_PROGRAM_GUID hs).resolve_right
        fun ⟨_, hf⟩ => (nomatch himp.symm.trans hf),
      fun _ hlen hcdb => readCdb_eq_ok (hpm.impervious himp) hlen hcdb⟩,
    fun _ h hm => recoverGivenCdb_of_readLogVariables cm hpm LOG_PROGRAM_GUID h hm,
    fun _ hs => readLogVariables_of_recoverGivenCdb cm hpm LOG_PROGRAM_GUID hs,
    fun _ hlen hcdb => readCdb_of_deserializeLogCdb cm hpm hlen hcdb⟩

/-- A region of one log holding `[7]`, with the CRCs of `addressZeroCorruption`. -/
def sampleLogRegion : List UInt8 :=
  layoutRegion addressZeroCorruption.specCrc ⟨1, 48, MULTILOG_PROGRAM_GUID⟩ ⟨1, 0, 0, 258, 2, 0⟩
    CDB_FALSE ⟨1, 0, 0⟩ [7, 0]

/-- An impervious device holding `sampleLogRegion`. -/
def sampleLogDevice : PersistentMemoryRegion :=
  ⟨sampleLogRegion, true, extractBytes sampleLogRegion,
    by rw [sampleLogRegion, length_layoutRegion]; decide⟩

set_option maxRecDepth 10000 in
theorem start_refines_log_recovery_on_the_sample :
    sampleLogDevice.ReadsOk addressZeroCorruption ∧
      ∃ info, readLogVariables addressZeroCorruption.specCrc MULTILOG_PROGRAM_GUID sampleLogDevice 0
          false = .ok info ∧ info.Describes ⟨0, [7], [], 2⟩ :=
  have hpm : sampleLogDevice.ReadsOk addressZeroCorruption :=
    readsOk_addressZeroCorruption (fun _ _ => rfl) rfl (fun _ _ => rfl) (fun _ => rfl)
  have hs : recoverGivenCdb addressZeroCorruption.specCrc MULTILOG_PROGRAM_GUID sampleLogRegion 0
      false = some ⟨0, [7], [], 2⟩ := by rfl
  ⟨hpm, ((start_refines_log_recovery addressZeroCorruption MULTILOG_PROGRAM_GUID sampleLogDevice hpm
    0 false).1 rfl).2.1 _ hs⟩

/-- `sampleLogRegion` with version number 2 at address 0, under the CRC of version 1. -/
def sampleTornRegion : List UInt8 := sampleLogRegion.set 0 2

/-- A device holding `sampleTornRegion` whose reads return 1 at address 0. -/
def sampleTornDevice : PersistentMemoryRegion :=
  ⟨sampleTornRegion, false, extractBytes sampleLogRegion,
    by rw [sampleTornRegion, List.length_set, sampleLogRegion, length_layoutRegion]; decide⟩

set_option maxRecDepth 10000 in
/-- A read corrupted back to version 1 matches the committed CRC of version 1: the code starts,
while recovery of the committed bytes rejects their global CRC. -/
theorem start_success_does_not_imply_recovery :
    ¬ ∀ (cm : CorruptionModel) (LOG_PROGRAM_GUID : U128) (pm : PersistentMemoryRegion),
      pm.ReadsOk cm → ∀ log_id cdb info,
        readLogVariables cm.specCrc LOG_PROGRAM_GUID pm log_id cdb = .ok info →
          ∃ s, recoverGivenCdb cm.specCrc LOG_PROGRAM_GUID pm.committed log_id cdb = some s ∧
            info.Describes s := by
  intro h
  have hpm : sampleTornDevice.ReadsOk addressZeroCorruption :=
    readsOk_addressZeroCorruption (fun _ _ => rfl) (List.length_set _ _ _).symm
      (fun _ hi => (List.getElem?_set_ne (Ne.symm hi)).symm) (fun h => nomatch h)
  have hok : readLogVariables addressZeroCorruption.specCrc MULTILOG_PROGRAM_GUID sampleTornDevice 0
      false = .ok ⟨2, 0, 0, 1, 1⟩ := by rfl
  have hnone : recoverGivenCdb addressZeroCorruption.specCrc MULTILOG_PROGRAM_GUID sampleTornRegion 0
      false = none := by rfl
  obtain ⟨s, hs, -⟩ := h _ _ _ hpm 0 false _ hok
  exact nomatch hnone.symm.trans hs

end verified_storage.log
