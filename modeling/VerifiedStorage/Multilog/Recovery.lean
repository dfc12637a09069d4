-- Recovery of a multilog from the contents of its regions (`layout_v.rs`): the CDB of
-- region 0 picks the active log-metadata copy of every region, and each region passes the
-- same chain of checks. Each recovery function has one lemma that says when it succeeds
-- and with what, and the lemmas after it use that and never the function's body.
import Mathlib.Data.List.ReduceOption
import VerifiedStorage.Multilog.LogArea

namespace verified_storage.multilog

open verified_storage

/-- `u32::MAX`. -/
def U32_MAX : Nat := 2 ^ 32 - 1

/-- Modelled from the spec: `AbstractMultiLogState` of `multilogspec_t.rs`, one log state per
region (§3). -/
structure AbstractMultiLogState where
  states : List AbstractLogState
  deriving DecidableEq, Repr

/-- Modelled from the spec: `drop_pending_appends`, every log with its pending bytes lost. -/
def AbstractMultiLogState.dropPendingAppends (A : AbstractMultiLogState) : AbstractMultiLogState :=
  ⟨A.states.map AbstractLogState.dropPendingAppends⟩

/-! ## Extracting the metadata -/

def extractGlobalMetadata (mem : List UInt8) : List UInt8 :=
  extractBytes mem ABSOLUTE_POS_OF_GLOBAL_METADATA LENGTH_OF_GLOBAL_METADATA

def deserializeGlobalMetadata (mem : List UInt8) : GlobalMetadata :=
  GlobalMetadata.specDeserialize (extractGlobalMetadata mem)

def extractGlobalCrc (mem : List UInt8) : List UInt8 :=
  extractBytes mem ABSOLUTE_POS_OF_GLOBAL_CRC CRC_SIZE

/-- `deserialize_global_crc`; `u64::spec_deserialize` is `spec_u64_from_le_bytes`. -/
def deserializeGlobalCrc (mem : List UInt8) : U64 := specU64FromLeBytes (extractGlobalCrc mem)

def extractRegionMetadata (mem : List UInt8) : List UInt8 :=
  extractBytes mem ABSOLUTE_POS_OF_REGION_METADATA LENGTH_OF_REGION_METADATA

def deserializeRegionMetadata (mem : List UInt8) : RegionMetadata :=
  RegionMetadata.specDeserialize (extractRegionMetadata mem)

def extractRegionCrc (mem : List UInt8) : List UInt8 :=
  extractBytes mem ABSOLUTE_POS_OF_REGION_CRC CRC_SIZE

def deserializeRegionCrc (mem : List UInt8) : U64 := specU64FromLeBytes (extractRegionCrc mem)

def extractLogCdb (mem : List UInt8) : List UInt8 :=
  extractBytes mem ABSOLUTE_POS_OF_LOG_CDB CRC_SIZE

def deserializeLogCdb (mem : List UInt8) : U64 := specU64FromLeBytes (extractLogCdb mem)

/-- `deserialize_and_check_log_cdb`: `None` when the CDB is neither of its two values. -/
def deserializeAndCheckLogCdb (mem : List UInt8) : Option Bool :=
  let log_cdb := deserializeLogCdb mem
  if log_cdb = CDB_FALSE then some false
  else if log_cdb = CDB_TRUE then some true
  else none

/-- `extract_and_parse_log_cdb`, which nothing calls: the same check on the CDB bytes read as a
`u64`. -/
def extractAndParseLogCdb (mem : List UInt8) : Option Bool :=
  let log_cdb := extractLogCdb mem
  if specU64FromLeBytes log_cdb = CDB_FALSE then some false
  else if specU64FromLeBytes log_cdb = CDB_TRUE then some true
  else none

/-- The parsers that nothing calls agree with the deserializers that recovery uses, but for
the padding: `parse_region_metadata` and `parse_log_metadata` set it to 0 where
`spec_deserialize` reads it. So they invert the serialization of exactly the records with
padding 0, and `extract_and_parse_log_cdb` is `deserialize_and_check_log_cdb`. -/
theorem parsers_agree_with_deserializers_but_on_padding :
    (∀ bytes, parseGlobalMetadata bytes = GlobalMetadata.specDeserialize bytes) ∧
    (∀ bytes, parseRegionMetadata bytes =
      { RegionMetadata.specDeserialize bytes with _padding := 0 }) ∧
    (∀ bytes, parseLogMetadata bytes = { LogMetadata.specDeserialize bytes with _padding := 0 }) ∧
    (∀ r : RegionMetadata, parseRegionMetadata r.specSerialize = r ↔ r._padding = 0) ∧
    (∀ m : LogMetadata, parseLogMetadata m.specSerialize = m ↔ m._padding = 0) ∧
    ∀ mem, extractAndParseLogCdb mem = deserializeAndCheckLogCdb mem := by
  have hr : ∀ bytes, parseRegionMetadata bytes =
      { RegionMetadata.specDeserialize bytes with _padding := 0 } := fun _ => rfl
  have hl : ∀ bytes, parseLogMetadata bytes =
      { LogMetadata.specDeserialize bytes with _padding := 0 } := fun _ => rfl
  refine ⟨fun _ => rfl, hr, hl, fun r => ?_, fun m => ?_, fun _ => rfl⟩
  · rw [hr, RegionMetadata.specDeserialize_specSerialize]
    cases r
    simp only [RegionMetadata.mk.injEq, true_and, and_true, eq_comm]
  · rw [hl, LogMetadata.specDeserialize_specSerialize]
    cases m
    simp only [LogMetadata.mk.injEq, true_and, and_true, eq_comm]

/-- `get_log_metadata_pos`: where the log metadata that `cdb` makes active starts. -/
def getLogMetadataPos (cdb : Bool) : Nat :=
  if cdb then ABSOLUTE_POS_OF_LOG_METADATA_FOR_CDB_TRUE else ABSOLUTE_POS_OF_LOG_METADATA_FOR_CDB_FALSE

/-- `get_log_crc_end`: the byte past the CRC of that log metadata. -/
def getLogCrcEnd (cdb : Bool) : Nat := getLogMetadataPos cdb + LENGTH_OF_LOG_METADATA + CRC_SIZE

def extractLogMetadata (mem : List UInt8) (cdb : Bool) : List UInt8 :=
  let pos := getLogMetadataPos cdb
  extractBytes mem pos LENGTH_OF_LOG_METADATA

def deserializeLogMetadata (mem : List UInt8) (cdb : Bool) : LogMetadata :=
  LogMetadata.specDeserialize (extractLogMetadata mem cdb)

/-- The position of the CRC of the log metadata that `cdb` makes active. -/
def getLogCrcPos (cdb : Bool) : Nat :=
  if cdb then ABSOLUTE_POS_OF_LOG_CRC_FOR_CDB_TRUE else ABSOLUTE_POS_OF_LOG_CRC_FOR_CDB_FALSE

def extractLogCrc (mem : List UInt8) (cdb : Bool) : List UInt8 :=
  extractBytes mem (getLogCrcPos cdb) CRC_SIZE

def deserializeLogCrc (mem : List UInt8) (cdb : Bool) : U64 :=
  specU64FromLeBytes (extractLogCrc mem cdb)

/-! ## Recovery -/

section Recovery

variable (spec_crc : SpecCrc)

/-- `recover_abstract_log_from_region_given_cdb`. -/
def recoverAbstractLogFromRegionGivenCdb (mem : List UInt8) (multilog_id : U128)
    (num_logs which_log : Nat) (cdb : Bool) : Option AbstractLogState :=
  if mem.length < ABSOLUTE_POS_OF_LOG_AREA + MIN_LOG_AREA_SIZE then none
  else
    let global_metadata := deserializeGlobalMetadata mem
    let global_crc := deserializeGlobalCrc mem
    if global_crc ≠ spec_crc global_metadata then none
    else if global_metadata.program_guid ≠ MULTILOG_PROGRAM_GUID then none
    else if global_metadata.version_number = 1 then
      if global_metadata.length_of_region_metadata.toNat ≠ LENGTH_OF_REGION_METADATA then none
      else
        let region_metadata := deserializeRegionMetadata mem
        let region_crc := deserializeRegionCrc mem
        if region_crc ≠ spec_crc region_metadata then none
        else if region_metadata.region_size.toNat ≠ mem.length ∨
            region_metadata.multilog_id ≠ multilog_id ∨
            region_metadata.num_logs.toNat ≠ num_logs ∨
            region_metadata.which_log.toNat ≠ which_log ∨
            region_metadata.log_area_len.toNat < MIN_LOG_AREA_SIZE ∨
            mem.length < ABSOLUTE_POS_OF_LOG_AREA + region_metadata.log_area_len.toNat then none
        else
          let log_metadata := deserializeLogMetadata mem cdb
          let log_crc := deserializeLogCrc mem cdb
          if log_crc ≠ spec_crc log_metadata then none
          else
            recoverAbstractLogFromRegionGivenMetadata mem region_metadata.log_area_len
              log_metadata.head log_metadata.log_length
    else none

/-- `recover_given_cdb`: every region recovered with `which_log` its index, or nothing. -/
def recoverGivenCdb (mems : List (List UInt8)) (multilog_id : U128) (cdb : Bool) :
    Option AbstractMultiLogState :=
  let seq_option := mems.mapIdx fun idx c =>
    recoverAbstractLogFromRegionGivenCdb spec_crc c multilog_id mems.length idx cdb
  if ∀ o ∈ seq_option, o.isSome then some ⟨seq_option.reduceOption⟩ else none

/-- `recover_cdb`, from the contents of region 0. -/
def recoverCdb (mem : List UInt8) : Option Bool :=
  if mem.length < ABSOLUTE_POS_OF_REGION_METADATA then none
  else
    let global_metadata := deserializeGlobalMetadata mem
    let global_crc := deserializeGlobalCrc mem
    if global_crc ≠ spec_crc global_metadata then none
    else if global_metadata.program_guid ≠ MULTILOG_PROGRAM_GUID then none
    else if global_metadata.version_number = 1 then
      if mem.length < ABSOLUTE_POS_OF_LOG_CDB + CRC_SIZE then none
      else deserializeAndCheckLogCdb mem
    else none

/-- `recover_all`: the CDB of region 0 decides the active metadata of all the regions. -/
def recoverAll (mems : List (List UInt8)) (multilog_id : U128) : Option AbstractMultiLogState :=
  if mems.length < 1 ∨ mems.length > U32_MAX then none
  else
    match recoverCdb spec_crc (mems.getD 0 []) with
    | some cdb => recoverGivenCdb spec_crc mems multilog_id cdb
    | none => none

/-! ## When a region recovers -/

/-- What recovery reads of a region besides its log area: its length, and each metadata
record and CRC decoded, the log metadata being the copy that the CDB makes active. -/
structure RegionView where
  len : Nat
  global_metadata : GlobalMetadata
  global_crc : U64
  region_metadata : RegionMetadata
  region_crc : U64
  log_metadata : LogMetadata
  log_crc : U64

def regionView (mem : List UInt8) (cdb : Bool) : RegionView :=
  ⟨mem.length, deserializeGlobalMetadata mem, deserializeGlobalCrc mem,
    deserializeRegionMetadata mem, deserializeRegionCrc mem, deserializeLogMetadata mem cdb,
    deserializeLogCrc mem cdb⟩

/-- The checks of `recover_abstract_log_from_region_given_cdb`, each one passed. -/
structure RegionView.Valid (v : RegionView) (multilog_id : U128) (num_logs which_log : Nat) :
    Prop where
  size : ABSOLUTE_POS_OF_LOG_AREA + MIN_LOG_AREA_SIZE ≤ v.len
  global_crc : v.global_crc = spec_crc v.global_metadata
  program_guid : v.global_metadata.program_guid = MULTILOG_PROGRAM_GUID
  version_number : v.global_metadata.version_number = 1
  length_of_region_metadata :
    v.global_metadata.length_of_region_metadata.toNat = LENGTH_OF_REGION_METADATA
  region_crc : v.region_crc = spec_crc v.region_metadata
  region_size : v.region_metadata.region_size.toNat = v.len
  multilog_id : v.region_metadata.multilog_id = multilog_id
  num_logs : v.region_metadata.num_logs.toNat = num_logs
  which_log : v.region_metadata.which_log.toNat = which_log
  log_area_len : MIN_LOG_AREA_SIZE ≤ v.region_metadata.log_area_len.toNat
  log_area : ABSOLUTE_POS_OF_LOG_AREA + v.region_metadata.log_area_len.toNat ≤ v.len
  log_crc : v.log_crc = spec_crc v.log_metadata
  log_length : v.log_metadata.log_length.toNat ≤ v.region_metadata.log_area_len.toNat
  head : v.log_metadata.head.toNat + v.log_metadata.log_length.toNat ≤ U128_MAX

/-- Region `which_log` of `num_logs` passes every check under `cdb`. -/
def RegionValid (mem : List UInt8) (multilog_id : U128) (num_logs which_log : Nat) (cdb : Bool) :
    Prop :=
  (regionView mem cdb).Valid spec_crc multilog_id num_logs which_log

/-- The state that a region holds under `cdb`: the active log metadata, and the log read
through it. -/
def regionState (mem : List UInt8) (cdb : Bool) : AbstractLogState :=
  let lola := (deserializeRegionMetadata mem).log_area_len.toNat
  let log_metadata := deserializeLogMetadata mem cdb
  ⟨log_metadata.head.toNat, extractLog mem lola log_metadata.head.toNat log_metadata.log_length.toNat,
    [], lola⟩

theorem recoverAbstractLogFromRegionGivenCdb_eq_some {mem : List UInt8} {multilog_id : U128}
    {num_logs which_log : Nat} {cdb : Bool} {s : AbstractLogState} :
    recoverAbstractLogFromRegionGivenCdb spec_crc mem multilog_id num_logs which_log cdb = some s ↔
      RegionValid spec_crc mem multilog_id num_logs which_log cdb ∧ s = regionState mem cdb := by
  unfold recoverAbstractLogFromRegionGivenCdb RegionValid
  simp only [Option.ite_none_left_eq_some, Option.ite_none_right_eq_some, ne_eq, not_not, not_or,
    not_lt, recoverAbstractLogFromRegionGivenMetadata_eq_some]
  constructor
  · rintro ⟨h1, h2, h3, h4, h5, h6, ⟨h71, h72, h73, h74, h75, h76⟩, h8, hl, hh, rfl⟩
    exact ⟨⟨h1, h2, h3, h4, h5, h6, h71, h72, h73, h74, h75, h76, h8, hl, hh⟩, rfl⟩
  · rintro ⟨hv, rfl⟩
    exact ⟨hv.size, hv.global_crc, hv.program_guid, hv.version_number,
      hv.length_of_region_metadata, hv.region_crc, ⟨hv.region_size, hv.multilog_id, hv.num_logs,
      hv.which_log, hv.log_area_len, hv.log_area⟩, hv.log_crc, hv.log_length, hv.head, rfl⟩

theorem reduceOption_map_some {α : Type} (l : List α) : (l.map some).reduceOption = l := by
  induction l with
  | nil => rfl
  | cons a l ih => rw [List.map_cons, List.reduceOption_cons_of_some, ih]

/-- Every region recovers to its state under `cdb`, when each passes the checks. -/
theorem mapIdx_recoverAbstractLogFromRegionGivenCdb {mems : List (List UInt8)}
    {multilog_id : U128} {cdb : Bool}
    (h : ∀ i mem, mems[i]? = some mem →
      RegionValid spec_crc mem multilog_id mems.length i cdb) :
    mems.mapIdx (fun idx c =>
        recoverAbstractLogFromRegionGivenCdb spec_crc c multilog_id mems.length idx cdb) =
      (mems.map (regionState · cdb)).map some := by
  refine List.mapIdx_eq_iff.2 fun i => ?_
  rcases hm : mems[i]? with _ | mem
  · simp [hm]
  · simp only [List.getElem?_map, hm, Option.map_some']
    exact congrArg some
      (recoverAbstractLogFromRegionGivenCdb_eq_some spec_crc |>.2 ⟨h i mem hm, rfl⟩).symm

/-- `recover_given_cdb` succeeds exactly when every region passes its checks under `cdb`, and
then each region recovers to its state under `cdb`. -/
theorem recoverGivenCdb_eq_some {mems : List (List UInt8)} {multilog_id : U128} {cdb : Bool}
    {A : AbstractMultiLogState} :
    recoverGivenCdb spec_crc mems multilog_id cdb = some A ↔
      (∀ i mem, mems[i]? = some mem → RegionValid spec_crc mem multilog_id mems.length i cdb) ∧
        A = ⟨mems.map (regionState · cdb)⟩ := by
  unfold recoverGivenCdb
  dsimp only
  split
  · next hall =>
    have hv : ∀ i mem, mems[i]? = some mem →
        RegionValid spec_crc mem multilog_id mems.length i cdb := by
      intro i mem hm
      have hmem := hall _ (List.mem_iff_getElem?.2 ⟨i, by rw [List.getElem?_mapIdx, hm]; rfl⟩)
      obtain ⟨s, hs⟩ := Option.isSome_iff_exists.1 hmem
      exact ((recoverAbstractLogFromRegionGivenCdb_eq_some spec_crc).1 hs).1
    rw [mapIdx_recoverAbstractLogFromRegionGivenCdb spec_crc hv, reduceOption_map_some,
      Option.some.injEq]
    exact ⟨fun h => ⟨hv, h.symm⟩, fun h => h.2.symm⟩
  · next hall =>
    simp only [reduceCtorEq, false_iff, not_and]
    intro hv
    rw [mapIdx_recoverAbstractLogFromRegionGivenCdb spec_crc hv] at hall
    exact absurd (fun o ho => by obtain ⟨_, _, rfl⟩ := List.mem_map.1 ho; rfl) hall

/-- The checks of `recover_cdb` before it reads the CDB. -/
structure CdbReadable (mem : List UInt8) : Prop where
  size : ABSOLUTE_POS_OF_LOG_CDB + CRC_SIZE ≤ mem.length
  global_crc : deserializeGlobalCrc mem = spec_crc (deserializeGlobalMetadata mem)
  program_guid : (deserializeGlobalMetadata mem).program_guid = MULTILOG_PROGRAM_GUID
  version_number : (deserializeGlobalMetadata mem).version_number = 1

/-- The value that encodes the boolean `cdb`. -/
def cdbValue (cdb : Bool) : U64 := if cdb then CDB_TRUE else CDB_FALSE

theorem deserializeAndCheckLogCdb_eq_some {mem : List UInt8} {cdb : Bool} :
    deserializeAndCheckLogCdb mem = some cdb ↔ deserializeLogCdb mem = cdbValue cdb := by
  unfold deserializeAndCheckLogCdb cdbValue
  dsimp only
  have hne : CDB_FALSE ≠ CDB_TRUE := by decide
  cases cdb <;> split_ifs <;> simp_all [Ne.symm hne]

theorem recoverCdb_eq_some {mem : List UInt8} {cdb : Bool} :
    recoverCdb spec_crc mem = some cdb ↔
      CdbReadable spec_crc mem ∧ deserializeLogCdb mem = cdbValue cdb := by
  unfold recoverCdb
  simp only [Option.ite_none_left_eq_some, Option.ite_none_right_eq_some, ne_eq, not_not, not_lt,
    deserializeAndCheckLogCdb_eq_some]
  constructor
  · rintro ⟨-, h2, h3, h4, h5, hc⟩
    exact ⟨⟨h5, h2, h3, h4⟩, hc⟩
  · rintro ⟨hr, hc⟩
    exact ⟨le_trans (by decide) hr.size, hr.global_crc, hr.program_guid, hr.version_number,
      hr.size, hc⟩

theorem recoverAll_eq_some {mems : List (List UInt8)} {multilog_id : U128}
    {A : AbstractMultiLogState} :
    recoverAll spec_crc mems multilog_id = some A ↔
      1 ≤ mems.length ∧ mems.length ≤ U32_MAX ∧
        ∃ cdb, recoverCdb spec_crc (mems.getD 0 []) = some cdb ∧
          recoverGivenCdb spec_crc mems multilog_id cdb = some A := by
  unfold recoverAll
  split
  · simp only [reduceCtorEq, false_iff]
    omega
  · next h =>
    have h1 : 1 ≤ mems.length ∧ mems.length ≤ U32_MAX := by omega
    simp only [h1, true_and]
    split <;> simp_all

/-- A multilog that recovers has every region valid under one CDB, and recovers to their
states under it. -/
theorem exists_cdb_of_recoverAll_eq_some {mems : List (List UInt8)} {multilog_id : U128}
    {A : AbstractMultiLogState} (h : recoverAll spec_crc mems multilog_id = some A) :
    ∃ cdb, (∀ i mem, mems[i]? = some mem →
        RegionValid spec_crc mem multilog_id mems.length i cdb) ∧
      A = ⟨mems.map (regionState · cdb)⟩ := by
  obtain ⟨-, -, cdb, -, hg⟩ := (recoverAll_eq_some spec_crc).1 h
  exact ⟨cdb, (recoverGivenCdb_eq_some spec_crc).1 hg⟩

/-- What a valid region recovers to has nothing pending and meets the invariant of §3. -/
theorem RegionValid.regionState_inv {mem : List UInt8} {multilog_id : U128}
    {num_logs which_log : Nat} {cdb : Bool}
    (hv : RegionValid spec_crc mem multilog_id num_logs which_log cdb) :
    (regionState mem cdb).Inv ∧ (regionState mem cdb).pending = [] := by
  refine ⟨⟨?_, ?_⟩, rfl⟩ <;> simp only [regionState, length_extractLog, List.length_nil, Nat.add_zero]
  · exact hv.log_length
  · exact hv.head

/-- `lemma_recover_all_successful_implies_region_sizes_sufficient`: every region of a multilog
that recovers holds its metadata and a log area of at least `MIN_LOG_AREA_SIZE` bytes. -/
theorem recovered_regions_hold_a_log_area {mems : List (List UInt8)} {multilog_id : U128}
    (h : (recoverAll spec_crc mems multilog_id).isSome = true) :
    ∀ (i : Nat) (mem : List UInt8), mems[i]? = some mem →
      ABSOLUTE_POS_OF_LOG_AREA + MIN_LOG_AREA_SIZE ≤ mem.length := by
  obtain ⟨A, hA⟩ := Option.isSome_iff_exists.1 h
  obtain ⟨cdb, hv, -⟩ := exists_cdb_of_recoverAll_eq_some spec_crc hA
  exact fun i mem hm => (hv i mem hm).size

/-- `lemma_recovered_state_is_crash_idempotent`: a recovered multilog has one log per region,
each meeting the invariant of §3 with nothing pending, so a crash, which drops the pending
appends, leaves it as it is. -/
theorem recovered_state_is_crash_idempotent {mems : List (List UInt8)} {multilog_id : U128}
    {A : AbstractMultiLogState} (h : recoverAll spec_crc mems multilog_id = some A) :
    A.states.length = mems.length ∧ (∀ s ∈ A.states, s.Inv ∧ s.pending = []) ∧
      A.dropPendingAppends = A := by
  obtain ⟨cdb, hv, rfl⟩ := exists_cdb_of_recoverAll_eq_some spec_crc h
  refine ⟨List.length_map _ _, fun s hs => ?_, ?_⟩
  · obtain ⟨mem, hmem, rfl⟩ := List.mem_map.1 hs
    obtain ⟨i, hi⟩ := List.mem_iff_getElem?.1 hmem
    exact (hv i mem hi).regionState_inv spec_crc
  · simp only [AbstractMultiLogState.dropPendingAppends, List.map_map]
    rfl

/-- A valid region names its multilog, its own index and the number of regions, whatever the
CDB. -/
theorem RegionValid.place {mem : List UInt8} {multilog_id : U128} {num_logs which_log : Nat}
    {cdb : Bool} (hv : RegionValid spec_crc mem multilog_id num_logs which_log cdb) :
    (deserializeRegionMetadata mem).multilog_id = multilog_id ∧
      (deserializeRegionMetadata mem).which_log.toNat = which_log ∧
      (deserializeRegionMetadata mem).num_logs.toNat = num_logs :=
  ⟨hv.multilog_id, hv.which_log, hv.num_logs⟩

/-- Recovery pins each region to its place. A region recovers in one multilog only, at one index
and among one number of regions, whatever the CDB, since its own metadata names all three. So of
two lists of regions that recover, a region they share belongs to the same multilog and sits at
the same index of lists of the same length; and of the reorderings of a list that recovers, only
the list itself recovers. -/
theorem recovery_pins_each_region_to_its_place {mems mems' : List (List UInt8)}
    {multilog_id multilog_id' : U128} {A A' : AbstractMultiLogState}
    (h : recoverAll spec_crc mems multilog_id = some A)
    (h' : recoverAll spec_crc mems' multilog_id' = some A') :
    (∀ (i j : Nat) (mem : List UInt8), mems[i]? = some mem → mems'[j]? = some mem →
      multilog_id = multilog_id' ∧ i = j ∧ mems.length = mems'.length) ∧
    (mems'.Perm mems → mems' = mems) := by
  obtain ⟨cdb, hv, -⟩ := exists_cdb_of_recoverAll_eq_some spec_crc h
  obtain ⟨cdb', hv', -⟩ := exists_cdb_of_recoverAll_eq_some spec_crc h'
  have hpin : ∀ (i j : Nat) (mem : List UInt8), mems[i]? = some mem → mems'[j]? = some mem →
      multilog_id = multilog_id' ∧ i = j ∧ mems.length = mems'.length := fun i j mem hi hj =>
    have hp := (hv i mem hi).place spec_crc
    have hp' := (hv' j mem hj).place spec_crc
    ⟨hp.1.symm.trans hp'.1, hp.2.1.symm.trans hp'.2.1, hp.2.2.symm.trans hp'.2.2⟩
  refine ⟨hpin, fun hperm => List.ext_getElem? fun n => ?_⟩
  cases hn : mems'[n]? with
  | none =>
    rw [List.getElem?_eq_none_iff, hperm.length_eq] at hn
    exact (List.getElem?_eq_none_iff.2 hn).symm
  | some mem =>
    obtain ⟨i, hi⟩ := List.mem_iff_getElem?.1 (hperm.subset (List.getElem?_mem hn))
    rw [← (hpin i n mem hi hn).2.1, hi]

end Recovery

/-! ## A sample multilog -/

/-- Region `which_log` of a two-region multilog with CDB false whose two-byte log areas hold the
log `[7]`, every CRC taken to be 0; the recovery results hold for every `spec_crc`, so this one
serves to run them. -/
def sampleRegion (which_log : U32) : List UInt8 :=
  GlobalMetadata.specSerialize ⟨1, 48, MULTILOG_PROGRAM_GUID⟩ ++ specU64ToLeBytes 0 ++
    RegionMetadata.specSerialize ⟨2, which_log, 0, 258, 2, 0⟩ ++ specU64ToLeBytes 0 ++
    specU64ToLeBytes CDB_FALSE ++ LogMetadata.specSerialize ⟨1, 0, 0⟩ ++ specU64ToLeBytes 0 ++
    List.replicate 112 0 ++ [7, 0]

set_option maxRecDepth 10000 in
theorem recoverAll_sample : recoverAll (fun _ => 0) [sampleRegion 0, sampleRegion 1] 0 =
    some ⟨[⟨0, [7], [], 2⟩, ⟨0, [7], [], 2⟩]⟩ := rfl

/-- The sample multilog against itself: its two regions sit at their own indexes. -/
theorem recovery_pins_each_region_to_its_place_on_the_sample :
    recoverAll (fun _ => 0) [sampleRegion 0, sampleRegion 1] 0 =
      some ⟨[⟨0, [7], [], 2⟩, ⟨0, [7], [], 2⟩]⟩ ∧
    (∀ (i j : Nat) (mem : List UInt8), [sampleRegion 0, sampleRegion 1][i]? = some mem →
      [sampleRegion 0, sampleRegion 1][j]? = some mem → (0 : U128) = 0 ∧ i = j ∧ 2 = 2) ∧
    ([sampleRegion 0, sampleRegion 1].Perm [sampleRegion 0, sampleRegion 1] →
      [sampleRegion 0, sampleRegion 1] = [sampleRegion 0, sampleRegion 1]) :=
  ⟨recoverAll_sample,
    recovery_pins_each_region_to_its_place (fun _ => 0) recoverAll_sample recoverAll_sample⟩

end verified_storage.multilog
