-- The constants and the three metadata records of the multilog layout (`layout_v.rs`),
-- with their little-endian serializations. Each serialization is exact: it has the
-- record's length, each field sits at its `RELATIVE_POS_*` offset, and both round trips hold.
import VerifiedStorage.PmemSpec

namespace verified_storage.multilog

open verified_storage

/-! ## Constants -/

def ABSOLUTE_POS_OF_GLOBAL_METADATA : Nat := 0
def RELATIVE_POS_OF_GLOBAL_VERSION_NUMBER : Nat := 0
def RELATIVE_POS_OF_GLOBAL_LENGTH_OF_REGION_METADATA : Nat := 8
def RELATIVE_POS_OF_GLOBAL_PROGRAM_GUID : Nat := 16
def LENGTH_OF_GLOBAL_METADATA : Nat := 32
def ABSOLUTE_POS_OF_GLOBAL_CRC : Nat := 32

def ABSOLUTE_POS_OF_REGION_METADATA : Nat := 40
def RELATIVE_POS_OF_REGION_NUM_LOGS : Nat := 0
def RELATIVE_POS_OF_REGION_WHICH_LOG : Nat := 4
def RELATIVE_POS_OF_REGION_PADDING : Nat := 8
def RELATIVE_POS_OF_REGION_REGION_SIZE : Nat := 16
def RELATIVE_POS_OF_REGION_LENGTH_OF_LOG_AREA : Nat := 24
def RELATIVE_POS_OF_REGION_MULTILOG_ID : Nat := 32
def LENGTH_OF_REGION_METADATA : Nat := 48
def ABSOLUTE_POS_OF_REGION_CRC : Nat := 88

def ABSOLUTE_POS_OF_LOG_CDB : Nat := 96
def ABSOLUTE_POS_OF_LOG_METADATA_FOR_CDB_FALSE : Nat := 104
def ABSOLUTE_POS_OF_LOG_METADATA_FOR_CDB_TRUE : Nat := 144
def RELATIVE_POS_OF_LOG_LOG_LENGTH : Nat := 0
def RELATIVE_POS_OF_LOG_PADDING : Nat := 8
def RELATIVE_POS_OF_LOG_HEAD : Nat := 16
def LENGTH_OF_LOG_METADATA : Nat := 32
def ABSOLUTE_POS_OF_LOG_CRC_FOR_CDB_FALSE : Nat := 136
def ABSOLUTE_POS_OF_LOG_CRC_FOR_CDB_TRUE : Nat := 176
def ABSOLUTE_POS_OF_LOG_AREA : Nat := 256
def MIN_LOG_AREA_SIZE : Nat := 1

/-- The GUID of the multilog program, for all its versions. -/
def MULTILOG_PROGRAM_GUID : U128 := 0x21b8b4b3c7d140a9abf7e80c07b7f01f

/-- The only version whose contents this program can read. -/
def MULTILOG_PROGRAM_VERSION_NUMBER : U64 := 1

/-! ## The records -/

structure GlobalMetadata where
  version_number : U64
  length_of_region_metadata : U64
  program_guid : U128
  deriving DecidableEq, Repr

structure RegionMetadata where
  num_logs : U32
  which_log : U32
  _padding : U64
  region_size : U64
  log_area_len : U64
  multilog_id : U128
  deriving DecidableEq, Repr

structure LogMetadata where
  log_length : U64
  _padding : U64
  head : U128
  deriving DecidableEq, Repr

def GlobalMetadata.specSerialize (self : GlobalMetadata) : List UInt8 :=
  specU64ToLeBytes self.version_number ++ specU64ToLeBytes self.length_of_region_metadata ++
    specU128ToLeBytes self.program_guid

def GlobalMetadata.specDeserialize (bytes : List UInt8) : GlobalMetadata where
  version_number := specU64FromLeBytes (extractBytes bytes RELATIVE_POS_OF_GLOBAL_VERSION_NUMBER 8)
  length_of_region_metadata :=
    specU64FromLeBytes (extractBytes bytes RELATIVE_POS_OF_GLOBAL_LENGTH_OF_REGION_METADATA 8)
  program_guid := specU128FromLeBytes (extractBytes bytes RELATIVE_POS_OF_GLOBAL_PROGRAM_GUID 16)

def RegionMetadata.specSerialize (self : RegionMetadata) : List UInt8 :=
  specU32ToLeBytes self.num_logs ++ specU32ToLeBytes self.which_log ++
    specU64ToLeBytes self._padding ++ specU64ToLeBytes self.region_size ++
    specU64ToLeBytes self.log_area_len ++ specU128ToLeBytes self.multilog_id

def RegionMetadata.specDeserialize (bytes : List UInt8) : RegionMetadata where
  num_logs := specU32FromLeBytes (extractBytes bytes RELATIVE_POS_OF_REGION_NUM_LOGS 4)
  which_log := specU32FromLeBytes (extractBytes bytes RELATIVE_POS_OF_REGION_WHICH_LOG 4)
  _padding := specU64FromLeBytes (extractBytes bytes RELATIVE_POS_OF_REGION_PADDING 8)
  region_size := specU64FromLeBytes (extractBytes bytes RELATIVE_POS_OF_REGION_REGION_SIZE 8)
  log_area_len := specU64FromLeBytes (extractBytes bytes RELATIVE_POS_OF_REGION_LENGTH_OF_LOG_AREA 8)
  multilog_id := specU128FromLeBytes (extractBytes bytes RELATIVE_POS_OF_REGION_MULTILOG_ID 16)

def LogMetadata.specSerialize (self : LogMetadata) : List UInt8 :=
  specU64ToLeBytes self.log_length ++ specU64ToLeBytes self._padding ++
    specU128ToLeBytes self.head

def LogMetadata.specDeserialize (bytes : List UInt8) : LogMetadata where
  log_length := specU64FromLeBytes (extractBytes bytes RELATIVE_POS_OF_LOG_LOG_LENGTH 8)
  _padding := specU64FromLeBytes (extractBytes bytes RELATIVE_POS_OF_LOG_PADDING 8)
  head := specU128FromLeBytes (extractBytes bytes RELATIVE_POS_OF_LOG_HEAD 16)

instance : Serializable GlobalMetadata :=
  ⟨GlobalMetadata.specSerialize, GlobalMetadata.specDeserialize, LENGTH_OF_GLOBAL_METADATA⟩

instance : Serializable RegionMetadata :=
  ⟨RegionMetadata.specSerialize, RegionMetadata.specDeserialize, LENGTH_OF_REGION_METADATA⟩

instance : Serializable LogMetadata :=
  ⟨LogMetadata.specSerialize, LogMetadata.specDeserialize, LENGTH_OF_LOG_METADATA⟩

/-! ## The parsers

`layout_v.rs` also has parsers of the three records, which nothing in it calls. -/

/-- `parse_u32`: the `u32` encoded at `pos`. -/
def parseU32 (bytes : List UInt8) (pos : Nat) : U32 := specU32FromLeBytes (extractBytes bytes pos 4)

/-- `parse_u64`: the `u64` encoded at `pos`. -/
def parseU64 (bytes : List UInt8) (pos : Nat) : U64 := specU64FromLeBytes (extractBytes bytes pos 8)

/-- `parse_u128`: the `u128` encoded at `pos`. -/
def parseU128 (bytes : List UInt8) (pos : Nat) : U128 :=
  specU128FromLeBytes (extractBytes bytes pos 16)

/-- `parse_global_metadata`. -/
def parseGlobalMetadata (bytes : List UInt8) : GlobalMetadata where
  program_guid := parseU128 bytes RELATIVE_POS_OF_GLOBAL_PROGRAM_GUID
  version_number := parseU64 bytes RELATIVE_POS_OF_GLOBAL_VERSION_NUMBER
  length_of_region_metadata := parseU64 bytes RELATIVE_POS_OF_GLOBAL_LENGTH_OF_REGION_METADATA

/-- `parse_region_metadata`: the padding is not read but set to 0. -/
def parseRegionMetadata (bytes : List UInt8) : RegionMetadata where
  region_size := parseU64 bytes RELATIVE_POS_OF_REGION_REGION_SIZE
  multilog_id := parseU128 bytes RELATIVE_POS_OF_REGION_MULTILOG_ID
  _padding := 0
  num_logs := parseU32 bytes RELATIVE_POS_OF_REGION_NUM_LOGS
  which_log := parseU32 bytes RELATIVE_POS_OF_REGION_WHICH_LOG
  log_area_len := parseU64 bytes RELATIVE_POS_OF_REGION_LENGTH_OF_LOG_AREA

/-- `parse_log_metadata`: the padding is not read but set to 0. -/
def parseLogMetadata (bytes : List UInt8) : LogMetadata where
  head := parseU128 bytes RELATIVE_POS_OF_LOG_HEAD
  _padding := 0
  log_length := parseU64 bytes RELATIVE_POS_OF_LOG_LOG_LENGTH

/-! ## Where each field sits -/

theorem GlobalMetadata.extractBytes_specSerialize (g : GlobalMetadata) :
    extractBytes g.specSerialize RELATIVE_POS_OF_GLOBAL_VERSION_NUMBER 8 =
        specU64ToLeBytes g.version_number ∧
      extractBytes g.specSerialize RELATIVE_POS_OF_GLOBAL_LENGTH_OF_REGION_METADATA 8 =
        specU64ToLeBytes g.length_of_region_metadata ∧
      extractBytes g.specSerialize RELATIVE_POS_OF_GLOBAL_PROGRAM_GUID 16 =
        specU128ToLeBytes g.program_guid := by
  simp [extractBytes, GlobalMetadata.specSerialize, RELATIVE_POS_OF_GLOBAL_VERSION_NUMBER,
    RELATIVE_POS_OF_GLOBAL_LENGTH_OF_REGION_METADATA, RELATIVE_POS_OF_GLOBAL_PROGRAM_GUID,
    List.drop_append_eq_append_drop, List.take_append_eq_append_take, List.drop_eq_nil_of_le,
    List.take_of_length_le]

theorem RegionMetadata.extractBytes_specSerialize (r : RegionMetadata) :
    extractBytes r.specSerialize RELATIVE_POS_OF_REGION_NUM_LOGS 4 = specU32ToLeBytes r.num_logs ∧
      extractBytes r.specSerialize RELATIVE_POS_OF_REGION_WHICH_LOG 4 =
        specU32ToLeBytes r.which_log ∧
      extractBytes r.specSerialize RELATIVE_POS_OF_REGION_PADDING 8 = specU64ToLeBytes r._padding ∧
      extractBytes r.specSerialize RELATIVE_POS_OF_REGION_REGION_SIZE 8 =
        specU64ToLeBytes r.region_size ∧
      extractBytes r.specSerialize RELATIVE_POS_OF_REGION_LENGTH_OF_LOG_AREA 8 =
        specU64ToLeBytes r.log_area_len ∧
      extractBytes r.specSerialize RELATIVE_POS_OF_REGION_MULTILOG_ID 16 =
        specU128ToLeBytes r.multilog_id := by
  simp [extractBytes, RegionMetadata.specSerialize, RELATIVE_POS_OF_REGION_NUM_LOGS,
    RELATIVE_POS_OF_REGION_WHICH_LOG, RELATIVE_POS_OF_REGION_PADDING,
    RELATIVE_POS_OF_REGION_REGION_SIZE, RELATIVE_POS_OF_REGION_LENGTH_OF_LOG_AREA,
    RELATIVE_POS_OF_REGION_MULTILOG_ID, List.drop_append_eq_append_drop,
    List.take_append_eq_append_take, List.drop_eq_nil_of_le, List.take_of_length_le]

theorem LogMetadata.extractBytes_specSerialize (m : LogMetadata) :
    extractBytes m.specSerialize RELATIVE_POS_OF_LOG_LOG_LENGTH 8 = specU64ToLeBytes m.log_length ∧
      extractBytes m.specSerialize RELATIVE_POS_OF_LOG_PADDING 8 = specU64ToLeBytes m._padding ∧
      extractBytes m.specSerialize RELATIVE_POS_OF_LOG_HEAD 16 = specU128ToLeBytes m.head := by
  simp [extractBytes, LogMetadata.specSerialize, RELATIVE_POS_OF_LOG_LOG_LENGTH,
    RELATIVE_POS_OF_LOG_PADDING, RELATIVE_POS_OF_LOG_HEAD, List.drop_append_eq_append_drop,
    List.take_append_eq_append_take, List.drop_eq_nil_of_le, List.take_of_length_le]

/-! ## The round trips -/

@[simp] theorem GlobalMetadata.specDeserialize_specSerialize (g : GlobalMetadata) :
    GlobalMetadata.specDeserialize g.specSerialize = g := by
  obtain ⟨h1, h2, h3⟩ := g.extractBytes_specSerialize
  simp only [GlobalMetadata.specDeserialize, h1, h2, h3, specU64FromLeBytes_specU64ToLeBytes,
    specU128FromLeBytes_specU128ToLeBytes]

@[simp] theorem RegionMetadata.specDeserialize_specSerialize (r : RegionMetadata) :
    RegionMetadata.specDeserialize r.specSerialize = r := by
  obtain ⟨h1, h2, h3, h4, h5, h6⟩ := r.extractBytes_specSerialize
  simp only [RegionMetadata.specDeserialize, h1, h2, h3, h4, h5, h6,
    specU32FromLeBytes_specU32ToLeBytes, specU64FromLeBytes_specU64ToLeBytes,
    specU128FromLeBytes_specU128ToLeBytes]

@[simp] theorem LogMetadata.specDeserialize_specSerialize (m : LogMetadata) :
    LogMetadata.specDeserialize m.specSerialize = m := by
  obtain ⟨h1, h2, h3⟩ := m.extractBytes_specSerialize
  simp only [LogMetadata.specDeserialize, h1, h2, h3, specU64FromLeBytes_specU64ToLeBytes,
    specU128FromLeBytes_specU128ToLeBytes]

@[simp] theorem GlobalMetadata.length_specSerialize (g : GlobalMetadata) :
    g.specSerialize.length = LENGTH_OF_GLOBAL_METADATA := by
  simp [GlobalMetadata.specSerialize, LENGTH_OF_GLOBAL_METADATA]

@[simp] theorem RegionMetadata.length_specSerialize (r : RegionMetadata) :
    r.specSerialize.length = LENGTH_OF_REGION_METADATA := by
  simp [RegionMetadata.specSerialize, LENGTH_OF_REGION_METADATA]

@[simp] theorem LogMetadata.length_specSerialize (m : LogMetadata) :
    m.specSerialize.length = LENGTH_OF_LOG_METADATA := by
  simp [LogMetadata.specSerialize, LENGTH_OF_LOG_METADATA]

theorem GlobalMetadata.specSerialize_specDeserialize {s : List UInt8}
    (hs : s.length = LENGTH_OF_GLOBAL_METADATA) :
    (GlobalMetadata.specDeserialize s).specSerialize = s := by
  have hlen : s.length = 32 := hs
  have hl (p n : Nat) (h : p + n ≤ 32) : (extractBytes s p n).length = n :=
    length_extractBytes (by omega)
  simp only [GlobalMetadata.specSerialize, GlobalMetadata.specDeserialize,
    RELATIVE_POS_OF_GLOBAL_VERSION_NUMBER, RELATIVE_POS_OF_GLOBAL_LENGTH_OF_REGION_METADATA,
    RELATIVE_POS_OF_GLOBAL_PROGRAM_GUID]
  rw [specU64ToLeBytes_specU64FromLeBytes (hl 0 8 (by decide)),
    specU64ToLeBytes_specU64FromLeBytes (hl 8 8 (by decide)),
    specU128ToLeBytes_specU128FromLeBytes (hl 16 16 (by decide)),
    extractBytes_append_extractBytes s 8 rfl, extractBytes_append_extractBytes s 16 rfl]
  simpa only [hlen] using extractBytes_zero_length s

theorem RegionMetadata.specSerialize_specDeserialize {s : List UInt8}
    (hs : s.length = LENGTH_OF_REGION_METADATA) :
    (RegionMetadata.specDeserialize s).specSerialize = s := by
  have hlen : s.length = 48 := hs
  have hl (p n : Nat) (h : p + n ≤ 48) : (extractBytes s p n).length = n :=
    length_extractBytes (by omega)
  simp only [RegionMetadata.specSerialize, RegionMetadata.specDeserialize,
    RELATIVE_POS_OF_REGION_NUM_LOGS, RELATIVE_POS_OF_REGION_WHICH_LOG,
    RELATIVE_POS_OF_REGION_PADDING, RELATIVE_POS_OF_REGION_REGION_SIZE,
    RELATIVE_POS_OF_REGION_LENGTH_OF_LOG_AREA, RELATIVE_POS_OF_REGION_MULTILOG_ID]
  rw [specU32ToLeBytes_specU32FromLeBytes (hl 0 4 (by decide)),
    specU32ToLeBytes_specU32FromLeBytes (hl 4 4 (by decide)),
    specU64ToLeBytes_specU64FromLeBytes (hl 8 8 (by decide)),
    specU64ToLeBytes_specU64FromLeBytes (hl 16 8 (by decide)),
    specU64ToLeBytes_specU64FromLeBytes (hl 24 8 (by decide)),
    specU128ToLeBytes_specU128FromLeBytes (hl 32 16 (by decide)),
    extractBytes_append_extractBytes s 4 rfl, extractBytes_append_extractBytes s 8 rfl,
    extractBytes_append_extractBytes s 8 rfl, extractBytes_append_extractBytes s 8 rfl,
    extractBytes_append_extractBytes s 16 rfl]
  simpa only [hlen] using extractBytes_zero_length s

theorem LogMetadata.specSerialize_specDeserialize {s : List UInt8}
    (hs : s.length = LENGTH_OF_LOG_METADATA) :
    (LogMetadata.specDeserialize s).specSerialize = s := by
  have hlen : s.length = 32 := hs
  have hl (p n : Nat) (h : p + n ≤ 32) : (extractBytes s p n).length = n :=
    length_extractBytes (by omega)
  simp only [LogMetadata.specSerialize, LogMetadata.specDeserialize,
    RELATIVE_POS_OF_LOG_LOG_LENGTH, RELATIVE_POS_OF_LOG_PADDING, RELATIVE_POS_OF_LOG_HEAD]
  rw [specU64ToLeBytes_specU64FromLeBytes (hl 0 8 (by decide)),
    specU64ToLeBytes_specU64FromLeBytes (hl 8 8 (by decide)),
    specU128ToLeBytes_specU128FromLeBytes (hl 16 16 (by decide)),
    extractBytes_append_extractBytes s 8 rfl, extractBytes_append_extractBytes s 16 rfl]
  simpa only [hlen] using extractBytes_zero_length s

/-- The serialization of `S` is a bijection onto the byte lists of its length: each value
decodes back to itself from an encoding of `spec_serialized_len` bytes, and each byte list of
that length is the encoding of its decoding. -/
def SerializationExact (S : Type) [Serializable S] : Prop :=
  (∀ x : S, specDeserialize (specSerialize x) = x ∧
      (specSerialize x).length = @specSerializedLen S _) ∧
    ∀ s : List UInt8, s.length = @specSerializedLen S _ → specSerialize (specDeserialize s : S) = s

/-- Layout exactness for the three records: 32, 48 and 32 bytes, both round trips, and every
field at its `RELATIVE_POS_*` offset. -/
theorem metadata_serialization_exact :
    SerializationExact GlobalMetadata ∧ SerializationExact RegionMetadata ∧
      SerializationExact LogMetadata ∧
      (@specSerializedLen GlobalMetadata _ = 32 ∧ @specSerializedLen RegionMetadata _ = 48 ∧
        @specSerializedLen LogMetadata _ = 32) ∧
      (∀ g : GlobalMetadata,
        extractBytes (specSerialize g) RELATIVE_POS_OF_GLOBAL_VERSION_NUMBER 8 =
            specU64ToLeBytes g.version_number ∧
          extractBytes (specSerialize g) RELATIVE_POS_OF_GLOBAL_LENGTH_OF_REGION_METADATA 8 =
            specU64ToLeBytes g.length_of_region_metadata ∧
          extractBytes (specSerialize g) RELATIVE_POS_OF_GLOBAL_PROGRAM_GUID 16 =
            specU128ToLeBytes g.program_guid) ∧
      (∀ r : RegionMetadata,
        extractBytes (specSerialize r) RELATIVE_POS_OF_REGION_NUM_LOGS 4 =
            specU32ToLeBytes r.num_logs ∧
          extractBytes (specSerialize r) RELATIVE_POS_OF_REGION_WHICH_LOG 4 =
            specU32ToLeBytes r.which_log ∧
          extractBytes (specSerialize r) RELATIVE_POS_OF_REGION_PADDING 8 =
            specU64ToLeBytes r._padding ∧
          extractBytes (specSerialize r) RELATIVE_POS_OF_REGION_REGION_SIZE 8 =
            specU64ToLeBytes r.region_size ∧
          extractBytes (specSerialize r) RELATIVE_POS_OF_REGION_LENGTH_OF_LOG_AREA 8 =
            specU64ToLeBytes r.log_area_len ∧
          extractBytes (specSerialize r) RELATIVE_POS_OF_REGION_MULTILOG_ID 16 =
            specU128ToLeBytes r.multilog_id) ∧
      (∀ m : LogMetadata,
        extractBytes (specSerialize m) RELATIVE_POS_OF_LOG_LOG_LENGTH 8 =
            specU64ToLeBytes m.log_length ∧
          extractBytes (specSerialize m) RELATIVE_POS_OF_LOG_PADDING 8 =
            specU64ToLeBytes m._padding ∧
          extractBytes (specSerialize m) RELATIVE_POS_OF_LOG_HEAD 16 = specU128ToLeBytes m.head) :=
  ⟨⟨fun g => ⟨g.specDeserialize_specSerialize, g.length_specSerialize⟩,
      fun _ => GlobalMetadata.specSerialize_specDeserialize⟩,
    ⟨fun r => ⟨r.specDeserialize_specSerialize, r.length_specSerialize⟩,
      fun _ => RegionMetadata.specSerialize_specDeserialize⟩,
    ⟨fun m => ⟨m.specDeserialize_specSerialize, m.length_specSerialize⟩,
      fun _ => LogMetadata.specSerialize_specDeserialize⟩,
    ⟨rfl, rfl, rfl⟩, GlobalMetadata.extractBytes_specSerialize,
    RegionMetadata.extractBytes_specSerialize, LogMetadata.extractBytes_specSerialize⟩

end verified_storage.multilog
