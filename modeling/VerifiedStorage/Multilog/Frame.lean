-- What recovery reads: of every region its first 96 bytes, the active log-metadata copy
-- with its CRC and the live bytes of the log, and of region 0 also the CDB. Contents that
-- agree there recover to the same state, so a tentative append, a write into the inactive
-- copy, or a write to the CDB of a region other than 0 is invisible to recovery.
import VerifiedStorage.Multilog.Recovery

namespace verified_storage.multilog

open verified_storage

/-! ## Agreeing on a range -/

/-- `mem'` holds the bytes of `mem` at every address of `[lo, hi)`. -/
def SameBytes (mem mem' : List UInt8) (lo hi : Nat) : Prop :=
  ∀ i, lo ≤ i → i < hi → mem'[i]? = mem[i]?

section SameBytes

variable {mem mem' : List UInt8} {lo hi : Nat}

theorem SameBytes.refl (mem : List UInt8) (lo hi : Nat) : SameBytes mem mem lo hi :=
  fun _ _ _ => rfl

theorem SameBytes.mono (h : SameBytes mem mem' lo hi) {lo' hi' : Nat} (hlo : lo ≤ lo')
    (hhi : hi' ≤ hi) : SameBytes mem mem' lo' hi' :=
  fun i h1 h2 => h i (by omega) (by omega)

theorem SameBytes.append {mid : Nat} (h₁ : SameBytes mem mem' lo mid)
    (h₂ : SameBytes mem mem' mid hi) : SameBytes mem mem' lo hi := fun i h1 h2 =>
  if hi' : i < mid then h₁ i h1 hi' else h₂ i (by omega) h2

theorem SameBytes.trans {mem'' : List UInt8} (h₁ : SameBytes mem mem' lo hi)
    (h₂ : SameBytes mem' mem'' lo hi) : SameBytes mem mem'' lo hi :=
  fun i h1 h2 => (h₂ i h1 h2).trans (h₁ i h1 h2)

/-- `extract_bytes` inside the range reads the same bytes. -/
theorem SameBytes.extractBytes_eq (h : SameBytes mem mem' lo hi) (pos len : Nat) (hpos : lo ≤ pos)
    (hlen : pos + len ≤ hi) : extractBytes mem' pos len = extractBytes mem pos len :=
  extractBytes_congr fun i h1 h2 => h i (by omega) (by omega)

/-- A write whose range misses `[lo, hi)` keeps those bytes. -/
theorem sameBytes_of_writeFrame {write : List UInt8 → Nat → List UInt8 → List UInt8}
    (hw : WriteFrame write) (mem : List UInt8) {addr : Nat} {bytes : List UInt8}
    (h : hi ≤ addr ∨ addr + bytes.length ≤ lo) : SameBytes mem (write mem addr bytes) lo hi :=
  fun i h1 h2 => hw.frame _ _ _ _ (by omega)

end SameBytes

/-! ## Decoding reads only its own range -/

section Decode

variable {mem mem' : List UInt8}

theorem deserializeGlobalMetadata_congr (h : SameBytes mem mem' 0 ABSOLUTE_POS_OF_LOG_CDB) :
    deserializeGlobalMetadata mem' = deserializeGlobalMetadata mem :=
  congrArg GlobalMetadata.specDeserialize <| h.extractBytes_eq ABSOLUTE_POS_OF_GLOBAL_METADATA
    LENGTH_OF_GLOBAL_METADATA (by decide) (by decide)

theorem deserializeGlobalCrc_congr (h : SameBytes mem mem' 0 ABSOLUTE_POS_OF_LOG_CDB) :
    deserializeGlobalCrc mem' = deserializeGlobalCrc mem :=
  congrArg specU64FromLeBytes <| h.extractBytes_eq ABSOLUTE_POS_OF_GLOBAL_CRC CRC_SIZE
    (by decide) (by decide)

theorem deserializeRegionMetadata_congr (h : SameBytes mem mem' 0 ABSOLUTE_POS_OF_LOG_CDB) :
    deserializeRegionMetadata mem' = deserializeRegionMetadata mem :=
  congrArg RegionMetadata.specDeserialize <| h.extractBytes_eq ABSOLUTE_POS_OF_REGION_METADATA
    LENGTH_OF_REGION_METADATA (by decide) (by decide)

theorem deserializeRegionCrc_congr (h : SameBytes mem mem' 0 ABSOLUTE_POS_OF_LOG_CDB) :
    deserializeRegionCrc mem' = deserializeRegionCrc mem :=
  congrArg specU64FromLeBytes <| h.extractBytes_eq ABSOLUTE_POS_OF_REGION_CRC CRC_SIZE
    (by decide) (by decide)

theorem deserializeLogCdb_congr
    (h : SameBytes mem mem' ABSOLUTE_POS_OF_LOG_CDB (ABSOLUTE_POS_OF_LOG_CDB + CRC_SIZE)) :
    deserializeLogCdb mem' = deserializeLogCdb mem :=
  congrArg specU64FromLeBytes <| h.extractBytes_eq _ _ le_rfl le_rfl

theorem getLogCrcPos_eq (cdb : Bool) :
    getLogCrcPos cdb = getLogMetadataPos cdb + LENGTH_OF_LOG_METADATA := by
  cases cdb <;> rfl

theorem deserializeLogMetadata_congr {cdb : Bool}
    (h : SameBytes mem mem' (getLogMetadataPos cdb) (getLogCrcEnd cdb)) :
    deserializeLogMetadata mem' cdb = deserializeLogMetadata mem cdb :=
  congrArg LogMetadata.specDeserialize <| h.extractBytes_eq _ _ le_rfl
    (by simp only [getLogCrcEnd]; omega)

theorem deserializeLogCrc_congr {cdb : Bool}
    (h : SameBytes mem mem' (getLogMetadataPos cdb) (getLogCrcEnd cdb)) :
    deserializeLogCrc mem' cdb = deserializeLogCrc mem cdb :=
  congrArg specU64FromLeBytes <| h.extractBytes_eq _ _ (by rw [getLogCrcPos_eq]; omega)
    (by rw [getLogCrcPos_eq, getLogCrcEnd])

/-- `extract_log` reads only the bytes at the offsets of the positions it reads. -/
theorem extractLog_congr {lola head len : Nat} (hlen : len ≤ lola)
    (h : ∀ r < len, mem'[ABSOLUTE_POS_OF_LOG_AREA + (head + r) % lola]? =
      mem[ABSOLUTE_POS_OF_LOG_AREA + (head + r) % lola]?) :
    extractLog mem' lola head len = extractLog mem lola head len := by
  apply List.ext_getElem?
  intro r
  rw [getElem?_extractLog_of_le r hlen, getElem?_extractLog_of_le r hlen]
  split
  · next hr => rw [List.getD_eq_getElem?_getD, List.getD_eq_getElem?_getD, h r hr]
  · rfl

end Decode

/-! ## The bytes that recovery reads -/

/-- The address of byte `r` of the log that a region holds under `cdb`. -/
def logByteAddr (mem : List UInt8) (cdb : Bool) (r : Nat) : Nat :=
  ABSOLUTE_POS_OF_LOG_AREA + ((deserializeLogMetadata mem cdb).head.toNat + r) %
    (deserializeRegionMetadata mem).log_area_len.toNat

/-- `mem'` agrees with `mem` on every byte that recovery of a region reads under `cdb` besides
the CDB: its length, the global and region metadata with their CRCs, the active log metadata
with its CRC, and the `log_length` bytes of the log. -/
structure SameLiveBytes (mem mem' : List UInt8) (cdb : Bool) : Prop where
  length : mem'.length = mem.length
  metadata : SameBytes mem mem' 0 ABSOLUTE_POS_OF_LOG_CDB
  log_metadata : SameBytes mem mem' (getLogMetadataPos cdb) (getLogCrcEnd cdb)
  log : ∀ r < (deserializeLogMetadata mem cdb).log_length.toNat,
    mem'[logByteAddr mem cdb r]? = mem[logByteAddr mem cdb r]?

section SameLiveBytes

variable {mem mem' : List UInt8} {cdb : Bool}

theorem SameLiveBytes.refl (mem : List UInt8) (cdb : Bool) : SameLiveBytes mem mem cdb :=
  ⟨rfl, SameBytes.refl _ _ _, SameBytes.refl _ _ _, fun _ _ => rfl⟩

theorem SameLiveBytes.trans {mem'' : List UInt8} (h₁ : SameLiveBytes mem mem' cdb)
    (h₂ : SameLiveBytes mem' mem'' cdb) : SameLiveBytes mem mem'' cdb where
  length := h₂.length.trans h₁.length
  metadata := h₁.metadata.trans h₂.metadata
  log_metadata := h₁.log_metadata.trans h₂.log_metadata
  log r hr := by
    have hl := deserializeLogMetadata_congr h₁.log_metadata
    have ha : logByteAddr mem' cdb r = logByteAddr mem cdb r := by
      simp only [logByteAddr, hl, deserializeRegionMetadata_congr h₁.metadata]
    rw [← ha, h₂.log r (by rw [hl]; exact hr), ha, h₁.log r hr]

theorem SameLiveBytes.regionView_eq (h : SameLiveBytes mem mem' cdb) :
    regionView mem' cdb = regionView mem cdb := by
  simp only [regionView, h.length, deserializeGlobalMetadata_congr h.metadata,
    deserializeGlobalCrc_congr h.metadata, deserializeRegionMetadata_congr h.metadata,
    deserializeRegionCrc_congr h.metadata, deserializeLogMetadata_congr h.log_metadata,
    deserializeLogCrc_congr h.log_metadata]

theorem SameLiveBytes.regionValid_iff (h : SameLiveBytes mem mem' cdb) {multilog_id : U128}
    {num_logs which_log : Nat} (spec_crc : SpecCrc) :
    RegionValid spec_crc mem' multilog_id num_logs which_log cdb ↔
      RegionValid spec_crc mem multilog_id num_logs which_log cdb := by
  rw [RegionValid, RegionValid, h.regionView_eq]

/-- With the log inside the log area, the region holds the same state. -/
theorem SameLiveBytes.regionState_eq (h : SameLiveBytes mem mem' cdb)
    (hlen : (deserializeLogMetadata mem cdb).log_length.toNat ≤
      (deserializeRegionMetadata mem).log_area_len.toNat) :
    regionState mem' cdb = regionState mem cdb := by
  simp only [regionState, deserializeRegionMetadata_congr h.metadata,
    deserializeLogMetadata_congr h.log_metadata, extractLog_congr hlen h.log]

theorem getLogMetadataPos_ge (cdb : Bool) :
    ABSOLUTE_POS_OF_LOG_CDB + CRC_SIZE ≤ getLogMetadataPos cdb := by
  cases cdb <;> decide

theorem getLogCrcEnd_le (cdb : Bool) : getLogCrcEnd cdb ≤ ABSOLUTE_POS_OF_LOG_AREA := by
  cases cdb <;> decide

/-- A range inside the inactive log-metadata copy misses the active one. -/
theorem disjoint_of_inactive {addr len : Nat} (hpos : getLogMetadataPos (!cdb) ≤ addr)
    (hend : addr + len ≤ getLogCrcEnd (!cdb)) :
    addr + len ≤ getLogMetadataPos cdb ∨ getLogCrcEnd cdb ≤ addr := by
  have h : getLogCrcEnd false ≤ getLogMetadataPos true := by decide
  cases cdb <;> simp only [Bool.not_false, Bool.not_true] at hpos hend <;> omega

/-- A write between the CDB and the log area that misses the active log metadata misses every
byte that recovery of the region reads. -/
theorem sameLiveBytes_of_writeFrame {write : List UInt8 → Nat → List UInt8 → List UInt8}
    (hw : WriteFrame write) (mem : List UInt8) {addr : Nat} {bytes : List UInt8}
    (hlo : ABSOLUTE_POS_OF_LOG_CDB ≤ addr)
    (hslot : addr + bytes.length ≤ getLogMetadataPos cdb ∨ getLogCrcEnd cdb ≤ addr)
    (hhi : addr + bytes.length ≤ ABSOLUTE_POS_OF_LOG_AREA) :
    SameLiveBytes mem (write mem addr bytes) cdb where
  length := hw.length _ _ _
  metadata := sameBytes_of_writeFrame hw mem (Or.inl hlo)
  log_metadata := sameBytes_of_writeFrame hw mem hslot.symm
  log _ _ := hw.frame _ _ _ _ (Or.inr (by unfold logByteAddr; omega))

section LogArea

variable {write₁ write₂ : List UInt8 → Nat → List UInt8 → List UInt8}

/-- The writes of a tentative append keep every byte before the log area. -/
theorem sameBytes_writeToLogArea (hw₁ : WriteFrame write₁) (hw₂ : WriteFrame write₂)
    (mem : List UInt8) (lola head k : Nat) (bytes : List UInt8) :
    SameBytes mem (writeToLogArea write₁ write₂ mem lola head k bytes) 0 ABSOLUTE_POS_OF_LOG_AREA :=
  fun _ _ hi => writeToLogArea_getElem?_of_lt_logArea hw₁ hw₂ hi

/-- A tentative append at or past the pending tail, up to the capacity, misses every byte that
recovery of the region reads. -/
theorem sameLiveBytes_writeToLogArea (hw₁ : WriteFrame write₁) (hw₂ : WriteFrame write₂)
    (mem : List UInt8) {k : Nat} {bytes : List UInt8}
    (hk : (deserializeLogMetadata mem cdb).log_length.toNat ≤ k)
    (hb : k + bytes.length ≤ (deserializeRegionMetadata mem).log_area_len.toNat) :
    SameLiveBytes mem (writeToLogArea write₁ write₂ mem
      (deserializeRegionMetadata mem).log_area_len.toNat (deserializeLogMetadata mem cdb).head.toNat
      k bytes) cdb where
  length := length_writeToLogArea hw₁ hw₂
  metadata := (sameBytes_writeToLogArea hw₁ hw₂ mem _ _ _ _).mono le_rfl (by decide)
  log_metadata := (sameBytes_writeToLogArea hw₁ hw₂ mem _ _ _ _).mono (Nat.zero_le _)
    (getLogCrcEnd_le cdb)
  log r hr := by
    rw [logByteAddr, ← relativeLogPosToLogAreaOffset_eq_mod _ _ _ (by omega)]
    exact writeToLogArea_getElem?_of_lt hw₁ hw₂ hb (by omega)

end LogArea

end SameLiveBytes

/-! ## Recovery of the whole multilog -/

section Recovery

variable (spec_crc : SpecCrc) {mems mems' : List (List UInt8)} {multilog_id : U128} {cdb : Bool}

theorem recoverCdb_congr {mem mem' : List UInt8} (hlen : mem'.length = mem.length)
    (h : SameBytes mem mem' 0 (ABSOLUTE_POS_OF_LOG_CDB + CRC_SIZE)) :
    recoverCdb spec_crc mem' = recoverCdb spec_crc mem := by
  have hmeta := h.mono le_rfl (Nat.le_add_right _ _)
  simp only [recoverCdb, deserializeAndCheckLogCdb, hlen, deserializeGlobalMetadata_congr hmeta,
    deserializeGlobalCrc_congr hmeta, deserializeLogCdb_congr (h.mono (Nat.zero_le _) le_rfl)]

/-- Regions that agree on their live bytes recover to the same states under `cdb`. -/
theorem recoverGivenCdb_congr (hlen : mems'.length = mems.length)
    (hsame : ∀ (i : Nat) (mem mem' : List UInt8), mems[i]? = some mem → mems'[i]? = some mem' →
      SameLiveBytes mem mem' cdb)
    {A : AbstractMultiLogState} (h : recoverGivenCdb spec_crc mems multilog_id cdb = some A) :
    recoverGivenCdb spec_crc mems' multilog_id cdb = some A := by
  obtain ⟨hv, rfl⟩ := (recoverGivenCdb_eq_some spec_crc).1 h
  have hpair : ∀ (i : Nat) (mem' : List UInt8), mems'[i]? = some mem' →
      ∃ mem, mems[i]? = some mem ∧ SameLiveBytes mem mem' cdb := by
    intro i mem' hm'
    have hi : i < mems.length := hlen ▸ (List.getElem?_eq_some_iff.1 hm').1
    exact ⟨_, List.getElem?_eq_getElem hi, hsame i _ _ (List.getElem?_eq_getElem hi) hm'⟩
  refine (recoverGivenCdb_eq_some spec_crc).2 ⟨fun i mem' hm' => ?_, ?_⟩
  · obtain ⟨mem, hm, hs⟩ := hpair i mem' hm'
    rw [hlen, hs.regionValid_iff]
    exact hv i mem hm
  · refine congrArg _ (List.ext_getElem? fun i => ?_)
    rw [List.getElem?_map, List.getElem?_map]
    rcases hm' : mems'[i]? with _ | mem'
    · rw [List.getElem?_eq_none (hlen ▸ List.getElem?_eq_none_iff.1 hm')]
    · obtain ⟨mem, hm, hs⟩ := hpair i mem' hm'
      rw [hm, Option.map_some', Option.map_some', hs.regionState_eq (hv i mem hm).log_length]

/-- The frame law of recovery: contents that agree with a recoverable multilog on the bytes
that recovery reads, region 0's CDB included, recover to the same state. -/
theorem recoverAll_congr {A : AbstractMultiLogState}
    (hA : recoverAll spec_crc mems multilog_id = some A)
    (hcdb : recoverCdb spec_crc (mems.getD 0 []) = some cdb) (hlen : mems'.length = mems.length)
    (hsame : ∀ (i : Nat) (mem mem' : List UInt8), mems[i]? = some mem → mems'[i]? = some mem' →
      SameLiveBytes mem mem' cdb)
    (h0 : SameBytes (mems.getD 0 []) (mems'.getD 0 []) ABSOLUTE_POS_OF_LOG_CDB
      (ABSOLUTE_POS_OF_LOG_CDB + CRC_SIZE)) :
    recoverAll spec_crc mems' multilog_id = some A := by
  obtain ⟨h1, h2, c, hc, hg⟩ := (recoverAll_eq_some spec_crc).1 hA
  obtain rfl : c = cdb := Option.some.inj (hc.symm.trans hcdb)
  have hs0 : SameLiveBytes (mems.getD 0 []) (mems'.getD 0 []) c := by
    rw [List.getD_eq_getElem?_getD, List.getD_eq_getElem?_getD,
      List.getElem?_eq_getElem (show 0 < mems.length by omega),
      List.getElem?_eq_getElem (show 0 < mems'.length by omega)]
    exact hsame 0 _ _ (List.getElem?_eq_getElem _) (List.getElem?_eq_getElem _)
  refine (recoverAll_eq_some spec_crc).2 ⟨by omega, by omega, c, ?_,
    recoverGivenCdb_congr spec_crc hlen hsame hg⟩
  rw [recoverCdb_congr spec_crc hs0.length (hs0.metadata.append h0), hc]

/-- Rewriting one region with contents that agree on its live bytes, and on the CDB when it is
region 0, keeps the recovered state. -/
theorem recoverAll_set {A : AbstractMultiLogState}
    (hA : recoverAll spec_crc mems multilog_id = some A)
    (hcdb : recoverCdb spec_crc (mems.getD 0 []) = some cdb) {j : Nat} {mem mem' : List UInt8}
    (hj : mems[j]? = some mem) (hs : SameLiveBytes mem mem' cdb)
    (h0 : j = 0 → SameBytes mem mem' ABSOLUTE_POS_OF_LOG_CDB (ABSOLUTE_POS_OF_LOG_CDB + CRC_SIZE)) :
    recoverAll spec_crc (mems.set j mem') multilog_id = some A := by
  have hlt : j < mems.length := (List.getElem?_eq_some_iff.1 hj).1
  refine recoverAll_congr spec_crc hA hcdb (List.length_set ..) (fun i m m' hm hm' => ?_) ?_
  · by_cases hij : j = i
    · subst hij
      rw [List.getElem?_set_self hlt] at hm'
      obtain rfl := Option.some.inj (hj.symm.trans hm)
      obtain rfl := Option.some.inj hm'
      exact hs
    · rw [List.getElem?_set_ne hij, hm] at hm'
      obtain rfl := Option.some.inj hm'
      exact SameLiveBytes.refl _ _
  · rw [List.getD_eq_getElem?_getD, List.getD_eq_getElem?_getD]
    by_cases hj0 : j = 0
    · subst hj0
      rw [List.getElem?_set_self hlt, hj]
      exact h0 rfl
    · rw [List.getElem?_set_ne hj0]
      exact SameBytes.refl _ _ _

/-- Recovery reads only the live bytes: contents that agree with a recoverable multilog on
what recovery reads recover to the same state. So does every crash state of a tentative append
at or past the pending tail, of a write into the inactive log-metadata copy of any region, and
of a write to the CDB of any region but 0. -/
theorem recovery_reads_only_the_live_bytes :
    (∀ (mems mems' : List (List UInt8)) (multilog_id : U128) (A : AbstractMultiLogState)
        (b : Bool),
      recoverAll spec_crc mems multilog_id = some A →
      recoverCdb spec_crc (mems.getD 0 []) = some b → mems'.length = mems.length →
      (∀ (i : Nat) (mem mem' : List UInt8), mems[i]? = some mem → mems'[i]? = some mem' →
        SameLiveBytes mem mem' b) →
      SameBytes (mems.getD 0 []) (mems'.getD 0 []) ABSOLUTE_POS_OF_LOG_CDB
        (ABSOLUTE_POS_OF_LOG_CDB + CRC_SIZE) →
      recoverAll spec_crc mems' multilog_id = some A) ∧
    (∀ (mems : List (List UInt8)) (multilog_id : U128) (A : AbstractMultiLogState) (b : Bool)
        (j : Nat) (mem : List UInt8) (k : Nat) (bytes : List UInt8) (F₁ F₂ : Nat → Bool),
      recoverAll spec_crc mems multilog_id = some A →
      recoverCdb spec_crc (mems.getD 0 []) = some b → mems[j]? = some mem →
      (deserializeLogMetadata mem b).log_length.toNat ≤ k →
      k + bytes.length ≤ (deserializeRegionMetadata mem).log_area_len.toNat →
      recoverAll spec_crc (mems.set j (writeToLogArea
        (fun cs a w => updateContentsToReflectPartiallyFlushedWrite cs a w F₁)
        (fun cs a w => updateContentsToReflectPartiallyFlushedWrite cs a w F₂) mem
        (deserializeRegionMetadata mem).log_area_len.toNat
        (deserializeLogMetadata mem b).head.toNat k bytes)) multilog_id = some A) ∧
    (∀ (mems : List (List UInt8)) (multilog_id : U128) (A : AbstractMultiLogState) (b : Bool)
        (j : Nat) (mem : List UInt8) (addr : Nat) (bytes : List UInt8) (F : Nat → Bool),
      recoverAll spec_crc mems multilog_id = some A →
      recoverCdb spec_crc (mems.getD 0 []) = some b → mems[j]? = some mem →
      getLogMetadataPos (!b) ≤ addr → addr + bytes.length ≤ getLogCrcEnd (!b) →
      recoverAll spec_crc
        (mems.set j (updateContentsToReflectPartiallyFlushedWrite mem addr bytes F))
        multilog_id = some A) ∧
    (∀ (mems : List (List UInt8)) (multilog_id : U128) (A : AbstractMultiLogState) (b : Bool)
        (j : Nat) (mem : List UInt8) (addr : Nat) (bytes : List UInt8) (F : Nat → Bool),
      recoverAll spec_crc mems multilog_id = some A →
      recoverCdb spec_crc (mems.getD 0 []) = some b → mems[j]? = some mem → j ≠ 0 →
      ABSOLUTE_POS_OF_LOG_CDB ≤ addr → addr + bytes.length ≤ ABSOLUTE_POS_OF_LOG_CDB + CRC_SIZE →
      recoverAll spec_crc
        (mems.set j (updateContentsToReflectPartiallyFlushedWrite mem addr bytes F))
        multilog_id = some A) := by
  refine ⟨fun _ _ _ _ _ hA hcdb hlen hsame h0 => recoverAll_congr spec_crc hA hcdb hlen hsame h0,
    fun _ _ _ b _ mem _ _ F₁ F₂ hA hcdb hj hk hb => ?_,
    fun _ _ _ b _ mem _ _ F hA hcdb hj hpos hend => ?_,
    fun _ _ _ b _ mem _ _ F hA hcdb hj hj0 hlo hhi => ?_⟩
  · have hw₁ := writeFrame_updateContentsToReflectPartiallyFlushedWrite F₁
    have hw₂ := writeFrame_updateContentsToReflectPartiallyFlushedWrite F₂
    exact recoverAll_set spec_crc hA hcdb hj (sameLiveBytes_writeToLogArea hw₁ hw₂ mem hk hb)
      fun _ => (sameBytes_writeToLogArea hw₁ hw₂ mem _ _ _ _).mono (Nat.zero_le _) (by decide)
  · have hw := writeFrame_updateContentsToReflectPartiallyFlushedWrite F
    have hge := getLogMetadataPos_ge (!b)
    have hle := getLogCrcEnd_le (!b)
    exact recoverAll_set spec_crc hA hcdb hj
      (sameLiveBytes_of_writeFrame hw mem (by omega) (disjoint_of_inactive hpos hend) (by omega))
      fun _ => sameBytes_of_writeFrame hw mem (Or.inl (by omega))
  · have hge := getLogMetadataPos_ge b
    exact recoverAll_set spec_crc hA hcdb hj
      (sameLiveBytes_of_writeFrame (writeFrame_updateContentsToReflectPartiallyFlushedWrite F) mem
        hlo (Or.inl (by omega)) (le_trans hhi (by decide)))
      fun h => absurd h hj0

set_option maxRecDepth 10000 in
/-- The sample multilog after a tentative append of `[9]` to region 0, a write into the
inactive copy of region 1, and a write to the CDB of region 1, each fully flushed. -/
theorem recovery_reads_only_the_live_bytes_of_the_sample :
    recoverAll (fun _ => 0) [sampleRegion 0, sampleRegion 1] 0 =
      some ⟨[⟨0, [7], [], 2⟩, ⟨0, [7], [], 2⟩]⟩ ∧
    recoverAll (fun _ => 0) [writeToLogArea
        (fun cs a w => updateContentsToReflectPartiallyFlushedWrite cs a w fun _ => true)
        (fun cs a w => updateContentsToReflectPartiallyFlushedWrite cs a w fun _ => true)
        (sampleRegion 0) 2 0 1 [9], sampleRegion 1] 0 =
      some ⟨[⟨0, [7], [], 2⟩, ⟨0, [7], [], 2⟩]⟩ ∧
    recoverAll (fun _ => 0) [sampleRegion 0,
      updateContentsToReflectPartiallyFlushedWrite (sampleRegion 1) 150 [1, 2, 3] fun _ => true] 0 =
        some ⟨[⟨0, [7], [], 2⟩, ⟨0, [7], [], 2⟩]⟩ ∧
    recoverAll (fun _ => 0) [sampleRegion 0,
      updateContentsToReflectPartiallyFlushedWrite (sampleRegion 1) 96 [1, 2, 3] fun _ => true] 0 =
        some ⟨[⟨0, [7], [], 2⟩, ⟨0, [7], [], 2⟩]⟩ := by
  obtain ⟨h1, h2, h3, h4⟩ := recovery_reads_only_the_live_bytes (fun _ => 0)
  have hl : (deserializeRegionMetadata (sampleRegion 0)).log_area_len.toNat = 2 := by decide
  have hh : (deserializeLogMetadata (sampleRegion 0) false).head.toNat = 0 := by decide
  have h2' := h2 _ _ _ false 0 (sampleRegion 0) 1 [9] (fun _ => true) (fun _ => true) recoverAll_sample rfl rfl
    (by decide) (by decide)
  rw [hl, hh] at h2'
  have h1' := h1 _ [sampleRegion 0, sampleRegion 1] _ _ false recoverAll_sample rfl rfl
    (fun _ _ _ hm hm' => Option.some.inj (hm.symm.trans hm') ▸ SameLiveBytes.refl _ _)
    (SameBytes.refl _ _ _)
  have h3' := h3 _ _ _ false 1 (sampleRegion 1) 150 [1, 2, 3] (fun _ => true) recoverAll_sample rfl rfl
    (by decide) (by decide)
  have h4' := h4 _ _ _ false 1 (sampleRegion 1) 96 [1, 2, 3] (fun _ => true) recoverAll_sample rfl rfl
    (by decide) (by decide) (by decide)
  exact ⟨h1', h2', h3', h4'⟩

end Recovery

end verified_storage.multilog
