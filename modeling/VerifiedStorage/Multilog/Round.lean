-- The operations of the multilog that end in a commit (§4.F and §4.G): tentative appends to the
-- logs followed by the commit that makes them part of the logs, and head advances. Each writes
-- the new log metadata of every region into its inactive copy, then flips the CDB of region 0.
-- Over every run of such operations from a multilog that recovers, the regions recover after
-- each operation to the abstract state that it leads to, and a crash at any point of an
-- operation recovers the state before it or the state after it.
import VerifiedStorage.Multilog.Commit

namespace verified_storage.multilog

open verified_storage

/-! ## The operations on the abstract state -/

/-- An operation of the multilog that ends in a commit. -/
inductive RoundOp where
  /-- `tentatively_append` of `bytes i` to each log `i`, then `commit`. -/
  | append (bytes : Nat → List UInt8)
  /-- `advance_head` of each log `i` to `new_head i`. -/
  | advanceHead (new_head : Nat → Nat)

namespace AbstractMultiLogState

/-- Log `i` extended by `bytes i`. -/
def appendRound (A : AbstractMultiLogState) (bytes : Nat → List UInt8) : AbstractMultiLogState :=
  ⟨A.states.mapIdx fun i s => { s with log := s.log ++ bytes i }⟩

/-- The head of log `i` moved to `new_head i`, and the bytes before it dropped. -/
def advanceHeads (A : AbstractMultiLogState) (new_head : Nat → Nat) : AbstractMultiLogState :=
  ⟨A.states.mapIdx fun i s =>
    { s with head := new_head i, log := s.log.drop (new_head i - s.head) }⟩

/-- The state that `op` leads to. -/
def applyOp (A : AbstractMultiLogState) : RoundOp → AbstractMultiLogState
  | .append bytes => A.appendRound bytes
  | .advanceHead new_head => A.advanceHeads new_head

/-- The state that the operations `ops` lead to, one after the other. -/
def applyOps (A : AbstractMultiLogState) (ops : List RoundOp) : AbstractMultiLogState :=
  ops.foldl applyOp A

/-- The preconditions of `op` on every log (§4.F): the bytes appended fit in the capacity and at
virtual positions that fit a `u128`; a new head lies between the head and the tail. -/
def Allows (A : AbstractMultiLogState) : RoundOp → Prop
  | .append bytes => ∀ i s, A.states[i]? = some s →
    s.log.length + (bytes i).length ≤ s.capacity ∧
      s.head + s.log.length + (bytes i).length ≤ U128_MAX
  | .advanceHead new_head => ∀ i s, A.states[i]? = some s →
    s.head ≤ new_head i ∧ new_head i ≤ s.head + s.log.length

/-- Each operation of `ops` is allowed in the state that the ones before it leave. -/
def AllowsAll : AbstractMultiLogState → List RoundOp → Prop
  | _, [] => True
  | A, op :: ops => A.Allows op ∧ (A.applyOp op).AllowsAll ops

end AbstractMultiLogState

/-! ## The operations on the regions -/

section Round

variable (spec_crc : SpecCrc)

/-- Modelled from the spec: the tentative appends of a round (§4.F), `bytes i` to the log of
region `i` at its tail, nothing being pending, at the head and log length of the log metadata
that `cdb` makes active. `F i` and `G i` are the chunks of the one or two writes to region `i`
that reached the media. -/
def appendToLogsPartially (mems : List (List UInt8)) (cdb : Bool) (bytes : Nat → List UInt8)
    (F G : Nat → Nat → Bool) : List (List UInt8) :=
  mems.mapIdx fun i mem =>
    writeToLogArea (fun cs a w => updateContentsToReflectPartiallyFlushedWrite cs a w (F i))
      (fun cs a w => updateContentsToReflectPartiallyFlushedWrite cs a w (G i)) mem
      (deserializeRegionMetadata mem).log_area_len.toNat (deserializeLogMetadata mem cdb).head.toNat
      (deserializeLogMetadata mem cdb).log_length.toNat (bytes i)

/-- The tentative appends of a round, every chunk flushed. -/
def appendToLogs (mems : List (List UInt8)) (cdb : Bool) (bytes : Nat → List UInt8) :
    List (List UInt8) :=
  appendToLogsPartially mems cdb bytes (fun _ _ => true) (fun _ _ => true)

/-- Modelled from the spec: the log metadata that `commit` writes after the appends, the head
kept and the log longer by the bytes appended. -/
def appendedMetadata (mems : List (List UInt8)) (cdb : Bool) (bytes : Nat → List UInt8) :
    Nat → LogMetadata := fun i =>
  let m := deserializeLogMetadata (mems.getD i []) cdb
  { m with log_length := BitVec.ofNat 64 (m.log_length.toNat + (bytes i).length) }

/-- Modelled from the spec: the log metadata that `advance_head` writes, the head moved to
`new_head i` and the tail kept. -/
def advancedMetadata (mems : List (List UInt8)) (cdb : Bool) (new_head : Nat → Nat) :
    Nat → LogMetadata := fun i =>
  let m := deserializeLogMetadata (mems.getD i []) cdb
  { m with head := BitVec.ofNat 128 (new_head i)
           log_length := BitVec.ofNat 64 (m.head.toNat + m.log_length.toNat - new_head i) }

/-- The regions that the commit of `op` starts from when the chunks `F i` and `G i` of the
appends to region `i` reached the media: no flush comes between the appends and the commit. -/
def RoundOp.stagedPartially (mems : List (List UInt8)) (cdb : Bool) (F G : Nat → Nat → Bool) :
    RoundOp → List (List UInt8)
  | .append bytes => appendToLogsPartially mems cdb bytes F G
  | .advanceHead _ => mems

/-- The regions that the commit of `op` starts from, and the log metadata that it writes. -/
def RoundOp.staged (mems : List (List UInt8)) (cdb : Bool) :
    RoundOp → List (List UInt8) × (Nat → LogMetadata)
  | .append bytes => (appendToLogs mems cdb bytes, appendedMetadata mems cdb bytes)
  | .advanceHead new_head => (mems, advancedMetadata mems cdb new_head)

/-- `op` completed: its appends, then both steps of the commit. -/
def round (mems : List (List UInt8)) (cdb : Bool) (op : RoundOp) : List (List UInt8) :=
  flipLogCdb (writeInactiveLogMetadata spec_crc (op.staged mems cdb).1 cdb (op.staged mems cdb).2
    (fun _ _ => true) (fun _ _ => true)) cdb fun _ => true

/-- The contents that a crash during `op` can leave (§4.F, §5): some chunks of its appends;
or some chunks of its appends and some chunks of step 1 of the commit, nothing being flushed
between them; or, after the flush that ends step 1, the CDB switched or not. -/
inductive RoundCrash (mems : List (List UInt8)) (cdb : Bool) : RoundOp → List (List UInt8) → Prop
  | append (bytes : Nat → List UInt8) (F G : Nat → Nat → Bool) :
    RoundCrash mems cdb (.append bytes) (appendToLogsPartially mems cdb bytes F G)
  | metadata (op : RoundOp) (F G F' G' : Nat → Nat → Bool) :
    RoundCrash mems cdb op (writeInactiveLogMetadata spec_crc (op.stagedPartially mems cdb F G) cdb
      (op.staged mems cdb).2 F' G')
  | flip (op : RoundOp) (H : Nat → Bool) :
    RoundCrash mems cdb op (flipLogCdb (writeInactiveLogMetadata spec_crc (op.staged mems cdb).1
      cdb (op.staged mems cdb).2 (fun _ _ => true) (fun _ _ => true)) cdb H)

/-- Operations one after the other, each switching the CDB: the regions and the CDB they
leave. -/
def runRounds (mems : List (List UInt8)) (cdb : Bool) : List RoundOp → List (List UInt8) × Bool
  | [] => (mems, cdb)
  | op :: ops => runRounds (round spec_crc mems cdb op) (!cdb) ops

variable {mems : List (List UInt8)} {multilog_id : U128} {A : AbstractMultiLogState} {b : Bool}
  {bytes : Nat → List UInt8}

theorem recoverGivenCdb_of_recoverAll (hA : recoverAll spec_crc mems multilog_id = some A)
    (hcdb : recoverCdb spec_crc (mems.getD 0 []) = some b) :
    (∀ i mem, mems[i]? = some mem → RegionValid spec_crc mem multilog_id mems.length i b) ∧
      A = ⟨mems.map (regionState · b)⟩ := by
  obtain ⟨-, -, c, hc, hg⟩ := (recoverAll_eq_some spec_crc).1 hA
  obtain rfl : c = b := Option.some.inj (hc.symm.trans hcdb)
  exact (recoverGivenCdb_eq_some spec_crc).1 hg

/-! ### The commit that ends every operation -/

/-- The commit of `m` from regions that recover to `A` under `b`, where `m` fits every region
and installs `A'`: completed, it recovers to `A'` under the CDB switched, and a crash in step 2
recovers `A` or `A'`. -/
theorem commit_refines {mems' : List (List UInt8)} {m : Nat → LogMetadata}
    {A' : AbstractMultiLogState} (hA : recoverAll spec_crc mems' multilog_id = some A)
    (hcdb : recoverCdb spec_crc (mems'.getD 0 []) = some b)
    (hm : ∀ (i : Nat) (mem : List UInt8), mems'[i]? = some mem →
      (m i).log_length.toNat ≤ (deserializeRegionMetadata mem).log_area_len.toNat ∧
      (m i).head.toNat + (m i).log_length.toNat ≤ U128_MAX)
    (hA' : committedState mems' m = A') :
    recoverAll spec_crc (flipLogCdb (writeInactiveLogMetadata spec_crc mems' b m
        (fun _ _ => true) (fun _ _ => true)) b fun _ => true) multilog_id = some A' ∧
      recoverCdb spec_crc ((flipLogCdb (writeInactiveLogMetadata spec_crc mems' b m
        (fun _ _ => true) (fun _ _ => true)) b fun _ => true).getD 0 []) = some (!b) ∧
      ∀ H, recoverAll spec_crc (flipLogCdb (writeInactiveLogMetadata spec_crc mems' b m
          (fun _ _ => true) (fun _ _ => true)) b H) multilog_id = some A ∨
        recoverAll spec_crc (flipLogCdb (writeInactiveLogMetadata spec_crc mems' b m
          (fun _ _ => true) (fun _ _ => true)) b H) multilog_id = some A' := by
  have hcommit := hA' ▸ recoverAll_flipLogCdb spec_crc hA hcdb hm
  refine ⟨hcommit, recoverCdb_flipLogCdb spec_crc hcdb m, fun H => ?_⟩
  rw [flipLogCdb_eq_ite]
  split
  · exact .inr hcommit
  · exact .inl (recoverAll_writeInactiveLogMetadata spec_crc hA hcdb m _ _)

/-! ### Appends -/

theorem allows_append_region
    (h : AbstractMultiLogState.Allows ⟨mems.map (regionState · b)⟩ (.append bytes)) {i : Nat}
    {mem : List UInt8} (hm : mems[i]? = some mem) :
    (deserializeLogMetadata mem b).log_length.toNat + (bytes i).length ≤
        (deserializeRegionMetadata mem).log_area_len.toNat ∧
      (deserializeLogMetadata mem b).head.toNat + (deserializeLogMetadata mem b).log_length.toNat +
        (bytes i).length ≤ U128_MAX := by
  simpa [regionState, length_extractLog] using h i (regionState mem b) (by simp [hm])

section Bounds

variable (hfit : ∀ (i : Nat) (mem : List UInt8), mems[i]? = some mem →
  (deserializeLogMetadata mem b).log_length.toNat + (bytes i).length ≤
    (deserializeRegionMetadata mem).log_area_len.toNat)
include hfit

/-- The appends, whatever chunks reached the media, miss every byte that recovery reads and
every byte before the log area. -/
theorem sameLiveBytes_appendToLogsPartially (F G : Nat → Nat → Bool) {i : Nat}
    {mem mem' : List UInt8} (hm : mems[i]? = some mem)
    (hm' : (appendToLogsPartially mems b bytes F G)[i]? = some mem') :
    SameLiveBytes mem mem' b ∧ SameBytes mem mem' 0 ABSOLUTE_POS_OF_LOG_AREA := by
  rw [appendToLogsPartially, List.getElem?_mapIdx, hm, Option.map_some'] at hm'
  obtain rfl := Option.some.inj hm'
  exact ⟨sameLiveBytes_writeToLogArea (writeFrame_updateContentsToReflectPartiallyFlushedWrite _)
      (writeFrame_updateContentsToReflectPartiallyFlushedWrite _) mem le_rfl (hfit i mem hm),
    sameBytes_writeToLogArea (writeFrame_updateContentsToReflectPartiallyFlushedWrite _)
      (writeFrame_updateContentsToReflectPartiallyFlushedWrite _) mem _ _ _ _⟩

/-- A crash during the appends recovers the old state, and the CDB stays. -/
theorem recoverAll_appendToLogsPartially (hA : recoverAll spec_crc mems multilog_id = some A)
    (hcdb : recoverCdb spec_crc (mems.getD 0 []) = some b) (F G : Nat → Nat → Bool) :
    recoverAll spec_crc (appendToLogsPartially mems b bytes F G) multilog_id = some A ∧
      recoverCdb spec_crc ((appendToLogsPartially mems b bytes F G).getD 0 []) = some b := by
  obtain ⟨h1, -, -⟩ := (recoverAll_eq_some spec_crc).1 hA
  obtain ⟨mem, hm⟩ : ∃ mem, mems[0]? = some mem := ⟨_, List.getElem?_eq_getElem (by omega)⟩
  obtain ⟨mem', hm'⟩ : ∃ mem', (appendToLogsPartially mems b bytes F G)[0]? = some mem' := by
    simp [appendToLogsPartially, hm]
  have hs := sameLiveBytes_appendToLogsPartially hfit F G hm hm'
  refine ⟨recoverAll_congr spec_crc hA hcdb List.length_mapIdx
    (fun _ _ _ hi hi' => (sameLiveBytes_appendToLogsPartially hfit F G hi hi').1) ?_, ?_⟩
  · rw [List.getD_eq_getElem?_getD, List.getD_eq_getElem?_getD, hm, hm']
    exact hs.2.mono (by decide) (by decide)
  · rw [List.getD_eq_getElem?_getD, hm', Option.getD_some,
      recoverCdb_congr spec_crc hs.1.length (hs.2.mono le_rfl (by decide)), ← hcdb,
      List.getD_eq_getElem?_getD, hm, Option.getD_some]

end Bounds

theorem appendedMetadata_eq {i : Nat} {mem : List UInt8} (hm : mems[i]? = some mem)
    (hfit : (deserializeLogMetadata mem b).log_length.toNat + (bytes i).length ≤
      (deserializeRegionMetadata mem).log_area_len.toNat) :
    (appendedMetadata mems b bytes i).head = (deserializeLogMetadata mem b).head ∧
      (appendedMetadata mems b bytes i).log_length.toNat =
        (deserializeLogMetadata mem b).log_length.toNat + (bytes i).length := by
  have hlt := (deserializeRegionMetadata mem).log_area_len.isLt
  simp only [appendedMetadata, List.getD_eq_getElem?_getD, hm, Option.getD_some,
    BitVec.toNat_ofNat, true_and]
  exact Nat.mod_eq_of_lt (by omega)

theorem deserializeRegionMetadata_appendToLogArea (mem : List UInt8) (lola head k : Nat)
    (bs : List UInt8) :
    deserializeRegionMetadata (appendToLogArea mem lola head k bs) = deserializeRegionMetadata mem :=
  deserializeRegionMetadata_congr ((sameBytes_writeToLogArea writeFrame_updateContentsToReflectWrite
    writeFrame_updateContentsToReflectWrite mem lola head k bs).mono le_rfl (by decide))

theorem getElem?_appendToLogs (i : Nat) :
    (appendToLogs mems b bytes)[i]? = mems[i]?.map fun mem =>
      appendToLogArea mem (deserializeRegionMetadata mem).log_area_len.toNat
        (deserializeLogMetadata mem b).head.toNat (deserializeLogMetadata mem b).log_length.toNat
        (bytes i) := by
  simp [appendToLogs, appendToLogsPartially, appendToLogArea]

/-- The commit after the appends installs the logs of the old state extended by the bytes
appended. -/
theorem committedState_appendToLogs
    (hv : ∀ i mem, mems[i]? = some mem → RegionValid spec_crc mem multilog_id mems.length i b)
    (hfit : ∀ (i : Nat) (mem : List UInt8), mems[i]? = some mem →
      (deserializeLogMetadata mem b).log_length.toNat + (bytes i).length ≤
        (deserializeRegionMetadata mem).log_area_len.toNat) :
    committedState (appendToLogs mems b bytes) (appendedMetadata mems b bytes) =
      AbstractMultiLogState.appendRound ⟨mems.map (regionState · b)⟩ bytes := by
  refine congrArg _ (List.ext_getElem? fun i => ?_)
  simp only [committedState, AbstractMultiLogState.appendRound, List.getElem?_mapIdx,
    List.getElem?_map, getElem?_appendToLogs]
  rcases hm : mems[i]? with _ | mem
  · rfl
  · have hmem : ABSOLUTE_POS_OF_LOG_AREA + (deserializeRegionMetadata mem).log_area_len.toNat ≤
        mem.length := (hv i mem hm).log_area
    obtain ⟨hhead, hlen⟩ := appendedMetadata_eq hm (hfit i mem hm)
    simp only [Option.map_some', deserializeRegionMetadata_appendToLogArea, hhead, hlen,
      extractLog_appendToLogArea hmem (hfit i mem hm), regionState]

/-! ### Head advances -/

theorem allows_advanceHead_region {new_head : Nat → Nat}
    (h : AbstractMultiLogState.Allows ⟨mems.map (regionState · b)⟩ (.advanceHead new_head))
    {i : Nat} {mem : List UInt8} (hm : mems[i]? = some mem) :
    (deserializeLogMetadata mem b).head.toNat ≤ new_head i ∧
      new_head i ≤ (deserializeLogMetadata mem b).head.toNat +
        (deserializeLogMetadata mem b).log_length.toNat := by
  simpa [regionState, length_extractLog] using h i (regionState mem b) (by simp [hm])

theorem advancedMetadata_eq {new_head : Nat → Nat} {i : Nat} {mem : List UInt8}
    (hm : mems[i]? = some mem)
    (hmax : (deserializeLogMetadata mem b).head.toNat +
      (deserializeLogMetadata mem b).log_length.toNat ≤ U128_MAX)
    (h1 : (deserializeLogMetadata mem b).head.toNat ≤ new_head i)
    (h2 : new_head i ≤ (deserializeLogMetadata mem b).head.toNat +
      (deserializeLogMetadata mem b).log_length.toNat) :
    (advancedMetadata mems b new_head i).head.toNat = new_head i ∧
      (advancedMetadata mems b new_head i).log_length.toNat =
        (deserializeLogMetadata mem b).head.toNat +
          (deserializeLogMetadata mem b).log_length.toNat - new_head i := by
  have hlt := (deserializeLogMetadata mem b).log_length.isLt
  have hmax' : U128_MAX < 2 ^ 128 := by decide
  simp only [advancedMetadata, List.getD_eq_getElem?_getD, hm, Option.getD_some,
    BitVec.toNat_ofNat]
  exact ⟨Nat.mod_eq_of_lt (by omega), Nat.mod_eq_of_lt (by omega)⟩

/-- The commit of a head advance installs the logs of the old state from their new heads. -/
theorem committedState_advancedMetadata {new_head : Nat → Nat}
    (hv : ∀ i mem, mems[i]? = some mem → RegionValid spec_crc mem multilog_id mems.length i b)
    (hfit : AbstractMultiLogState.Allows ⟨mems.map (regionState · b)⟩ (.advanceHead new_head)) :
    committedState mems (advancedMetadata mems b new_head) =
      AbstractMultiLogState.advanceHeads ⟨mems.map (regionState · b)⟩ new_head := by
  refine congrArg _ (List.ext_getElem? fun i => ?_)
  simp only [committedState, AbstractMultiLogState.advanceHeads, List.getElem?_mapIdx,
    List.getElem?_map]
  rcases hm : mems[i]? with _ | mem
  · rfl
  · obtain ⟨h1, h2⟩ := allows_advanceHead_region hfit hm
    have hlen : (deserializeLogMetadata mem b).log_length.toNat ≤
        (deserializeRegionMetadata mem).log_area_len.toNat := (hv i mem hm).log_length
    obtain ⟨hhead, hlength⟩ := advancedMetadata_eq hm (hv i mem hm).head h1 h2
    simp only [Option.map_some', hhead, hlength, extractLog_advance_head mem hlen h1 h2,
      extractBytes, regionState, length_extractLog, Option.some.injEq]
    rw [List.take_of_length_le (by simp [length_extractLog]; omega)]

/-! ### One operation, then runs -/

/-- The regions that the commit of an allowed `op` starts from, whatever chunks of its appends
reached the media, recover to the old state under the old CDB. -/
theorem stagedPartially_refines {op : RoundOp} (hA : recoverAll spec_crc mems multilog_id = some A)
    (hcdb : recoverCdb spec_crc (mems.getD 0 []) = some b) (hop : A.Allows op)
    (F G : Nat → Nat → Bool) :
    recoverAll spec_crc (op.stagedPartially mems b F G) multilog_id = some A ∧
      recoverCdb spec_crc ((op.stagedPartially mems b F G).getD 0 []) = some b := by
  cases op with
  | append bytes =>
    obtain ⟨-, rfl⟩ := recoverGivenCdb_of_recoverAll spec_crc hA hcdb
    exact recoverAll_appendToLogsPartially spec_crc
      (fun i mem hm => (allows_append_region hop hm).1) hA hcdb F G
  | advanceHead _ => exact ⟨hA, hcdb⟩

/-- Completed, the appends of an allowed `op` leave regions that recover to the old state under
the old CDB; the metadata that the commit writes fits every region, and it installs the state
that `op` leads to. -/
theorem staged_refines {op : RoundOp} (hA : recoverAll spec_crc mems multilog_id = some A)
    (hcdb : recoverCdb spec_crc (mems.getD 0 []) = some b) (hop : A.Allows op) :
    recoverAll spec_crc (op.staged mems b).1 multilog_id = some A ∧
      recoverCdb spec_crc ((op.staged mems b).1.getD 0 []) = some b ∧
      (∀ (i : Nat) (mem : List UInt8), (op.staged mems b).1[i]? = some mem →
        ((op.staged mems b).2 i).log_length.toNat ≤
          (deserializeRegionMetadata mem).log_area_len.toNat ∧
        ((op.staged mems b).2 i).head.toNat + ((op.staged mems b).2 i).log_length.toNat ≤
          U128_MAX) ∧
      committedState (op.staged mems b).1 (op.staged mems b).2 = A.applyOp op := by
  have h₁ := stagedPartially_refines spec_crc hA hcdb hop (fun _ _ => true) (fun _ _ => true)
  obtain ⟨hv, rfl⟩ := recoverGivenCdb_of_recoverAll spec_crc hA hcdb
  cases op with
  | append bytes =>
    have hb := fun i mem (hm : mems[i]? = some mem) => allows_append_region hop hm
    refine ⟨h₁.1, h₁.2, fun i mem₁ hm₁ => ?_,
      committedState_appendToLogs spec_crc hv fun i mem hm => (hb i mem hm).1⟩
    rw [RoundOp.staged, getElem?_appendToLogs] at hm₁
    obtain ⟨mem, hmi, rfl⟩ := Option.map_eq_some'.1 hm₁
    obtain ⟨hhead, hlen⟩ := appendedMetadata_eq hmi (hb i mem hmi).1
    rw [RoundOp.staged, deserializeRegionMetadata_appendToLogArea, hhead, hlen]
    exact ⟨(hb i mem hmi).1, by have := (hb i mem hmi).2; omega⟩
  | advanceHead new_head =>
    refine ⟨h₁.1, h₁.2, fun i mem (hm : mems[i]? = some mem) => ?_,
      committedState_advancedMetadata spec_crc hv hop⟩
    obtain ⟨h1, h2⟩ := allows_advanceHead_region hop hm
    obtain ⟨hhead, hlength⟩ := advancedMetadata_eq hm (hv i mem hm).head h1 h2
    have hlen : (deserializeLogMetadata mem b).log_length.toNat ≤
        (deserializeRegionMetadata mem).log_area_len.toNat := (hv i mem hm).log_length
    have hmax : (deserializeLogMetadata mem b).head.toNat +
        (deserializeLogMetadata mem b).log_length.toNat ≤ U128_MAX := (hv i mem hm).head
    dsimp only [RoundOp.staged]
    rw [hhead, hlength]
    exact ⟨by omega, by omega⟩

/-- One allowed operation from a multilog that recovers under the CDB `b`. Completed, it
recovers to the state that the operation leads to, under the CDB switched; a crash at any point
of it recovers the old state or that one. -/
theorem round_refines {op : RoundOp} (hA : recoverAll spec_crc mems multilog_id = some A)
    (hcdb : recoverCdb spec_crc (mems.getD 0 []) = some b) (hop : A.Allows op) :
    recoverAll spec_crc (round spec_crc mems b op) multilog_id = some (A.applyOp op) ∧
      recoverCdb spec_crc ((round spec_crc mems b op).getD 0 []) = some (!b) ∧
      ∀ mems', RoundCrash spec_crc mems b op mems' →
        recoverAll spec_crc mems' multilog_id = some A ∨
          recoverAll spec_crc mems' multilog_id = some (A.applyOp op) := by
  obtain ⟨hA₁, hcdb₁, hm, hA'⟩ := staged_refines spec_crc hA hcdb hop
  obtain ⟨hcommit, hcdb', hflip⟩ := commit_refines spec_crc hA₁ hcdb₁ hm hA'
  refine ⟨hcommit, hcdb', fun mems' h => ?_⟩
  cases h with
  | append bytes F G => exact .inl (stagedPartially_refines spec_crc hA hcdb hop F G).1
  | metadata _ F G F' G' =>
    obtain ⟨h₁, hcdb₁⟩ := stagedPartially_refines spec_crc hA hcdb hop F G
    exact .inl (recoverAll_writeInactiveLogMetadata spec_crc h₁ hcdb₁ _ F' G')
  | flip _ H => exact hflip H

/-- The multilog refines its abstract state over whole runs. From a multilog that recovers, over
every run of appends-then-commit and head advances, each allowed in the state that the ones
before it leave: the regions after the run recover to the state that the run leads to, under the
CDB that it leaves; and a crash at any point of any operation of the run recovers the state
before that operation or the state after it. -/
theorem multilog_runs_refine_the_abstract_state (ops : List RoundOp) :
    ∀ (mems : List (List UInt8)) (b : Bool) (A : AbstractMultiLogState),
      recoverAll spec_crc mems multilog_id = some A →
      recoverCdb spec_crc (mems.getD 0 []) = some b → A.AllowsAll ops →
      recoverAll spec_crc (runRounds spec_crc mems b ops).1 multilog_id = some (A.applyOps ops) ∧
        recoverCdb spec_crc ((runRounds spec_crc mems b ops).1.getD 0 []) =
          some (runRounds spec_crc mems b ops).2 ∧
        ∀ pre op post, ops = pre ++ op :: post → ∀ mems',
          RoundCrash spec_crc (runRounds spec_crc mems b pre).1 (runRounds spec_crc mems b pre).2
            op mems' →
          recoverAll spec_crc mems' multilog_id = some (A.applyOps pre) ∨
            recoverAll spec_crc mems' multilog_id = some (A.applyOps (pre ++ [op])) := by
  induction ops with
  | nil => exact fun mems b A hA hcdb _ => ⟨hA, hcdb, fun pre _ _ h => absurd h.symm (by simp)⟩
  | cons op ops ih =>
    intro mems b A hA hcdb ⟨hop, hops⟩
    obtain ⟨hA', hcdb', hcrash⟩ := round_refines spec_crc hA hcdb hop
    obtain ⟨hrun, hcdbrun, hcrashes⟩ := ih _ _ _ hA' hcdb' hops
    refine ⟨hrun, hcdbrun, fun pre op' post h mems' hc => ?_⟩
    cases pre with
    | nil =>
      obtain ⟨rfl, -⟩ := List.cons.inj h
      exact hcrash mems' hc
    | cons op'' pre =>
      obtain ⟨rfl, hrest⟩ := List.cons.inj h
      exact hcrashes pre op' post hrest mems' hc

end Round

set_option maxRecDepth 10000 in
/-- The byte 8 appended to both logs of the sample multilog, then both heads advanced past the
byte 7. -/
theorem multilog_runs_refine_the_abstract_state_on_the_sample :
    recoverAll (fun _ => 0) [sampleRegion 0, sampleRegion 1] 0 =
      some ⟨[⟨0, [7], [], 2⟩, ⟨0, [7], [], 2⟩]⟩ ∧
    recoverCdb (fun _ => 0) ([sampleRegion 0, sampleRegion 1].getD 0 []) = some false ∧
    AbstractMultiLogState.AllowsAll ⟨[⟨0, [7], [], 2⟩, ⟨0, [7], [], 2⟩]⟩
      [.append fun _ => [8], .advanceHead fun _ => 1] ∧
    recoverAll (fun _ => 0) (runRounds (fun _ => 0) [sampleRegion 0, sampleRegion 1] false
        [.append fun _ => [8], .advanceHead fun _ => 1]).1 0 =
      some ⟨[⟨1, [8], [], 2⟩, ⟨1, [8], [], 2⟩]⟩ :=
  have hcdb : recoverCdb (fun _ => 0) ([sampleRegion 0, sampleRegion 1].getD 0 []) =
      some false := rfl
  have hstates : ∀ (s₀ s : AbstractLogState) (i : Nat), [s₀, s₀][i]? = some s → s = s₀ := by
    intro s₀ s i h
    rcases i with _ | _ | i <;> simp only [List.getElem?_cons_zero, List.getElem?_cons_succ,
      List.getElem?_nil, Option.some.injEq, reduceCtorEq] at h <;> exact h.symm
  have hops : AbstractMultiLogState.AllowsAll ⟨[⟨0, [7], [], 2⟩, ⟨0, [7], [], 2⟩]⟩
      [.append fun _ => [8], .advanceHead fun _ => 1] :=
    ⟨fun i s h => by obtain rfl := hstates _ s i h; dsimp only; decide,
      show AbstractMultiLogState.Allows ⟨[⟨0, [7, 8], [], 2⟩, ⟨0, [7, 8], [], 2⟩]⟩ _ from
        fun i s h => by obtain rfl := hstates _ s i h; dsimp only; decide, trivial⟩
  ⟨recoverAll_sample, hcdb, hops, (multilog_runs_refine_the_abstract_state (fun _ => 0)
    [.append fun _ => [8], .advanceHead fun _ => 1] _ false _ recoverAll_sample hcdb hops).1⟩

end verified_storage.multilog
