-- The circular log area: virtual log positions map to offsets of the log area by one
-- conditional subtraction, and `extract_log` reads the log through that map. Appending at
-- the pending tail extends the log by the appended bytes, and advancing the head keeps
-- exactly the suffix, wherever the wrap point falls.
import VerifiedStorage.Multilog.Metadata

namespace verified_storage.multilog

open verified_storage

/-! ## The pure model -/

/-- `relative_log_pos_to_log_area_offset`: the log-area offset of the position
`pos_relative_to_head` past the head, whose offset is `head_log_area_offset`. -/
def relativeLogPosToLogAreaOffset (pos_relative_to_head head_log_area_offset log_area_len : Nat) :
    Nat :=
  let log_area_offset := head_log_area_offset + pos_relative_to_head
  if log_area_offset ≥ log_area_len then log_area_offset - log_area_len else log_area_offset

/-- `extract_log`: the `log_length` bytes of the virtual log from `head` on. -/
def extractLog (mem : List UInt8) (log_area_len head log_length : Nat) : List UInt8 :=
  let head_log_area_offset := head % log_area_len
  (List.range log_length).map fun pos_relative_to_head =>
    mem.getD (ABSOLUTE_POS_OF_LOG_AREA +
      relativeLogPosToLogAreaOffset pos_relative_to_head head_log_area_offset log_area_len) 0

/-- Modelled from the spec: `AbstractLogState` of `multilogspec_t.rs`, with the fields that
recovery fills (§3). -/
structure AbstractLogState where
  head : Nat
  log : List UInt8
  pending : List UInt8
  capacity : Nat
  deriving DecidableEq, Repr

/-- The invariant of an abstract log state that §3 states: the log and the pending bytes fit in
the capacity, and their virtual positions in a `u128`. -/
structure AbstractLogState.Inv (s : AbstractLogState) : Prop where
  fits : s.log.length + s.pending.length ≤ s.capacity
  head : s.head + s.log.length + s.pending.length ≤ U128_MAX

/-- Modelled from the spec: `drop_pending_appends` of `multilogspec_t.rs`, the state after a
crash, which loses the tentatively appended bytes. -/
def AbstractLogState.dropPendingAppends (s : AbstractLogState) : AbstractLogState :=
  { s with pending := [] }

/-- `recover_abstract_log_from_region_given_metadata`. -/
def recoverAbstractLogFromRegionGivenMetadata (mem : List UInt8) (log_area_len : U64) (head : U128)
    (log_length : U64) : Option AbstractLogState :=
  if log_length.toNat > log_area_len.toNat ∨ head.toNat + log_length.toNat > U128_MAX then none
  else some
    { head := head.toNat
      log := extractLog mem log_area_len.toNat head.toNat log_length.toNat
      pending := []
      capacity := log_area_len.toNat }

/-- Modelled from the spec: the writes of `tentatively_append` into the log area (§4.F, steps
2 and 3). The bytes go at the log-area offset of virtual position `head + k`, in one write, or
in two when they pass the end of the log area. Each `write` is what one write does to the
contents: `update_contents_to_reflect_write`, or one of its crash states. -/
def writeToLogArea (write₁ write₂ : List UInt8 → Nat → List UInt8 → List UInt8)
    (mem : List UInt8) (log_area_len head k : Nat) (bytes : List UInt8) : List UInt8 :=
  let t := (head + k) % log_area_len
  if t + bytes.length ≤ log_area_len then write₁ mem (ABSOLUTE_POS_OF_LOG_AREA + t) bytes
  else
    write₂ (write₁ mem (ABSOLUTE_POS_OF_LOG_AREA + t) (bytes.take (log_area_len - t)))
      ABSOLUTE_POS_OF_LOG_AREA (bytes.drop (log_area_len - t))

/-- The completed writes of a tentative append of `bytes` at virtual position `head + k`. -/
def appendToLogArea (mem : List UInt8) (log_area_len head k : Nat) (bytes : List UInt8) :
    List UInt8 :=
  writeToLogArea updateContentsToReflectWrite updateContentsToReflectWrite mem log_area_len head k
    bytes

/-- Modelled from the spec: tentative appends of `bs`, each at the pending tail left by the
ones before it, from a pending length of `k`. -/
def appendAllToLogArea (mem : List UInt8) (log_area_len head k : Nat) :
    List (List UInt8) → List UInt8
  | [] => mem
  | b :: bs => appendAllToLogArea (appendToLogArea mem log_area_len head k b) log_area_len head
      (k + b.length) bs

/-- A write that keeps the length of the contents and every byte outside its range. -/
structure WriteFrame (write : List UInt8 → Nat → List UInt8 → List UInt8) : Prop where
  length : ∀ cs a w, (write cs a w).length = cs.length
  frame : ∀ cs a w i, (i < a ∨ a + w.length ≤ i) → (write cs a w)[i]? = cs[i]?

theorem writeFrame_updateContentsToReflectWrite : WriteFrame updateContentsToReflectWrite :=
  ⟨length_updateContentsToReflectWrite,
    fun cs a w _ h => getElem?_updateContentsToReflectWrite_of_not_mem cs a w h⟩

theorem writeFrame_updateContentsToReflectPartiallyFlushedWrite (F : Nat → Bool) :
    WriteFrame fun cs a w => updateContentsToReflectPartiallyFlushedWrite cs a w F :=
  ⟨fun cs a w => length_updateContentsToReflectPartiallyFlushedWrite cs a w F,
    fun cs a w _ h => getElem?_updateContentsToReflectPartiallyFlushedWrite_of_not_mem cs a w F h⟩

/-! ## The wrap -/

/-- One subtraction is enough: for every position up to the log-area length, the offset is the
position plus the head, modulo the length. -/
theorem relativeLogPosToLogAreaOffset_eq_mod (head r lola : Nat) (hr : r ≤ lola) :
    relativeLogPosToLogAreaOffset r (head % lola) lola = (head + r) % lola := by
  rcases Nat.eq_zero_or_pos lola with rfl | hpos
  · simp [relativeLogPosToLogAreaOffset]
  have hh := Nat.mod_lt head hpos
  rw [← Nat.mod_add_mod head lola r]
  generalize head % lola = h0 at hh ⊢
  dsimp only [relativeLogPosToLogAreaOffset]
  split
  · next h => rw [Nat.mod_eq_sub_mod h, Nat.mod_eq_of_lt (by omega)]
  · rw [Nat.mod_eq_of_lt (by omega)]

/-- The two shapes of the offset, for `omega`. -/
theorem relativeLogPosToLogAreaOffset_cases (r h lola : Nat) :
    (h + r < lola ∧ relativeLogPosToLogAreaOffset r h lola = h + r) ∨
      (lola ≤ h + r ∧ relativeLogPosToLogAreaOffset r h lola = h + r - lola) := by
  dsimp only [relativeLogPosToLogAreaOffset]
  split <;> omega

@[simp] theorem length_extractLog (mem : List UInt8) (lola head len : Nat) :
    (extractLog mem lola head len).length = len := by
  simp [extractLog]

theorem getElem?_extractLog (mem : List UInt8) (lola head len r : Nat) :
    (extractLog mem lola head len)[r]? =
      if r < len then
        some (mem.getD (ABSOLUTE_POS_OF_LOG_AREA + relativeLogPosToLogAreaOffset r (head % lola) lola) 0)
      else none := by
  simp only [extractLog, List.getElem?_map, List.getElem?_range]
  split <;> simp_all [List.getElem?_range]

theorem getElem?_extractLog_of_le {mem : List UInt8} {lola head len : Nat} (r : Nat)
    (hlen : len ≤ lola) :
    (extractLog mem lola head len)[r]? =
      if r < len then some (mem.getD (ABSOLUTE_POS_OF_LOG_AREA + (head + r) % lola) 0) else none := by
  rw [getElem?_extractLog]
  split
  · rw [relativeLogPosToLogAreaOffset_eq_mod head r lola (by omega)]
  · rfl

/-- The offset of a position below the log-area length lies in the log area. -/
theorem relativeLogPosToLogAreaOffset_lt {h r lola : Nat} (hh : h < lola) (hr : r < lola) :
    relativeLogPosToLogAreaOffset r h lola < lola := by
  rcases relativeLogPosToLogAreaOffset_cases r h lola with ⟨h1, h2⟩ | ⟨h1, h2⟩ <;> omega

/-- Distinct positions below the log-area length have distinct offsets. -/
theorem relativeLogPosToLogAreaOffset_injective {h r r' lola : Nat} (hr : r < lola)
    (hr' : r' < lola)
    (he : relativeLogPosToLogAreaOffset r h lola = relativeLogPosToLogAreaOffset r' h lola) :
    r = r' := by
  rcases relativeLogPosToLogAreaOffset_cases r h lola with ⟨h1, h2⟩ | ⟨h1, h2⟩ <;>
    rcases relativeLogPosToLogAreaOffset_cases r' h lola with ⟨h3, h4⟩ | ⟨h3, h4⟩ <;> omega

/-- In a region that holds the log area, `extract_log` reads each position of a log of at most
`lola` bytes from the region, never the default byte. -/
theorem getElem?_extractLog_of_lt {mem : List UInt8} {lola head len pos : Nat}
    (hmem : ABSOLUTE_POS_OF_LOG_AREA + lola ≤ mem.length) (hlen : len ≤ lola) (hpos : pos < len) :
    (extractLog mem lola head len)[pos]? =
      mem[ABSOLUTE_POS_OF_LOG_AREA + relativeLogPosToLogAreaOffset pos (head % lola) lola]? := by
  have hoff := relativeLogPosToLogAreaOffset_lt (Nat.mod_lt head (by omega)) (by omega : pos < lola)
  rw [getElem?_extractLog, if_pos hpos, List.getD_eq_getElem?_getD,
    List.getElem?_eq_getElem (by omega), Option.getD_some]

/-- The wrap of the log area is exact and stays in it. For a log area of `lola ≥ 1` bytes and
every head, the position `r < lola` past the head sits at offset `(head + r) % lola`, inside the
log area, at an offset that no other such position has. In a region that holds the log area,
`extract_log` reads position `pos` of a log of at most `lola` bytes at the address
`256 + relative_log_pos_to_log_area_offset(pos, head % lola, lola)`, inside the log area. -/
theorem log_area_wrap_is_exact (lola : Nat) (hlola : 1 ≤ lola) (head : Nat) :
    (∀ r, r < lola →
      relativeLogPosToLogAreaOffset r (head % lola) lola = (head + r) % lola ∧
        relativeLogPosToLogAreaOffset r (head % lola) lola < lola) ∧
    (∀ r r', r < lola → r' < lola →
      relativeLogPosToLogAreaOffset r (head % lola) lola =
        relativeLogPosToLogAreaOffset r' (head % lola) lola → r = r') ∧
    ∀ (mem : List UInt8) (log_length : Nat), ABSOLUTE_POS_OF_LOG_AREA + lola ≤ mem.length →
      log_length ≤ lola → ∀ pos, pos < log_length →
        ABSOLUTE_POS_OF_LOG_AREA ≤
            ABSOLUTE_POS_OF_LOG_AREA + relativeLogPosToLogAreaOffset pos (head % lola) lola ∧
          ABSOLUTE_POS_OF_LOG_AREA + relativeLogPosToLogAreaOffset pos (head % lola) lola <
            ABSOLUTE_POS_OF_LOG_AREA + lola ∧
          (extractLog mem lola head log_length)[pos]? =
            mem[ABSOLUTE_POS_OF_LOG_AREA + relativeLogPosToLogAreaOffset pos (head % lola) lola]? := by
  have hh : head % lola < lola := Nat.mod_lt head hlola
  refine ⟨fun r hr => ⟨relativeLogPosToLogAreaOffset_eq_mod head r lola (Nat.le_of_lt hr),
      relativeLogPosToLogAreaOffset_lt hh hr⟩,
    fun _ _ hr hr' he => relativeLogPosToLogAreaOffset_injective hr hr' he,
    fun mem log_length hmem hlen pos hpos => ⟨Nat.le_add_right _ _,
      Nat.add_lt_add_left (relativeLogPosToLogAreaOffset_lt hh (by omega)) _,
      getElem?_extractLog_of_lt hmem hlen hpos⟩⟩

/-- The largest sum that the one subtraction brings back into the log area: the head at offset
`lola - 1` and the position `lola - 1`. -/
theorem log_area_wrap_is_exact_at_the_largest_sum :
    relativeLogPosToLogAreaOffset 3 (7 % 4) 4 = (7 + 3) % 4 ∧
      relativeLogPosToLogAreaOffset 3 (7 % 4) 4 < 4 :=
  (log_area_wrap_is_exact 4 (by decide) 7).1 3 (by decide)

/-! ## Appending at the pending tail -/

section Append

variable {write₁ write₂ : List UInt8 → Nat → List UInt8 → List UInt8}
  {mem : List UInt8} {lola head k : Nat} {b : List UInt8}

/-- The writes of an append at `head + k` miss every position before `k`. -/
theorem writeToLogArea_getElem?_of_lt (hw₁ : WriteFrame write₁) (hw₂ : WriteFrame write₂)
    (hk : k + b.length ≤ lola) {r : Nat} (hr : r < k) :
    (writeToLogArea write₁ write₂ mem lola head k b)[ABSOLUTE_POS_OF_LOG_AREA +
        relativeLogPosToLogAreaOffset r (head % lola) lola]? =
      mem[ABSOLUTE_POS_OF_LOG_AREA + relativeLogPosToLogAreaOffset r (head % lola) lola]? := by
  have hh := Nat.mod_lt head (show 0 < lola by omega)
  have hr' := relativeLogPosToLogAreaOffset_cases r (head % lola) lola
  have ht := relativeLogPosToLogAreaOffset_cases k (head % lola) lola
  dsimp only [writeToLogArea]
  rw [← relativeLogPosToLogAreaOffset_eq_mod head k lola (by omega)]
  split
  · exact hw₁.frame _ _ _ _ (by omega)
  · rw [hw₂.frame _ _ _ _ (by simp; omega), hw₁.frame _ _ _ _ (by simp; omega)]

/-- Position `k + j` after the append holds byte `j` of the appended bytes. -/
theorem appendToLogArea_getElem?_tail (hmem : ABSOLUTE_POS_OF_LOG_AREA + lola ≤ mem.length)
    (hk : k + b.length ≤ lola) {j : Nat} (hj : j < b.length) :
    (appendToLogArea mem lola head k b)[ABSOLUTE_POS_OF_LOG_AREA +
        relativeLogPosToLogAreaOffset (k + j) (head % lola) lola]? = b[j]? := by
  have hh := Nat.mod_lt head (show 0 < lola by omega)
  have hr' := relativeLogPosToLogAreaOffset_cases (k + j) (head % lola) lola
  have ht := relativeLogPosToLogAreaOffset_cases k (head % lola) lola
  dsimp only [appendToLogArea, writeToLogArea]
  rw [← relativeLogPosToLogAreaOffset_eq_mod head k lola (by omega)]
  simp only [ABSOLUTE_POS_OF_LOG_AREA] at hmem ⊢
  split
  · rw [getElem?_updateContentsToReflectWrite_of_mem _ _ _ (by omega) (by omega) (by omega)]
    exact congrArg (b[·]?) (by omega)
  · by_cases hjt : j < lola - relativeLogPosToLogAreaOffset k (head % lola) lola
    · rw [getElem?_updateContentsToReflectWrite_of_not_mem _ _ _ (by simp; omega),
        getElem?_updateContentsToReflectWrite_of_mem _ _ _ (by omega) (by simp; omega)
          (by omega), List.getElem?_take_of_lt (by omega)]
      exact congrArg (b[·]?) (by omega)
    · rw [getElem?_updateContentsToReflectWrite_of_mem _ _ _ (by omega) (by simp; omega)
          (by simp; omega), List.getElem?_drop]
      exact congrArg (b[·]?) (by omega)

theorem appendToLogArea_getElem?_of_lt (hk : k + b.length ≤ lola) {r : Nat} (hr : r < k) :
    (appendToLogArea mem lola head k b)[ABSOLUTE_POS_OF_LOG_AREA +
        relativeLogPosToLogAreaOffset r (head % lola) lola]? =
      mem[ABSOLUTE_POS_OF_LOG_AREA + relativeLogPosToLogAreaOffset r (head % lola) lola]? :=
  writeToLogArea_getElem?_of_lt writeFrame_updateContentsToReflectWrite
    writeFrame_updateContentsToReflectWrite hk hr

theorem length_writeToLogArea (hw₁ : WriteFrame write₁) (hw₂ : WriteFrame write₂) :
    (writeToLogArea write₁ write₂ mem lola head k b).length = mem.length := by
  dsimp only [writeToLogArea]
  split <;> simp only [hw₁.length, hw₂.length]

/-- The writes into the log area miss every byte before it. -/
theorem writeToLogArea_getElem?_of_lt_logArea (hw₁ : WriteFrame write₁) (hw₂ : WriteFrame write₂)
    {i : Nat} (hi : i < ABSOLUTE_POS_OF_LOG_AREA) :
    (writeToLogArea write₁ write₂ mem lola head k b)[i]? = mem[i]? := by
  dsimp only [writeToLogArea]
  split
  · exact hw₁.frame _ _ _ _ (by omega)
  · rw [hw₂.frame _ _ _ _ (by omega), hw₁.frame _ _ _ _ (by omega)]

@[simp] theorem length_appendToLogArea : (appendToLogArea mem lola head k b).length = mem.length :=
  length_writeToLogArea writeFrame_updateContentsToReflectWrite
    writeFrame_updateContentsToReflectWrite

/-- Appending `b` at the pending tail `k` extends the log read up to there by exactly `b`. -/
theorem extractLog_appendToLogArea (hmem : ABSOLUTE_POS_OF_LOG_AREA + lola ≤ mem.length)
    (hk : k + b.length ≤ lola) :
    extractLog (appendToLogArea mem lola head k b) lola head (k + b.length) =
      extractLog mem lola head k ++ b := by
  apply List.ext_getElem?
  intro r
  rw [getElem?_extractLog, List.getElem?_append, length_extractLog, getElem?_extractLog]
  by_cases hr : r < k
  · rw [if_pos (by omega), if_pos hr, if_pos hr, List.getD_eq_getElem?_getD,
      List.getD_eq_getElem?_getD, appendToLogArea_getElem?_of_lt hk hr]
  · rw [if_neg hr]
    split
    · obtain ⟨j, rfl⟩ : ∃ j, r = k + j := ⟨r - k, by omega⟩
      rw [List.getD_eq_getElem?_getD, appendToLogArea_getElem?_tail hmem hk (by omega),
        Nat.add_sub_cancel_left, List.getElem?_eq_getElem (by omega), Option.getD_some]
    · rw [List.getElem?_eq_none (by omega)]

/-- Tentative appends at successive pending tails extend the log by all of them, in order. -/
theorem extractLog_appendAllToLogArea (bs : List (List UInt8))
    (hmem : ABSOLUTE_POS_OF_LOG_AREA + lola ≤ mem.length)
    (hk : k + bs.flatten.length ≤ lola) :
    extractLog (appendAllToLogArea mem lola head k bs) lola head (k + bs.flatten.length) =
      extractLog mem lola head k ++ bs.flatten := by
  induction bs generalizing mem k with
  | nil => simp [appendAllToLogArea]
  | cons b bs ih =>
    simp only [List.flatten_cons, List.length_append] at hk ⊢
    rw [appendAllToLogArea, ← Nat.add_assoc,
      ih (by rw [length_appendToLogArea]; exact hmem) (by omega),
      extractLog_appendToLogArea hmem (by omega), List.append_assoc]

end Append

/-! ## Recovery given the metadata -/

theorem recoverAbstractLogFromRegionGivenMetadata_eq_some {mem : List UInt8} {lola : U64}
    {head : U128} {len : U64} {s : AbstractLogState} :
    recoverAbstractLogFromRegionGivenMetadata mem lola head len = some s ↔
      len.toNat ≤ lola.toNat ∧ head.toNat + len.toNat ≤ U128_MAX ∧
        s = ⟨head.toNat, extractLog mem lola.toNat head.toNat len.toNat, [], lola.toNat⟩ := by
  unfold recoverAbstractLogFromRegionGivenMetadata
  split
  · simp only [false_iff, reduceCtorEq]
    omega
  · simp only [Option.some.injEq]
    constructor
    · rintro rfl; exact ⟨by omega, by omega, rfl⟩
    · rintro ⟨-, -, rfl⟩; rfl

/-- Appending at the pending tail extends the extracted log by exactly the appended bytes, at
any head, pending length and split point; so after tentative appends `b₁, …, bⱼ` and the
commit's switch of the log length, recovery gives the old log followed by `b₁ ++ … ++ bⱼ`. -/
theorem tentative_appends_extend_the_log :
    (∀ (mem : List UInt8) (lola head k : Nat) (b : List UInt8),
      ABSOLUTE_POS_OF_LOG_AREA + lola ≤ mem.length → k + b.length ≤ lola →
        extractLog (appendToLogArea mem lola head k b) lola head (k + b.length) =
          extractLog mem lola head k ++ b) ∧
    (∀ (mem : List UInt8) (lola : U64) (head : U128) (len : U64) (bs : List (List UInt8))
      (s : AbstractLogState),
      recoverAbstractLogFromRegionGivenMetadata mem lola head len = some s →
      ABSOLUTE_POS_OF_LOG_AREA + lola.toNat ≤ mem.length →
      len.toNat + bs.flatten.length ≤ lola.toNat →
      head.toNat + len.toNat + bs.flatten.length ≤ U128_MAX →
        recoverAbstractLogFromRegionGivenMetadata
            (appendAllToLogArea mem lola.toNat head.toNat len.toNat bs) lola head
            (BitVec.ofNat 64 (len.toNat + bs.flatten.length)) =
          some { s with log := s.log ++ bs.flatten }) := by
  refine ⟨fun mem lola head k b hmem hk => extractLog_appendToLogArea hmem hk, ?_⟩
  intro mem lola head len bs s hs hmem hk hmax
  obtain ⟨-, -, rfl⟩ := recoverAbstractLogFromRegionGivenMetadata_eq_some.1 hs
  have hlola := lola.isLt
  have hnew : (BitVec.ofNat 64 (len.toNat + bs.flatten.length)).toNat =
      len.toNat + bs.flatten.length := by
    rw [BitVec.toNat_ofNat, Nat.mod_eq_of_lt (by omega)]
  refine recoverAbstractLogFromRegionGivenMetadata_eq_some.2 ⟨by omega, by omega, ?_⟩
  rw [hnew, extractLog_appendAllToLogArea bs hmem hk]

/-- An append past the wrap point of a 4-byte log area, and two appends then a commit. -/
theorem tentative_appends_extend_the_log_at_the_wrap :
    (extractLog (appendToLogArea (List.replicate 260 0) 4 6 1 [1, 2, 3]) 4 6 (1 + [1, 2, 3].length) =
      extractLog (List.replicate 260 0) 4 6 1 ++ [1, 2, 3]) ∧
    recoverAbstractLogFromRegionGivenMetadata (List.replicate 260 0) 4 6 1 =
      some ⟨6, [0], [], 4⟩ ∧
    recoverAbstractLogFromRegionGivenMetadata
        (appendAllToLogArea (List.replicate 260 0) 4 6 1 [[1, 2], [3]]) 4 6
        (BitVec.ofNat 64 (1 + [[(1 : UInt8), 2], [3]].flatten.length)) =
      some ⟨6, [0] ++ [[(1 : UInt8), 2], [3]].flatten, [], 4⟩ :=
  have hs : recoverAbstractLogFromRegionGivenMetadata (List.replicate 260 0) 4 6 1 =
      some ⟨6, [0], [], 4⟩ := rfl
  ⟨tentative_appends_extend_the_log.1 _ 4 6 1 _ (by rw [List.length_replicate]; decide)
      (by decide), hs,
    tentative_appends_extend_the_log.2 _ 4 6 1 _ _ hs (by rw [List.length_replicate]; decide)
      (by decide)
      (by simp [U128_MAX])⟩

/-! ## Advancing the head -/

/-- The log read from a later head is the old log with its first `new_head - head` bytes
dropped. -/
theorem extractLog_advance_head (mem : List UInt8) {lola head len new_head : Nat}
    (hlen : len ≤ lola) (h1 : head ≤ new_head) (h2 : new_head ≤ head + len) :
    extractLog mem lola new_head (head + len - new_head) =
      extractBytes (extractLog mem lola head len) (new_head - head) (head + len - new_head) := by
  apply List.ext_getElem?
  intro r
  rw [getElem?_extractLog_of_le r (by omega), getElem?_extractBytes,
    getElem?_extractLog_of_le _ hlen]
  by_cases hr : r < head + len - new_head
  · rw [if_pos hr, if_pos hr, if_pos (by omega), show head + (new_head - head + r) = new_head + r by
      omega]
  · rw [if_neg hr, if_neg hr]

/-- Advancing the head keeps exactly the suffix of the log: the log read from `new_head` is
the old log past its first `new_head - head` bytes, wherever the wrap point falls; so switching
the log metadata to `new_head` and `head + log_length - new_head` recovers that suffix. -/
theorem advance_head_keeps_the_suffix :
    (∀ (mem : List UInt8) (lola head len new_head : Nat),
      1 ≤ lola → ABSOLUTE_POS_OF_LOG_AREA + lola ≤ mem.length → len ≤ lola →
      head ≤ new_head → new_head ≤ head + len →
        extractLog mem lola new_head (head + len - new_head) =
          extractBytes (extractLog mem lola head len) (new_head - head) (head + len - new_head)) ∧
    (∀ (mem : List UInt8) (lola : U64) (head new_head : U128) (len : U64) (s : AbstractLogState),
      recoverAbstractLogFromRegionGivenMetadata mem lola head len = some s →
      head.toNat ≤ new_head.toNat → new_head.toNat ≤ head.toNat + len.toNat →
        recoverAbstractLogFromRegionGivenMetadata mem lola new_head
            (BitVec.ofNat 64 (head.toNat + len.toNat - new_head.toNat)) =
          some { s with head := new_head.toNat, log := s.log.drop (new_head.toNat - head.toNat) }) := by
  refine ⟨fun mem lola head len new_head _ _ hlen h1 h2 => extractLog_advance_head mem hlen h1 h2, ?_⟩
  intro mem lola head new_head len s hs h1 h2
  obtain ⟨hlen, hmax, rfl⟩ := recoverAbstractLogFromRegionGivenMetadata_eq_some.1 hs
  have hnew : (BitVec.ofNat 64 (head.toNat + len.toNat - new_head.toNat)).toNat =
      head.toNat + len.toNat - new_head.toNat := by
    rw [BitVec.toNat_ofNat, Nat.mod_eq_of_lt (by have := len.isLt; omega)]
  refine recoverAbstractLogFromRegionGivenMetadata_eq_some.2 ⟨by omega, by omega, ?_⟩
  rw [hnew, extractLog_advance_head mem hlen h1 h2, extractBytes,
    List.take_of_length_le (by simp; omega)]

/-- A region whose 4-byte log area holds the bytes 10, 11, 12 and 13. -/
def sampleLogArea : List UInt8 := List.replicate 256 0 ++ [10, 11, 12, 13]

/-- The log `[13, 10, 11, 12]` read from head 3 of that log area, its head advanced past the
wrap point to 5: the suffix `[11, 12]` remains. -/
theorem advance_head_keeps_the_suffix_past_the_wrap :
    extractLog sampleLogArea 4 5 (3 + 4 - 5) =
        extractBytes (extractLog sampleLogArea 4 3 4) (5 - 3) (3 + 4 - 5) ∧
      extractLog sampleLogArea 4 5 (3 + 4 - 5) = [11, 12] ∧
    recoverAbstractLogFromRegionGivenMetadata sampleLogArea 4 3 4 =
      some ⟨3, [13, 10, 11, 12], [], 4⟩ ∧
    recoverAbstractLogFromRegionGivenMetadata sampleLogArea 4 5
        (BitVec.ofNat 64 ((3 : U128).toNat + (4 : U64).toNat - (5 : U128).toNat)) =
      some ⟨(5 : U128).toNat, [13, 10, 11, 12].drop ((5 : U128).toNat - (3 : U128).toNat), [], 4⟩ :=
  have hs : recoverAbstractLogFromRegionGivenMetadata sampleLogArea 4 3 4 =
      some ⟨3, [13, 10, 11, 12], [], 4⟩ := rfl
  ⟨advance_head_keeps_the_suffix.1 _ 4 3 4 5 (by decide)
      (by rw [sampleLogArea, List.length_append, List.length_replicate]; decide) (by decide)
      (by decide) (by decide), rfl, hs,
    advance_head_keeps_the_suffix.2 _ 4 3 5 4 _ hs (by decide) (by decide)⟩

end verified_storage.multilog
