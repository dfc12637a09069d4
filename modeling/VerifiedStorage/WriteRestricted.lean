-- The permission gate of `pmemspec_t.rs`: `WriteRestrictedPersistentMemory::write` admits a
-- write only when every crash state of that one write, on top of the current contents, is
-- approved. Over a run of admitted writes this approves every crash state in which the writes
-- before the one in flight are complete, and not more: two writes in flight at once can
-- leave contents that no permission check saw.
import VerifiedStorage.PmemSpec

namespace verified_storage

/-! ## The gate -/

/-- `u64::MAX`. -/
def U64_MAX : Nat := 2 ^ 64 - 1

/-- Modelled from the spec: a permission of trait `CheckPermission<Seq<u8>>` (in `sccf`, §4.D),
the contents it allows a crash to leave. -/
structure Permission where
  check_permission : List UInt8 → Bool

/-- `WriteRestrictedPersistentMemory`, by its view: the contents of the memory it wraps. -/
structure WriteRestrictedPersistentMemory where
  view : List UInt8

namespace WriteRestrictedPersistentMemory

/-- The `requires` of `write` besides `inv`: the write fits, and `perm` approves its every
crash state on the current contents. -/
def WriteAllowed (self : WriteRestrictedPersistentMemory) (addr : Nat) (bytes : List UInt8)
    (perm : Permission) : Prop :=
  addr + bytes.length ≤ self.view.length ∧ addr + bytes.length ≤ U64_MAX ∧
    ∀ chunks_flushed : Nat → Bool, perm.check_permission
      (updateContentsToReflectPartiallyFlushedWrite self.view addr bytes chunks_flushed) = true

/-- `write`: the view becomes `update_contents_to_reflect_write(old(self)@, addr, bytes@)`. -/
def write (self : WriteRestrictedPersistentMemory) (addr : Nat) (bytes : List UInt8) :
    WriteRestrictedPersistentMemory :=
  ⟨updateContentsToReflectWrite self.view addr bytes⟩

/-- A run of writes, each admitted on the view that the earlier ones left. -/
def RunAllowed (perm : Permission) :
    WriteRestrictedPersistentMemory → List (Nat × List UInt8) → Prop
  | _, [] => True
  | self, (addr, bytes) :: ws => self.WriteAllowed addr bytes perm ∧
      RunAllowed perm (self.write addr bytes) ws

end WriteRestrictedPersistentMemory

/-! ## Crash states of a run -/

/-- Modelled from the spec: the contents that a crash leaves after the writes `ws` issued with
no flush between them (§4.A), write `j` having reached the media in the chunks of `Fs j`. -/
def runCrashState : List UInt8 → List (Nat × List UInt8) → (Nat → Nat → Bool) → List UInt8
  | s, [], _ => s
  | s, (addr, bytes) :: ws, Fs =>
    runCrashState (updateContentsToReflectPartiallyFlushedWrite s addr bytes (Fs 0)) ws
      fun j => Fs (j + 1)

/-- The chunk sets of a crash with write `k` in flight: the writes before it complete, it in
the chunks of `F`, none after it. -/
def inFlight (k : Nat) (F : Nat → Bool) : Nat → Nat → Bool := fun j =>
  if j < k then fun _ => true else if j = k then F else fun _ => false

theorem runCrashState_none (s : List UInt8) (ws : List (Nat × List UInt8)) :
    runCrashState s ws (fun _ _ => false) = s := by
  induction ws generalizing s with
  | nil => rfl
  | cons w ws ih =>
    rw [runCrashState, updateContentsToReflectPartiallyFlushedWrite_none]
    exact ih s

theorem inFlight_zero (F : Nat → Bool) : inFlight 0 F 0 = F := rfl

theorem inFlight_zero_succ (F : Nat → Bool) : (fun j => inFlight 0 F (j + 1)) = fun _ _ => false := by
  funext j
  simp [inFlight]

theorem inFlight_succ (k : Nat) (F : Nat → Bool) :
    inFlight (k + 1) F 0 = (fun _ => true) ∧ (fun j => inFlight (k + 1) F (j + 1)) = inFlight k F := by
  refine ⟨by simp [inFlight], funext fun j => ?_⟩
  simp only [inFlight, Nat.add_lt_add_iff_right, Nat.add_right_cancel_iff]

/-! ## What the gate guarantees over a run -/

open WriteRestrictedPersistentMemory in
/-- Over a run of admitted writes, `perm` approves every crash state in which the writes
before the one in flight are complete; with `k` past the run, the final contents. -/
theorem gate_approves_crash_states_with_one_write_in_flight :
    ∀ (perm : Permission) (s0 : List UInt8) (ws : List (Nat × List UInt8)),
      perm.check_permission s0 = true → RunAllowed perm ⟨s0⟩ ws →
      ∀ (k : Nat) (F : Nat → Bool),
        perm.check_permission (runCrashState s0 ws (inFlight k F)) = true := by
  intro perm s0 ws
  induction ws generalizing s0 with
  | nil => exact fun h _ _ _ => h
  | cons w ws ih =>
    obtain ⟨addr, bytes⟩ := w
    rintro - ⟨hw, hrun⟩ (_ | k) F
    · rw [runCrashState, inFlight_zero, inFlight_zero_succ, runCrashState_none]
      exact hw.2.2 F
    · have hfull := hw.2.2 fun _ => true
      rw [updateContentsToReflectPartiallyFlushedWrite_all] at hfull
      rw [runCrashState, (inFlight_succ k F).1, (inFlight_succ k F).2,
        updateContentsToReflectPartiallyFlushedWrite_all]
      exact ih _ hfull hrun k F

/-- Two writes at address 0 of 16 zero bytes, sixteen ones and then a two, under the
permission that refuses only a two at byte 0 with a zero still at byte 8: the gate admits
both. -/
theorem runAllowed_two_writes :
    WriteRestrictedPersistentMemory.RunAllowed ⟨fun s => s.getD 0 0 != 2 || s.getD 8 0 != 0⟩
      ⟨List.replicate 16 0⟩ [(0, List.replicate 16 1), (0, [2])] := by
  refine ⟨⟨by decide, by decide, fun F => ?_⟩, ⟨by decide, by decide, fun F => ?_⟩, trivial⟩
  · have h0 : (updateContentsToReflectPartiallyFlushedWrite (List.replicate 16 0) 0
        (List.replicate 16 1) F)[0]? = if F 0 then some 1 else some 0 := by
      rw [getElem?_updateContentsToReflectPartiallyFlushedWrite]
      rfl
    simp only [List.getD_eq_getElem?_getD, h0]
    cases F 0 <;> rfl
  · have h8 : (updateContentsToReflectPartiallyFlushedWrite
        (updateContentsToReflectWrite (List.replicate 16 0) 0 (List.replicate 16 1)) 0 [2] F)[8]? =
        some 1 := by
      rw [getElem?_updateContentsToReflectPartiallyFlushedWrite_of_not_mem _ _ _ _
        (Or.inr (by decide))]
      rfl
    simp only [WriteRestrictedPersistentMemory.write, List.getD_eq_getElem?_getD, h8]
    simp

/-- On the two writes, the crash state with the second write in flight on the first complete is
approved. -/
theorem gate_approves_crash_states_with_one_write_in_flight_on_two_writes :
    Permission.check_permission ⟨fun s => s.getD 0 0 != 2 || s.getD 8 0 != 0⟩
      (runCrashState (List.replicate 16 0) [(0, List.replicate 16 1), (0, [2])]
        (inFlight 1 fun _ => true)) = true :=
  gate_approves_crash_states_with_one_write_in_flight _ _ _ rfl runAllowed_two_writes 1 _

/-- The gate does not approve every crash state of a run. On the two writes, with the chunks of
the first lost and those of the second flushed, byte 0 holds a two while byte 8 still holds a
zero: the permission refuses these contents, although it admitted both writes. -/
theorem two_writes_in_flight_escape_the_gate :
    ¬ ∀ (perm : Permission) (s0 : List UInt8) (ws : List (Nat × List UInt8)),
      perm.check_permission s0 = true →
      WriteRestrictedPersistentMemory.RunAllowed perm ⟨s0⟩ ws →
      ∀ Fs : Nat → Nat → Bool, perm.check_permission (runCrashState s0 ws Fs) = true := by
  intro h
  have hcrash := h _ _ _ rfl runAllowed_two_writes fun j _ => j != 0
  exact absurd hcrash (by decide)

end verified_storage
