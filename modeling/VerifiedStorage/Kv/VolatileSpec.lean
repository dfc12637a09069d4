-- The volatile index of the key-value store (`kv/volatile/volatilespec_t.rs`): each key maps to
-- the offset of its item and to the nodes of its list, each node keyed by the range of logical
-- list indexes it holds. Appending a node keeps that keying; appending an entry to the last node
-- and trimming the front of the list do not. The values that vstd leaves unspecified (a map read
-- outside its domain, `unwrap` of `None`) are parameters, and every result holds for all of them.
import Mathlib.Tactic.Common

namespace verified_storage.kv

/-! ## vstd maps and `choose` -/

/-- A vstd `Map`: the value of each key of its domain, which may be infinite. -/
abbrev SpecMap (K V : Type) := K → Option V

namespace SpecMap

variable {K V : Type}

/-- `contains_key`. -/
def containsKey (m : SpecMap K V) (k : K) : Bool := (m k).isSome

/-- `m[k]`. Outside the domain vstd leaves the value unspecified: here it is `unspecified m k`,
and the results hold for every `unspecified`. -/
def index (m : SpecMap K V) (unspecified : SpecMap K V → K → V) (k : K) : V :=
  (m k).getD (unspecified m k)

/-- `Map::new`: the keys of `dom`, each with its value under `f`. -/
def new (dom : K → Bool) (f : K → V) : SpecMap K V :=
  fun k => if dom k then some (f k) else none

theorem containsKey_iff {m : SpecMap K V} {k : K} : m.containsKey k = true ↔ ∃ v, m k = some v :=
  Option.isSome_iff_exists

theorem index_of_eq_some {m : SpecMap K V} {k : K} {v : V} (h : m k = some v)
    (unspecified : SpecMap K V → K → V) : m.index unspecified k = v := by
  rw [index, h, Option.getD_some]

@[simp] theorem containsKey_new {dom : K → Bool} {f : K → V} {k : K} :
    (SpecMap.new dom f).containsKey k = dom k := by
  cases h : dom k <;> simp [new, containsKey, h]

/-- `remove_keys`, the keys removed given as a predicate. -/
def removeKeys (m : SpecMap K V) (keys : K → Bool) : SpecMap K V :=
  fun k' => if keys k' then none else m k'

@[simp] theorem containsKey_removeKeys {m : SpecMap K V} {keys : K → Bool} {k : K} :
    (m.removeKeys keys).containsKey k = true ↔ keys k = false ∧ m.containsKey k = true := by
  cases h : keys k <;> simp [removeKeys, containsKey, h]

variable [DecidableEq K]

def insert (m : SpecMap K V) (k : K) (v : V) : SpecMap K V :=
  fun k' => if k' = k then some v else m k'

def remove (m : SpecMap K V) (k : K) : SpecMap K V :=
  fun k' => if k' = k then none else m k'

@[simp] theorem insert_self (m : SpecMap K V) (k : K) (v : V) : m.insert k v k = some v :=
  if_pos rfl

@[simp] theorem insert_ne (m : SpecMap K V) {k k' : K} (v : V) (h : k' ≠ k) :
    m.insert k v k' = m k' :=
  if_neg h

theorem containsKey_insert {m : SpecMap K V} {k k' : K} {v : V} :
    (m.insert k v).containsKey k' = true ↔ k' = k ∨ m.containsKey k' = true := by
  by_cases h : k' = k
  · simp [containsKey, h]
  · simp [containsKey, insert_ne _ _ h, h]

@[simp] theorem containsKey_remove {m : SpecMap K V} {k k' : K} :
    (m.remove k).containsKey k' = true ↔ k' ≠ k ∧ m.containsKey k' = true := by
  by_cases h : k' = k <;> simp [remove, containsKey, h]

end SpecMap

/-- `choose` over ranges of list indexes: a range that satisfies the predicate whenever one
does. The results hold for every such choice. -/
abbrev Choose : Type := (Int × Int → Bool) → Int × Int

def Choose.Lawful (ch : Choose) : Prop :=
  ∀ p : Int × Int → Bool, (∃ r, p r = true) → p (ch p) = true

/-! ## The index -/

structure ListNodeIndexEntry where
  start_index : Int
  live_index : Int
  physical_offset : Int
  num_entries : Int
  deriving DecidableEq, Repr

/-- `append_entry`: one more entry in the node. -/
def ListNodeIndexEntry.appendEntry (self : ListNodeIndexEntry) : ListNodeIndexEntry :=
  ⟨self.start_index, self.live_index, self.physical_offset, self.num_entries + 1⟩

structure VolatileKvIndexEntry where
  item_offset : Int
  list_node_offsets : SpecMap (Int × Int) ListNodeIndexEntry
  list_len : Int

/-- The values that vstd leaves unspecified and that the index reads: `m[k]` of a key outside
the domain of the map of entries or of a map of nodes, and `unwrap` of `None`. The results hold
for every choice of them. -/
structure Unspecified (K : Type) where
  entry : SpecMap K VolatileKvIndexEntry → K → VolatileKvIndexEntry
  node : SpecMap (Int × Int) ListNodeIndexEntry → Int × Int → ListNodeIndexEntry
  unwrap : VolatileKvIndexEntry

structure VolatileKvIndexView (K : Type) where
  contents : SpecMap K VolatileKvIndexEntry
  list_entries_per_node : Int

namespace VolatileKvIndexView

variable {K : Type} [DecidableEq K] (self : VolatileKvIndexView K) (u : Unspecified K)
  (ch : Choose)

/-- `spec_index`, written `self[key]`. -/
def specIndex (key : K) : Option VolatileKvIndexEntry :=
  if self.contents.containsKey key then some (self.contents.index u.entry key) else none

def containsKey (key : K) : Bool := (self.specIndex u key).isSome

/-- `insert_item_offset`: a key with its item and an empty list. -/
def insertItemOffset (key : K) (item_offset : Int) : VolatileKvIndexView K :=
  ⟨self.contents.insert key ⟨item_offset, fun _ => none, 0⟩, self.list_entries_per_node⟩

/-- `append_node_offset`: a new node holding the one entry at `start_index`. -/
def appendNodeOffset (key : K) (node_offset start_index : Int) : VolatileKvIndexView K :=
  let current_entry := self.contents.index u.entry key
  ⟨self.contents.insert key
      ⟨current_entry.item_offset,
        current_entry.list_node_offsets.insert (start_index, start_index + 1)
          ⟨start_index, 0, node_offset, 1⟩,
        current_entry.list_len + 1⟩,
    self.list_entries_per_node⟩

/-- `get_node_view`: a range of the list of `key` that holds `index`, and its node. -/
def getNodeView (key : K) (index : Int) : (Int × Int) × ListNodeIndexEntry :=
  let index_entry := self.contents.index u.entry key
  let range := ch fun k =>
    decide (k.1 ≤ index ∧ index < k.2) && index_entry.list_node_offsets.containsKey k
  (range, index_entry.list_node_offsets.index u.node range)

/-- `get_node_offset`. -/
def getNodeOffset (key : K) (index : Int) : Int :=
  (self.getNodeView u ch key index).2.physical_offset

/-- `list_len`. -/
def listLen (key : K) : Int := ((self.specIndex u key).getD u.unwrap).list_len

/-- `append_to_list`: one more entry in the node that holds the last index. -/
def appendToList (key : K) : VolatileKvIndexView K :=
  let old_index_entry := self.contents.index u.entry key
  let node_view := self.getNodeView u ch key (old_index_entry.list_len - 1)
  let range := node_view.1
  let new_node_view := node_view.2.appendEntry
  let new_index_entry : VolatileKvIndexEntry :=
    ⟨old_index_entry.item_offset, old_index_entry.list_node_offsets.insert range new_node_view,
      old_index_entry.list_len + 1⟩
  ⟨self.contents.insert key new_index_entry, self.list_entries_per_node⟩

/-- `trim_list`: the first `trim_length` entries of the list removed, and the remaining nodes
re-keyed. The node re-keyed to `(i, j)` is read at `(i, j)`, before the shift. -/
def trimList (key : K) (trim_length : Int) : VolatileKvIndexView K :=
  let entry := self.contents.index u.entry key
  let nodes_to_remove := fun k : Int × Int =>
    decide (k.1 ≤ k.2 ∧ k.2 < trim_length) && entry.list_node_offsets.containsKey k
  let node_view := self.getNodeView u ch key trim_length
  let range_key := node_view.1
  let node_to_trim_internally := node_view.2
  let internal_trim_size := trim_length - node_to_trim_internally.start_index
  let trimmed_entry : ListNodeIndexEntry :=
    ⟨0, node_to_trim_internally.live_index + internal_trim_size,
      node_to_trim_internally.physical_offset,
      node_to_trim_internally.num_entries - internal_trim_size⟩
  let new_node_map := (entry.list_node_offsets.removeKeys nodes_to_remove).remove range_key
  let shifted_node_map := SpecMap.new
    (fun k => new_node_map.containsKey (k.1 + trim_length, k.2 + trim_length))
    (fun k =>
      let entry := new_node_map.index u.node k
      ⟨k.1, entry.live_index, entry.physical_offset, entry.num_entries⟩)
  let final_node_map := shifted_node_map.insert range_key trimmed_entry
  ⟨self.contents.insert key ⟨entry.item_offset, final_node_map, entry.list_len - trim_length⟩,
    self.list_entries_per_node⟩

/-- `remove`. -/
def remove (key : K) : VolatileKvIndexView K :=
  ⟨self.contents.remove key, self.list_entries_per_node⟩

end VolatileKvIndexView

/-! ## Nodes keyed by the ranges they hold -/

namespace VolatileKvIndexEntry

/-- The nodes of `e` are keyed by the ranges of logical indexes they hold: the ranges are
disjoint, they cover the range `[0, list_len)`, and the node at `(i, j)` starts at `i` and holds
`j - i` entries. -/
structure WellFormed (e : VolatileKvIndexEntry) : Prop where
  list_len_nonneg : 0 ≤ e.list_len
  disjoint : ∀ r r' x, e.list_node_offsets.containsKey r = true →
    e.list_node_offsets.containsKey r' = true → r.1 ≤ x → x < r.2 → r'.1 ≤ x → x < r'.2 → r = r'
  cover : ∀ x, 0 ≤ x ∧ x < e.list_len ↔
    ∃ r, e.list_node_offsets.containsKey r = true ∧ r.1 ≤ x ∧ x < r.2
  nodes : ∀ r n, e.list_node_offsets r = some n → n.start_index = r.1 ∧ n.num_entries = r.2 - r.1

/-- `view` is a node of `e` with its range, and the range holds the logical index `x`. -/
def Holds (e : VolatileKvIndexEntry) (x : Int) (view : (Int × Int) × ListNodeIndexEntry) : Prop :=
  e.list_node_offsets view.1 = some view.2 ∧ view.1.1 ≤ x ∧ x < view.1.2

variable {e : VolatileKvIndexEntry}

/-- The entry of a key just inserted, with an empty list. -/
theorem WellFormed.empty (item_offset : Int) : WellFormed ⟨item_offset, fun _ => none, 0⟩ where
  list_len_nonneg := Int.le_refl 0
  disjoint _ _ _ hr := nomatch hr
  cover _ := ⟨fun ⟨h0, h1⟩ => absurd (Int.lt_of_le_of_lt h0 h1) (Int.lt_irrefl 0),
    fun ⟨_, hr, _⟩ => nomatch hr⟩
  nodes _ _ hn := nomatch hn

/-- A range that holds an index of a well-formed entry lies in `[0, list_len)`. -/
theorem WellFormed.lt_of_containsKey (he : e.WellFormed) {r : Int × Int} {x : Int}
    (hr : e.list_node_offsets.containsKey r = true) (h1 : r.1 ≤ x) (h2 : x < r.2) :
    0 ≤ x ∧ x < e.list_len :=
  (he.cover x).2 ⟨r, hr, h1, h2⟩

/-- Appending a node that holds the index `list_len` keeps the entry well formed. -/
theorem WellFormed.insert_last (he : e.WellFormed) (node_offset : Int) :
    WellFormed ⟨e.item_offset, e.list_node_offsets.insert (e.list_len, e.list_len + 1)
      ⟨e.list_len, 0, node_offset, 1⟩, e.list_len + 1⟩ where
  list_len_nonneg := by have := he.list_len_nonneg; dsimp only; omega
  disjoint r r' x hr hr' h1 h2 h1' h2' := by
    rcases SpecMap.containsKey_insert.1 hr with rfl | hr <;>
      rcases SpecMap.containsKey_insert.1 hr' with rfl | hr'
    · rfl
    · exact absurd (he.lt_of_containsKey hr' h1' h2').2 (by simp only at h1; omega)
    · exact absurd (he.lt_of_containsKey hr h1 h2).2 (by simp only at h1'; omega)
    · exact he.disjoint r r' x hr hr' h1 h2 h1' h2'
  cover x := by
    simp only [SpecMap.containsKey_insert]
    constructor
    · rintro ⟨h0, hx⟩
      by_cases hl : x < e.list_len
      · obtain ⟨r, hr, h1, h2⟩ := (he.cover x).1 ⟨h0, hl⟩
        exact ⟨r, .inr hr, h1, h2⟩
      · exact ⟨_, .inl rfl, by simp only; omega, by simp only; omega⟩
    · rintro ⟨r, rfl | hr, h1, h2⟩
      · have := he.list_len_nonneg
        simp only at h1 h2
        omega
      · have := he.lt_of_containsKey hr h1 h2
        omega
  nodes r n hn := by
    by_cases h : r = (e.list_len, e.list_len + 1)
    · subst h
      obtain rfl := Option.some.inj ((SpecMap.insert_self _ _ _).symm.trans hn)
      exact ⟨rfl, by simp only; omega⟩
    · exact he.nodes r n ((SpecMap.insert_ne _ _ h).symm.trans hn)

/-- A well-formed entry has no node whose range holds `list_len`. -/
theorem WellFormed.not_holds_list_len (he : e.WellFormed) (view : (Int × Int) × ListNodeIndexEntry) :
    ¬ e.Holds e.list_len view := fun ⟨hn, h1, h2⟩ =>
  absurd (he.lt_of_containsKey (SpecMap.containsKey_iff.2 ⟨_, hn⟩) h1 h2).2 (Int.lt_irrefl e.list_len)

end VolatileKvIndexEntry


namespace VolatileKvIndexView

open VolatileKvIndexEntry

variable {K : Type} (ch : Choose) (v : VolatileKvIndexView K) (u : Unspecified K) {k : K}
  {e : VolatileKvIndexEntry}

/-- `get_node_view` on a well-formed entry, with `choose` lawful, returns a node whose range
holds the index. -/
theorem getNodeView_holds (hch : ch.Lawful) (hk : v.contents k = some e) (he : e.WellFormed)
    {x : Int} (hx : 0 ≤ x ∧ x < e.list_len) : e.Holds x (v.getNodeView u ch k x) := by
  obtain ⟨r, hr, h1, h2⟩ := (he.cover x).1 hx
  have hp := hch (fun r => decide (r.1 ≤ x ∧ x < r.2) && e.list_node_offsets.containsKey r)
    ⟨r, by simp only [h1, h2, hr, and_self, decide_True, Bool.and_self]⟩
  simp only [Bool.and_eq_true, decide_eq_true_eq] at hp
  obtain ⟨⟨h1', h2'⟩, hc⟩ := hp
  obtain ⟨n, hn⟩ := SpecMap.containsKey_iff.1 hc
  simp only [getNodeView, SpecMap.index_of_eq_some hk]
  exact ⟨by rw [SpecMap.index_of_eq_some hn, hn], h1', h2'⟩

theorem listLen_of_eq_some (hk : v.contents k = some e) : v.listLen u k = e.list_len := by
  simp [listLen, specIndex, SpecMap.containsKey, SpecMap.index, hk]

variable [DecidableEq K]

/-- Each operation on the list of `k` leaves the entries of the other keys as they were. -/
theorem contents_of_ne {k' : K} (h : k' ≠ k) (node_offset start_index t : Int) :
    (v.appendNodeOffset u k node_offset start_index).contents k' = v.contents k' ∧
      (v.appendToList u ch k).contents k' = v.contents k' ∧
      (v.trimList u ch k t).contents k' = v.contents k' :=
  ⟨SpecMap.insert_ne _ _ h, SpecMap.insert_ne _ _ h, SpecMap.insert_ne _ _ h⟩

theorem appendNodeOffset_eq (hk : v.contents k = some e) (node_offset start_index : Int) :
    v.appendNodeOffset u k node_offset start_index =
      ⟨v.contents.insert k ⟨e.item_offset, e.list_node_offsets.insert (start_index, start_index + 1)
        ⟨start_index, 0, node_offset, 1⟩, e.list_len + 1⟩, v.list_entries_per_node⟩ := by
  simp only [appendNodeOffset, SpecMap.index_of_eq_some hk]

theorem contents_appendNodeOffset (hk : v.contents k = some e) (node_offset start_index : Int) :
    (v.appendNodeOffset u k node_offset start_index).contents k =
      some ⟨e.item_offset, e.list_node_offsets.insert (start_index, start_index + 1)
        ⟨start_index, 0, node_offset, 1⟩, e.list_len + 1⟩ := by
  rw [v.appendNodeOffset_eq u hk]
  exact SpecMap.insert_self _ _ _

/-- After `append_to_list` the list is one longer, but the ranges are those of before: no node
holds the new last index, so the entry is not well formed. -/
theorem appendToList_not_wellFormed (hch : ch.Lawful) (hk : v.contents k = some e)
    (he : e.WellFormed) (hlen : 1 ≤ e.list_len) :
    ∃ e', (v.appendToList u ch k).contents k = some e' ∧ e'.list_len = e.list_len + 1 ∧
      (∀ view, ¬ e'.Holds e.list_len view) ∧ ¬ e'.WellFormed := by
  obtain ⟨⟨range, node⟩, hview⟩ : ∃ view, v.getNodeView u ch k (e.list_len - 1) = view :=
    ⟨_, rfl⟩
  have hv : e.Holds (e.list_len - 1) (range, node) :=
    hview ▸ v.getNodeView_holds ch u hch hk he ⟨by omega, by omega⟩
  have hno : ∀ view, ¬ Holds ⟨e.item_offset, e.list_node_offsets.insert range node.appendEntry,
      e.list_len + 1⟩ e.list_len view := by
    rintro view ⟨hn, h1, h2⟩
    by_cases hr : view.1 = range
    · subst hr
      exact Int.lt_irrefl _ (he.lt_of_containsKey (SpecMap.containsKey_iff.2 ⟨_, hv.1⟩) h1 h2).2
    · exact he.not_holds_list_len view ⟨(SpecMap.insert_ne _ _ hr).symm.trans hn, h1, h2⟩
  refine ⟨_, by simp only [appendToList, SpecMap.index_of_eq_some hk, hview, SpecMap.insert_self],
    rfl, hno, fun he' => ?_⟩
  obtain ⟨r, hr, h1, h2⟩ := (he'.cover e.list_len).1 ⟨by omega, by simp only; omega⟩
  obtain ⟨n, hn⟩ := SpecMap.containsKey_iff.1 hr
  exact hno (r, n) ⟨hn, h1, h2⟩

/-- After `trim_list` by `t > 0`, the node that held index `t` stays at its old range with start
index 0, so the entry is not well formed; and a node whose range `(i, t)` ends at `t`, all of
whose entries are trimmed, is kept, re-keyed to `(i - t, 0)`, since only the nodes `(i, j)` with
`j < t` are removed. -/
theorem trimList_not_wellFormed (hch : ch.Lawful) (hk : v.contents k = some e) (he : e.WellFormed)
    {t : Int} (ht : 0 < t) (htl : t < e.list_len) :
    ∃ e', (v.trimList u ch k t).contents k = some e' ∧ e'.list_len = e.list_len - t ∧
      ¬ e'.WellFormed ∧ ∀ i, e.list_node_offsets.containsKey (i, t) = true →
        e'.list_node_offsets.containsKey (i - t, 0) = true := by
  obtain ⟨⟨range, node⟩, hview⟩ : ∃ view, v.getNodeView u ch k t = view := ⟨_, rfl⟩
  have hv : e.Holds t (range, node) :=
    hview ▸ v.getNodeView_holds ch u hch hk he ⟨Int.le_of_lt ht, htl⟩
  obtain ⟨hstart, hnum⟩ := he.nodes _ _ hv.1
  refine ⟨_, SpecMap.insert_self _ _ _, by simp only [SpecMap.index_of_eq_some hk], fun he' => ?_,
    fun i hi => ?_⟩
  · simp only [SpecMap.index_of_eq_some hk, hview] at he'
    have := he'.nodes range _ (SpecMap.insert_self _ _ _)
    simp only at this hstart hnum
    omega
  · have hne : (i, t) ≠ range := by rintro rfl; exact Int.lt_irrefl t hv.2.2
    simp only [SpecMap.index_of_eq_some hk, hview, SpecMap.containsKey_insert,
      SpecMap.containsKey_new, SpecMap.containsKey_remove, SpecMap.containsKey_removeKeys,
      Int.sub_add_cancel, Int.zero_add]
    exact .inr ⟨hne, by simp only [Int.lt_irrefl, and_false, decide_False, Bool.false_and], hi⟩

/-! ## The keying of the list nodes -/

/-- Of the three operations on the list of a key, only `append_node_offset` keeps its nodes keyed
by the ranges they hold. Each leaves the other keys alone. After `append_node_offset` at the
end of the list, `get_node_view` finds the node of every index. After `append_to_list`, no
node holds the new last index. After `trim_list` by `t > 0`, the entry is not well formed, and
a node all of whose entries are trimmed is kept. -/
theorem only_node_appends_keep_the_node_ranges (u : Unspecified K) (ch : Choose) (hch : ch.Lawful)
    (v : VolatileKvIndexView K) (k : K) (e : VolatileKvIndexEntry) (hk : v.contents k = some e)
    (he : e.WellFormed) :
    (∀ k', k' ≠ k → ∀ node_offset t,
      (v.appendNodeOffset u k node_offset e.list_len).contents k' = v.contents k' ∧
      (v.appendToList u ch k).contents k' = v.contents k' ∧
      (v.trimList u ch k t).contents k' = v.contents k') ∧
    (∀ node_offset, ∃ e', (v.appendNodeOffset u k node_offset e.list_len).contents k = some e' ∧
      e'.list_len = e.list_len + 1 ∧ e'.WellFormed ∧
      ∀ x, 0 ≤ x → x < e'.list_len →
        e'.Holds x ((v.appendNodeOffset u k node_offset e.list_len).getNodeView u ch k x)) ∧
    (1 ≤ e.list_len → ∃ e', (v.appendToList u ch k).contents k = some e' ∧
      e'.list_len = e.list_len + 1 ∧ (∀ view, ¬ e'.Holds e.list_len view) ∧ ¬ e'.WellFormed) ∧
    (∀ t, 0 < t → t < e.list_len → ∃ e', (v.trimList u ch k t).contents k = some e' ∧
      e'.list_len = e.list_len - t ∧ ¬ e'.WellFormed ∧
      ∀ i, e.list_node_offsets.containsKey (i, t) = true →
        e'.list_node_offsets.containsKey (i - t, 0) = true) :=
  ⟨fun _ hk' node_offset t => v.contents_of_ne ch u hk' node_offset e.list_len t,
    fun node_offset => ⟨_, v.contents_appendNodeOffset u hk node_offset e.list_len, rfl,
      he.insert_last node_offset, fun _ h0 hx =>
        (v.appendNodeOffset u k node_offset e.list_len).getNodeView_holds ch u hch
          (v.contents_appendNodeOffset u hk node_offset e.list_len) (he.insert_last node_offset)
          ⟨h0, hx⟩⟩,
    v.appendToList_not_wellFormed ch u hch hk he,
    fun _ ht htl => v.trimList_not_wellFormed ch u hch hk he ht htl⟩

/-- Values for what vstd leaves unspecified, for the examples. -/
def sampleUnspecified : Unspecified Nat :=
  ⟨fun _ _ => ⟨0, fun _ => none, 0⟩, fun _ _ => ⟨0, 0, 0, 0⟩, ⟨0, fun _ => none, 0⟩⟩

/-- A view with the key 0 whose list has two nodes of one entry each. -/
def sampleView : VolatileKvIndexView Nat :=
  (((⟨fun _ => none, 4⟩ : VolatileKvIndexView Nat).insertItemOffset 0 100).appendNodeOffset
    sampleUnspecified 0 10 0).appendNodeOffset sampleUnspecified 0 20 1

/-- The entry of the key 0 in `sampleView`. -/
def sampleEntry : VolatileKvIndexEntry :=
  ⟨100, SpecMap.insert (SpecMap.insert (fun _ => none) (0, 1) ⟨0, 0, 10, 1⟩) (1, 2) ⟨1, 0, 20, 1⟩, 2⟩

theorem only_node_appends_keep_the_node_ranges_on_two_nodes :
    Choose.Lawful (fun p => Classical.epsilon fun r => p r = true) ∧
      sampleView.contents 0 = some sampleEntry ∧ sampleEntry.WellFormed ∧
      (∃ e', (sampleView.appendToList sampleUnspecified
          (fun p => Classical.epsilon fun r => p r = true) 0).contents 0 = some e' ∧
        e'.list_len = 3 ∧ (∀ view, ¬ e'.Holds 2 view) ∧ ¬ e'.WellFormed) ∧
      ∃ e', (sampleView.trimList sampleUnspecified
          (fun p => Classical.epsilon fun r => p r = true) 0 1).contents 0 = some e' ∧
        e'.list_len = 1 ∧ ¬ e'.WellFormed ∧ e'.list_node_offsets.containsKey (-1, 0) = true :=
  have hch : Choose.Lawful (fun p => Classical.epsilon fun r => p r = true) :=
    fun _ hp => Classical.epsilon_spec hp
  have hk : sampleView.contents 0 = some sampleEntry := rfl
  have he : sampleEntry.WellFormed :=
    ((WellFormed.empty 100).insert_last 10).insert_last 20
  have h := only_node_appends_keep_the_node_ranges sampleUnspecified _ hch sampleView 0 sampleEntry
    hk he
  have ⟨e', htrim, hlen, hwf, hkept⟩ := h.2.2.2 1 (by decide) (by decide)
  ⟨hch, hk, he, h.2.2.1 (by decide), e', htrim, hlen, hwf, hkept 0 rfl⟩

/-! ## Runs that keep the keying -/

/-- Every entry of the view has its nodes keyed by the ranges they hold. -/
def AllWellFormed : Prop := ∀ k e, v.contents k = some e → e.WellFormed

/-- An operation of the index that keeps the keying: a key inserted with its item, a node
appended at the end of the list of a key, or a key removed. -/
inductive KeyingOp (K : Type) where
  | insertItemOffset (key : K) (item_offset : Int)
  | appendNodeOffset (key : K) (node_offset : Int)
  | remove (key : K)

/-- The view after `op`, a node being appended at the index `list_len(key)`. -/
def KeyingOp.apply : KeyingOp K → VolatileKvIndexView K → VolatileKvIndexView K
  | .insertItemOffset key item_offset, v => v.insertItemOffset key item_offset
  | .appendNodeOffset key node_offset, v => v.appendNodeOffset u key node_offset (v.listLen u key)
  | .remove key, v => v.remove key

/-- The view after the operations `ops` in turn. -/
def KeyingOp.run (ops : List (KeyingOp K)) (v : VolatileKvIndexView K) : VolatileKvIndexView K :=
  ops.foldl (fun v op => op.apply u v) v

/-- `op` reads no value that vstd leaves unspecified: a node is appended only to the list of a
key of the view. -/
def KeyingOp.Defined (v : VolatileKvIndexView K) : KeyingOp K → Prop
  | .appendNodeOffset key _ => v.contents.containsKey key = true
  | _ => True

/-- Each operation of `ops` is defined on the view that the ones before it leave. -/
def KeyingOp.AllDefined : List (KeyingOp K) → VolatileKvIndexView K → Prop
  | [], _ => True
  | op :: ops, v => op.Defined v ∧ KeyingOp.AllDefined ops (op.apply u v)

variable {v}

theorem AllWellFormed.insert (hv : v.AllWellFormed) {key : K} (he : e.WellFormed) :
    AllWellFormed ⟨v.contents.insert key e, v.list_entries_per_node⟩ := fun k e' h => by
  by_cases hk : k = key
  · subst hk
    obtain rfl := Option.some.inj ((SpecMap.insert_self _ _ _).symm.trans h)
    exact he
  · exact hv k e' ((SpecMap.insert_ne _ _ hk).symm.trans h)

/-- Each defined operation keeps every entry well formed. -/
theorem KeyingOp.apply_allWellFormed (op : KeyingOp K) (hop : op.Defined v)
    (hv : v.AllWellFormed) : (op.apply u v).AllWellFormed := by
  cases op with
  | insertItemOffset key item_offset => exact hv.insert (WellFormed.empty item_offset)
  | appendNodeOffset key node_offset =>
    obtain ⟨e, hk⟩ := SpecMap.containsKey_iff.1 hop
    rw [KeyingOp.apply, listLen_of_eq_some v u hk, v.appendNodeOffset_eq u hk]
    exact hv.insert ((hv key e hk).insert_last node_offset)
  | remove key =>
    intro k e h
    simp only [KeyingOp.apply, VolatileKvIndexView.remove, SpecMap.remove] at h
    split at h
    · cases h
    · exact hv k e h

/-- So does every run of defined operations. -/
theorem KeyingOp.run_allWellFormed (ops : List (KeyingOp K)) (hops : KeyingOp.AllDefined u ops v)
    (hv : v.AllWellFormed) : (KeyingOp.run u ops v).AllWellFormed := by
  induction ops generalizing v with
  | nil => exact hv
  | cons op ops ih => exact ih hops.2 (op.apply_allWellFormed u hops.1 hv)

/-- From the empty index, over every run of insertions of keys, appends of nodes at the end of
the list of a key that is there, and removals of keys, every entry keeps its nodes keyed by the
ranges they hold, and `get_node_view` finds a node that holds each index of each list. -/
theorem node_appends_keep_get_node_view_exact (hch : ch.Lawful) (list_entries_per_node : Int)
    (ops : List (KeyingOp K))
    (hops : KeyingOp.AllDefined u ops ⟨fun _ => none, list_entries_per_node⟩) :
    ∀ k e, (KeyingOp.run u ops ⟨fun _ => none, list_entries_per_node⟩).contents k = some e →
      e.WellFormed ∧ ∀ x, 0 ≤ x → x < e.list_len →
        e.Holds x
          ((KeyingOp.run u ops ⟨fun _ => none, list_entries_per_node⟩).getNodeView u ch k x) :=
  have hall := KeyingOp.run_allWellFormed u ops hops fun _ _ h => Option.noConfusion h
  fun k e h => ⟨hall k e h, fun _ h0 hx => getNodeView_holds ch _ u hch h (hall k e h) ⟨h0, hx⟩⟩

/-- The run that builds `sampleView`. -/
theorem node_appends_keep_get_node_view_exact_on_two_nodes :
    Choose.Lawful (fun p => Classical.epsilon fun r => p r = true) ∧
      KeyingOp.AllDefined sampleUnspecified
        [.insertItemOffset 0 100, .appendNodeOffset 0 10, .appendNodeOffset 0 20]
        ⟨fun _ => none, 4⟩ ∧
      ∀ k e, (KeyingOp.run sampleUnspecified
          [.insertItemOffset 0 100, .appendNodeOffset 0 10, .appendNodeOffset 0 20]
          ⟨fun _ => none, 4⟩).contents k = some e →
        e.WellFormed ∧ ∀ x, 0 ≤ x → x < e.list_len →
          e.Holds x ((KeyingOp.run sampleUnspecified [.insertItemOffset 0 100,
            .appendNodeOffset 0 10, .appendNodeOffset 0 20] ⟨fun _ => none, 4⟩).getNodeView
              sampleUnspecified
              (fun p => Classical.epsilon fun r => p r = true) k x) :=
  have hch : Choose.Lawful (fun p => Classical.epsilon fun r => p r = true) :=
    fun _ hp => Classical.epsilon_spec hp
  have hops : KeyingOp.AllDefined sampleUnspecified
      [.insertItemOffset 0 100, .appendNodeOffset 0 10, .appendNodeOffset 0 20]
      ⟨fun _ => none, 4⟩ :=
    ⟨trivial, rfl, rfl, trivial⟩
  ⟨hch, hops, node_appends_keep_get_node_view_exact _ sampleUnspecified hch 4 _ hops⟩

/-! ## The index as a map of node lists

What the keying operations build, said without the node maps: each key holds the offset of its
item and the physical offsets of the nodes of its list, in the order they were appended. -/

/-- The node map of a list whose nodes each hold one entry: the node at index `i` keyed by
`(i, i + 1)`, as `append_node_offset` keys it. -/
def nodeMap (nodes : List Int) : SpecMap (Int × Int) ListNodeIndexEntry := fun r =>
  if 0 ≤ r.1 ∧ r.2 = r.1 + 1 then
    nodes[r.1.toNat]?.map fun node_offset => ⟨r.1, 0, node_offset, 1⟩
  else none

/-- The entry of a key with its item offset and the offsets of its nodes. -/
def entryOf (a : Int × List Int) : VolatileKvIndexEntry := ⟨a.1, nodeMap a.2, a.2.length⟩

/-- The abstract index: each key with its item offset and its node offsets in list order. -/
abbrev AbstractIndex (K : Type) := SpecMap K (Int × List Int)

/-- `op` on the abstract index. A node is appended only to the list of a key that is there. -/
def KeyingOp.applyAbstract : KeyingOp K → AbstractIndex K → Option (AbstractIndex K)
  | .insertItemOffset key item_offset, A => some (A.insert key (item_offset, []))
  | .appendNodeOffset key node_offset, A =>
    (A key).map fun a => A.insert key (a.1, a.2 ++ [node_offset])
  | .remove key, A => some (A.remove key)

/-- The abstract index after the operations `ops` in turn, when each is defined. -/
def KeyingOp.runAbstract : List (KeyingOp K) → AbstractIndex K → Option (AbstractIndex K)
  | [], A => some A
  | op :: ops, A => (op.applyAbstract A).bind (KeyingOp.runAbstract ops)

/-- The view holds the abstract index: the entry of each key is the one of its item and nodes. -/
def Refines (v : VolatileKvIndexView K) (A : AbstractIndex K) : Prop :=
  ∀ k, v.contents k = (A k).map entryOf

omit [DecidableEq K] in
@[simp] theorem nodeMap_nil : nodeMap [] = fun _ => none := by
  funext r
  simp [nodeMap]

/-- Appending a node to the list keys it at the range after the last. -/
theorem nodeMap_concat (nodes : List Int) (node_offset : Int) :
    nodeMap (nodes ++ [node_offset]) = (nodeMap nodes).insert
      ((nodes.length : Int), (nodes.length : Int) + 1) ⟨nodes.length, 0, node_offset, 1⟩ := by
  funext ⟨i, j⟩
  by_cases hr : (i, j) = ((nodes.length : Int), (nodes.length : Int) + 1)
  · obtain ⟨rfl, rfl⟩ := Prod.mk.inj hr
    simp [nodeMap, List.getElem?_concat_length, Int.ofNat_nonneg]
  · rw [SpecMap.insert_ne _ _ hr]
    simp only [nodeMap]
    split_ifs with h
    · obtain ⟨h0, rfl⟩ := h
      rcases Nat.lt_or_ge i.toNat nodes.length with hl | hl
      · rw [List.getElem?_append_left hl]
      · have hgt : nodes.length < i.toNat := Nat.lt_of_le_of_ne hl fun he => hr (by
          simp only [Prod.mk.injEq, and_true]; omega)
        rw [List.getElem?_eq_none (by simp; omega), List.getElem?_eq_none (by omega)]
    · rfl

theorem Refines.insert {A : AbstractIndex K} (hv : Refines v A) (key : K) (a : Int × List Int) :
    Refines ⟨v.contents.insert key (entryOf a), v.list_entries_per_node⟩ (A.insert key a) := by
  intro k
  by_cases hk : k = key
  · subst hk; simp only [SpecMap.insert_self, Option.map_some']
  · simp only [SpecMap.insert_ne _ _ hk, hv k]

/-- Each operation defined on the abstract index keeps the view refining it. -/
theorem KeyingOp.apply_refines (op : KeyingOp K) {A A' : AbstractIndex K} (hv : Refines v A)
    (hop : op.applyAbstract A = some A') : Refines (op.apply u v) A' := by
  cases op with
  | insertItemOffset key item_offset =>
    cases hop
    simpa [entryOf] using hv.insert key (item_offset, [])
  | appendNodeOffset key node_offset =>
    obtain ⟨a, ha, rfl⟩ := Option.map_eq_some'.1 hop
    have hk : v.contents key = some (entryOf a) := by rw [hv key, ha]; rfl
    have h := hv.insert key (a.1, a.2 ++ [node_offset])
    simp only [entryOf, nodeMap_concat, List.length_append, List.length_singleton,
      Int.natCast_add] at h
    rw [KeyingOp.apply, listLen_of_eq_some v u hk, v.appendNodeOffset_eq u hk]
    simpa [entryOf] using h
  | remove key =>
    cases hop
    intro k
    by_cases hk : k = key <;> simp [KeyingOp.apply, VolatileKvIndexView.remove, SpecMap.remove, hk,
      hv k]

/-- So does every run of them. -/
theorem KeyingOp.run_refines (ops : List (KeyingOp K)) {A A' : AbstractIndex K}
    (hv : Refines v A) (hops : KeyingOp.runAbstract ops A = some A') :
    Refines (KeyingOp.run u ops v) A' := by
  induction ops generalizing v A with
  | nil => cases hops; exact hv
  | cons op ops ih =>
    obtain ⟨A₁, hop, hops⟩ := Option.bind_eq_some.1 hops
    exact ih (op.apply_refines u hv hop) hops

omit [DecidableEq K] in
/-- `get_node_offset` on a view that refines the abstract index, with `choose` lawful, returns
the offset of the node at that index of the list. -/
theorem Refines.getNodeOffset_eq {A : AbstractIndex K} (hv : Refines v A) (hch : ch.Lawful)
    {item_offset : Int} {nodes : List Int} (hk : A k = some (item_offset, nodes)) (x : Nat)
    (hx : x < nodes.length) : v.getNodeOffset u ch k x = nodes[x] := by
  have he : v.contents.index u.entry k = entryOf (item_offset, nodes) :=
    SpecMap.index_of_eq_some (by rw [hv k, hk]; rfl) _
  have hself : nodeMap nodes ((x : Int), (x : Int) + 1) = some ⟨x, 0, nodes[x], 1⟩ := by
    simp [nodeMap, List.getElem?_eq_getElem hx, Int.ofNat_nonneg]
  have hp := hch (fun r => decide (r.1 ≤ x ∧ (x : Int) < r.2) && (nodeMap nodes).containsKey r)
    ⟨((x : Int), (x : Int) + 1), by simp [SpecMap.containsKey, hself, Int.lt_succ]⟩
  simp only [getNodeOffset, getNodeView, he, entryOf]
  generalize ch _ = r at hp ⊢
  obtain ⟨i, j⟩ := r
  simp only [Bool.and_eq_true, decide_eq_true_eq, SpecMap.containsKey, nodeMap] at hp
  obtain ⟨⟨h1, h2⟩, hs⟩ := hp
  split_ifs at hs with h
  · obtain ⟨h0, rfl⟩ := h
    obtain rfl : i = x := by omega
    simp [SpecMap.index, hself]
  · cases hs

omit [DecidableEq K] in
/-- `self[key]` is the entry of the key, if any. -/
theorem specIndex_eq_contents (k : K) : v.specIndex u k = v.contents k := by
  cases h : v.contents k <;> simp [specIndex, SpecMap.containsKey, SpecMap.index, h]

/-- The volatile index refines a map from each key to its item and the offsets of the nodes of
its list. From the empty index, over every run of insertions of keys, appends of nodes at the
end of the list of a key that is there, and removals of keys, `self[key]` is the entry of the
key's item and nodes in the map, `list_len` is the number of nodes appended since the key was
inserted, and, for a lawful `choose`, `get_node_offset` of each index of the list is the offset
of the node appended at that index. -/
theorem index_runs_refine_a_map_of_node_lists (hch : ch.Lawful) (list_entries_per_node : Int)
    (ops : List (KeyingOp K)) (A : AbstractIndex K)
    (hA : KeyingOp.runAbstract ops (fun _ => none) = some A) (k : K) :
    (KeyingOp.run u ops ⟨fun _ => none, list_entries_per_node⟩).specIndex u k = (A k).map entryOf ∧
      ∀ item_offset nodes, A k = some (item_offset, nodes) →
        (KeyingOp.run u ops ⟨fun _ => none, list_entries_per_node⟩).listLen u k = nodes.length ∧
        ∀ (x : Nat) (hx : x < nodes.length),
          (KeyingOp.run u ops ⟨fun _ => none, list_entries_per_node⟩).getNodeOffset u ch k x =
            nodes[x] := by
  have hv := KeyingOp.run_refines u ops
    (show Refines ⟨fun _ => none, list_entries_per_node⟩ (fun _ => none) from fun _ => rfl) hA
  refine ⟨by rw [specIndex_eq_contents, hv k], fun item_offset nodes hk =>
    ⟨?_, hv.getNodeOffset_eq ch u hch hk⟩⟩
  rw [listLen_of_eq_some _ u (by rw [hv k, hk]; rfl)]
  rfl

/-- The run that builds `sampleView` gives the key 0 the item 100 and the nodes 10 and 20. -/
theorem index_runs_refine_a_map_of_node_lists_on_two_nodes :
    Choose.Lawful (fun p => Classical.epsilon fun r => p r = true) ∧
      ∃ A, KeyingOp.runAbstract
          [.insertItemOffset 0 100, .appendNodeOffset 0 10, .appendNodeOffset 0 20] (fun _ => none)
          = some A ∧ A 0 = some (100, [10, 20]) ∧
        (KeyingOp.run sampleUnspecified
            [.insertItemOffset 0 100, .appendNodeOffset 0 10, .appendNodeOffset 0 20]
            ⟨fun _ => none, 4⟩).specIndex sampleUnspecified 0 = (A 0).map entryOf ∧
        ∀ item_offset nodes, A 0 = some (item_offset, nodes) →
          (KeyingOp.run sampleUnspecified
            [.insertItemOffset 0 100, .appendNodeOffset 0 10, .appendNodeOffset 0 20]
            ⟨fun _ => none, 4⟩).listLen sampleUnspecified 0 = nodes.length ∧
          ∀ (x : Nat) (hx : x < nodes.length),
            (KeyingOp.run sampleUnspecified
              [.insertItemOffset 0 100, .appendNodeOffset 0 10, .appendNodeOffset 0 20]
              ⟨fun _ => none, 4⟩).getNodeOffset sampleUnspecified
                (fun p => Classical.epsilon fun r => p r = true) 0 x = nodes[x] :=
  have hch : Choose.Lawful (fun p => Classical.epsilon fun r => p r = true) :=
    fun _ hp => Classical.epsilon_spec hp
  have hA : KeyingOp.runAbstract
      [.insertItemOffset 0 100, .appendNodeOffset 0 10, .appendNodeOffset 0 20] (fun _ => none) =
      some (SpecMap.insert (SpecMap.insert (SpecMap.insert (fun _ => none) 0 (100, [])) 0
        (100, [10])) 0 (100, [10, 20])) := rfl
  ⟨hch, _, hA, rfl, index_runs_refine_a_map_of_node_lists _ sampleUnspecified hch 4 _ _ hA 0⟩

end VolatileKvIndexView

end verified_storage.kv
