import Mathlib.Data.List.Basic
import Mathlib.Data.Option.Basic
import Mathlib.Tactic.Common

/-!
# Heaps of blocks

A heap gives out blocks of cells.  In a cell an object can be constructed, and destroyed again; what is
read must be there, and a block is given back without objects.  An operation that breaks one of these
rules has no result.
-/

variable {α : Type}

/-- The blocks of a heap in the order in which they were allocated, without those that were given back.
A cell of a block can be without an object. -/
structure BlockHeap (α : Type) where
  blocks : List (Option (List (Option α)))
  deriving DecidableEq, Repr

namespace BlockHeap

/-! ## Operations -/

/-- The heap without blocks. -/
def empty : BlockHeap α := ⟨[]⟩

/-- The number that the next block gets. -/
def next (heap : BlockHeap α) : ℕ := heap.blocks.length

/-- The cells of a block. -/
def cells (heap : BlockHeap α) (block : ℕ) : Option (List (Option α)) := heap.blocks[block]?.join

/-- The heap with other cells in a block, or without the block. -/
def setCells (heap : BlockHeap α) (block : ℕ) (content : Option (List (Option α))) : BlockHeap α :=
  ⟨heap.blocks.set block content⟩

/-- A new block of cells without objects. -/
def allocate (heap : BlockHeap α) (size : ℕ) : ℕ × BlockHeap α :=
  (heap.next, ⟨heap.blocks ++ [some (List.replicate size none)]⟩)

/-- A block is given back; the null pointer is ignored. -/
def deallocate (heap : BlockHeap α) : Option ℕ → Option (BlockHeap α)
  | none => some heap
  | some block => do
    let content ← heap.cells block
    if content.all Option.isNone then some (heap.setCells block none) else none

/-- The object in a cell of a block. -/
def load (heap : BlockHeap α) (data : Option ℕ) (index : ℕ) : Option α := do
  let content ← heap.cells (← data)
  (content[index]?).join

/-- An object is constructed in a cell. -/
def construct (heap : BlockHeap α) (data : Option ℕ) (index : ℕ) (value : α) : Option (BlockHeap α) := do
  let block ← data
  let content ← heap.cells block
  match content[index]? with
  | some none => some (heap.setCells block (some (content.set index (some value))))
  | _ => none

/-- The object in a cell is destroyed. -/
def destruct (heap : BlockHeap α) (data : Option ℕ) (index : ℕ) : Option (BlockHeap α) := do
  let block ← data
  let content ← heap.cells block
  match content[index]? with
  | some (some _) => some (heap.setCells block (some (content.set index none)))
  | _ => none

/-- The object in a cell is assigned a value. -/
def store (heap : BlockHeap α) (data : Option ℕ) (index : ℕ) (value : α) : Option (BlockHeap α) := do
  let block ← data
  let content ← heap.cells block
  match content[index]? with
  | some (some _) => some (heap.setCells block (some (content.set index (some value))))
  | _ => none

/-- The objects in the cells from an index on are destroyed, one after the other. -/
def destructRange (data : Option ℕ) : BlockHeap α → ℕ → ℕ → Option (BlockHeap α)
  | heap, _, 0 => some heap
  | heap, index, count + 1 => do
    let heap ← heap.destruct data index
    destructRange data heap (index + 1) count

/-- Objects are constructed in the cells from an index on, each one from what is read right before. -/
def constructRange (data : Option ℕ) (read : BlockHeap α → ℕ → Option α) (index : ℕ) :
    BlockHeap α → ℕ → ℕ → Option (BlockHeap α)
  | heap, _, 0 => some heap
  | heap, i, count + 1 => do
    let value ← read heap i
    let heap ← heap.construct data (index + i) value
    constructRange data read index heap (i + 1) count

/-! ## Cells -/

variable {heap : BlockHeap α} {block block' : ℕ} {content content' : List (Option α)}

/-- A block that is there was allocated. -/
lemma lt_next_of_cells (h : heap.cells block = some content) : block < heap.next := by
  by_contra hle
  rw [cells, List.getElem?_eq_none (Nat.not_lt.mp hle)] at h
  cases h

/-- The cells of a block that was allocated are those that were set. -/
lemma cells_setCells (h : block < heap.next) (content : Option (List (Option α))) :
    (heap.setCells block content).cells block = content := by
  rw [cells, setCells, List.getElem?_set_self h, Option.join_some]

/-- Other blocks stay as they are. -/
lemma cells_setCells_of_ne (h : block ≠ block') (content : Option (List (Option α))) :
    (heap.setCells block content).cells block' = heap.cells block' := by
  rw [cells, setCells, List.getElem?_set_ne h, cells]

@[simp] lemma next_setCells (content : Option (List (Option α))) :
    (heap.setCells block content).next = heap.next := List.length_set

/-- What is set last stays. -/
@[simp] lemma setCells_setCells (content content' : Option (List (Option α))) :
    (heap.setCells block content).setCells block content' = heap.setCells block content' := by
  rw [setCells, setCells, List.set_set, setCells]

/-- A block set to what it has. -/
lemma setCells_self (h : heap.cells block = some content) :
    heap.setCells block (some content) = heap := by
  have hlt : block < heap.blocks.length := lt_next_of_cells h
  rw [cells, List.getElem?_eq_getElem hlt, Option.join_some] at h
  rw [setCells, ← h, List.set_getElem_self]

/-- A new block is the next one. -/
lemma cells_allocate (size : ℕ) :
    (heap.allocate size).2.cells heap.next = some (List.replicate size none) := by
  rw [cells, allocate, next, List.getElem?_concat_length, Option.join_some]

/-- The blocks that were there stay as they are. -/
lemma cells_allocate_of_lt (h : block < heap.next) (size : ℕ) :
    (heap.allocate size).2.cells block = heap.cells block := by
  rw [cells, allocate, List.getElem?_append_left h, cells]

@[simp] lemma next_allocate (size : ℕ) : (heap.allocate size).2.next = heap.next + 1 := by
  rw [next, allocate, List.length_append, List.length_singleton, next]

/-- What is there after an allocation. -/
lemma cells_allocate_ne_none {size : ℕ} (h : (heap.allocate size).2.cells block ≠ none) :
    block = heap.next ∨ heap.cells block ≠ none := by
  rcases Nat.lt_trichotomy block heap.next with hlt | heq | hgt
  · exact .inr (by rwa [cells_allocate_of_lt hlt] at h)
  · exact .inl heq
  · obtain ⟨content, hcontent⟩ := Option.ne_none_iff_exists'.mp h
    have hlt := lt_next_of_cells hcontent
    rw [next_allocate] at hlt
    omega

/-! ## Blocks that are filled from the front -/

/-- The cells of a block whose first ones have the elements. -/
def filled (elements : List α) (capacity : ℕ) : List (Option α) :=
  elements.map some ++ List.replicate (capacity - elements.length) none

/-- The block has the elements in its first cells, and no others; without a block there are neither
elements nor cells. -/
def Holds (heap : BlockHeap α) (data : Option ℕ) (elements : List α) (capacity : ℕ) : Prop :=
  elements.length ≤ capacity ∧
    match data with
    | none => capacity = 0
    | some block => heap.cells block = some (filled elements capacity)

/-- The heap with the elements in a block. -/
def fill (heap : BlockHeap α) (data : Option ℕ) (elements : List α) (capacity : ℕ) : BlockHeap α :=
  data.elim heap fun block => heap.setCells block (some (filled elements capacity))

section Filled

variable {data : Option ℕ} {elements : List α} {capacity : ℕ}

@[simp] lemma filled_nil (capacity : ℕ) : filled ([] : List α) capacity = List.replicate capacity none := rfl

/-- A cell with an element. -/
lemma getElem?_filled_of_lt {i : ℕ} (h : i < elements.length) :
    (filled elements capacity)[i]? = some elements[i]? := by
  rw [filled, List.getElem?_append_left (by rwa [List.length_map]), List.getElem?_map,
    List.getElem?_eq_getElem h, Option.map_some]

/-- The object in a cell of a filled block is the element. -/
lemma join_getElem?_filled (i : ℕ) : ((filled elements capacity)[i]?).join = elements[i]? := by
  by_cases h : i < elements.length
  · rw [getElem?_filled_of_lt h, Option.join_some]
  · rw [List.getElem?_eq_none (Nat.not_lt.mp h), filled,
      List.getElem?_append_right (by rw [List.length_map]; omega), List.getElem?_replicate]
    split <;> rfl

/-- What is read from a block that holds elements. -/
lemma Holds.load (h : heap.Holds data elements capacity) (i : ℕ) : heap.load data i = elements[i]? := by
  obtain ⟨hle, hcells⟩ := h
  cases data with
  | none =>
    obtain rfl : elements = [] := List.length_eq_zero_iff.mp (by omega)
    rfl
  | some block =>
    simp only [BlockHeap.load, Option.bind_eq_bind, Option.bind_some, hcells]
    exact join_getElem?_filled i

/-- All that is read from a block that holds elements. -/
lemma Holds.filterMap_load (h : heap.Holds data elements capacity) :
    (List.range elements.length).filterMap (heap.load data) = elements := by
  rw [funext fun i => h.load i]
  clear h
  induction elements with
  | nil => rfl
  | cons element elements ih =>
    rw [List.length_cons, List.range_succ_eq_map, List.filterMap_cons, List.getElem?_cons_zero,
      List.filterMap_map]
    simp only [Function.comp_def, Nat.succ_eq_add_one, List.getElem?_cons_succ]
    rw [ih]

/-- Only the block counts. -/
lemma Holds.congr {heap' : BlockHeap α} (h : heap.Holds data elements capacity)
    (hcells : ∀ block, data = some block → heap'.cells block = heap.cells block) :
    heap'.Holds data elements capacity := by
  refine ⟨h.1, ?_⟩
  cases data with
  | none => exact h.2
  | some block => exact (hcells block rfl).trans h.2

/-- A block that holds elements was allocated. -/
lemma Holds.lt_next (h : heap.Holds data elements capacity) {block : ℕ} (hdata : data = some block) :
    block < heap.next := by
  subst hdata
  exact lt_next_of_cells h.2

/-- A block can be filled anew. -/
lemma Holds.fill (h : heap.Holds data elements capacity) (elements' : List α)
    (hle : elements'.length ≤ capacity) : (heap.fill data elements' capacity).Holds data elements' capacity := by
  refine ⟨hle, ?_⟩
  cases data with
  | none => exact h.2
  | some block => exact cells_setCells (lt_next_of_cells h.2) _

/-- A block filled with what it has. -/
lemma Holds.fill_self (h : heap.Holds data elements capacity) : heap.fill data elements capacity = heap := by
  cases data with
  | none => rfl
  | some block => exact setCells_self h.2

/-- What is filled in last stays. -/
@[simp] lemma fill_fill (elements elements' : List α) :
    (heap.fill data elements capacity).fill data elements' capacity = heap.fill data elements' capacity := by
  cases data with
  | none => rfl
  | some block => exact setCells_setCells ..

@[simp] lemma next_fill : (heap.fill data elements capacity).next = heap.next := by
  cases data with
  | none => rfl
  | some block => exact next_setCells _

/-- Other blocks stay as they are. -/
lemma cells_fill_of_ne (h : data ≠ some block) :
    (heap.fill data elements capacity).cells block = heap.cells block := by
  cases data with
  | none => rfl
  | some block' => exact cells_setCells_of_ne (fun heq => h (congrArg some heq)) _

/-- A block that is filled keeps the others there. -/
lemma cells_fill_ne_none (h : (heap.fill data elements capacity).cells block ≠ none) :
    data = some block ∨ heap.cells block ≠ none := by
  by_cases hdata : data = some block
  · exact .inl hdata
  · exact .inr (by rwa [cells_fill_of_ne hdata] at h)

/-! ## Loops -/

/-- The objects of a part of the cells are destroyed. -/
lemma destructRange_cells (elements : List α) {before after : List (Option α)}
    (h : heap.cells block = some (before ++ elements.map some ++ after)) :
    destructRange (some block) heap before.length elements.length =
      some (heap.setCells block
        (some (before ++ List.replicate elements.length none ++ after))) := by
  induction elements generalizing heap before with
  | nil =>
    rw [List.map_nil, List.append_nil] at h
    simp only [List.length_nil, destructRange, List.replicate_zero, List.append_nil]
    rw [setCells_self h]
  | cons element elements ih =>
    have hcell : (before ++ (element :: elements).map some ++ after)[before.length]? =
        some (some element) := by
      simp
    have hset : (before ++ (element :: elements).map some ++ after).set before.length none =
        before ++ [none] ++ elements.map some ++ after := by
      simp [List.set_append_right]
    have hdestruct : heap.destruct (some block) before.length =
        some (heap.setCells block (some (before ++ [none] ++ elements.map some ++ after))) := by
      simp only [destruct, Option.bind_eq_bind, Option.bind_some, h, hcell, hset]
    have hcells : (heap.setCells block (some (before ++ [none] ++ elements.map some ++ after))).cells block =
        some (before ++ [none] ++ elements.map some ++ after) := cells_setCells (lt_next_of_cells h) _
    have hrest := ih hcells
    rw [List.length_append, List.length_singleton, setCells_setCells] at hrest
    rw [List.length_cons, destructRange, hdestruct]
    simp only [Option.bind_eq_bind, Option.bind_some]
    rw [hrest, List.replicate_succ]
    simp

/-- The elements from an index on are destroyed. -/
lemma Holds.destructRange (h : heap.Holds data elements capacity) {first : ℕ}
    (hfirst : first ≤ elements.length) :
    BlockHeap.destructRange data heap first (elements.length - first) =
      some (heap.fill data (elements.take first) capacity) := by
  cases data with
  | none =>
    have hempty : elements.length = 0 := by have := h.1; have := h.2; omega
    rw [hempty, Nat.zero_sub]
    rfl
  | some block =>
    have hcells : heap.cells block = some ((elements.take first).map some ++
        (elements.drop first).map some ++ List.replicate (capacity - elements.length) none) := by
      rw [← List.map_append, List.take_append_drop]
      exact h.2
    have hle := h.1
    have hrun := destructRange_cells _ hcells
    simp only [List.length_map, List.length_take, List.length_drop, Nat.min_eq_left hfirst] at hrun
    rw [hrun, BlockHeap.fill, Option.elim_some, filled, List.length_take, Nat.min_eq_left hfirst,
      List.append_assoc, List.replicate_append_replicate]
    congr 6
    omega

/-- A list to which elements are appended, each one read right before. -/
def appendRead (read : List α → ℕ → Option α) : List α → ℕ → ℕ → Option (List α)
  | elements, _, 0 => some elements
  | elements, i, count + 1 => do
    let value ← read elements i
    appendRead read (elements ++ [value]) (i + 1) count

/-- One more object behind the elements. -/
lemma Holds.construct (h : heap.Holds data elements capacity) (hlt : elements.length < capacity)
    (value : α) : heap.construct data elements.length value =
      some (heap.fill data (elements ++ [value]) capacity) := by
  cases data with
  | none =>
    have := h.2
    omega
  | some block =>
    have hroom : capacity - elements.length = capacity - (elements.length + 1) + 1 := by omega
    have hcells : heap.cells block = some (elements.map some ++ none ::
        List.replicate (capacity - (elements.length + 1)) none) := by
      rw [← List.replicate_succ, ← hroom]
      exact h.2
    simp only [BlockHeap.construct, Option.bind_eq_bind, Option.bind_some, hcells]
    simp [BlockHeap.fill, filled, List.set_append_right]

/-- Objects constructed behind the elements are those that are read, where the list decides what is
read. -/
lemma Holds.constructRange (h : heap.Holds data elements capacity)
    {read : BlockHeap α → ℕ → Option α} {read' : List α → ℕ → Option α}
    (hread : ∀ elements' i, elements'.length ≤ capacity →
      read (heap.fill data elements' capacity) i = read' elements' i)
    {index i count : ℕ} (hindex : elements.length = index + i) (hroom : index + i + count ≤ capacity) :
    BlockHeap.constructRange data read index heap i count =
      (appendRead read' elements i count).map fun elements' => heap.fill data elements' capacity := by
  induction count generalizing heap elements i with
  | zero => rw [BlockHeap.constructRange, appendRead, Option.map_some, h.fill_self]
  | succ count ih =>
    have hhere : read heap i = read' elements i := by
      rw [← hread elements i (by omega), h.fill_self]
    rw [BlockHeap.constructRange, appendRead, hhere]
    cases read' elements i with
    | none => rfl
    | some value =>
      have hfill := h.fill (elements ++ [value])
        (by rw [List.length_append, List.length_singleton]; omega)
      have hrest := ih hfill (i := i + 1)
        (fun elements' j hle => by rw [fill_fill]; exact hread elements' j hle)
        (by rw [List.length_append, List.length_singleton]; omega) (by omega)
      simp only [fill_fill] at hrest
      simp only [Option.bind_eq_bind, Option.bind_some]
      rw [← hindex, h.construct (by omega) value]
      exact hrest

/-- The object in a cell is assigned a value. -/
lemma Holds.store (h : heap.Holds data elements capacity) {i : ℕ} (hi : i < elements.length) (value : α) :
    heap.store data i value = some (heap.fill data (elements.set i value) capacity) := by
  cases data with
  | none =>
    have := h.1
    have := h.2
    omega
  | some block =>
    have hcell : (filled elements capacity)[i]? = some (some elements[i]) := by
      rw [getElem?_filled_of_lt hi, List.getElem?_eq_getElem hi]
    have hcells : heap.cells block = some (filled elements capacity) := h.2
    simp only [BlockHeap.store, Option.bind_eq_bind, Option.bind_some, hcells, hcell]
    simp [BlockHeap.fill, filled, List.set_append_left, hi, List.map_set]

/-- The heap without a block; the null pointer is ignored. -/
def release (heap : BlockHeap α) (data : Option ℕ) : BlockHeap α :=
  data.elim heap fun block => heap.setCells block none

/-- A block without objects is given back. -/
lemma Holds.deallocate (h : heap.Holds data [] capacity) : heap.deallocate data = some (heap.release data) := by
  cases data with
  | none => rfl
  | some block =>
    have hcells : heap.cells block = some (List.replicate capacity none) := h.2
    simp only [BlockHeap.deallocate, Option.bind_eq_bind, Option.bind_some, hcells]
    rw [if_pos (by simp)]
    rfl

@[simp] lemma release_fill : (heap.fill data elements capacity).release data = heap.release data := by
  cases data with
  | none => rfl
  | some block => exact setCells_setCells ..

@[simp] lemma next_release : (heap.release data).next = heap.next := by
  cases data with
  | none => rfl
  | some block => exact next_setCells _

/-- Other blocks stay as they are. -/
lemma cells_release_of_ne (h : data ≠ some block) : (heap.release data).cells block = heap.cells block := by
  cases data with
  | none => rfl
  | some block' => exact cells_setCells_of_ne (fun heq => h (congrArg some heq)) _

/-- What is still there is another block. -/
lemma cells_release_ne_none (h : (heap.release data).cells block ≠ none) :
    heap.cells block ≠ none ∧ data ≠ some block := by
  by_cases hdata : data = some block
  · subst hdata
    rw [release, Option.elim_some] at h
    by_cases hlt : block < heap.next
    · exact absurd (cells_setCells hlt none) h
    · refine absurd ?_ h
      rw [cells, List.getElem?_eq_none]
      · rfl
      · have hnext : (heap.setCells block none).next = heap.next := next_setCells none
        exact Nat.le_trans (Nat.le_of_eq hnext) (Nat.not_lt.mp hlt)
  · exact ⟨by rwa [cells_release_of_ne hdata] at h, hdata⟩

/-- All objects of a block are destroyed, and the block is given back. -/
lemma Holds.destroy (h : heap.Holds data elements capacity) :
    (do
      let heap ← BlockHeap.destructRange data heap 0 elements.length
      heap.deallocate data) = some (heap.release data) := by
  have hdestruct := h.destructRange (Nat.zero_le elements.length)
  rw [Nat.sub_zero, List.take_zero] at hdestruct
  rw [hdestruct, Option.bind_eq_bind, Option.bind_some, (h.fill [] (Nat.zero_le _)).deallocate, release_fill]

end Filled

/-! ## Footprints -/

/-- From one heap to the other, an owner of a block has changed that block, replaced it by a new one, or
given it back; the blocks of others are the same, and no other block has come or gone. -/
structure Replaces (heap₀ : BlockHeap α) (data₀ : Option ℕ) (heap : BlockHeap α) (data : Option ℕ) :
    Prop where
  next_le : heap₀.next ≤ heap.next
  frame : ∀ block, block < heap₀.next → data₀ ≠ some block → heap.cells block = heap₀.cells block
  live : ∀ block, heap.cells block ≠ none →
    data = some block ∨ heap₀.cells block ≠ none ∧ data₀ ≠ some block
  data_eq : data = data₀ ∨ data = none ∨ ∃ block, data = some block ∧ heap₀.next ≤ block

section Replaces

variable {heap₀ : BlockHeap α} {data₀ data : Option ℕ} {elements : List α} {capacity : ℕ}

/-- Nothing was done. -/
lemma Replaces.refl (heap₀ : BlockHeap α) (data₀ : Option ℕ) : Replaces heap₀ data₀ heap₀ data₀ where
  next_le := Nat.le_refl _
  frame _ _ _ := rfl
  live block h := by
    by_cases hdata : data₀ = some block
    · exact .inl hdata
    · exact .inr ⟨h, hdata⟩
  data_eq := .inl rfl

/-- A block that was there before, and has another owner, is not the owner's block now. -/
lemma Replaces.ne_of_ne (h : Replaces heap₀ data₀ heap data) {block : ℕ} (hlt : block < heap₀.next)
    (hne : data₀ ≠ some block) : data ≠ some block := by
  rintro rfl
  rcases h.data_eq with heq | heq | ⟨block', heq, hle⟩
  · exact hne heq.symm
  · cases heq
  · obtain rfl := Option.some.inj heq
    omega

/-- The owner fills its block. -/
lemma Replaces.fill (h : Replaces heap₀ data₀ heap data) (elements : List α) (capacity : ℕ) :
    Replaces heap₀ data₀ (heap.fill data elements capacity) data where
  next_le := by rw [next_fill]; exact h.next_le
  frame block hlt hne := by
    rw [cells_fill_of_ne (h.ne_of_ne hlt hne)]
    exact h.frame block hlt hne
  live block hlive := by
    rcases cells_fill_ne_none hlive with hdata | hcells
    · exact .inl hdata
    · exact h.live block hcells
  data_eq := h.data_eq

/-- The owner gives its block back. -/
lemma Replaces.release (h : Replaces heap₀ data₀ heap data) :
    Replaces heap₀ data₀ (heap.release data) none where
  next_le := by rw [next_release]; exact h.next_le
  frame block hlt hne := by
    rw [cells_release_of_ne (h.ne_of_ne hlt hne)]
    exact h.frame block hlt hne
  live block hlive := by
    obtain ⟨hcells, hdata⟩ := cells_release_ne_none hlive
    exact .inr ((h.live block hcells).resolve_left hdata)
  data_eq := .inr (.inl rfl)

/-- An owner without a block gets a new one. -/
lemma Replaces.allocate (h : Replaces heap₀ data₀ heap none) (size : ℕ) :
    Replaces heap₀ data₀ (heap.allocate size).2 (some heap.next) where
  next_le := by rw [next_allocate]; exact Nat.le_trans h.next_le (Nat.le_succ _)
  frame block hlt hne := by
    rw [cells_allocate_of_lt (Nat.lt_of_lt_of_le hlt h.next_le)]
    exact h.frame block hlt hne
  live block hlive := by
    rcases cells_allocate_ne_none hlive with heq | hcells
    · exact .inl (congrArg some heq.symm)
    · exact .inr ((h.live block hcells).resolve_left nofun)
  data_eq := .inr (.inr ⟨_, rfl, h.next_le⟩)

/-- A new block is allocated and changed, and then takes the place of the owner's block. -/
lemma Replaces.exchange {heap' : BlockHeap α} {size : ℕ}
    (h : Replaces (heap.allocate size).2 (some heap.next) heap' (some heap.next)) :
    Replaces heap data₀ (heap'.release data₀) (some heap.next) where
  next_le := by
    have hnext := h.next_le
    rw [next_allocate] at hnext
    rw [next_release]
    omega
  frame block hlt hne := by
    have hother : some heap.next ≠ some block := fun heq => by
      obtain rfl := Option.some.inj heq
      omega
    rw [cells_release_of_ne hne, h.frame block (by rw [next_allocate]; omega) hother, cells_allocate_of_lt hlt]
  live block hlive := by
    obtain ⟨hcells, hne⟩ := cells_release_ne_none hlive
    rcases h.live block hcells with hnew | ⟨hold, hother⟩
    · exact .inl hnew
    · rcases cells_allocate_ne_none hold with rfl | hcells'
      · exact absurd rfl hother
      · exact .inr ⟨hcells', hne⟩
  data_eq := .inr (.inr ⟨_, rfl, Nat.le_refl _⟩)

/-- What another owner holds stays. -/
lemma Replaces.holds_of_ne (h : Replaces heap₀ data₀ heap data) {data' : Option ℕ}
    (hholds : heap₀.Holds data' elements capacity) (hne : ∀ block, data' = some block → data₀ ≠ some block) :
    heap.Holds data' elements capacity :=
  hholds.congr fun block hblock => h.frame block (hholds.lt_next hblock) (hne block hblock)

/-- Once the owner has another block, nothing is read from the one before. -/
lemma Replaces.load_eq_none (h : Replaces heap₀ data₀ heap data) (hne : data ≠ data₀) (index : ℕ) :
    heap.load data₀ index = none := by
  cases data₀ with
  | none => rfl
  | some block =>
    have hcells : heap.cells block = none := by
      by_contra hlive
      rcases h.live block hlive with hdata | ⟨-, hdata⟩
      · exact hne hdata
      · exact hdata rfl
    simp only [BlockHeap.load, Option.bind_eq_bind, Option.bind_some, hcells, Option.bind_none]

end Replaces

end BlockHeap
