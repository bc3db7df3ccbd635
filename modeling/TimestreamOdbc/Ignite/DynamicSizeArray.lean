import TimestreamOdbc.Ignite.Words
import TimestreamOdbc.Lib.BlockHeap
import TimestreamOdbc.Lib.TransitionSystem

/-!
# Arrays of dynamic size

`DynamicSizeArray` keeps its elements in memory that it allocates, and replaces when it is too small.
Its operations compute lists, as long as what they are passed is not a part of the memory that they
replace.
-/

namespace TimestreamOdbc

open TransitionSystem

/-! ## Pointers -/

/-- A pointer to objects: outside of the memory of arrays, or to the cells of a block. -/
inductive Pointer (α : Type) where
  | outside (values : List α)
  | inside (data : Option ℕ) (offset : ℕ)

/-- What the pointer points at, `i` objects further. -/
def Pointer.read {α : Type} (src : Pointer α) (heap : BlockHeap α) (i : ℕ) : Option α :=
  match src with
  | .outside values => values[i]?
  | .inside data offset => heap.load data (offset + i)

/-! ## The array -/

/-- `DynamicSizeArray`: its memory is a block, or the null pointer. -/
structure DynamicSizeArray where
  size : ℕ
  capasity : ℕ
  data : Option ℕ
  deriving DecidableEq, Repr

namespace DynamicSizeArray

/-- `bits::GetCapasityForSize`, of a size that is positive. -/
def getCapasityForSize (size : ℕ) : ℕ :=
  if size ≤ 8 then 8
  else
    let bl := bitLengthU32 size
    if 30 < bl then 2 ^ 31 - 1
    else
      let res := 1 <<< bl
      if res < size then res <<< 1 else res

variable {α : Type}

/-- The default constructor. -/
def create : DynamicSizeArray := ⟨0, 0, none⟩

/-- The constructor of an empty array with a capacity. -/
def withCapasity (heap : BlockHeap α) (len : ℕ) : BlockHeap α × DynamicSizeArray :=
  let capasity := getCapasityForSize len
  let (block, heap) := heap.allocate capasity
  (heap, ⟨0, capasity, some block⟩)

/-- The destructor. -/
def destroy (heap : BlockHeap α) (self : DynamicSizeArray) : Option (BlockHeap α) := do
  let heap ← BlockHeap.destructRange self.data heap 0 self.size
  heap.deallocate self.data

/-- `Assign`, of raw arrays. -/
def assign (heap : BlockHeap α) (self : DynamicSizeArray) (src : Pointer α) (len : ℕ) :
    Option (BlockHeap α × DynamicSizeArray) := do
  let heap ← BlockHeap.destructRange self.data heap 0 self.size
  let (heap, self) ←
    if self.capasity < len then do
      let heap ← heap.deallocate self.data
      let capasity := getCapasityForSize len
      let (block, heap) := heap.allocate capasity
      some (heap, { self with capasity := capasity, data := some block })
    else some (heap, self)
  let heap ← BlockHeap.constructRange self.data src.read 0 heap 0 len
  some (heap, { self with size := len })

/-- `Reserve`: the temporary array that is swapped has the old memory, and is destroyed. -/
def reserve (heap : BlockHeap α) (self : DynamicSizeArray) (newCapacity : ℕ) :
    Option (BlockHeap α × DynamicSizeArray) :=
  if self.capasity < newCapacity then do
    let (heap, tmp) := withCapasity heap newCapacity
    let (heap, tmp) ← assign heap tmp (.inside self.data 0) self.size
    let heap ← destroy heap self
    some (heap, tmp)
  else some (heap, self)

/-- `Append`; a sum that has not 31 bits overflows. -/
def append (heap : BlockHeap α) (self : DynamicSizeArray) (src : Pointer α) (len : ℕ) :
    Option (BlockHeap α × DynamicSizeArray) :=
  if 2 ^ 31 ≤ self.size + len then none
  else do
    let (heap, self) ← reserve heap self (self.size + len)
    let heap ← BlockHeap.constructRange self.data src.read self.size heap 0 len
    some (heap, { self with size := self.size + len })

/-- `Clear`. -/
def clear (heap : BlockHeap α) (self : DynamicSizeArray) : Option (BlockHeap α × DynamicSizeArray) := do
  let heap ← BlockHeap.destructRange self.data heap 0 self.size
  some (heap, { self with size := 0 })

/-- `Resize`. -/
def resize [Inhabited α] (heap : BlockHeap α) (self : DynamicSizeArray) (newSize : ℕ) :
    Option (BlockHeap α × DynamicSizeArray) := do
  let (heap, self) ← (if self.capasity < newSize then reserve heap self newSize else some (heap, self))
  let heap ←
    (if self.size < newSize then
      BlockHeap.constructRange self.data (fun _ _ => some Inhabited.default) self.size heap 0
        (newSize - self.size)
    else BlockHeap.destructRange self.data heap newSize (self.size - newSize))
  some (heap, { self with size := newSize })

/-- `PushBack`: what is passed by reference is read after the array was resized. -/
def pushBack [Inhabited α] (heap : BlockHeap α) (self : DynamicSizeArray) (val : Pointer α) :
    Option (BlockHeap α × DynamicSizeArray) :=
  if 2 ^ 31 ≤ self.size + 1 then none
  else do
    let (heap, self) ← resize heap self (self.size + 1)
    let value ← val.read heap 0
    let heap ← heap.store self.data (self.size - 1) value
    some (heap, self)

/-- `operator[]` with an assignment to the element. -/
def setElement (heap : BlockHeap α) (self : DynamicSizeArray) (idx : ℕ) (val : Pointer α) :
    Option (BlockHeap α × DynamicSizeArray) :=
  if idx < self.size then do
    let value ← val.read heap 0
    let heap ← heap.store self.data idx value
    some (heap, self)
  else none

/-! ## Lists -/

/-- What an array is for: elements, and a capacity. -/
@[ext] structure Contents (α : Type) where
  elements : List α
  capasity : ℕ
  deriving DecidableEq, Repr

/-- Where a list operation takes elements from: a list from an index on, or the elements themselves. -/
inductive Origin (α : Type) where
  | fixed (values : List α) (index : ℕ)
  | own (index : ℕ)

/-- The element that a list operation takes first. -/
def Origin.first (src : Origin α) (elements : List α) : Option α :=
  match src with
  | .fixed values index => values[index]?
  | .own index => elements[index]?

/-- Some of the values, from an index on; a part that is not empty must lie in them. -/
def slice (values : List α) (index len : ℕ) : Option (List α) :=
  if len = 0 ∨ index + len ≤ values.length then some ((values.drop index).take len) else none

/-- The elements, appended from an index on: those that were appended first can be appended again. -/
def extend (elements : List α) (index : ℕ) : ℕ → Option (List α)
  | 0 => some elements
  | len + 1 => do
    let value ← elements[index]?
    extend (elements ++ [value]) (index + 1) len

namespace Contents

/-- The capacity for a number of elements. -/
def capasityFor (c : Contents α) (len : ℕ) : ℕ :=
  if c.capasity < len then getCapasityForSize len else c.capasity

/-- Other elements; of its own elements none is left to be assigned. -/
def assign (c : Contents α) (src : Origin α) (len : ℕ) : Option (Contents α) :=
  match src with
  | .fixed values index => (slice values index len).map fun elements => ⟨elements, c.capasityFor len⟩
  | .own _ => if len = 0 then some ⟨[], c.capasity⟩ else none

/-- The same elements, and more capacity. -/
def reserve (c : Contents α) (newCapacity : ℕ) : Contents α := ⟨c.elements, c.capasityFor newCapacity⟩

/-- More elements; its own are appended only where the capacity is enough. -/
def append (c : Contents α) (src : Origin α) (len : ℕ) : Option (Contents α) :=
  let size := c.elements.length + len
  if 2 ^ 31 ≤ size then none
  else match src with
    | .fixed values index =>
      (slice values index len).map fun elements => ⟨c.elements ++ elements, c.capasityFor size⟩
    | .own index =>
      if c.capasity < size then none
      else (extend c.elements index len).map fun elements => ⟨elements, c.capasity⟩

/-- The first elements, and default values behind them. -/
def resize [Inhabited α] (c : Contents α) (newSize : ℕ) : Contents α :=
  ⟨c.elements.take newSize ++ List.replicate (newSize - c.elements.length) Inhabited.default,
    c.capasityFor newSize⟩

/-- One more element; one of its own only where the capacity is enough. -/
def pushBack (c : Contents α) (val : Origin α) : Option (Contents α) :=
  let size := c.elements.length + 1
  if 2 ^ 31 ≤ size then none
  else match val with
    | .fixed values index => values[index]?.map fun value => ⟨c.elements ++ [value], c.capasityFor size⟩
    | .own index =>
      if c.capasity < size then none
      else c.elements[index]?.map fun value => ⟨c.elements ++ [value], c.capasity⟩

/-- Another element at an index. -/
def setElement (c : Contents α) (idx : ℕ) (val : Origin α) : Option (Contents α) :=
  if idx < c.elements.length then
    (val.first c.elements).map fun value => { c with elements := c.elements.set idx value }
  else none

end Contents

/-! ## Lengths and capacities -/

/-- The capacity for a size that can be counted is enough, and can be counted. -/
lemma le_getCapasityForSize {size : ℕ} (hlt : size < 2 ^ 31) :
    size ≤ getCapasityForSize size ∧ getCapasityForSize size < 2 ^ 31 := by
  unfold getCapasityForSize
  by_cases hsmall : size ≤ 8
  · rw [if_pos hsmall]
    exact ⟨hsmall, by decide⟩
  rw [if_neg hsmall]
  have hpos : 0 < size := by omega
  by_cases hlong : 30 < bitLengthU32 size
  · simp only [if_pos hlong]
    exact ⟨by omega, by decide⟩
  · have hspec := (numberOfLeadingZerosU32_spec hpos (hlt.trans (by decide))).2
    have hzeros := numberOfLeadingZerosU32_lt hpos (hlt.trans (by decide))
    have hbits : size < 2 ^ bitLengthU32 size := by
      have hpow : (2 : ℕ) ^ 32 = 2 ^ bitLengthU32 size * 2 ^ numberOfLeadingZerosU32 size := by
        rw [← pow_add, bitLengthU32, Nat.sub_add_cancel hzeros.le]
      rw [hpow] at hspec
      exact Nat.lt_of_mul_lt_mul_right hspec
    have hbound : 2 ^ bitLengthU32 size < 2 ^ 31 := Nat.pow_lt_pow_right (by decide) (by omega)
    simp only [if_neg hlong, Nat.one_shiftLeft, if_neg hbits.le.not_gt]
    exact ⟨hbits.le, hbound⟩

/-- The capacity does not become less, and is enough. -/
lemma Contents.capasityFor_spec {c : Contents α} (hc : c.capasity < 2 ^ 31) {len : ℕ} (hlen : len < 2 ^ 31) :
    c.capasity ≤ c.capasityFor len ∧ len ≤ c.capasityFor len ∧ c.capasityFor len < 2 ^ 31 := by
  have hcapasity := le_getCapasityForSize hlen
  unfold capasityFor
  split <;> omega

/-- A part is what is read from it. -/
lemma slice_succ (values : List α) (index len : ℕ) :
    slice values index (len + 1) =
      (values[index]?).bind fun value => (slice values (index + 1) len).map (value :: ·) := by
  unfold slice
  by_cases hlt : index < values.length
  · rw [List.getElem?_eq_getElem hlt, Option.bind_some]
    by_cases hle : index + 1 + len ≤ values.length
    · rw [if_pos (.inr (by omega)), if_pos (.inr hle), Option.map_some, List.drop_eq_getElem_cons hlt,
        List.take_succ_cons]
    · by_cases hzero : len = 0
      · omega
      · rw [if_neg (by omega), if_neg (by omega), Option.map_none]
  · rw [if_neg (by omega), List.getElem?_eq_none (by omega), Option.bind_none]

/-- Elements that are read from a list. -/
lemma appendRead_fixed (values : List α) (index : ℕ) (elements : List α) (i len : ℕ) :
    BlockHeap.appendRead (fun _ i => values[index + i]?) elements i len =
      (slice values (index + i) len).map (elements ++ ·) := by
  induction len generalizing elements i with
  | zero => simp [BlockHeap.appendRead, slice]
  | succ len ih =>
    rw [BlockHeap.appendRead, slice_succ]
    cases values[index + i]? with
    | none => rfl
    | some value =>
      simp only [Option.bind_eq_bind, Option.bind_some, Option.map_map]
      rw [ih, show index + (i + 1) = index + i + 1 by omega]
      congr 1
      funext rest
      simp

/-- Elements that are read from what they are appended to. -/
lemma appendRead_own (index : ℕ) (elements : List α) (i len : ℕ) :
    BlockHeap.appendRead (fun elements i => elements[index + i]?) elements i len =
      extend elements (index + i) len := by
  induction len generalizing elements i with
  | zero => rfl
  | succ len ih =>
    rw [BlockHeap.appendRead, extend]
    cases elements[index + i]? with
    | none => rfl
    | some value =>
      simp only [Option.bind_eq_bind, Option.bind_some]
      rw [ih, show index + (i + 1) = index + i + 1 by omega]

/-- Nothing is read. -/
lemma appendRead_none (read : List α → ℕ → Option α) (elements : List α) {i len : ℕ}
    (hread : read elements i = none) :
    BlockHeap.appendRead read elements i len = if len = 0 then some elements else none := by
  cases len with
  | zero => rfl
  | succ len => rw [BlockHeap.appendRead, hread]; rfl

/-- A value that is read again and again. -/
lemma appendRead_const (value : α) (elements : List α) (i len : ℕ) :
    BlockHeap.appendRead (fun _ _ => some value) elements i len =
      some (elements ++ List.replicate len value) := by
  induction len generalizing elements i with
  | zero => rw [BlockHeap.appendRead, List.replicate_zero, List.append_nil]
  | succ len ih =>
    rw [BlockHeap.appendRead]
    simp only [Option.bind_eq_bind, Option.bind_some]
    rw [ih, List.append_assoc, List.singleton_append, ← List.replicate_succ]

/-- As many elements are appended as are read. -/
lemma length_of_appendRead {read : List α → ℕ → Option α} {elements elements' : List α} {i len : ℕ}
    (h : BlockHeap.appendRead read elements i len = some elements') :
    elements'.length = elements.length + len := by
  induction len generalizing elements i with
  | zero => cases h; rfl
  | succ len ih =>
    rw [BlockHeap.appendRead] at h
    cases hvalue : read elements i with
    | none => rw [hvalue] at h; cases h
    | some value =>
      rw [hvalue] at h
      have hlength := ih h
      rw [List.length_append, List.length_singleton] at hlength
      omega

/-! ## What the memory has -/

/-- The array has the contents in its memory. -/
structure Describes (heap : BlockHeap α) (array : DynamicSizeArray) (c : Contents α) : Prop where
  size : array.size = c.elements.length
  capasity : array.capasity = c.capasity
  lt : c.capasity < 2 ^ 31
  holds : heap.Holds array.data c.elements c.capasity

/-- From a heap in which it had a block and a capacity, an array has come to contents; its block is the
same as long as its capacity is. -/
structure Follows (heap₀ : BlockHeap α) (data₀ : Option ℕ) (capasity₀ : ℕ)
    (s : BlockHeap α × DynamicSizeArray) (c : Contents α) : Prop where
  describes : Describes s.1 s.2 c
  replaces : BlockHeap.Replaces heap₀ data₀ s.1 s.2.data
  kept : s.2.data = data₀ ∧ c.capasity = capasity₀ ∨ s.2.data ≠ data₀ ∧ capasity₀ < c.capasity

section Follows

variable {heap₀ heap : BlockHeap α} {data₀ : Option ℕ} {capasity₀ : ℕ} {self : DynamicSizeArray}
  {c : Contents α}

/-- An array has the number of elements that its capacity lets it have. -/
lemma Describes.length_le (h : Describes heap self c) : c.elements.length ≤ c.capasity := h.holds.1

/-- Nothing was done. -/
lemma Describes.follows (h : Describes heap self c) : Follows heap self.data c.capasity (heap, self) c :=
  ⟨h, .refl _ _, .inl ⟨rfl, rfl⟩⟩

/-- The memory is filled with other elements. -/
lemma Follows.fill (h : Follows heap₀ data₀ capasity₀ (heap, self) c) (elements : List α)
    (hle : elements.length ≤ c.capasity) :
    Follows heap₀ data₀ capasity₀
      (heap.fill self.data elements c.capasity, { self with size := elements.length })
      ⟨elements, c.capasity⟩ :=
  ⟨⟨rfl, h.describes.capasity, h.describes.lt, h.describes.holds.fill elements hle⟩, h.replaces.fill _ _, h.kept⟩

/-- A pointer is described by where list operations take elements from. -/
inductive Reads (heap₀ : BlockHeap α) (data₀ : Option ℕ) : Pointer α → Origin α → Prop
  | outside (values : List α) : Reads heap₀ data₀ (.outside values) (.fixed values 0)
  | other {data : Option ℕ} {elements : List α} {capacity : ℕ}
      (hholds : heap₀.Holds data elements capacity)
      (hne : ∀ block, data = some block → data₀ ≠ some block) (offset : ℕ) :
      Reads heap₀ data₀ (.inside data offset) (.fixed elements offset)
  | own (offset : ℕ) : Reads heap₀ data₀ (.inside data₀ offset) (.own offset)

/-- What list operations take: the elements themselves are there as long as the memory is. -/
def Origin.read (src : Origin α) (kept : Bool) (elements : List α) (i : ℕ) : Option α :=
  match src with
  | .fixed values index => values[index + i]?
  | .own index => if kept then elements[index + i]? else none

/-- What is read through a pointer. -/
lemma Follows.read {s : BlockHeap α × DynamicSizeArray} (h : Follows heap₀ data₀ capasity₀ s c)
    {src : Pointer α} {origin : Origin α} (hsrc : Reads heap₀ data₀ src origin) (i : ℕ) :
    src.read s.1 i = origin.read (c.capasity = capasity₀) c.elements i := by
  cases hsrc with
  | outside values => rw [Pointer.read, Origin.read, Nat.zero_add]
  | other hholds hne offset => exact (h.replaces.holds_of_ne hholds hne).load _
  | own offset =>
    rw [Pointer.read, Origin.read]
    rcases h.kept with ⟨hdata, hcapasity⟩ | ⟨hdata, hcapasity⟩
    · rw [← hdata, h.describes.holds.load, decide_eq_true hcapasity, if_pos rfl]
    · rw [h.replaces.load_eq_none hdata, decide_eq_false hcapasity.ne', if_neg Bool.false_ne_true]

/-- The loop that constructs elements behind those that are there. -/
lemma Follows.constructRange (h : Follows heap₀ data₀ capasity₀ (heap, self) c)
    {read : BlockHeap α → ℕ → Option α} {read' : List α → ℕ → Option α}
    (hread : ∀ s elements i, Follows heap₀ data₀ capasity₀ s ⟨elements, c.capasity⟩ →
      read s.1 i = read' elements i) (index len : ℕ) {size : ℕ} (hindex : index = c.elements.length)
    (hsize : size = index + len) (hroom : size ≤ c.capasity) :
    Agree (Follows heap₀ data₀ capasity₀)
      ((BlockHeap.constructRange self.data read index heap 0 len).bind fun heap =>
        some (heap, { self with size := size }))
      ((BlockHeap.appendRead read' c.elements 0 len).map (⟨·, c.capasity⟩)) := by
  have hrun := h.describes.holds.constructRange (i := 0)
    (fun elements i hle => hread _ elements i (h.fill elements hle)) hindex.symm (hsize ▸ hroom)
  rw [hrun]
  cases happended : BlockHeap.appendRead read' c.elements 0 len with
  | none => exact .missing
  | some elements =>
    have hlength := length_of_appendRead happended
    have hfill := h.fill elements (by omega)
    rw [hlength, ← hindex, ← hsize] at hfill
    exact .found hfill

/-- An element is assigned a value that was read, if there is one. -/
lemma Follows.store (h : Follows heap₀ data₀ capasity₀ (heap, self) c) (idx : ℕ)
    (hidx : idx < c.elements.length) (value : Option α) :
    Agree (Follows heap₀ data₀ capasity₀)
      (value.bind fun value => (heap.store self.data idx value).bind fun heap => some (heap, self))
      (value.map fun value => { c with elements := c.elements.set idx value }) := by
  cases value with
  | none => exact .missing
  | some value =>
    have hlength : (c.elements.set idx value).length = c.elements.length := List.length_set
    have hfill := h.fill (c.elements.set idx value) (hlength ▸ h.describes.length_le)
    have hsize : c.elements.length = self.size := h.describes.size.symm
    rw [hlength, hsize] at hfill
    rw [Option.bind_some, h.describes.holds.store hidx]
    exact .found hfill

/-- The elements are destroyed, and the memory is given back. -/
lemma Describes.destroy (h : Describes heap self c) :
    DynamicSizeArray.destroy heap self = some (heap.release self.data) := by
  rw [DynamicSizeArray.destroy, h.size]
  exact h.holds.destroy

/-- A new array with a capacity. -/
lemma follows_withCapasity (h : BlockHeap.Replaces heap₀ data₀ heap none) (hdata : data₀.all (· < heap.next))
    {len : ℕ} (hlt : len < 2 ^ 31) (hcapasity : capasity₀ < len) :
    Follows heap₀ data₀ capasity₀ (withCapasity heap len) ⟨[], getCapasityForSize len⟩ := by
  have hspec := le_getCapasityForSize hlt
  refine ⟨⟨rfl, rfl, hspec.2, Nat.zero_le _, BlockHeap.cells_allocate _⟩, h.allocate _,
    .inr ⟨?_, hcapasity.trans_le hspec.1⟩⟩
  rintro rfl
  exact absurd hdata (by simp [withCapasity, BlockHeap.allocate])

/-- All elements are destroyed. -/
lemma Describes.destructRange (h : Describes heap self c) :
    BlockHeap.destructRange self.data heap 0 self.size = some (heap.fill self.data [] c.capasity) := by
  have hrun := h.holds.destructRange (Nat.zero_le _)
  rwa [Nat.sub_zero, List.take_zero, ← h.size] at hrun

/-- The block of an array was allocated. -/
lemma Describes.all_lt_next (h : Describes heap self c) : self.data.all (· < heap.next) := by
  cases hdata : self.data with
  | none => rfl
  | some block => exact decide_eq_true (h.holds.lt_next hdata)

end Follows

/-! ## Operations -/

section Operations

variable {heap : BlockHeap α} {self : DynamicSizeArray} {c : Contents α}

/-- What is assigned to an array that has become empty. -/
lemma Contents.assign_eq (origin : Origin α) (kept : Bool) (len : ℕ) :
    (BlockHeap.appendRead (origin.read kept) [] 0 len).map (⟨·, c.capasityFor len⟩) =
      c.assign origin len := by
  cases origin with
  | fixed values index =>
    have hrun := appendRead_fixed values index [] 0 len
    rw [Nat.add_zero] at hrun
    change (BlockHeap.appendRead (fun _ i => values[index + i]?) [] 0 len).map _ = _
    rw [hrun, Option.map_map, Contents.assign]
    rfl
  | own index =>
    have hnone : (Origin.own index).read kept ([] : List α) 0 = none := by
      rw [Origin.read, List.getElem?_nil, ite_self]
    rw [appendRead_none _ _ hnone, Contents.assign]
    split
    · next hzero =>
      rw [Option.map_some, capasityFor, hzero, if_neg (Nat.not_lt_zero _)]
    · rfl

/-- `Assign` makes the contents what is assigned. -/
lemma Describes.assign (h : Describes heap self c) {src : Pointer α} {origin : Origin α}
    (hsrc : Reads heap self.data src origin) (len : ℕ) (hlen : len < 2 ^ 31) :
    Agree (Follows heap self.data c.capasity) (DynamicSizeArray.assign heap self src len)
      (c.assign origin len) := by
  have hempty := h.follows.fill [] (Nat.zero_le _)
  have hcapasity : self.capasity = c.capasity := h.capasity
  unfold DynamicSizeArray.assign
  rw [h.destructRange]
  simp only [Option.bind_eq_bind, Option.bind_some]
  by_cases hgrow : self.capasity < len
  · -- the memory is replaced before anything is read
    have hnew := follows_withCapasity (h.follows.replaces.release)
      (by rw [BlockHeap.next_release]; exact h.all_lt_next) hlen (hcapasity ▸ hgrow)
    have hloop := hnew.constructRange (fun s elements i hs => hs.read hsrc i) 0 len rfl (Nat.zero_add len).symm
      (le_getCapasityForSize hlen).1
    rw [if_pos hgrow, hempty.describes.holds.deallocate, BlockHeap.release_fill]
    rw [hcapasity] at hgrow
    rw [← Contents.assign_eq origin (getCapasityForSize len = c.capasity) len, Contents.capasityFor,
      if_pos hgrow]
    exact hloop
  · rw [if_neg hgrow]
    rw [hcapasity] at hgrow
    have hloop := hempty.constructRange (fun s elements i hs => hs.read hsrc i) 0 len rfl (Nat.zero_add len).symm
      (Nat.not_lt.mp hgrow)
    rw [← Contents.assign_eq origin (c.capasity = c.capasity) len, Contents.capasityFor, if_neg hgrow]
    exact hloop

/-- `Reserve` keeps the elements. -/
lemma Describes.reserve (h : Describes heap self c) {newCapacity : ℕ} (hlt : newCapacity < 2 ^ 31) :
    ∃ s, DynamicSizeArray.reserve heap self newCapacity = some s ∧
      Follows heap self.data c.capasity s (c.reserve newCapacity) := by
  have hcapasity : self.capasity = c.capasity := h.capasity
  unfold DynamicSizeArray.reserve Contents.reserve Contents.capasityFor
  rw [hcapasity]
  by_cases hgrow : c.capasity < newCapacity
  · rw [if_pos hgrow, if_pos hgrow]
    have hspec := le_getCapasityForSize hlt
    have hlength := h.length_le
    -- the temporary array gets the elements
    have hne : ∀ block, self.data = some block → some heap.next ≠ some block := by
      rintro block hdata heq
      have := h.holds.lt_next hdata
      obtain rfl := Option.some.inj heq
      omega
    have hkept : (withCapasity heap newCapacity).1.Holds self.data c.elements c.capasity :=
      h.holds.congr fun block hdata => BlockHeap.cells_allocate_of_lt (h.holds.lt_next hdata) _
    have htmp : Describes (withCapasity heap newCapacity).1 (withCapasity heap newCapacity).2
        ⟨[], getCapasityForSize newCapacity⟩ :=
      ⟨rfl, rfl, hspec.2, Nat.zero_le _, BlockHeap.cells_allocate _⟩
    have hassign := htmp.assign (.other hkept hne 0) self.size
      (by rw [h.size]; exact (hlength.trans_lt h.lt))
    have hall : Contents.assign ⟨[], getCapasityForSize newCapacity⟩ (.fixed c.elements 0) self.size =
        some ⟨c.elements, getCapasityForSize newCapacity⟩ := by
      have hroom : ¬ getCapasityForSize newCapacity < c.elements.length := by omega
      simp [Contents.assign, slice, Contents.capasityFor, h.size, hroom]
    rw [hall] at hassign
    obtain ⟨⟨heap', tmp⟩, hrun, hfollows⟩ := hassign.exists
    have hdata : tmp.data = some heap.next := by
      rcases hfollows.kept with ⟨hdata, -⟩ | ⟨-, hlt⟩
      · exact hdata
      · exact absurd hlt (Nat.lt_irrefl _)
    have hold : Describes heap' self c :=
      ⟨h.size, h.capasity, h.lt, hfollows.replaces.holds_of_ne hkept hne⟩
    have hreplaces := hfollows.replaces
    have hnew := hfollows.describes
    refine ⟨(heap'.release self.data, tmp), ?_, ⟨hnew.size, hnew.capasity, hnew.lt, ?_⟩, ?_, .inr ⟨?_, ?_⟩⟩
    · simp only [Option.bind_eq_bind, hrun, Option.bind_some, hold.destroy]
    · exact hnew.holds.congr fun block hblock => BlockHeap.cells_release_of_ne fun heq =>
        hne block heq (hdata.symm.trans hblock)
    · rw [hdata] at hreplaces ⊢
      exact hreplaces.exchange
    · intro heq
      exact hne heap.next (heq.symm.trans hdata) rfl
    · exact hgrow.trans_le hspec.1
  · rw [if_neg hgrow, if_neg hgrow]
    exact ⟨_, rfl, h.follows⟩

/-- What is appended to an array that has enough capacity. -/
lemma Contents.append_eq (origin : Origin α) {len : ℕ} (hle : c.elements.length ≤ c.capasity)
    (hlt : c.elements.length + len < 2 ^ 31) :
    (BlockHeap.appendRead
        (origin.read (c.capasityFor (c.elements.length + len) = c.capasity)) c.elements 0 len).map
      (⟨·, c.capasityFor (c.elements.length + len)⟩) = c.append origin len := by
  have hspec := le_getCapasityForSize hlt
  cases origin with
  | fixed values index =>
    have hrun := appendRead_fixed values index c.elements 0 len
    rw [Nat.add_zero] at hrun
    change (BlockHeap.appendRead (fun _ i => values[index + i]?) c.elements 0 len).map _ = _
    rw [hrun, Option.map_map]
    simp only [Contents.append, if_neg hlt.not_ge]
    rfl
  | own index =>
    simp only [Contents.append, if_neg hlt.not_ge]
    by_cases hgrow : c.capasity < c.elements.length + len
    · have hne : ¬ c.capasityFor (c.elements.length + len) = c.capasity := by
        rw [capasityFor, if_pos hgrow]
        omega
      have hnone : (Origin.own index).read (decide False) c.elements 0 = none := rfl
      simp only [hne]
      rw [appendRead_none _ _ hnone, if_neg (by omega), if_pos hgrow]
      rfl
    · have heq : c.capasityFor (c.elements.length + len) = c.capasity := if_neg hgrow
      have hrun := appendRead_own index c.elements 0 len
      rw [Nat.add_zero] at hrun
      simp only [heq, decide_true]
      rw [if_neg hgrow, ← hrun]
      rfl

/-- `Append` puts what is read behind the elements. -/
lemma Describes.append (h : Describes heap self c) {src : Pointer α} {origin : Origin α}
    (hsrc : Reads heap self.data src origin) (len : ℕ) :
    Agree (Follows heap self.data c.capasity) (DynamicSizeArray.append heap self src len)
      (c.append origin len) := by
  have hsize : self.size = c.elements.length := h.size
  unfold DynamicSizeArray.append
  rw [hsize]
  by_cases hover : 2 ^ 31 ≤ c.elements.length + len
  · have hnone : c.append origin len = none := if_pos hover
    rw [if_pos hover, hnone]
    exact .missing
  · have hlt : c.elements.length + len < 2 ^ 31 := Nat.not_le.mp hover
    obtain ⟨⟨heap', self'⟩, hreserve, hfollows⟩ := h.reserve hlt
    have hloop := hfollows.constructRange (fun s elements i hs => hs.read hsrc i) self'.size len
      hfollows.describes.size rfl
      (by rw [hfollows.describes.size]; exact (Contents.capasityFor_spec h.lt hlt).2.1)
    rw [if_neg hover, hreserve, ← Contents.append_eq origin h.length_le hlt]
    have hsize' : self'.size = c.elements.length := hfollows.describes.size
    rw [hsize'] at hloop
    simp only [Option.bind_eq_bind, Option.bind_some, hsize']
    exact hloop

/-- `Clear` leaves no elements. -/
lemma Describes.clear (h : Describes heap self c) :
    ∃ s, DynamicSizeArray.clear heap self = some s ∧
      Follows heap self.data c.capasity s ⟨[], c.capasity⟩ := by
  have hempty := h.follows.fill [] (Nat.zero_le _)
  exact ⟨_, by rw [DynamicSizeArray.clear, h.destructRange]; rfl, hempty⟩

/-- `Resize` keeps the first elements, and puts default values behind them. -/
lemma Describes.resize [Inhabited α] (h : Describes heap self c) {newSize : ℕ} (hlt : newSize < 2 ^ 31) :
    ∃ s, DynamicSizeArray.resize heap self newSize = some s ∧
      Follows heap self.data c.capasity s (c.resize newSize) := by
  have hspec := Contents.capasityFor_spec h.lt hlt
  have hreserved : ∃ s, (if self.capasity < newSize then DynamicSizeArray.reserve heap self newSize
      else some (heap, self)) = some s ∧ Follows heap self.data c.capasity s (c.reserve newSize) := by
    by_cases hgrow : self.capasity < newSize
    · rw [if_pos hgrow]
      exact h.reserve hlt
    · have hsame : c.reserve newSize = c := by
        rw [Contents.reserve, Contents.capasityFor, if_neg (h.capasity ▸ hgrow)]
      rw [if_neg hgrow, hsame]
      exact ⟨_, rfl, h.follows⟩
  obtain ⟨⟨heap', self'⟩, hrun, hfollows⟩ := hreserved
  have hsize : self'.size = c.elements.length := hfollows.describes.size
  unfold DynamicSizeArray.resize
  rw [hrun]
  simp only [Option.bind_eq_bind, Option.bind_some, hsize]
  by_cases hmore : c.elements.length < newSize
  · let read : BlockHeap α → ℕ → Option α := fun _ _ => some Inhabited.default
    let read' : List α → ℕ → Option α := fun _ _ => some Inhabited.default
    have hread (s : BlockHeap α × DynamicSizeArray) (elements : List α) (i : ℕ)
        (_ : Follows heap self.data c.capasity s ⟨elements, (c.reserve newSize).capasity⟩) :
        read s.1 i = read' elements i := rfl
    have hloop := hfollows.constructRange hread c.elements.length (newSize - c.elements.length) rfl
      (Nat.add_sub_cancel' hmore.le).symm hspec.2.1
    rw [appendRead_const, Option.map_some] at hloop
    obtain ⟨s, hs, hnew⟩ := hloop.exists
    rw [if_pos hmore]
    refine ⟨s, hs, ?_⟩
    rw [Contents.resize, List.take_of_length_le hmore.le]
    exact hnew
  · have hdestruct := hfollows.describes.holds.destructRange (Nat.not_lt.mp hmore)
    have hfill := hfollows.fill (c.elements.take newSize)
      ((List.length_take_le _ _).trans (by exact hspec.2.1))
    have hlength : (c.elements.take newSize).length = newSize :=
      List.length_take_of_le (Nat.not_lt.mp hmore)
    rw [hlength] at hfill
    rw [if_neg hmore]
    refine ⟨_, by erw [hdestruct]; rfl, ?_⟩
    rw [Contents.resize, Nat.sub_eq_zero_of_le (Nat.not_lt.mp hmore), List.replicate_zero, List.append_nil]
    exact hfill

/-- `PushBack` puts what is passed behind the elements. -/
lemma Describes.pushBack [Inhabited α] (h : Describes heap self c) {val : Pointer α} {origin : Origin α}
    (hval : Reads heap self.data val origin)
    (hown : ∀ index, origin = .own index → index < c.elements.length) :
    Agree (Follows heap self.data c.capasity) (DynamicSizeArray.pushBack heap self val)
      (c.pushBack origin) := by
  have hsize : self.size = c.elements.length := h.size
  unfold DynamicSizeArray.pushBack
  rw [hsize]
  by_cases hover : 2 ^ 31 ≤ c.elements.length + 1
  · have hnone : c.pushBack origin = none := if_pos hover
    rw [if_pos hover, hnone]
    exact .missing
  · have hlt : c.elements.length + 1 < 2 ^ 31 := Nat.not_le.mp hover
    obtain ⟨⟨heap', self'⟩, hrun, hfollows⟩ := h.resize hlt
    have hresized : c.resize (c.elements.length + 1) =
        ⟨c.elements ++ [Inhabited.default], c.capasityFor (c.elements.length + 1)⟩ := by
      simp [Contents.resize]
    rw [hresized] at hfollows
    have hread : val.read heap' 0 = _ := hfollows.read hval 0
    have hstore := hfollows.store c.elements.length (by simp) (val.read heap' 0)
    have hlast : self'.size - 1 = c.elements.length := by
      have hlength : self'.size = (c.elements ++ [Inhabited.default]).length := hfollows.describes.size
      rw [hlength, List.length_append, List.length_singleton, Nat.add_sub_cancel]
    have hspec : (val.read heap' 0).map (fun value =>
        (⟨(c.elements ++ [Inhabited.default]).set c.elements.length value,
          c.capasityFor (c.elements.length + 1)⟩ : Contents α)) = c.pushBack origin := by
      rw [hread]
      simp only [Contents.pushBack, if_neg hover]
      cases origin with
      | fixed values index => simp [Origin.read]
      | own index =>
        have hindex := hown index rfl
        have hcapasity := le_getCapasityForSize hlt
        have hlength := h.length_le
        by_cases hgrow : c.capasity < c.elements.length + 1
        · have hne : ¬ c.capasityFor (c.elements.length + 1) = c.capasity := by
            rw [Contents.capasityFor, if_pos hgrow]
            omega
          simp [Origin.read, hne, hgrow]
        · have heq : c.capasityFor (c.elements.length + 1) = c.capasity := if_neg hgrow
          simp [Origin.read, heq, hgrow, List.getElem?_append_left hindex]
    rw [if_neg hover, hrun]
    simp only [Option.bind_eq_bind, Option.bind_some, hlast]
    rw [hspec] at hstore
    exact hstore

/-- An element is assigned a value. -/
lemma Describes.setElement (h : Describes heap self c) {val : Pointer α} {origin : Origin α}
    (hval : Reads heap self.data val origin) (idx : ℕ) :
    Agree (Follows heap self.data c.capasity) (DynamicSizeArray.setElement heap self idx val)
      (c.setElement idx origin) := by
  have hread := h.follows.read hval 0
  unfold DynamicSizeArray.setElement Contents.setElement
  rw [h.size]
  by_cases hidx : idx < c.elements.length
  · have hvalue : origin.read (decide (c.capasity = c.capasity)) c.elements 0 = origin.first c.elements := by
      cases origin <;> simp [Origin.read, Origin.first]
    rw [if_pos hidx, if_pos hidx, ← hvalue, ← hread]
    exact h.follows.store _ hidx (val.read heap 0)
  · rw [if_neg hidx, if_neg hidx]
    exact .missing

end Operations

end DynamicSizeArray

end TimestreamOdbc
