import TimestreamOdbc.Ignite.DynamicSizeArray
import Mathlib.Logic.Equiv.Basic

/-!
# Runs of array operations

The arrays of a program, and the operations on them.  An operation can be passed a part of the memory of
any array.  Runs compute lists, every block belongs to one array, and the operations that have no meaning
are those that the lists rule out.
-/

namespace TimestreamOdbc

open TransitionSystem

namespace DynamicSizeArray

/-! ## Objects -/

/-- The arrays of a program, and the memory they share. -/
structure State (ρ α : Type) where
  heap : BlockHeap α
  arrays : ρ → Option DynamicSizeArray

/-- A raw array that is passed: values from elsewhere, or a part of an array. -/
inductive Source (ρ α : Type) where
  | outside (values : List α)
  | inside (owner : ρ) (offset : ℕ)

/-- A value that is passed by reference: from elsewhere, or an element of an array. -/
inductive Reference (ρ α : Type) where
  | value (v : α)
  | element (owner : ρ) (idx : ℕ)

/-- `SizeType`, as far as it is not negative. -/
abbrev SizeType := Fin (2 ^ 31)

/-- An operation on arrays. -/
inductive Operation (ρ α : Type) where
  | create (self : ρ)
  | createWithCapasity (self : ρ) (len : SizeType)
  | createFrom (self : ρ) (src : Source ρ α) (len : SizeType)
  | createCopy (self other : ρ)
  | destroy (self : ρ)
  | assign (self other : ρ)
  | assignFrom (self : ρ) (src : Source ρ α) (len : SizeType)
  | append (self : ρ) (src : Source ρ α) (len : SizeType)
  | swap (self other : ρ)
  | clear (self : ρ)
  | reserve (self : ρ) (newCapacity : SizeType)
  | resize (self : ρ) (newSize : SizeType)
  | pushBack (self : ρ) (val : Reference ρ α)
  | setElement (self : ρ) (idx : SizeType) (val : Reference ρ α)

variable {ρ α : Type}

/-- No array, and no memory. -/
def State.initial : State ρ α := ⟨.empty, fun _ => none⟩

/-- The pointer that is passed. -/
def State.pointer (state : State ρ α) : Source ρ α → Option (Pointer α)
  | .outside values => some (.outside values)
  | .inside owner offset => (state.arrays owner).map fun array => .inside array.data offset

/-- The reference that is passed; an element is there. -/
def State.reference (state : State ρ α) : Reference ρ α → Option (Pointer α)
  | .value v => some (.outside [v])
  | .element owner idx => (state.arrays owner).bind fun array =>
      if idx < array.size then some (.inside array.data idx) else none

variable [DecidableEq ρ]

/-- The state after an operation on an array. -/
def State.put (state : State ρ α) (self : ρ) (s : BlockHeap α × DynamicSizeArray) : State ρ α :=
  ⟨s.1, Function.update state.arrays self (some s.2)⟩

variable [Inhabited α]

/-- The state after an operation; nothing when it has no meaning. An object is created once, and only
objects that were created have operations. -/
def perform (state : State ρ α) : Operation ρ α → Option (State ρ α)
  | .create self =>
    if (state.arrays self).isNone then some (state.put self (state.heap, DynamicSizeArray.create)) else none
  | .createWithCapasity self len =>
    -- the assertion of `GetCapasityForSize`
    if (state.arrays self).isNone ∧ 0 < len.val then some (state.put self (withCapasity state.heap len))
    else none
  | .createFrom self src len =>
    if (state.arrays self).isNone then do
      let src ← state.pointer src
      (DynamicSizeArray.assign state.heap DynamicSizeArray.create src len).map (state.put self)
    else none
  | .createCopy self other =>
    if (state.arrays self).isNone then do
      let other ← state.arrays other
      (DynamicSizeArray.assign state.heap DynamicSizeArray.create (.inside other.data 0) other.size).map
        (state.put self)
    else none
  | .destroy self => do
    let array ← state.arrays self
    (array.destroy state.heap).map fun heap => ⟨heap, Function.update state.arrays self none⟩
  | .assign self other => do
    let array ← state.arrays self
    let array' ← state.arrays other
    if self = other then some state
    else (DynamicSizeArray.assign state.heap array (.inside array'.data 0) array'.size).map (state.put self)
  | .assignFrom self src len => do
    let array ← state.arrays self
    let src ← state.pointer src
    (DynamicSizeArray.assign state.heap array src len).map (state.put self)
  | .append self src len => do
    let array ← state.arrays self
    let src ← state.pointer src
    (DynamicSizeArray.append state.heap array src len).map (state.put self)
  | .swap self other => do
    let array ← state.arrays self
    let array' ← state.arrays other
    if self = other then some state
    else some ⟨state.heap,
      Function.update (Function.update state.arrays self (some array')) other (some array)⟩
  | .clear self => do
    let array ← state.arrays self
    (DynamicSizeArray.clear state.heap array).map (state.put self)
  | .reserve self newCapacity => do
    let array ← state.arrays self
    (DynamicSizeArray.reserve state.heap array newCapacity).map (state.put self)
  | .resize self newSize => do
    let array ← state.arrays self
    (DynamicSizeArray.resize state.heap array newSize).map (state.put self)
  | .pushBack self val => do
    let array ← state.arrays self
    let val ← state.reference val
    (DynamicSizeArray.pushBack state.heap array val).map (state.put self)
  | .setElement self idx val => do
    let array ← state.arrays self
    let val ← state.reference val
    (DynamicSizeArray.setElement state.heap array idx val).map (state.put self)

/-! ## Lists under names -/

/-- Where an operation on an array takes elements from. -/
def Source.origin (contents : ρ → Option (Contents α)) (self : ρ) : Source ρ α → Option (Origin α)
  | .outside values => some (.fixed values 0)
  | .inside owner offset => (contents owner).map fun c =>
      if owner = self then .own offset else .fixed c.elements offset

/-- Where an operation on an array takes an element from. -/
def Reference.origin (contents : ρ → Option (Contents α)) (self : ρ) : Reference ρ α → Option (Origin α)
  | .value v => some (.fixed [v] 0)
  | .element owner idx => (contents owner).bind fun c =>
      if idx < c.elements.length then
        some (if owner = self then .own idx else .fixed c.elements idx)
      else none

/-- What an operation does to the lists. -/
def specify (contents : ρ → Option (Contents α)) : Operation ρ α → Option (ρ → Option (Contents α))
  | .create self =>
    if (contents self).isNone then some (Function.update contents self (some ⟨[], 0⟩)) else none
  | .createWithCapasity self len =>
    if (contents self).isNone ∧ 0 < len.val then
      some (Function.update contents self (some ⟨[], getCapasityForSize len⟩))
    else none
  | .createFrom self src len =>
    if (contents self).isNone then do
      let origin ← src.origin contents self
      (Contents.assign ⟨[], 0⟩ origin len).map fun c => Function.update contents self (some c)
    else none
  | .createCopy self other =>
    if (contents self).isNone then
      (contents other).map fun c => Function.update contents self
        (some ⟨c.elements, Contents.capasityFor (⟨[], 0⟩ : Contents α) c.elements.length⟩)
    else none
  | .destroy self => (contents self).map fun _ => Function.update contents self none
  | .assign self other => do
    let c ← contents self
    let c' ← contents other
    if self = other then some contents
    else some (Function.update contents self (some ⟨c'.elements, c.capasityFor c'.elements.length⟩))
  | .assignFrom self src len => do
    let c ← contents self
    let origin ← src.origin contents self
    (c.assign origin len).map fun c => Function.update contents self (some c)
  | .append self src len => do
    let c ← contents self
    let origin ← src.origin contents self
    (c.append origin len).map fun c => Function.update contents self (some c)
  | .swap self other => do
    let c ← contents self
    let c' ← contents other
    some (Function.update (Function.update contents self (some c')) other (some c))
  | .clear self => (contents self).map fun c => Function.update contents self (some ⟨[], c.capasity⟩)
  | .reserve self newCapacity =>
    (contents self).map fun c => Function.update contents self (some (c.reserve newCapacity))
  | .resize self newSize =>
    (contents self).map fun c => Function.update contents self (some (c.resize newSize))
  | .pushBack self val => do
    let c ← contents self
    let origin ← val.origin contents self
    (c.pushBack origin).map fun c => Function.update contents self (some c)
  | .setElement self idx val => do
    let c ← contents self
    let origin ← val.origin contents self
    (c.setElement idx origin).map fun c => Function.update contents self (some c)

/-! ## What the memory has -/

/-- The lists that are in memory. -/
def State.contents (state : State ρ α) (ref : ρ) : Option (Contents α) :=
  (state.arrays ref).map fun array =>
    ⟨(List.range array.size).filterMap (state.heap.load array.data), array.capasity⟩

/-- The arrays have the contents in memory; a block belongs to one array. -/
structure Represents (state : State ρ α) (contents : ρ → Option (Contents α)) : Prop where
  describes : ∀ ref, Agree (Describes state.heap) (state.arrays ref) (contents ref)
  disjoint : ∀ ref ref' array array' block, state.arrays ref = some array → state.arrays ref' = some array' →
    array.data = some block → array'.data = some block → ref = ref'
  owned : ∀ block, state.heap.cells block ≠ none →
    ∃ ref array, state.arrays ref = some array ∧ array.data = some block

section Represents

omit [DecidableEq ρ] [Inhabited α]

variable {state : State ρ α} {contents : ρ → Option (Contents α)} {self : ρ}

/-- There is nothing at the beginning. -/
lemma represents_initial : Represents (State.initial : State ρ α) fun _ => none where
  describes _ := .missing
  disjoint _ _ _ _ _ h := nomatch h
  owned _ h := absurd rfl h

/-- An array has a list. -/
lemma Represents.array (h : Represents state contents) {array : DynamicSizeArray}
    (hself : state.arrays self = some array) :
    ∃ c, contents self = some c ∧ Describes state.heap array c := by
  have hagree := h.describes self
  rw [hself] at hagree
  generalize contents self = c at hagree
  cases hagree with
  | found hc => exact ⟨_, rfl, hc⟩

/-- There are lists for arrays only. -/
lemma Represents.isNone (h : Represents state contents) (self : ρ) :
    (contents self).isNone = (state.arrays self).isNone := by
  have hagree := h.describes self
  generalize state.arrays self = array at hagree
  generalize contents self = c at hagree
  cases hagree <;> rfl

/-- The lists are those that are in memory. -/
lemma Represents.contents_eq (h : Represents state contents) : state.contents = contents := by
  funext ref
  rw [State.contents]
  have hagree := h.describes ref
  generalize state.arrays ref = array at hagree
  generalize contents ref = c at hagree
  cases hagree with
  | missing => rfl
  | @found array c hdescribes =>
    rw [Option.map_some, hdescribes.size, hdescribes.holds.filterMap_load, hdescribes.capasity]

end Represents

section Steps

omit [Inhabited α]

variable {state : State ρ α} {contents : ρ → Option (Contents α)} {self : ρ} {heap : BlockHeap α}

/-- An operation on an array leaves the others as they are. -/
lemma Represents.update (h : Represents state contents) {array : Option DynamicSizeArray}
    {c : Option (Contents α)} (hagree : Agree (Describes heap) array c)
    (hreplaces : BlockHeap.Replaces state.heap ((state.arrays self).bind (·.data)) heap
      (array.bind (·.data))) :
    Represents ⟨heap, Function.update state.arrays self array⟩ (Function.update contents self c) := by
  -- the blocks of the others are not those of the array
  have hother : ∀ ref array' block, ref ≠ self → state.arrays ref = some array' →
      array'.data = some block → (state.arrays self).bind (·.data) ≠ some block := by
    intro ref array' block hne harray' hblock hself
    obtain ⟨array, harray, hdata⟩ := Option.bind_eq_some_iff.mp hself
    exact hne (h.disjoint ref self array' array block harray' harray hblock hdata)
  have hlt : ∀ ref array' block, state.arrays ref = some array' → array'.data = some block →
      block < state.heap.next := by
    intro ref array' block harray' hblock
    obtain ⟨c', -, hdescribes⟩ := h.array harray'
    exact hdescribes.holds.lt_next hblock
  have hnew : ∀ ref array' block, ref ≠ self → state.arrays ref = some array' →
      array'.data = some block → array.bind (·.data) ≠ some block := by
    intro ref array' block hne harray' hblock
    exact hreplaces.ne_of_ne (hlt ref array' block harray' hblock)
      (hother ref array' block hne harray' hblock)
  refine ⟨fun ref => ?_, ?_, ?_⟩
  · dsimp only
    by_cases href : ref = self
    · subst href
      rw [Function.update_self, Function.update_self]
      exact hagree
    · rw [Function.update_of_ne href, Function.update_of_ne href]
      have hdescribes := h.describes ref
      generalize harray : state.arrays ref = array' at hdescribes
      generalize contents ref = c' at hdescribes
      cases hdescribes with
      | missing => exact .missing
      | found hd =>
        refine .found ⟨hd.size, hd.capasity, hd.lt, hreplaces.holds_of_ne hd.holds fun block hblock => ?_⟩
        exact hother ref _ block href harray hblock
  · intro ref ref' array' array'' block href href' hblock hblock'
    dsimp only at href href'
    by_cases hself : ref = self <;> by_cases hself' : ref' = self
    · rw [hself, hself']
    · subst hself
      rw [Function.update_self] at href
      rw [Function.update_of_ne hself'] at href'
      exact absurd (by rw [href]; exact hblock) (hnew ref' array'' block hself' href' hblock')
    · subst hself'
      rw [Function.update_self] at href'
      rw [Function.update_of_ne hself] at href
      exact absurd (by rw [href']; exact hblock') (hnew ref array' block hself href hblock)
    · rw [Function.update_of_ne hself] at href
      rw [Function.update_of_ne hself'] at href'
      exact h.disjoint ref ref' array' array'' block href href' hblock hblock'
  · intro block hlive
    rcases hreplaces.live block hlive with hdata | ⟨hcells, hne⟩
    · obtain ⟨array', harray', hblock⟩ := Option.bind_eq_some_iff.mp hdata
      exact ⟨self, array', (Function.update_self ..).trans harray', hblock⟩
    · obtain ⟨ref, array', harray', hblock⟩ := h.owned block hcells
      have href : ref ≠ self := by
        rintro rfl
        exact hne (by rw [harray']; exact hblock)
      exact ⟨ref, array', (Function.update_of_ne href ..).trans harray', hblock⟩

/-- An operation that follows a list operation is done. -/
lemma Represents.put (h : Represents state contents) {data : Option ℕ} {capasity : ℕ}
    (hdata : (state.arrays self).bind (·.data) = data) {r : Option (BlockHeap α × DynamicSizeArray)}
    {c : Option (Contents α)} (hagree : Agree (Follows state.heap data capasity) r c) :
    Agree Represents (r.map (state.put self)) (c.map fun c => Function.update contents self (some c)) := by
  cases hagree with
  | missing => exact .missing
  | found hfollows => exact .found (h.update (.found hfollows.describes) (hdata ▸ hfollows.replaces))

omit [DecidableEq ρ] in
/-- The memory of another array can be read. -/
lemma Represents.reads_other (h : Represents state contents) {other : ρ} {array : DynamicSizeArray}
    {c : Contents α} (hne : other ≠ self) (harray : state.arrays other = some array)
    (hdescribes : Describes state.heap array c) (offset : ℕ) :
    Reads state.heap ((state.arrays self).bind (·.data)) (.inside array.data offset)
      (.fixed c.elements offset) :=
  .other hdescribes.holds (fun block hblock hself => by
    obtain ⟨array', harray', hdata⟩ := Option.bind_eq_some_iff.mp hself
    exact hne (h.disjoint other self array array' block harray harray' hblock hdata)) offset

/-- A pointer that is passed, and where the list operation takes elements from. -/
lemma Represents.pointer (h : Represents state contents) (self : ρ) (src : Source ρ α) :
    Agree (Reads state.heap ((state.arrays self).bind (·.data))) (state.pointer src)
      (src.origin contents self) := by
  cases src with
  | outside values => exact .found (.outside values)
  | inside owner offset =>
    rw [State.pointer, Source.origin]
    have hagree := h.describes owner
    generalize harray : state.arrays owner = array at hagree
    generalize contents owner = c at hagree
    cases hagree with
    | missing => exact .missing
    | found hdescribes =>
      refine .found ?_
      split
      · next howner =>
        rw [← howner, harray]
        exact .own offset
      · next howner => exact h.reads_other howner harray hdescribes offset

/-- A reference that is passed, and where the list operation takes the element from. -/
lemma Represents.reference (h : Represents state contents) (self : ρ) (val : Reference ρ α) :
    Agree (fun val origin => Reads state.heap ((state.arrays self).bind (·.data)) val origin ∧
        ∀ index c, origin = .own index → contents self = some c → index < c.elements.length)
      (state.reference val) (val.origin contents self) := by
  cases val with
  | value v => exact .found ⟨.outside [v], nofun⟩
  | element owner idx =>
    rw [State.reference, Reference.origin]
    have hagree := h.describes owner
    generalize harray : state.arrays owner = array at hagree
    generalize hc : contents owner = c at hagree
    cases hagree with
    | missing => exact .missing
    | found hdescribes =>
      rw [Option.bind_some, Option.bind_some, hdescribes.size]
      split
      · next hidx =>
        refine .found ?_
        split
        · next howner =>
          rw [← howner, harray, hc]
          refine ⟨.own idx, fun index c' horigin hc' => ?_⟩
          cases horigin
          cases hc'
          exact hidx
        · next howner => exact ⟨h.reads_other howner harray hdescribes idx, nofun⟩
      · exact .missing

omit [DecidableEq ρ] in
/-- An array, and its list. -/
lemma Represents.agree (h : Represents state contents) (self : ρ) :
    Agree (fun array c => state.arrays self = some array ∧ contents self = some c ∧
      Describes state.heap array c) (state.arrays self) (contents self) := by
  have hagree := h.describes self
  generalize state.arrays self = array at hagree
  generalize contents self = c at hagree
  cases hagree with
  | missing => exact .missing
  | found hdescribes => exact .found ⟨rfl, rfl, hdescribes⟩

/-- Two arrays exchange their memory. -/
lemma Represents.swap (h : Represents state contents) (self other : ρ) :
    Represents ⟨state.heap, state.arrays ∘ Equiv.swap self other⟩ (contents ∘ Equiv.swap self other) where
  describes ref := h.describes _
  disjoint ref ref' array array' block href href' hblock hblock' :=
    (Equiv.swap self other).injective (h.disjoint _ _ array array' block href href' hblock hblock')
  owned block hlive := by
    obtain ⟨ref, array, harray, hblock⟩ := h.owned block hlive
    exact ⟨Equiv.swap self other ref, array, by simpa using harray, hblock⟩

/-- An exchange of two values. -/
lemma comp_swap_eq {β : Type} (f : ρ → β) (self other : ρ) :
    f ∘ Equiv.swap self other = Function.update (Function.update f self (f other)) other (f self) := by
  funext ref
  by_cases hother : ref = other
  · subst hother
    rw [Function.update_self, Function.comp_apply, Equiv.swap_apply_right]
  · rw [Function.update_of_ne hother]
    by_cases hself : ref = self
    · subst hself
      rw [Function.update_self, Function.comp_apply, Equiv.swap_apply_left]
    · rw [Function.update_of_ne hself, Function.comp_apply, Equiv.swap_apply_of_ne_of_ne hself hother]

/-- A new array. -/
lemma describes_create (heap : BlockHeap α) : Describes heap DynamicSizeArray.create ⟨[], 0⟩ :=
  ⟨rfl, rfl, Nat.two_pow_pos 31, Nat.le_refl _, rfl⟩

/-- A copy of a list. -/
lemma Contents.assign_fixed (c : Contents α) (elements : List α) :
    c.assign (.fixed elements 0) elements.length =
      some ⟨elements, c.capasityFor elements.length⟩ := by
  simp [Contents.assign, slice]

end Steps

/-- An operation does what it does to the lists, and has no meaning where it has none for them. -/
lemma Represents.perform {state : State ρ α} {contents : ρ → Option (Contents α)}
    (h : Represents state contents) (op : Operation ρ α) :
    Agree Represents (DynamicSizeArray.perform state op) (specify contents op) := by
  have hnew : ∀ {self}, (state.arrays self).isNone → (state.arrays self).bind (·.data) = none := by
    intro self hnone
    rw [Option.isNone_iff_eq_none.mp hnone, Option.bind_none]
  have hdata : ∀ {self array}, state.arrays self = some array →
      (state.arrays self).bind (·.data) = array.data := by
    intro self array harray
    rw [harray, Option.bind_some]
  cases op with
  | create self =>
    rw [DynamicSizeArray.perform, specify, h.isNone]
    split
    · next hnone =>
      have hreplaces := BlockHeap.Replaces.refl state.heap none
      exact .found (h.update (.found (describes_create _)) (by rw [hnew hnone]; exact hreplaces))
    · exact .missing
  | createWithCapasity self len =>
    rw [DynamicSizeArray.perform, specify, h.isNone]
    split
    · next hallowed =>
      have hfollows := follows_withCapasity (BlockHeap.Replaces.refl state.heap none) rfl len.isLt
        hallowed.2
      exact h.put (hnew hallowed.1) (.found hfollows)
    · exact .missing
  | createFrom self src len =>
    rw [DynamicSizeArray.perform, specify, h.isNone]
    split
    · next hnone =>
      refine (h.pointer self src).bind fun src origin hsrc => ?_
      rw [hnew hnone] at hsrc
      exact h.put (hnew hnone) ((describes_create _).assign hsrc len len.isLt)
    · exact .missing
  | createCopy self other =>
    rw [DynamicSizeArray.perform, specify, h.isNone]
    split
    · next hnone =>
      refine (h.agree other).bind_map fun array c ⟨harray, hc, hdescribes⟩ => ?_
      have hne : other ≠ self := by
        rintro rfl
        rw [harray] at hnone
        cases hnone
      have hsrc := h.reads_other hne harray hdescribes 0
      rw [hnew hnone] at hsrc
      have hassign := (describes_create _).assign hsrc _ (hdescribes.length_le.trans_lt hdescribes.lt)
      rw [Contents.assign_fixed, ← hdescribes.size] at hassign
      rw [← hdescribes.size]
      exact h.put (hnew hnone) hassign
    · exact .missing
  | destroy self =>
    refine (h.agree self).bind_map fun array c ⟨harray, hc, hdescribes⟩ => ?_
    rw [hdescribes.destroy]
    have hreplaces := (BlockHeap.Replaces.refl state.heap array.data).release
    exact .found (h.update .missing (by rw [hdata harray]; exact hreplaces))
  | assign self other =>
    refine (h.agree self).bind fun array c ⟨harray, hc, hdescribes⟩ => ?_
    refine (h.agree other).bind fun array' c' ⟨harray', hc', hdescribes'⟩ => ?_
    split
    · exact .found h
    · next hne =>
      have hsrc := h.reads_other (Ne.symm hne) harray' hdescribes' 0
      rw [hdata harray] at hsrc
      have hassign := hdescribes.assign hsrc _ (hdescribes'.length_le.trans_lt hdescribes'.lt)
      rw [Contents.assign_fixed, ← hdescribes'.size] at hassign
      rw [← hdescribes'.size]
      exact h.put (hdata harray) hassign
  | assignFrom self src len =>
    refine (h.agree self).bind fun array c ⟨harray, hc, hdescribes⟩ => ?_
    refine (h.pointer self src).bind fun src origin hsrc => ?_
    rw [hdata harray] at hsrc
    exact h.put (hdata harray) (hdescribes.assign hsrc len len.isLt)
  | append self src len =>
    refine (h.agree self).bind fun array c ⟨harray, hc, hdescribes⟩ => ?_
    refine (h.pointer self src).bind fun src origin hsrc => ?_
    rw [hdata harray] at hsrc
    exact h.put (hdata harray) (hdescribes.append hsrc len)
  | swap self other =>
    refine (h.agree self).bind fun array c ⟨harray, hc, hdescribes⟩ => ?_
    refine (h.agree other).bind fun array' c' ⟨harray', hc', hdescribes'⟩ => ?_
    have hswap := h.swap self other
    rw [comp_swap_eq, comp_swap_eq, harray, harray', hc, hc'] at hswap
    split
    · next heq =>
      subst heq
      rw [harray] at harray'
      rw [hc] at hc'
      cases harray'
      cases hc'
      rw [Function.update_idem, ← hc, Function.update_eq_self]
      exact .found h
    · exact .found hswap
  | clear self =>
    refine (h.agree self).bind_map fun array c ⟨harray, hc, hdescribes⟩ => ?_
    exact h.put (hdata harray) (.of_exists hdescribes.clear)
  | reserve self newCapacity =>
    refine (h.agree self).bind_map fun array c ⟨harray, hc, hdescribes⟩ => ?_
    exact h.put (hdata harray) (.of_exists (hdescribes.reserve newCapacity.isLt))
  | resize self newSize =>
    refine (h.agree self).bind_map fun array c ⟨harray, hc, hdescribes⟩ => ?_
    exact h.put (hdata harray) (.of_exists (hdescribes.resize newSize.isLt))
  | pushBack self val =>
    refine (h.agree self).bind fun array c ⟨harray, hc, hdescribes⟩ => ?_
    refine (h.reference self val).bind fun val origin ⟨hval, hown⟩ => ?_
    rw [hdata harray] at hval
    exact h.put (hdata harray) (hdescribes.pushBack hval fun index horigin => hown index c horigin hc)
  | setElement self idx val =>
    refine (h.agree self).bind fun array c ⟨harray, hc, hdescribes⟩ => ?_
    refine (h.reference self val).bind fun val origin ⟨hval, _⟩ => ?_
    rw [hdata harray] at hval
    exact h.put (hdata harray) (hdescribes.setElement hval idx)

/-- From the beginning, a run of operations has a meaning if and only if it has one for lists; the memory
then has what the lists are, and each of its blocks belongs to one array. -/
theorem run_contents (operations : List (Operation ρ α)) :
    (run DynamicSizeArray.perform (State.initial : State ρ α) operations).map State.contents =
        run specify (fun _ => none) operations ∧
      ∀ state, run DynamicSizeArray.perform (State.initial : State ρ α) operations = some state →
        Represents state state.contents := by
  have hagree := agree_run (fun (state : State ρ α) contents op h => Represents.perform h op)
    represents_initial operations
  generalize run DynamicSizeArray.perform (State.initial : State ρ α) operations = result at hagree ⊢
  generalize run specify (fun _ => none) operations = lists at hagree ⊢
  cases hagree with
  | missing => exact ⟨rfl, nofun⟩
  | found h =>
    refine ⟨congrArg some h.contents_eq, ?_⟩
    rintro state ⟨rfl⟩
    rw [h.contents_eq]
    exact h

end DynamicSizeArray

end TimestreamOdbc
