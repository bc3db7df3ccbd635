import TimestreamOdbc.Handles

/-!
# Copies of descriptors

`SQLCopyDesc`: when the destination becomes what the source is, in its own place.
-/

namespace TimestreamOdbc

/-- The header but for the type of its allocation. -/
def DescriptorHeader.content (header : DescriptorHeader) : DescriptorHeader :=
  { header with allocType := 0 }

/-- The header that `InitAppHead` or `InitImpHead` makes, but for the type of its allocation. -/
def DescriptorHeader.blank (type : DescType) : DescriptorHeader :=
  { DescriptorHeader.zero with arraySize := if type = .ard ∨ type = .apd then 1 else 0 }

namespace Handles

variable {Q : Type}

/-- A call has copied a descriptor: if it succeeds, the destination has the records and the header of
the source, but its own type of allocation, kind and statement, and the source is as it was; and if it
fails, so is the destination. -/
structure CopiesDesc (h : Handles Q) (src dst : DescriptorId) (d target : Descriptor)
    (reply : CallReply) (h' : Handles Q) : Prop where
  copied : reply.result = .aiSuccess → ∃ after, h'.descriptors dst = some after ∧
    after.descriptor.records = d.records ∧
    after.descriptor.header.content = d.header.content ∧
    after.descriptor.header.allocType = target.header.allocType ∧
    after.descriptor.type = target.type ∧
    after.descriptor.stmt = target.stmt
  source : reply.result = .aiSuccess → h'.descriptors src = h.descriptors src
  refused : reply.result ≠ .aiSuccess → h'.descriptors dst = h.descriptors dst

/-- `SQLCopyDesc` copies a descriptor as it should. -/
def CopyIsFaithful (h : Handles Q) (src dst : DescriptorId) (d target : Descriptor) : Prop :=
  ∀ reply h', h.copyDesc src dst d target = .returned reply h' → h.CopiesDesc src dst d target reply h'

/-- What a copy makes of the destination. -/
lemma internalCopyDesc_eq (d target : Descriptor) :
    d.internalCopyDesc target =
      if target.type = .ird then
        (.error .sHY016ModifyIrd "Cannot modify an implementation row descriptor", target)
      else
        (.success, { d with header :=
          { DescriptorHeader.blank d.type with allocType := sqlDescAllocAuto } }) := by
  unfold Descriptor.internalCopyDesc
  split
  · rfl
  · by_cases happ : d.type = .ard ∨ d.type = .apd
    · simp [happ, Descriptor.initAppHead, DescriptorHeader.blank, DescriptorHeader.zero,
        sqlBindByColumn]
    · simp [happ, Descriptor.initImpHead, DescriptorHeader.blank, DescriptorHeader.zero]

section Copy

variable {h : Handles Q} {src dst : DescriptorId} {d target : HeldDescriptor}

/-- A header with a type of allocation. -/
lemma content_blank (type : DescType) (allocType : ℤ) :
    ({ DescriptorHeader.blank type with allocType } : DescriptorHeader).content =
      DescriptorHeader.blank type := rfl

/-- A header from its parts. -/
lemma header_eq {header : DescriptorHeader} {type : DescType}
    (hcontent : header.content = DescriptorHeader.blank type)
    (halloc : header.allocType = sqlDescAllocAuto) :
    header = { DescriptorHeader.blank type with allocType := sqlDescAllocAuto } := by
  rw [← hcontent, ← halloc]
  rfl

/-- A call on a destination that is no implementation row descriptor. -/
lemma copyDesc_eq (hdst : h.descriptors dst = some target) (htype : target.descriptor.type ≠ .ird) :
    ∃ h', h.copyDesc src dst d.descriptor target.descriptor = .returned .success h' ∧
      (∀ desc ≠ dst, h'.descriptors desc = h.descriptors desc) ∧
      h'.descriptors dst = some { target with descriptor :=
        { d.descriptor with
          records := if src = dst then fun _ => none else d.descriptor.records
          header := { DescriptorHeader.blank d.descriptor.type with
            allocType := sqlDescAllocAuto } } } := by
  refine ⟨h.updateDescriptor dst fun _ => { d.descriptor with
      records := if src = dst then fun _ => none else d.descriptor.records
      header := { DescriptorHeader.blank d.descriptor.type with allocType := sqlDescAllocAuto } },
    ?_, ?_, ?_⟩
  · unfold copyDesc
    by_cases heq : src = dst
    · simp [heq, internalCopyDesc_eq, htype]
    · simp [heq, internalCopyDesc_eq, htype]
  · intro desc hne
    exact Function.update_of_ne hne _ _
  · simp [updateDescriptor, hdst]

end Copy

/-- The handles of an application with one statement. -/
def oneStatement : Handles Unit := new.allocStmt 0 1 7 1 2 3 4

/-- The descriptor of its parameters. -/
def sampleApd : Descriptor :=
  { Descriptor.new with type := .apd, stmt := some 7 }.initAppHead true

end Handles

end TimestreamOdbc
