import TimestreamOdbc.Links

/-!
# The links of handles

What is allocated has links, and every call on the handles that returns leaves them as they are or
takes a step of the links.
-/

namespace TimestreamOdbc

/-! ## What the calls do to the links -/

/-- The link of a descriptor. -/
def HeldDescriptor.link (held : HeldDescriptor) : DescriptorLink :=
  ⟨held.owner, held.descriptor.type, held.descriptor.conn, held.descriptor.stmt⟩

namespace Handles

variable {Q : Type} {K : QueryClass Q} {h h' : Handles Q} {stmt : StatementId}
  {desc : DescriptorId} {held : HeldStatement Q} {d : HeldDescriptor} {reply : CallReply}

/-- The links of what is allocated. -/
def links (h : Handles Q) : Links where
  ards stmt := (h.statements stmt).map fun held => held.statement.descriptors
  descs desc := (h.descriptors desc).map HeldDescriptor.link

lemma links_ards (hstmt : h.statements stmt = some held) :
    h.links.ards stmt = some held.statement.descriptors :=
  Option.map_eq_some_iff.mpr ⟨held, hstmt, rfl⟩

lemma links_descs (hdesc : h.descriptors desc = some d) : h.links.descs desc = some d.link :=
  Option.map_eq_some_iff.mpr ⟨d, hdesc, rfl⟩

lemma exists_of_links_ards {ds : StatementDescriptors} (hstmt : h.links.ards stmt = some ds) :
    ∃ held, h.statements stmt = some held ∧ held.statement.descriptors = ds :=
  Option.map_eq_some_iff.mp hstmt

lemma exists_of_links_descs {l : DescriptorLink} (hdesc : h.links.descs desc = some l) :
    ∃ d, h.descriptors desc = some d ∧ d.link = l :=
  Option.map_eq_some_iff.mp hdesc

/-- A statement changes. -/
lemma links_updateStatement (hstmt : h.statements stmt = some held)
    (f : Statement Q → Statement Q) :
    (h.updateStatement stmt f).links =
      { h.links with
        ards := Function.update h.links.ards stmt (some (f held.statement).descriptors) } := by
  unfold links updateStatement
  congr 1
  funext stmt'
  by_cases heq : stmt' = stmt
  · subst heq
    simp [hstmt]
  · simp [heq]

/-- A descriptor changes. -/
lemma links_updateDescriptor (hdesc : h.descriptors desc = some d)
    (f : Descriptor → Descriptor) :
    (h.updateDescriptor desc f).links =
      { h.links with
        descs := Function.update h.links.descs desc
          (some { d with descriptor := f d.descriptor : HeldDescriptor }.link) } := by
  unfold links updateDescriptor
  congr 1
  funext desc'
  by_cases heq : desc' = desc
  · subst heq
    simp [hdesc]
  · simp [heq]

/-- A statement whose descriptors stay does not change the links. -/
lemma links_updateStatement_of_same {f : Statement Q → Statement Q}
    (hsame : ∀ held, h.statements stmt = some held →
      (f held.statement).descriptors = held.statement.descriptors) :
    (h.updateStatement stmt f).links = h.links := by
  unfold links updateStatement
  congr 1
  funext stmt'
  by_cases heq : stmt' = stmt
  · subst heq
    cases hstmt : h.statements stmt' with
    | none => simp
    | some held => simp [hsame held hstmt]
  · simp [heq]

/-- A descriptor whose link stays does not change the links. -/
lemma links_updateDescriptor_of_same {f : Descriptor → Descriptor}
    (hsame : ∀ d, h.descriptors desc = some d →
      { d with descriptor := f d.descriptor : HeldDescriptor }.link = d.link) :
    (h.updateDescriptor desc f).links = h.links := by
  unfold links updateDescriptor
  congr 1
  funext desc'
  by_cases heq : desc' = desc
  · subst heq
    cases hdesc : h.descriptors desc' with
    | none => simp
    | some d => simp [hsame d hdesc]
  · simp [heq]

/-- Headers are not linked. -/
lemma links_setHeader {f : DescriptorHeader → DescriptorHeader}
    (hreturns : h.setHeader desc f = .returned reply h') : h'.links = h.links := by
  unfold setHeader at hreturns
  split at hreturns
  · cases hreturns
  · cases hreturns
    exact links_updateDescriptor_of_same fun _ _ => rfl

/-- The attributes but the descriptor of the rows leave the links as they are. -/
lemma links_setStmtAttr {s : Statement Q} {attr : StatementAttribute}
    (hreturns : h.setStmtAttr stmt s attr = .returned reply h') : h'.links = h.links := by
  cases attr with
  | concurrency | cursorType | metadataId | retrieveData | paramBindType =>
    simp only [setStmtAttr] at hreturns
    split at hreturns <;> cases hreturns <;> rfl
  | rowBindType =>
    simp only [setStmtAttr] at hreturns
    split at hreturns
    · cases hreturns
      rfl
    · exact links_setHeader hreturns
  | unsupported =>
    cases hreturns
    rfl
  | paramBindOffsetPtr | rowOperationPtr =>
    simp only [setStmtAttr] at hreturns
    exact links_setHeader hreturns
  | rowsetSize | rowArraySize | rowBindOffsetPtr | rowStatusPtr | rowsFetchedPtr =>
    simp only [setStmtAttr] at hreturns
    rw [links_setHeader hreturns]
    exact links_updateStatement_of_same fun _ _ => rfl

/-- Binding a column leaves the links as they are. -/
lemma links_bindCol {s : Statement Q} {columnIdx : ℕ} {targetType bufferLength : ℤ}
    {targetValue strLengthOrIndicator : Option ℕ}
    (hreturns : h.bindCol stmt s columnIdx targetType targetValue bufferLength
      strLengthOrIndicator = .returned reply h') : h'.links = h.links := by
  unfold bindCol at hreturns
  split at hreturns
  · cases hreturns
    rfl
  · split at hreturns
    · cases hreturns
    · cases hreturns
      rw [links_updateDescriptor_of_same, links_updateStatement_of_same fun _ _ => rfl]
      intro d hd
      simp only [HeldDescriptor.link, Descriptor.setDescriptorFields, Descriptor.setRecord]
      split <;> rfl
  · cases hreturns
    exact links_updateStatement_of_same fun _ _ => rfl

/-- Setting a field keeps what a descriptor is and what it records. -/
lemma internalSetField_link (recNum : ℤ) (field : DescriptorField) (bufferLen : ℤ)
    (d : Descriptor) (owner : Option StatementId) :
    HeldDescriptor.link ⟨owner, (d.internalSetField recNum field bufferLen).2⟩ =
      HeldDescriptor.link ⟨owner, d⟩ := by
  unfold Descriptor.internalSetField
  split <;> rfl

/-- Setting a field leaves the links as they are. -/
lemma links_setDescField (hdesc : h.descriptors desc = some d) {recNum bufferLen : ℤ}
    {field : DescriptorField}
    (hreturns : h.setDescField desc d.descriptor recNum field bufferLen = .returned reply h') :
    h'.links = h.links := by
  have hchanged : (h.updateDescriptor desc fun _ =>
      (d.descriptor.internalSetField recNum field bufferLen).2).links = h.links := by
    apply links_updateDescriptor_of_same
    intro d' hd'
    rw [hdesc] at hd'
    obtain rfl := Option.some.inj hd'
    exact internalSetField_link recNum field bufferLen d.descriptor d.owner
  unfold setDescField at hreturns
  dsimp only at hreturns
  split at hreturns
  · split at hreturns
    · cases hreturns
    · split at hreturns
      · cases hreturns
      · cases hreturns
        rw [links_updateStatement_of_same fun _ _ => rfl, hchanged]
  · cases hreturns
    exact hchanged

/-- Closing a cursor and unbinding leave the descriptors as they are. -/
lemma descriptors_internalFreeResources {s t : Statement Q} {option : ℤ}
    (hreturns : s.internalFreeResources K option = some (reply, t)) :
    t.descriptors = s.descriptors := by
  unfold Statement.internalFreeResources at hreturns
  split at hreturns
  · cases hreturns
    rfl
  · split at hreturns
    · unfold Statement.internalClose at hreturns
      split at hreturns
      · cases hreturns
        rfl
      · split at hreturns
        · cases hreturns
          rfl
        · obtain ⟨x, -, hx⟩ := Option.map_eq_some_iff.mp hreturns
          cases hx
          rfl
    · split at hreturns <;> cases hreturns <;> rfl

/-- The links after a descriptor became the active one of a statement. -/
lemma links_setARDDesc_some (hstmt : h.statements stmt = some held)
    (hdesc : h.descriptors desc = some d) :
    (h.setARDDesc stmt held.statement (some desc)).links =
      ⟨Function.update h.links.ards stmt (some { held.statement.descriptors with ard := desc }),
        Function.update h.links.descs desc
          (some { d.link with type := .ard, stmt := some stmt })⟩ := by
  unfold setARDDesc
  dsimp only
  rw [links_updateStatement (by exact hstmt), links_updateDescriptor hdesc]
  rfl

/-- The links after the implicit descriptor of a statement became the active one. -/
lemma links_setARDDesc_none (hstmt : h.statements stmt = some held) :
    (h.setARDDesc stmt held.statement none).links =
      { h.links with
        ards := Function.update h.links.ards stmt
          (some { held.statement.descriptors with ard := held.statement.descriptors.ardi }) } :=
  links_updateStatement hstmt _

/-- The links after a copy. -/
lemma links_copyDesc {src dst : DescriptorId} {target : HeldDescriptor}
    (htarget : h.descriptors dst = some target)
    (hreturns : h.copyDesc src dst d.descriptor target.descriptor = .returned reply h') :
    target.descriptor.type = .ird ∧ h'.links = h.links ∨
      target.descriptor.type ≠ .ird ∧ h'.links = { h.links with
        descs := Function.update h.links.descs dst
          (some { d.link with owner := target.owner }) } := by
  cases hreturns
  rw [links_updateDescriptor htarget]
  unfold Descriptor.internalCopyDesc
  by_cases htype : target.descriptor.type = .ird
  · refine .inl ⟨htype, ?_⟩
    rw [if_pos htype]
    have hself : Function.update h.links.descs dst (some target.link) = h.links.descs := by
      rw [← links_descs htarget]
      exact Function.update_eq_self ..
    dsimp only
    rw [hself]
  · refine .inr ⟨htype, ?_⟩
    rw [if_neg htype]
    split <;> split <;> rfl

/-- Restoring a descriptor of a statement. -/
lemma descriptors_restoreDescriptor (type : DescType) (s : Statement Q) :
    (s.restoreDescriptor type).descriptors = s.descriptors.restored type := by
  cases type <;> rfl

/-- The links after a descriptor was freed. -/
lemma links_freeDesc (hreturns : h.freeDesc desc d.descriptor = .returned reply h') :
    ∃ stmt held, d.descriptor.stmt = some stmt ∧ h.statements stmt = some held ∧
      h'.links = ⟨Function.update h.links.ards stmt
        (some (held.statement.descriptors.restored d.link.type)),
        Function.update h.links.descs desc none⟩ := by
  unfold freeDesc at hreturns
  split at hreturns
  · cases hreturns
  · next stmt hrecorded =>
    split at hreturns
    · cases hreturns
    · next held hstmt =>
      cases hreturns
      refine ⟨stmt, held, hrecorded, hstmt, ?_⟩
      have hards := congrArg Links.ards
        (links_updateStatement hstmt (Statement.restoreDescriptor d.descriptor.type))
      rw [descriptors_restoreDescriptor] at hards
      refine Links.ext hards ?_
      funext desc'
      by_cases heq : desc' = desc
      · subst heq
        simp [links]
      · simp [links, heq, updateStatement]

/-- The links after a statement was dropped. -/
lemma links_dropStmt (s : Statement Q) :
    (h.dropStmt stmt s).links = ⟨Function.update h.links.ards stmt none,
      fun desc => if desc ∈ s.descriptors.implicits then none else h.links.descs desc⟩ := by
  unfold links dropStmt
  congr 1
  · funext stmt'
    by_cases heq : stmt' = stmt
    · subst heq
      simp
    · simp [heq]
  · funext desc
    dsimp only
    split <;> rfl

/-! ## The calls follow the steps -/

/-- The check of a call on descriptors refuses it. -/
def refuses (h : Handles Q) : HandleCall → Bool
  | .setAppRowDesc stmt (some desc) =>
    (h.statements stmt).any fun held => (h.descriptors desc).any fun d =>
      (refuseArd held.connection stmt d.descriptor).isSome
  | .copyDesc _ dst => (h.descriptors dst).any fun d => d.descriptor.type = .ird
  | _ => false

/-- A call that returns a state has returned. -/
lemma step_eq_some {call : HandleCall} :
    h.step K call = some h' ↔ ∃ reply, h.perform K call = some (.returned reply h') := by
  unfold step
  constructor
  · intro hstep
    split at hstep
    · next reply h'' hperform =>
      cases hstep
      exact ⟨reply, hperform⟩
    · cases hstep
  · rintro ⟨reply, hperform⟩
    rw [hperform]

/-- What can be accepted records no other statement. -/
lemma recorded_of_refuseArd {connection : ConnectionId} {d : Descriptor}
    (haccepted : refuseArd connection stmt d = none) : d.stmt = none ∨ d.stmt = some stmt := by
  unfold refuseArd at haccepted
  split_ifs at haccepted with hconn hstmt
  by_contra hnot
  exact hstmt (not_or.mp hnot)

/-- A call that returns leaves the links as they are or follows a step that is not refused. -/
theorem links_step {call : HandleCall} (hstep : h.step K call = some h') :
    h'.links = h.links ∨ h.refuses call = false ∧ h.links.Step call h'.links := by
  obtain ⟨reply, hperform⟩ := step_eq_some.mp hstep
  cases call with
  | allocStmt connection rowsetSize stmt ardi apdi irdi ipdi =>
    simp only [perform] at hperform
    split at hperform
    · next hfree =>
      obtain ⟨hstmt, hnodup, hdescs⟩ := hfree
      cases hperform
      refine .inr ⟨rfl, ?_⟩
      have hards : (h.allocStmt connection rowsetSize stmt ardi apdi irdi ipdi).links =
          ⟨Function.update h.links.ards stmt (some ⟨ardi, apdi, irdi, ipdi, ardi, irdi⟩),
            (h.allocStmt connection rowsetSize stmt ardi apdi irdi ipdi).links.descs⟩ := by
        refine Links.ext ?_ rfl
        funext stmt'
        by_cases heq : stmt' = stmt
        · subst heq
          simp [links, allocStmt, Statement.new]
        · simp [links, allocStmt, heq]
      rw [hards]
      refine .addStmt ?_ hnodup ?_ ?_ ?_
      · simpa [links] using hstmt
      · intro desc hdesc
        simpa [links] using hdescs desc hdesc
      · intro desc hdesc
        simp only [links, allocStmt]
        split_ifs with hardi hapdi hirdi hipdi
        all_goals first
          | exact ⟨_, rfl, rfl⟩
          | simp_all
      · intro desc hdesc
        simp only [List.mem_cons, List.not_mem_nil, or_false, not_or] at hdesc
        simp [links, allocStmt, hdesc]
    · cases hperform
  | allocDesc connection desc =>
    simp only [perform] at hperform
    split at hperform
    · next hfree =>
      cases hperform
      refine .inr ⟨rfl, ?_⟩
      have hdescs : (h.allocDesc connection desc).links =
          { h.links with
            descs := Function.update h.links.descs desc
              (some ⟨none, .unknown, some connection, none⟩) } := by
        refine Links.ext rfl ?_
        funext desc'
        by_cases heq : desc' = desc
        · subst heq
          simp [links, allocDesc, HeldDescriptor.link, Descriptor.new, Descriptor.initAppHead]
        · simp [links, allocDesc, heq]
      rw [hdescs]
      exact .addDesc (by simpa [links] using hfree)
    · cases hperform
  | setStmtAttr stmt attr =>
    obtain ⟨held, -, hreturns⟩ := Option.map_eq_some_iff.mp hperform
    exact .inl (links_setStmtAttr hreturns)
  | setAppRowDesc stmt desc =>
    obtain ⟨held, hstmt, hset⟩ := Option.bind_eq_some_iff.mp hperform
    cases desc with
    | none =>
      cases hset
      rw [links_setARDDesc_none hstmt]
      exact .inr ⟨rfl, .restore (links_ards hstmt)⟩
    | some desc =>
      obtain ⟨d, hdesc, hset⟩ := Option.map_eq_some_iff.mp hset
      split at hset
      · cases hset
        exact .inl rfl
      · next haccepted =>
        cases hset
        rw [links_setARDDesc_some hstmt hdesc]
        refine .inr ⟨by simp [refuses, hstmt, hdesc, haccepted], ?_⟩
        exact .attach (links_ards hstmt) (links_descs hdesc) (recorded_of_refuseArd haccepted)
  | bindCol stmt columnIdx targetType targetValue bufferLength strLengthOrIndicator =>
    simp only [perform] at hperform
    split at hperform
    · obtain ⟨held, -, hreturns⟩ := Option.map_eq_some_iff.mp hperform
      exact .inl (links_bindCol hreturns)
    · cases hperform
  | setDescField desc recNum field bufferLen =>
    simp only [perform] at hperform
    split at hperform
    · obtain ⟨d, hdesc, hreturns⟩ := Option.map_eq_some_iff.mp hperform
      exact .inl (links_setDescField hdesc hreturns)
    · cases hperform
  | copyDesc src dst =>
    obtain ⟨d, hsrc, hcopy⟩ := Option.bind_eq_some_iff.mp hperform
    obtain ⟨target, hdst, hreturns⟩ := Option.map_eq_some_iff.mp hcopy
    rcases links_copyDesc hdst hreturns with ⟨-, hsame⟩ | ⟨htype, hcopied⟩
    · exact .inl hsame
    · rw [hcopied]
      refine .inr ⟨by simp [refuses, hdst, htype], .copy (links_descs hsrc) (links_descs hdst)⟩
  | freeDesc desc =>
    obtain ⟨d, hdesc, hreturns⟩ := Option.map_eq_some_iff.mp hperform
    obtain ⟨stmt, held, hrecorded, hstmt, hfreed⟩ := links_freeDesc hreturns
    rw [hfreed]
    exact .inr ⟨rfl, .free (links_descs hdesc) hrecorded (links_ards hstmt)⟩
  | freeStmt stmt option =>
    obtain ⟨held, hstmt, hfree⟩ := Option.bind_eq_some_iff.mp hperform
    unfold freeStmt at hfree
    split at hfree
    · next hdrop =>
      cases hfree
      rw [links_dropStmt, hdrop]
      exact .inr ⟨rfl, .drop (links_ards hstmt)⟩
    · obtain ⟨⟨reply', s⟩, hs, hreturns⟩ := Option.map_eq_some_iff.mp hfree
      cases hreturns
      refine .inl (links_updateStatement_of_same ?_)
      intro held' hheld'
      rw [hstmt] at hheld'
      obtain rfl := Option.some.inj hheld'
      exact descriptors_internalFreeResources hs

end Handles

end TimestreamOdbc
