import TimestreamOdbc.ArdMirror
import TimestreamOdbc.HandleLinks

/-!
# What the active row descriptors tell about the bindings

Bindings are stored twice: the statement keeps what a fetch uses, the active row descriptor what the
application can read.  Binding a column and setting an attribute write both.  Unbinding, setting a
field of the descriptor and putting another descriptor in its place write one of them only, so that
the two agree in runs in which these calls have nothing to change.
-/

namespace TimestreamOdbc

open TransitionSystem

/-! ## The mirrors of the statements -/

namespace Links

/-- A descriptor is the active one of the statement that made it or that it records. -/
def isInUse (L : Links) (desc : DescriptorId) : Bool :=
  (L.descs desc).any fun l => (l.owner.or l.stmt).any fun stmt =>
    (L.ards stmt).any fun ds => ds.ard = desc

variable {L : Links} {stmt : StatementId} {ds : StatementDescriptors}

/-- The active descriptor of a statement is in use. -/
lemma Placed.isInUse_ard (h : L.Placed) (hstmt : L.ards stmt = some ds) :
    L.isInUse ds.ard = true := by
  rcases h.active stmt ds hstmt with hown | ⟨l, hl, howner, -, hrecorded⟩
  · obtain ⟨l, hl, howner⟩ := h.implicits stmt ds hstmt ds.ardi (mem_implicits_ardi ds)
    simp [isInUse, hown, hl, howner, hstmt]
  · simp [isInUse, hl, howner, hrecorded, hstmt]

/-- The other implicit descriptors are not in use. -/
lemma Placed.ne_ard_of_mem (h : L.Placed) {stmt' : StatementId} {ds' : StatementDescriptors}
    (hstmt : L.ards stmt = some ds) (hstmt' : L.ards stmt' = some ds') {desc : DescriptorId}
    (hdesc : desc ∈ [ds.apdi, ds.irdi, ds.ipdi]) : ds'.ard ≠ desc := by
  intro hard
  obtain ⟨l, hl, howner⟩ := h.implicits stmt ds hstmt desc (List.mem_cons_of_mem _ hdesc)
  rcases h.active stmt' ds' hstmt' with hown | ⟨l', hl', hexplicit, -⟩
  · obtain ⟨l', hl', howner'⟩ := h.implicits stmt' ds' hstmt' ds'.ardi (mem_implicits_ardi ds')
    rw [← hown, hard, hl] at hl'
    obtain rfl := Option.some.inj hl'
    obtain rfl := Option.some.inj (howner.symm.trans howner')
    rw [hstmt] at hstmt'
    obtain rfl := Option.some.inj hstmt'
    have hnodup := h.nodup stmt ds hstmt
    rw [← hard, hown] at hdesc
    exact (List.nodup_cons.mp hnodup).1 hdesc
  · rw [hard, hl] at hl'
    obtain rfl := Option.some.inj hl'
    exact absurd (howner.symm.trans hexplicit) (by simp)

end Links

namespace Handles

variable {Q : Type} {K : QueryClass Q} {h h' : Handles Q} {stmt : StatementId}
  {desc : DescriptorId} {held held' : HeldStatement Q} {d d' : HeldDescriptor} {reply : CallReply}

/-- The invariant: the descriptors are in their places, and the active one of every statement tells
what the next fetch will do. -/
structure Mirrored (h : Handles Q) : Prop where
  placed : h.links.Placed
  mirrors : ∀ stmt held d, h.statements stmt = some held →
    h.descriptors held.statement.descriptors.ard = some d → Mirrors held.statement d.descriptor

lemma mirrored_new : (new : Handles Q).Mirrored where
  placed := by constructor <;> intro stmt ds hstmt <;> exact absurd hstmt (by simp [links, new])
  mirrors := fun _ _ _ hstmt => absurd hstmt (by simp [new])

/-- A call keeps the mirrors: it puts no descriptor in the place of the active one that does not
tell the same, unbinds columns only that are not bound, binds columns only whose number is a count,
copies to no descriptor in use, and sets the pointers of a descriptor in use to what they are. -/
def KeepsMirror (h : Handles Q) : HandleCall → Prop
  | .setAppRowDesc stmt desc => ∀ held d, h.statements stmt = some held →
      h.descriptors (desc.getD held.statement.descriptors.ardi) = some d →
      Mirrors held.statement d.descriptor
  | .bindCol stmt columnIdx targetType targetValue bufferLength strLengthOrIndicator =>
    match internalBindColumn targetType targetValue bufferLength strLengthOrIndicator with
    | .rejected _ => True
    | .bound _ => columnIdx < 2 ^ 15
    | .unbound => ∀ held, h.statements stmt = some held →
        held.statement.columnBindings columnIdx = none
  | .setDescField desc recNum field bufferLen => Descriptor.lengthRefused bufferLen = false →
      ∀ d, h.descriptors desc = some d →
        (0 ≤ recNum → h.links.isInUse desc = true →
          (d.descriptor.record recNum).keepsPointers field bufferLen = true) ∧
        (field = .dataPtr none → ∀ stmt held, d.descriptor.stmt = some stmt →
          h.statements stmt = some held →
          held.statement.columnBindings (toColumnIdx recNum) = none)
  | .copyDesc _ dst => h.links.isInUse dst = false
  | .freeDesc desc => ∀ d stmt held own, h.descriptors desc = some d → d.descriptor.type = .ard →
      d.descriptor.stmt = some stmt → h.statements stmt = some held →
      h.descriptors held.statement.descriptors.ardi = some own →
      Mirrors held.statement own.descriptor
  | .freeStmt stmt option => option = Statement.sqlUnbind →
      ∀ held, h.statements stmt = some held →
        ∀ columnIdx < 2 ^ 16, held.statement.bound columnIdx = none
  | _ => True

/-! ### What is changed -/

lemma statements_updateStatement_eq_some {f : Statement Q → Statement Q} {stmt' : StatementId} :
    (h.updateStatement stmt f).statements stmt' = some held' ↔
      ∃ held, h.statements stmt' = some held ∧
        held' = if stmt' = stmt then { held with statement := f held.statement } else held := by
  unfold updateStatement
  by_cases heq : stmt' = stmt
  · subst heq
    simp [eq_comm]
  · simp [heq, eq_comm]

lemma descriptors_updateDescriptor_eq_some {f : Descriptor → Descriptor} {desc' : DescriptorId} :
    (h.updateDescriptor desc f).descriptors desc' = some d' ↔
      ∃ d, h.descriptors desc' = some d ∧
        d' = if desc' = desc then { d with descriptor := f d.descriptor } else d := by
  unfold updateDescriptor
  by_cases heq : desc' = desc
  · subst heq
    simp [eq_comm]
  · simp [heq, eq_comm]

/-- A statement that is set to what it is stays. -/
lemma updateStatement_eq_self {f : Statement Q → Statement Q}
    (hsame : ∀ held, h.statements stmt = some held → f held.statement = held.statement) :
    h.updateStatement stmt f = h := by
  unfold updateStatement
  have hstatements : Function.update h.statements stmt
      ((h.statements stmt).map fun held => { held with statement := f held.statement }) =
      h.statements := by
    cases hstmt : h.statements stmt with
    | none =>
      rw [Option.map_none, ← hstmt]
      exact Function.update_eq_self ..
    | some held =>
      rw [Option.map_some, hsame held hstmt, ← hstmt]
      exact Function.update_eq_self ..
  rw [hstatements]

/-- A statement and a descriptor change, and the mirrors with them. -/
lemma Mirrored.update (hm : h.Mirrored) {f : Statement Q → Statement Q}
    {g : Descriptor → Descriptor} (hf : ∀ s, (f s).descriptors = s.descriptors)
    (hplaced : ((h.updateStatement stmt f).updateDescriptor desc g).links.Placed)
    (hkeeps : ∀ stmt' held d, h.statements stmt' = some held →
      h.descriptors held.statement.descriptors.ard = some d →
      Mirrors held.statement d.descriptor →
      Mirrors (if stmt' = stmt then f held.statement else held.statement)
        (if held.statement.descriptors.ard = desc then g d.descriptor else d.descriptor)) :
    ((h.updateStatement stmt f).updateDescriptor desc g).Mirrored where
  placed := hplaced
  mirrors := by
    intro stmt' held' d' hstmt hard
    obtain ⟨held, hheld, rfl⟩ := statements_updateStatement_eq_some.mp hstmt
    obtain ⟨d, hd, rfl⟩ := descriptors_updateDescriptor_eq_some.mp hard
    have hsame : (if stmt' = stmt then { held with statement := f held.statement }
        else held).statement.descriptors.ard = held.statement.descriptors.ard := by
      split
      · rw [hf]
      · rfl
    rw [hsame] at hd ⊢
    have hmirrors := hkeeps stmt' held d hheld hd (hm.mirrors stmt' held d hheld hd)
    split at hmirrors <;> split at hmirrors <;> simp_all

/-- A statement and its active descriptor change together. -/
lemma Mirrored.update_active (hm : h.Mirrored) {f : Statement Q → Statement Q}
    {g : Descriptor → Descriptor} (hf : ∀ s, (f s).descriptors = s.descriptors)
    (hstmt : h.statements stmt = some held)
    (hplaced : ((h.updateStatement stmt f).updateDescriptor
      held.statement.descriptors.ard g).links.Placed)
    (hkeeps : ∀ d, Mirrors held.statement d → Mirrors (f held.statement) (g d)) :
    ((h.updateStatement stmt f).updateDescriptor held.statement.descriptors.ard g).Mirrored := by
  refine hm.update hf hplaced ?_
  intro stmt' held' d hstmt' hd hmirrors
  by_cases heq : stmt' = stmt
  · subst heq
    rw [hstmt] at hstmt'
    obtain rfl := Option.some.inj hstmt'
    rw [if_pos rfl, if_pos rfl]
    exact hkeeps d.descriptor hmirrors
  · have hard : held'.statement.descriptors.ard ≠ held.statement.descriptors.ard :=
      fun hard => heq (hm.placed.unique (links_ards hstmt') (links_ards hstmt) hard)
    rw [if_neg heq, if_neg hard]
    exact hmirrors

/-- A descriptor that is not active on any statement changes. -/
lemma Mirrored.update_unused (hm : h.Mirrored) {f : Statement Q → Statement Q}
    {g : Descriptor → Descriptor} (hf : ∀ s, (f s).descriptors = s.descriptors)
    (hplaced : ((h.updateStatement stmt f).updateDescriptor desc g).links.Placed)
    (hunused : ∀ stmt' held, h.statements stmt' = some held →
      held.statement.descriptors.ard ≠ desc)
    (hkeeps : ∀ s d, Mirrors s d → Mirrors (f s) d) :
    ((h.updateStatement stmt f).updateDescriptor desc g).Mirrored := by
  refine hm.update hf hplaced ?_
  intro stmt' held d hstmt' hd hmirrors
  rw [if_neg (hunused stmt' held hstmt')]
  split
  · exact hkeeps _ _ hmirrors
  · exact hmirrors

/-- A descriptor changes, and what it tells a statement it is active on does not. -/
lemma Mirrored.update_descriptor (hm : h.Mirrored) {g : Descriptor → Descriptor}
    (hplaced : (h.updateDescriptor desc g).links.Placed)
    (hkeeps : ∀ stmt held d, h.statements stmt = some held → h.descriptors desc = some d →
      held.statement.descriptors.ard = desc → Mirrors held.statement d.descriptor →
      Mirrors held.statement (g d.descriptor)) : (h.updateDescriptor desc g).Mirrored where
  placed := hplaced
  mirrors := by
    intro stmt held d' hstmt hard
    obtain ⟨d, hd, rfl⟩ := descriptors_updateDescriptor_eq_some.mp hard
    have hmirrors := hm.mirrors stmt held d hstmt hd
    split
    · next heq => exact hkeeps stmt held d hstmt (heq ▸ hd) heq hmirrors
    · exact hmirrors

/-- What is there after a header was set. -/
lemma eq_of_setHeader {f : DescriptorHeader → DescriptorHeader}
    (hreturns : h.setHeader desc f = .returned reply h') :
    h' = h.updateDescriptor desc fun d => { d with header := f d.header } := by
  unfold setHeader at hreturns
  split at hreturns
  · cases hreturns
  · cases hreturns
    rfl

/-- A statement that does not change. -/
lemma updateStatement_id (h : Handles Q) (stmt : StatementId) : h.updateStatement stmt id = h :=
  updateStatement_eq_self fun _ _ => rfl

/-- The attributes but the descriptor of the rows keep the mirrors. -/
lemma Mirrored.setStmtAttr (hm : h.Mirrored) (hplaced : h'.links.Placed)
    (hstmt : h.statements stmt = some held) {attr : StatementAttribute}
    (hreturns : h.setStmtAttr stmt held.statement attr = .returned reply h') : h'.Mirrored := by
  have hard : ∀ {f : Statement Q → Statement Q} {header},
      (h.updateStatement stmt f).setHeader held.statement.descriptors.ard header =
        .returned reply h' →
      (∀ s, (f s).descriptors = s.descriptors) →
      (∀ d : Descriptor, Mirrors held.statement d →
        Mirrors (f held.statement) { d with header := header d.header }) → h'.Mirrored := by
    intro f header hset hf hkeeps
    obtain rfl := eq_of_setHeader hset
    exact hm.update_active hf hstmt hplaced hkeeps
  have hother : ∀ {f : Statement Q → Statement Q} {header desc},
      (h.updateStatement stmt f).setHeader desc header = .returned reply h' →
      desc ∈ [held.statement.descriptors.apdi, held.statement.descriptors.irdi,
        held.statement.descriptors.ipdi] →
      (∀ s, (f s).descriptors = s.descriptors) → (∀ s d, Mirrors s d → Mirrors (f s) d) →
      h'.Mirrored := by
    intro f header desc hset hdesc hf hkeeps
    obtain rfl := eq_of_setHeader hset
    refine hm.update_unused hf hplaced ?_ hkeeps
    intro stmt' held' hstmt'
    exact hm.placed.ne_ard_of_mem (links_ards hstmt) (links_ards hstmt') hdesc
  have hird : held.statement.descriptors.ird ∈ [held.statement.descriptors.apdi,
      held.statement.descriptors.irdi, held.statement.descriptors.ipdi] := by
    rw [hm.placed.ird stmt _ (links_ards hstmt)]
    simp
  cases attr with
  | concurrency | cursorType | metadataId | retrieveData | paramBindType =>
    simp only [Handles.setStmtAttr] at hreturns
    split at hreturns <;> cases hreturns <;> exact hm
  | unsupported =>
    cases hreturns
    exact hm
  | rowBindType =>
    simp only [Handles.setStmtAttr] at hreturns
    split at hreturns
    · cases hreturns
      exact hm
    · rw [← updateStatement_id h stmt] at hreturns
      exact hard hreturns (fun _ => rfl) fun d hd => hd.congr_descriptor (fun _ _ => rfl) rfl rfl rfl
  | rowOperationPtr =>
    simp only [Handles.setStmtAttr] at hreturns
    rw [← updateStatement_id h stmt] at hreturns
    exact hard hreturns (fun _ => rfl) fun d hd => hd.congr_descriptor (fun _ _ => rfl) rfl rfl rfl
  | paramBindOffsetPtr =>
    simp only [Handles.setStmtAttr] at hreturns
    rw [← updateStatement_id h stmt] at hreturns
    exact hother hreturns List.mem_cons_self (fun _ => rfl) fun _ _ hd => hd
  | rowsetSize value =>
    simp only [Handles.setStmtAttr] at hreturns
    refine hard hreturns (fun _ => rfl) ?_
    intro d hd
    have hset : Mirrors { held.statement with rowsetSize := value } d :=
      hd.congr_statement rfl rfl rfl
    exact hset.congr_descriptor (fun _ _ => rfl) rfl rfl rfl
  | rowArraySize value =>
    simp only [Handles.setStmtAttr] at hreturns
    exact hard hreturns (fun _ => rfl) fun d hd => hd.setArraySize value
  | rowBindOffsetPtr value =>
    simp only [Handles.setStmtAttr] at hreturns
    exact hard hreturns (fun _ => rfl) fun d hd => hd.setBindOffsetPtr value
  | rowStatusPtr | rowsFetchedPtr =>
    simp only [Handles.setStmtAttr] at hreturns
    exact hother hreturns hird (fun _ => rfl) fun _ _ hd => hd.congr_statement rfl rfl rfl

/-- Binding a column whose number is a count, and unbinding one that is not bound, keep the
mirrors. -/
lemma Mirrored.bindCol (hm : h.Mirrored) (hplaced : h'.links.Placed)
    (hstmt : h.statements stmt = some held) {columnIdx : ℕ} {targetType bufferLength : ℤ}
    {targetValue strLengthOrIndicator : Option ℕ}
    (hkeeps : h.KeepsMirror (.bindCol stmt columnIdx targetType targetValue bufferLength
      strLengthOrIndicator))
    (hreturns : h.bindCol stmt held.statement columnIdx targetType targetValue bufferLength
      strLengthOrIndicator = .returned reply h') : h'.Mirrored := by
  unfold Handles.bindCol at hreturns
  cases houtcome : internalBindColumn targetType targetValue bufferLength strLengthOrIndicator with
  | rejected diagnostic =>
    rw [houtcome] at hreturns
    cases hreturns
    exact hm
  | bound binding =>
    rw [houtcome] at hreturns
    dsimp only at hreturns
    split at hreturns
    · cases hreturns
    · cases hreturns
      have hcolumn : columnIdx < 2 ^ 15 := by simpa [KeepsMirror, houtcome] using hkeeps
      exact hm.update_active (fun _ => rfl) hstmt hplaced fun d hd => hd.bindColumn hcolumn houtcome
  | unbound =>
    rw [houtcome] at hreturns
    cases hreturns
    have hnone : held.statement.columnBindings columnIdx = none := by
      simpa [KeepsMirror, houtcome, hstmt] using hkeeps
    rw [updateStatement_eq_self]
    · exact hm
    · intro held' hstmt'
      rw [hstmt] at hstmt'
      obtain rfl := Option.some.inj hstmt'
      unfold Statement.safeUnbindColumn
      rw [← hnone, Function.update_eq_self]

/-- Setting fields to what they are keeps the mirrors. -/
lemma Mirrored.setDescField (hm : h.Mirrored) (hplaced : h'.links.Placed)
    (hdesc : h.descriptors desc = some d) {recNum bufferLen : ℤ} {field : DescriptorField}
    (hkeeps : h.KeepsMirror (.setDescField desc recNum field bufferLen))
    (hreturns : h.setDescField desc d.descriptor recNum field bufferLen = .returned reply h') :
    h'.Mirrored := by
  have hset : ∀ stmt held, h.statements stmt = some held →
      held.statement.descriptors.ard = desc → Mirrors held.statement d.descriptor →
      Mirrors held.statement (d.descriptor.internalSetField recNum field bufferLen).2 := by
    intro stmt held hstmt hard hmirrors
    unfold Descriptor.internalSetField
    split
    · exact hmirrors
    · next hlength =>
      refine hmirrors.setRecord ?_
      intro hnonneg
      apply DescriptorRecord.pointers_setField
      refine (hkeeps (Bool.eq_false_iff.mpr hlength) d hdesc).1 hnonneg ?_
      rw [← hard]
      exact hm.placed.isInUse_ard (links_ards hstmt)
  have hchanged : ∀ (_ : (h.updateDescriptor desc fun _ =>
        (d.descriptor.internalSetField recNum field bufferLen).2).links.Placed),
      (h.updateDescriptor desc fun _ =>
        (d.descriptor.internalSetField recNum field bufferLen).2).Mirrored := by
    intro hplaced
    refine hm.update_descriptor hplaced ?_
    intro stmt held d' hstmt hd' hard hmirrors
    rw [hdesc] at hd'
    obtain rfl := Option.some.inj hd'
    exact hset stmt held hstmt hard hmirrors
  unfold Handles.setDescField at hreturns
  dsimp only at hreturns
  split at hreturns
  · next hunbinds =>
    obtain ⟨hfield, hlength⟩ : field = .dataPtr none ∧ Descriptor.lengthRefused bufferLen = false := by
      simpa [Descriptor.unbindsColumn] using hunbinds
    split at hreturns
    · cases hreturns
    · next stmt hrecorded =>
      split at hreturns
      · cases hreturns
      · next held hstmt =>
        cases hreturns
        have hnone : held.statement.columnBindings (toColumnIdx recNum) = none :=
          (hkeeps hlength d hdesc).2 hfield stmt held hrecorded hstmt
        have hsame : ((h.updateDescriptor desc fun _ =>
            (d.descriptor.internalSetField recNum field bufferLen).2).updateStatement stmt
              (Statement.safeUnbindColumn (toColumnIdx recNum))) =
            h.updateDescriptor desc fun _ =>
              (d.descriptor.internalSetField recNum field bufferLen).2 := by
          apply updateStatement_eq_self
          intro held' hstmt'
          have hheld : held' = held := Option.some.inj (hstmt'.symm.trans hstmt)
          rw [hheld]
          unfold Statement.safeUnbindColumn
          rw [← hnone, Function.update_eq_self]
        rw [hsame] at hplaced ⊢
        exact hchanged hplaced
  · cases hreturns
    exact hchanged hplaced

/-- A descriptor that tells the same takes the place of the active one. -/
lemma Mirrored.setAppRowDesc (hm : h.Mirrored) (hplaced : h'.links.Placed)
    (hstmt : h.statements stmt = some held) {desc : Option DescriptorId}
    (hkeeps : h.KeepsMirror (.setAppRowDesc stmt desc))
    (hreturns : h.setAppRowDesc stmt held desc = some (.returned reply h')) : h'.Mirrored := by
  refine ⟨hplaced, ?_⟩
  intro stmt' held' d' hstmt' hard
  cases desc with
  | none =>
    cases hreturns
    obtain ⟨held'', hheld, rfl⟩ := statements_updateStatement_eq_some.mp hstmt'
    by_cases heq : stmt' = stmt
    · subst heq
      rw [hstmt] at hheld
      obtain rfl := Option.some.inj hheld
      rw [if_pos rfl] at hard ⊢
      exact (hkeeps held d' hstmt hard).congr_statement rfl rfl rfl
    · rw [if_neg heq] at hard ⊢
      exact hm.mirrors stmt' held'' d' hheld hard
  | some desc =>
    obtain ⟨d, hdesc, hreturns⟩ := Option.map_eq_some_iff.mp hreturns
    split at hreturns
    · cases hreturns
      exact hm.mirrors stmt' held' d' hstmt' hard
    · cases hreturns
      obtain ⟨held'', hheld, rfl⟩ := statements_updateStatement_eq_some.mp hstmt'
      have hard' : (h.updateDescriptor desc fun d => { d with type := .ard, stmt := some stmt }
          ).descriptors _ = some d' := hard
      obtain ⟨d'', hd'', rfl⟩ := descriptors_updateDescriptor_eq_some.mp hard'
      have hheld' : h.statements stmt' = some held'' := hheld
      have hrecords : ∀ (c : Prop) [Decidable c] (s : Statement Q), Mirrors s d''.descriptor →
          Mirrors s (if c then
            { d'' with descriptor := { d''.descriptor with type := .ard, stmt := some stmt } }
          else d'').descriptor := by
        intro c _ s hs
        split
        · exact hs.congr_descriptor (fun _ _ => rfl) rfl rfl rfl
        · exact hs
      apply hrecords
      by_cases heq : stmt' = stmt
      · subst heq
        rw [hstmt] at hheld'
        obtain rfl := Option.some.inj hheld'
        rw [if_pos rfl] at hd'' ⊢
        exact (hkeeps held d'' hstmt hd'').congr_statement rfl rfl rfl
      · rw [if_neg heq] at hd'' ⊢
        exact hm.mirrors stmt' held'' d'' hheld' hd''

/-- A copy to a descriptor that is not in use keeps the mirrors. -/
lemma Mirrored.copyDesc (hm : h.Mirrored) (hplaced : h'.links.Placed) {src dst : DescriptorId}
    {target : HeldDescriptor} (hkeeps : h.KeepsMirror (.copyDesc src dst))
    (hreturns : h.copyDesc src dst d.descriptor target.descriptor = .returned reply h') :
    h'.Mirrored := by
  cases hreturns
  refine hm.update_descriptor hplaced ?_
  intro stmt held d' hstmt hd' hard
  have hunused : h.links.isInUse dst = false := hkeeps
  rw [← hard, hm.placed.isInUse_ard (links_ards hstmt)] at hunused
  exact absurd hunused (by simp)

/-- A descriptor is freed, and the implicit one that tells the same takes its place. -/
lemma Mirrored.freeDesc (hm : h.Mirrored) (hplaced : h'.links.Placed)
    (hdesc : h.descriptors desc = some d) (hkeeps : h.KeepsMirror (.freeDesc desc))
    (hreturns : h.freeDesc desc d.descriptor = .returned reply h') : h'.Mirrored := by
  refine ⟨hplaced, ?_⟩
  unfold Handles.freeDesc at hreturns
  split at hreturns
  · cases hreturns
  · next stmt hrecorded =>
    split at hreturns
    · cases hreturns
    · next held hstmt =>
      cases hreturns
      intro stmt' held' d' hstmt' hard
      obtain ⟨held'', hheld, rfl⟩ := statements_updateStatement_eq_some.mp hstmt'
      obtain ⟨-, hard⟩ := update_none_eq_some.mp hard
      by_cases heq : stmt' = stmt
      · subst heq
        rw [hstmt] at hheld
        obtain rfl := Option.some.inj hheld
        rw [if_pos rfl] at hard ⊢
        cases htype : d.descriptor.type with
        | ard =>
          rw [htype] at hard
          have hown := hkeeps d _ held d' hdesc htype hrecorded hstmt hard
          exact hown.congr_statement rfl rfl rfl
        | apd | ird | ipd | unknown =>
          rw [htype] at hard
          exact (hm.mirrors _ held d' hstmt hard).congr_statement rfl rfl rfl
      · rw [if_neg heq] at hard ⊢
        exact hm.mirrors stmt' held'' d' hheld hard

/-- Closing a cursor keeps what a fetch uses. -/
lemma internalFreeResources_eq {s t : Statement Q} {option : ℤ} (hoption : option ≠ Statement.sqlUnbind)
    (hreturns : s.internalFreeResources K option = some (reply, t)) :
    t.columnBindings = s.columnBindings ∧ t.rowArraySize = s.rowArraySize ∧
      t.columnBindOffset = s.columnBindOffset := by
  unfold Statement.internalFreeResources at hreturns
  split at hreturns
  · cases hreturns
    exact ⟨rfl, rfl, rfl⟩
  · split at hreturns
    · unfold Statement.internalClose at hreturns
      split at hreturns
      · cases hreturns
        exact ⟨rfl, rfl, rfl⟩
      · split at hreturns
        · cases hreturns
          exact ⟨rfl, rfl, rfl⟩
        · obtain ⟨x, -, hx⟩ := Option.map_eq_some_iff.mp hreturns
          cases hx
          exact ⟨rfl, rfl, rfl⟩
    · cases hreturns
      exact ⟨rfl, rfl, rfl⟩

/-- Freeing a statement or its resources, without columns that are unbound, keeps the mirrors. -/
lemma Mirrored.freeStmt (hm : h.Mirrored) (hplaced : h'.links.Placed)
    (hstmt : h.statements stmt = some held) {option : ℤ}
    (hkeeps : h.KeepsMirror (.freeStmt stmt option))
    (hreturns : h.freeStmt K stmt held.statement option = some (.returned reply h')) :
    h'.Mirrored := by
  refine ⟨hplaced, ?_⟩
  intro stmt' held' d' hstmt' hard
  unfold Handles.freeStmt at hreturns
  split at hreturns
  · cases hreturns
    obtain ⟨-, hstmt'⟩ := update_none_eq_some.mp hstmt'
    have hard' : h.descriptors held'.statement.descriptors.ard = some d' := by
      unfold dropStmt at hard
      dsimp only at hard
      split at hard
      · cases hard
      · exact hard
    exact hm.mirrors stmt' held' d' hstmt' hard'
  · obtain ⟨⟨reply', t⟩, ht, hreturns⟩ := Option.map_eq_some_iff.mp hreturns
    cases hreturns
    obtain ⟨held'', hheld, rfl⟩ := statements_updateStatement_eq_some.mp hstmt'
    by_cases heq : stmt' = stmt
    · subst heq
      rw [hstmt] at hheld
      obtain rfl := Option.some.inj hheld
      rw [if_pos rfl] at hard ⊢
      have hmirrors := hm.mirrors _ held d' hstmt (descriptors_internalFreeResources ht ▸ hard)
      by_cases hunbind : option = Statement.sqlUnbind
      · subst hunbind
        cases ht
        exact hmirrors.unbindAllColumns (hkeeps rfl held hstmt)
      · obtain ⟨hbindings, hsize, hoffset⟩ := internalFreeResources_eq hunbind ht
        exact hmirrors.congr_statement hbindings hsize hoffset
    · rw [if_neg heq] at hard ⊢
      exact hm.mirrors stmt' held'' d' hheld hard

/-- A new statement has its mirror. -/
lemma Mirrored.allocStmt (hm : h.Mirrored) {connection : ConnectionId} {rowsetSize : ℕ}
    {ardi apdi irdi ipdi : DescriptorId}
    (hplaced : (h.allocStmt connection rowsetSize stmt ardi apdi irdi ipdi).links.Placed)
    (hfree : ∀ desc ∈ [ardi, apdi, irdi, ipdi], (h.descriptors desc).isNone) :
    (h.allocStmt connection rowsetSize stmt ardi apdi irdi ipdi).Mirrored := by
  refine ⟨hplaced, ?_⟩
  intro stmt' held' d' hstmt' hard
  rcases update_some_eq_some.mp hstmt' with ⟨rfl, rfl⟩ | ⟨-, hstmt'⟩
  · have hmade := Option.some.inj ((if_pos rfl).symm.trans hard)
    rw [← hmade]
    refine ⟨fun _ _ => rfl, ?_, .inl rfl, rfl, rfl⟩
    intro c hc hne
    exact absurd rfl hne
  · obtain ⟨l, hl⟩ := hm.placed.exists_ard (links_ards hstmt')
    obtain ⟨d, hd, -⟩ := exists_of_links_descs hl
    have hkept : held'.statement.descriptors.ard ∉ [ardi, apdi, irdi, ipdi] := by
      intro hmem
      have := hfree _ hmem
      simp [hd] at this
    simp only [List.mem_cons, List.not_mem_nil, or_false, not_or] at hkept
    have hard' : h.descriptors held'.statement.descriptors.ard = some d' := by
      simpa [Handles.allocStmt, hkept] using hard
    exact hm.mirrors stmt' held' d' hstmt' hard'

/-- A new descriptor is not active. -/
lemma Mirrored.allocDesc (hm : h.Mirrored) {connection : ConnectionId}
    (hplaced : (h.allocDesc connection desc).links.Placed)
    (hfree : (h.descriptors desc).isNone) : (h.allocDesc connection desc).Mirrored := by
  refine ⟨hplaced, ?_⟩
  intro stmt' held' d' hstmt' hard
  obtain ⟨l, hl⟩ := hm.placed.exists_ard (links_ards hstmt')
  obtain ⟨d, hd, -⟩ := exists_of_links_descs hl
  rcases update_some_eq_some.mp hard with ⟨heq, -⟩ | ⟨-, hard⟩
  · rw [← heq, hd] at hfree
    exact absurd hfree (by simp)
  · exact hm.mirrors stmt' held' d' hstmt' hard

/-! ### Runs -/

/-- A call that is refused changes nothing. -/
lemma eq_of_refuses {call : HandleCall} (hrefuses : h.refuses call = true)
    (hstep : h.step K call = some h') : h' = h := by
  obtain ⟨reply, hperform⟩ := step_eq_some.mp hstep
  cases call with
  | setAppRowDesc stmt desc =>
    cases desc with
    | none => cases hrefuses
    | some desc =>
      obtain ⟨held, hstmt, hset⟩ := Option.bind_eq_some_iff.mp hperform
      obtain ⟨d, hdesc, hset⟩ := Option.map_eq_some_iff.mp hset
      have hrefused : (refuseArd held.connection stmt d.descriptor).isSome = true := by
        simpa [refuses, hstmt, hdesc] using hrefuses
      split at hset
      · cases hset
        rfl
      · next haccepted =>
        rw [haccepted] at hrefused
        cases hrefused
  | copyDesc src dst =>
    obtain ⟨d, hsrc, hcopy⟩ := Option.bind_eq_some_iff.mp hperform
    obtain ⟨target, hdst, hreturns⟩ := Option.map_eq_some_iff.mp hcopy
    have htype : target.descriptor.type = .ird := by simpa [refuses, hdst] using hrefuses
    cases hreturns
    unfold Descriptor.internalCopyDesc updateDescriptor
    rw [if_pos htype, hdst, Option.map_some]
    have hself : Function.update h.descriptors dst (some target) = h.descriptors := by
      rw [← hdst]
      exact Function.update_eq_self ..
    dsimp only
    rw [hself]
  | _ => cases hrefuses

/-- A call that keeps places and mirrors, or is refused, keeps the invariant. -/
lemma Mirrored.step {call : HandleCall} (hm : h.Mirrored)
    (hkeeps : h.refuses call = true ∨ h.links.keepsPlaces call = true ∧ h.KeepsMirror call)
    (hstep : h.step K call = some h') : h'.Mirrored := by
  rcases hkeeps with hrefuses | ⟨hplaces, hkeeps⟩
  · rw [eq_of_refuses hrefuses hstep]
    exact hm
  have hplaced : h'.links.Placed := by
    rcases links_step hstep with hsame | ⟨-, hlinks⟩
    · rw [hsame]
      exact hm.placed
    · exact hm.placed.step hplaces hlinks
  obtain ⟨reply, hperform⟩ := step_eq_some.mp hstep
  cases call with
  | allocStmt connection rowsetSize stmt ardi apdi irdi ipdi =>
    simp only [perform] at hperform
    split at hperform
    · next hfree =>
      cases hperform
      exact hm.allocStmt hplaced hfree.2.2
    · cases hperform
  | allocDesc connection desc =>
    simp only [perform] at hperform
    split at hperform
    · next hfree =>
      cases hperform
      exact hm.allocDesc hplaced hfree
    · cases hperform
  | setStmtAttr stmt attr =>
    obtain ⟨held, hstmt, hreturns⟩ := Option.map_eq_some_iff.mp hperform
    exact hm.setStmtAttr hplaced hstmt hreturns
  | setAppRowDesc stmt desc =>
    obtain ⟨held, hstmt, hreturns⟩ := Option.bind_eq_some_iff.mp hperform
    exact hm.setAppRowDesc hplaced hstmt hkeeps hreturns
  | bindCol stmt columnIdx targetType targetValue bufferLength strLengthOrIndicator =>
    simp only [perform] at hperform
    split at hperform
    · obtain ⟨held, hstmt, hreturns⟩ := Option.map_eq_some_iff.mp hperform
      exact hm.bindCol hplaced hstmt hkeeps hreturns
    · cases hperform
  | setDescField desc recNum field bufferLen =>
    simp only [perform] at hperform
    split at hperform
    · obtain ⟨d, hdesc, hreturns⟩ := Option.map_eq_some_iff.mp hperform
      exact hm.setDescField hplaced hdesc hkeeps hreturns
    · cases hperform
  | copyDesc src dst =>
    obtain ⟨d, -, hcopy⟩ := Option.bind_eq_some_iff.mp hperform
    obtain ⟨target, -, hreturns⟩ := Option.map_eq_some_iff.mp hcopy
    exact hm.copyDesc hplaced hkeeps hreturns
  | freeDesc desc =>
    obtain ⟨d, hdesc, hreturns⟩ := Option.map_eq_some_iff.mp hperform
    exact hm.freeDesc hplaced hdesc hkeeps hreturns
  | freeStmt stmt option =>
    obtain ⟨held, hstmt, hreturns⟩ := Option.bind_eq_some_iff.mp hperform
    exact hm.freeStmt hplaced hstmt hkeeps hreturns

/-- In every run whose calls keep places and mirrors, the active row descriptor of every statement
tells what its next fetch will do. -/
theorem active_ard_mirrors (K : QueryClass Q) {calls : List HandleCall} {h : Handles Q}
    (hmeets : Meets (fun h call => h.refuses call = true ∨
      h.links.keepsPlaces call = true ∧ h.KeepsMirror call) (step K) new calls)
    (hrun : run (step K) new calls = some h) {stmt : StatementId} {held : HeldStatement Q}
    (hstmt : h.statements stmt = some held) :
    ∃ d, h.descriptors held.statement.descriptors.ard = some d ∧
      Mirrors held.statement d.descriptor := by
  have hm : h.Mirrored := by
    refine invariant_run_meets ?_ hmeets mirrored_new hrun
    intro s call s' hkeeps hs hstep
    exact hs.step hkeeps hstep
  obtain ⟨l, hl⟩ := hm.placed.exists_ard (links_ards hstmt)
  obtain ⟨d, hd, -⟩ := exists_of_links_descs hl
  exact ⟨d, hd, hm.mirrors stmt held d hstmt hd⟩

/-- A bound column and a rowset of two rows. -/
theorem active_ard_mirrors_one_column :
    ∃ h held d, run (step sampleClass) new [.allocStmt 0 1 0 0 1 2 3,
        .bindCol 0 1 4 (some 100) 4 none, .setStmtAttr 0 (.rowArraySize 2)] = some h ∧
      h.statements 0 = some held ∧ h.descriptors held.statement.descriptors.ard = some d ∧
      Mirrors held.statement d.descriptor := by
  refine ⟨_, _, _, rfl, rfl, rfl, ?_⟩
  obtain ⟨d, hd, hmirrors⟩ := @active_ard_mirrors _ sampleClass [.allocStmt 0 1 0 0 1 2 3,
    .bindCol 0 1 4 (some 100) 4 none, .setStmtAttr 0 (.rowArraySize 2)] _
    ((meets_cons rfl).mpr ⟨.inr ⟨rfl, trivial⟩, (meets_cons rfl).mpr
      ⟨.inr ⟨rfl, (by decide : 1 < 2 ^ 15)⟩, (meets_cons rfl).mpr ⟨.inr ⟨rfl, trivial⟩, trivial⟩⟩⟩) rfl 0 _ rfl
  obtain rfl := Option.some.inj hd
  exact hmirrors

/-- A column that is unbound stays in the record of the active row descriptor. -/
theorem not_active_ard_mirrors :
    ¬ ∀ (calls : List HandleCall) (h : Handles (Query (InterleavedQuery Unit Unit))),
      run (step sampleClass) new calls = some h → ∀ stmt held, h.statements stmt = some held →
      ∃ d, h.descriptors held.statement.descriptors.ard = some d ∧
        Mirrors held.statement d.descriptor := by
  intro hclaim
  obtain ⟨d, hd, hmirrors⟩ := hclaim [.allocStmt 0 1 0 0 1 2 3, .bindCol 0 1 4 (some 100) 4 none,
    .bindCol 0 1 4 none 4 none] _ rfl 0 _ rfl
  obtain rfl := Option.some.inj hd
  exact absurd (hmirrors.columns 1 (by decide)) (by decide)

end Handles

end TimestreamOdbc
