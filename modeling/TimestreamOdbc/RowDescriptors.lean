import TimestreamOdbc.HandleLinks

/-!
# The active row descriptors

The link between a statement and its active row descriptor is kept in two places: the statement points
at the descriptor, and the descriptor records the statement.  Only setting the descriptor writes both.
Setting another one, a drop of the statement and a copy leave a descriptor that records a statement it
is not active on, and a descriptor that was never set records none, which freeing it follows.
-/

namespace TimestreamOdbc

open TransitionSystem

/-! ## Records -/

namespace Links

/-- Only active descriptors record a statement. -/
def Recorded (L : Links) : Prop :=
  ∀ desc l, L.descs desc = some l → l.owner = none → ∀ stmt, l.stmt = some stmt →
    l.type = .ard ∧ ∃ ds, L.ards stmt = some ds ∧ ds.ard = desc

variable {L : Links} {stmt : StatementId} {desc : DescriptorId} {ds : StatementDescriptors}
  {l l' : DescriptorLink}

namespace Recorded

/-- A descriptor becomes active on a statement whose implicit descriptor was. -/
lemma attach (h : L.Recorded) (hplaced : L.Placed) (hstmt : L.ards stmt = some ds)
    (hfree : ds.ard = ds.ardi ∨ ds.ard = desc) :
    Recorded ⟨Function.update L.ards stmt (some { ds with ard := desc }),
      Function.update L.descs desc (some { l with type := .ard, stmt := some stmt })⟩ := by
  intro d m hupdated howner stmt' hrecorded
  rcases update_some_eq_some.mp hupdated with ⟨rfl, rfl⟩ | ⟨hne, hm⟩
  · obtain rfl := Option.some.inj hrecorded
    exact ⟨rfl, _, Function.update_self .., rfl⟩
  · obtain ⟨htype, ds', hds', hard⟩ := h d m hm howner stmt' hrecorded
    refine ⟨htype, ds', ?_, hard⟩
    rw [← hds']
    apply Function.update_of_ne
    rintro rfl
    rw [hstmt] at hds'
    obtain rfl := Option.some.inj hds'
    rcases hfree with hown | hsame
    · obtain ⟨l', hl', hmade⟩ := hplaced.implicits stmt' ds hstmt ds.ardi (mem_implicits_ardi ds)
      rw [← hown, hard, hm] at hl'
      obtain rfl := Option.some.inj hl'
      exact absurd (howner.symm.trans hmade) (by simp)
    · exact hne (hard.symm.trans hsame)

/-- A descriptor changes hands and records what it recorded. -/
lemma update_desc (h : L.Recorded) (hdesc : L.descs desc = some l) (howner : l'.owner = l.owner)
    (hsame : l.owner = none → l'.stmt = l.stmt ∧ ∀ stmt, l.stmt = some stmt → l'.type = .ard) :
    Recorded { L with descs := Function.update L.descs desc (some l') } := by
  intro d m hm hexplicit stmt hrecorded
  rcases update_some_eq_some.mp hm with ⟨rfl, rfl⟩ | ⟨-, hm⟩
  · obtain ⟨hstmt, htype⟩ := hsame (howner.symm.trans hexplicit)
    have hl : l.stmt = some stmt := hstmt.symm.trans hrecorded
    exact ⟨htype stmt hl, (h d l hdesc (howner.symm.trans hexplicit) stmt hl).2⟩
  · exact h d m hm hexplicit stmt hrecorded

/-- The active descriptor of a statement is removed. -/
lemma free (h : L.Recorded) (hstmt : L.ards stmt = some ds) (hard : ds.ard = desc) :
    Recorded ⟨Function.update L.ards stmt (some { ds with ard := ds.ardi }),
      Function.update L.descs desc none⟩ := by
  intro d m hm howner stmt' hrecorded
  obtain ⟨hne, hm⟩ := update_none_eq_some.mp hm
  obtain ⟨htype, ds', hds', hard'⟩ := h d m hm howner stmt' hrecorded
  refine ⟨htype, ds', ?_, hard'⟩
  rw [← hds']
  apply Function.update_of_ne
  rintro rfl
  rw [hstmt] at hds'
  obtain rfl := Option.some.inj hds'
  exact hne (hard'.symm.trans hard)

/-- A statement whose implicit descriptor is active is dropped. -/
lemma drop (h : L.Recorded) (hstmt : L.ards stmt = some ds) (hown : ds.ard = ds.ardi) :
    Recorded ⟨Function.update L.ards stmt none,
      fun desc => if desc ∈ ds.implicits then none else L.descs desc⟩ := by
  intro d m hm howner stmt' hrecorded
  dsimp only at hm
  split at hm
  · exact absurd hm (by simp)
  · next hmem =>
    obtain ⟨htype, ds', hds', hard⟩ := h d m hm howner stmt' hrecorded
    refine ⟨htype, ds', update_none_eq_some.mpr ⟨?_, hds'⟩, hard⟩
    rintro rfl
    rw [hstmt] at hds'
    obtain rfl := Option.some.inj hds'
    exact hmem (hard ▸ hown ▸ mem_implicits_ardi ds)

/-- A statement is made where there was none. -/
lemma add_stmt (h : L.Recorded) {descs : DescriptorId → Option DescriptorLink}
    (hfree : L.ards stmt = none)
    (hmade : ∀ desc ∈ ds.implicits, ∃ l, descs desc = some l ∧ l.owner = some stmt)
    (hkept : ∀ desc, desc ∉ ds.implicits → descs desc = L.descs desc) :
    Recorded ⟨Function.update L.ards stmt (some ds), descs⟩ := by
  intro d m hm howner stmt' hrecorded
  by_cases hmem : d ∈ ds.implicits
  · obtain ⟨l, hl, hown⟩ := hmade d hmem
    dsimp only at hm
    rw [hl] at hm
    obtain rfl := Option.some.inj hm
    exact absurd (howner.symm.trans hown) (by simp)
  · obtain ⟨htype, ds', hds', hard⟩ := h d m (hkept d hmem ▸ hm) howner stmt' hrecorded
    refine ⟨htype, ds', update_some_eq_some.mpr (.inr ⟨?_, hds'⟩), hard⟩
    rintro rfl
    exact absurd (hfree.symm.trans hds') (by simp)

/-- A descriptor is made that records no statement. -/
lemma add_desc (h : L.Recorded) (hnone : l.stmt = none) :
    Recorded { L with descs := Function.update L.descs desc (some l) } := by
  intro d m hm howner stmt' hrecorded
  rcases update_some_eq_some.mp hm with ⟨rfl, rfl⟩ | ⟨-, hm⟩
  · exact absurd (hnone.symm.trans hrecorded) (by simp)
  · exact h d m hm howner stmt' hrecorded

end Recorded

/-- A call keeps what the descriptors record: it does not take the place of an explicit descriptor,
copies to explicit descriptors from those only that record the same, frees active descriptors and
drops statements whose implicit descriptor is active. -/
def keepsRecords (L : Links) : HandleCall → Bool
  | .setAppRowDesc stmt desc =>
    (L.ards stmt).all fun ds =>
      desc = some ds.ard || ds.ard = ds.ardi && desc.all L.isExplicit
  | .copyDesc src dst =>
    !L.isExplicit dst || (L.descs src).all fun l => (L.descs dst).all fun target =>
      l.stmt = target.stmt && (l.stmt.isNone || l.type = .ard)
  | .freeDesc desc => (L.descs desc).all fun l => l.owner.isNone && l.stmt.isSome
  | .freeStmt stmt option =>
    option ≠ Statement.sqlDrop || (L.ards stmt).all fun ds => ds.ard = ds.ardi
  | _ => true

/-- Such a call keeps the descriptors in their places. -/
lemma keepsPlaces_of_keepsRecords {call : HandleCall} {L' : Links} (hplaced : L.Placed)
    (hkeeps : L.keepsRecords call = true) (hstep : L.Step call L') :
    L.keepsPlaces call = true := by
  cases hstep with
  | addStmt | addDesc | restore | drop => rfl
  | @attach stmt ds desc l hstmt hdesc hrecorded =>
    have hset : desc = ds.ard ∨ ds.ard = ds.ardi ∧ L.isExplicit desc = true := by
      simpa [keepsRecords, hstmt] using hkeeps
    have hplace : L.isExplicit desc = true ∨ desc = ds.ardi := by
      rcases hset with rfl | ⟨-, hexplicit⟩
      · rcases hplaced.active stmt ds hstmt with hown | ⟨m, hm, howner, -⟩
        · exact .inr hown
        · exact .inl ((isExplicit_eq_true hm).mpr howner)
      · exact .inl hexplicit
    simpa [keepsPlaces, hstmt] using hplace
  | @copy src dst l target hsrc hdst =>
    by_cases hexplicit : L.isExplicit dst = true
    · have hsame : l.stmt = target.stmt ∧ (l.stmt = none ∨ l.type = .ard) := by
        simpa [keepsRecords, hexplicit, hsrc, hdst] using hkeeps
      by_cases hactive : L.isActive dst = true
      · obtain ⟨hstmt, htype⟩ := hsame
        have hsome : target.stmt ≠ none := by
          intro hnone
          simp [isActive, hdst, hnone] at hactive
        have htype' : l.type = .ard := htype.resolve_left fun hnone => hsome (hstmt ▸ hnone)
        simp [keepsPlaces, hsrc, hdst, hstmt, htype']
      · simp [keepsPlaces, hactive]
    · simp [keepsPlaces, hexplicit]
  | @free desc l stmt ds hdesc hrecorded hstmt =>
    have hfree : l.owner = none ∧ l.stmt.isSome = true := by
      simpa [keepsRecords, hdesc] using hkeeps
    exact (isExplicit_eq_true hdesc).mpr hfree.1

/-- It does keep what they record. -/
lemma Recorded.step {call : HandleCall} {L' : Links} (h : L.Recorded) (hplaced : L.Placed)
    (hkeeps : L.keepsRecords call = true) (hstep : L.Step call L') : L'.Recorded := by
  cases hstep with
  | addStmt hstmt hnodup hfree hmade hkept => exact h.add_stmt hstmt hmade hkept
  | addDesc hfree => exact h.add_desc rfl
  | @attach stmt ds desc l hstmt hdesc hrecorded =>
    have hset : desc = ds.ard ∨ ds.ard = ds.ardi ∧ L.isExplicit desc = true := by
      simpa [keepsRecords, hstmt] using hkeeps
    refine h.attach hplaced hstmt ?_
    rcases hset with rfl | ⟨hown, -⟩
    · exact .inr rfl
    · exact .inl hown
  | @restore stmt ds hstmt =>
    have hown : ds.ard = ds.ardi := by simpa [keepsRecords, hstmt] using hkeeps
    have hself : { ds with ard := ds.ardi } = ds := by
      cases ds
      cases hown
      rfl
    rw [hself, ← hstmt, Function.update_eq_self]
    exact h
  | @copy src dst l target hsrc hdst =>
    refine h.update_desc hdst rfl ?_
    intro howner
    have hexplicit : L.isExplicit dst = true := (isExplicit_eq_true hdst).mpr howner
    obtain ⟨hstmt, htype⟩ : l.stmt = target.stmt ∧ (l.stmt = none ∨ l.type = .ard) := by
      simpa [keepsRecords, hexplicit, hsrc, hdst] using hkeeps
    refine ⟨hstmt, fun stmt hsome => htype.resolve_left ?_⟩
    rw [hstmt, hsome]
    exact Option.some_ne_none stmt
  | @free desc l stmt ds hdesc hrecorded hstmt =>
    have hfree : l.owner = none ∧ l.stmt.isSome = true := by
      simpa [keepsRecords, hdesc] using hkeeps
    obtain ⟨htype, ds', hstmt', hard⟩ := h desc l hdesc hfree.1 stmt hrecorded
    rw [hstmt] at hstmt'
    obtain rfl := Option.some.inj hstmt'
    rw [htype]
    exact h.free hstmt hard
  | @drop stmt ds hstmt =>
    have hown : ds.ard = ds.ardi := by simpa [keepsRecords, hstmt] using hkeeps
    exact h.drop hstmt hown

end Links

/-! ## The active row descriptors of the statements -/

namespace Handles

variable {Q : Type} {K : QueryClass Q} {h h' : Handles Q}

/-- A call that the checks refuse, or that keeps what the descriptors record. -/
def keepsRecords (h : Handles Q) (call : HandleCall) : Bool :=
  h.refuses call || h.links.keepsRecords call

/-- The active row descriptors are as an application expects them: the active descriptor of a
statement is its implicit one or an explicit one that records the statement, no two statements have
the same one, and an explicit descriptor that no statement has can be set on every statement of its
connection. -/
structure ArdsConsistent (K : QueryClass Q) (h : Handles Q) : Prop where
  recorded : ∀ stmt held, h.statements stmt = some held →
    held.statement.descriptors.ard = held.statement.descriptors.ardi ∨
      ∃ d, h.descriptors held.statement.descriptors.ard = some d ∧ d.owner = none ∧
        d.descriptor.stmt = some stmt
  unique : ∀ stmt stmt' held held', h.statements stmt = some held → h.statements stmt' = some held' →
    held.statement.descriptors.ard = held'.statement.descriptors.ard → stmt = stmt'
  attachable : ∀ desc d, h.descriptors desc = some d → d.owner = none →
    (∀ stmt held, h.statements stmt = some held → held.statement.descriptors.ard ≠ desc) →
    ∀ stmt held, h.statements stmt = some held → d.descriptor.conn = some held.connection →
      ∃ h' held', h.perform K (.setAppRowDesc stmt (some desc)) = some (.returned .success h') ∧
        h'.statements stmt = some held' ∧ held'.statement.descriptors.ard = desc

/-- Freeing a descriptor follows no pointer to nothing, removes the descriptor and restores the
implicit descriptor of exactly the statements it is active on. -/
def FreesAlone (K : QueryClass Q) (h : Handles Q) (desc : DescriptorId) : Prop :=
  ∃ h', h.perform K (.freeDesc desc) = some (.returned .success h') ∧ h'.descriptors desc = none ∧
    ∀ stmt, h'.statements stmt = (h.statements stmt).map fun held =>
      if held.statement.descriptors.ard = desc then
        { held with statement := held.statement.setArd held.statement.descriptors.ardi }
      else held

/-- The invariant of runs whose calls keep the records. -/
structure Linked (h : Handles Q) : Prop where
  placed : h.links.Placed
  recorded : h.links.Recorded

lemma linked_new : (new : Handles Q).Linked := by
  constructor
  · constructor <;> intro stmt ds hstmt <;> exact absurd hstmt (by simp [links, new])
  · intro desc l hdesc
    exact absurd hdesc (by simp [links, new])

/-- A call that keeps the records keeps the invariant. -/
lemma Linked.step {call : HandleCall} (hlinked : h.Linked) (hkeeps : h.keepsRecords call = true)
    (hstep : h.step K call = some h') : h'.Linked := by
  rcases links_step hstep with hsame | ⟨haccepted, hstep⟩
  · constructor
    · rw [hsame]
      exact hlinked.placed
    · rw [hsame]
      exact hlinked.recorded
  · have hkeeps' : h.links.keepsRecords call = true := by
      simpa [keepsRecords, haccepted] using hkeeps
    have hplaces := Links.keepsPlaces_of_keepsRecords hlinked.placed hkeeps' hstep
    exact ⟨hlinked.placed.step hplaces hstep, hlinked.recorded.step hlinked.placed hkeeps' hstep⟩

/-- The invariant makes the active row descriptors what an application expects. -/
lemma Linked.ardsConsistent (hlinked : h.Linked) (K : QueryClass Q) : h.ArdsConsistent K where
  recorded := by
    intro stmt held hstmt
    rcases hlinked.placed.active stmt _ (links_ards hstmt) with hown | ⟨l, hl, howner, -, hrecorded⟩
    · exact .inl hown
    · obtain ⟨d, hd, rfl⟩ := exists_of_links_descs hl
      exact .inr ⟨d, hd, howner, hrecorded⟩
  unique := by
    intro stmt stmt' held held' hstmt hstmt' hard
    exact hlinked.placed.unique (links_ards hstmt) (links_ards hstmt') hard
  attachable := by
    intro desc d hdesc howner hunused stmt held hstmt hconn
    have hfree : d.descriptor.stmt = none := by
      by_contra hne
      obtain ⟨stmt', hstmt'⟩ := Option.ne_none_iff_exists'.mp hne
      obtain ⟨-, ds, hds, hard⟩ :=
        hlinked.recorded desc d.link (links_descs hdesc) howner stmt' hstmt'
      obtain ⟨held', hheld', rfl⟩ := exists_of_links_ards hds
      exact hunused stmt' held' hheld' hard
    have haccepted : refuseArd held.connection stmt d.descriptor = none := by
      simp [refuseArd, hconn, hfree]
    refine ⟨h.setARDDesc stmt held.statement (some desc),
      { held with statement := held.statement.setArd desc }, ?_, ?_, rfl⟩
    · simp [perform, setAppRowDesc, hstmt, hdesc, haccepted]
    · simp [setARDDesc, updateStatement, updateDescriptor, hstmt]

/-- Under the invariant, a descriptor that is active is freed as an application expects. -/
lemma Linked.freesAlone (hlinked : h.Linked) {desc : DescriptorId} {d : HeldDescriptor}
    (hdesc : h.descriptors desc = some d) (hkeeps : h.keepsRecords (.freeDesc desc) = true) :
    h.FreesAlone K desc := by
  obtain ⟨howner, hsome⟩ : d.owner = none ∧ d.descriptor.stmt.isSome = true := by
    simpa [keepsRecords, refuses, Links.keepsRecords, links_descs hdesc, HeldDescriptor.link]
      using hkeeps
  obtain ⟨stmt, hrecorded⟩ := Option.isSome_iff_exists.mp hsome
  obtain ⟨htype, ds, hds, hard⟩ :=
    hlinked.recorded desc d.link (links_descs hdesc) howner stmt hrecorded
  obtain ⟨held, hstmt, rfl⟩ := exists_of_links_ards hds
  have htype' : d.descriptor.type = .ard := htype
  refine ⟨_, by simp [perform, hdesc, freeDesc, hrecorded, hstmt]; rfl, by simp, ?_⟩
  intro stmt'
  by_cases heq : stmt' = stmt
  · subst heq
    simp [updateStatement, hstmt, hard, htype', Statement.restoreDescriptor]
  · simp only [updateStatement, ne_eq, heq, not_false_eq_true, Function.update_of_ne]
    cases hstmt' : h.statements stmt' with
    | none => rfl
    | some held' =>
      have hne : held'.statement.descriptors.ard ≠ desc := by
        intro hsame
        exact heq (hlinked.placed.unique (links_ards hstmt') (links_ards hstmt)
          (hsame.trans hard.symm))
      simp [hne]

/-- In every run whose calls keep the records, the active row descriptors are as an application
expects them, and a descriptor that is active is freed as it expects. -/
theorem ards_consistent_of_keepsRecords (K : QueryClass Q) {calls : List HandleCall}
    {h : Handles Q}
    (hrun : run (guarded (fun h call => h.keepsRecords call = true) (step K)) new calls = some h) :
    h.ArdsConsistent K ∧ ∀ desc d, h.descriptors desc = some d →
      h.keepsRecords (.freeDesc desc) = true → h.FreesAlone K desc := by
  have hlinked : h.Linked := by
    refine invariant_run ?_ linked_new hrun
    intro s call s' hs hstep
    obtain ⟨hkeeps, hstep⟩ := guarded_eq_some.mp hstep
    exact hs.step hkeeps hstep
  exact ⟨hlinked.ardsConsistent K, fun _ _ hdesc hkeeps => hlinked.freesAlone hdesc hkeeps⟩

/-- A statement whose explicit descriptor is freed while it is active. -/
theorem ards_consistent_once_set :
    ∃ h, run (guarded (fun h call => h.keepsRecords call = true) (step sampleClass)) new
        [.allocStmt 0 1 0 0 1 2 3, .allocDesc 0 4, .setAppRowDesc 0 (some 4)] = some h ∧
      h.ArdsConsistent sampleClass ∧ h.FreesAlone sampleClass 4 := by
  refine ⟨_, rfl, ?_⟩
  obtain ⟨hards, hfrees⟩ := @ards_consistent_of_keepsRecords _ sampleClass
    [.allocStmt 0 1 0 0 1 2 3, .allocDesc 0 4, .setAppRowDesc 0 (some 4)] _ rfl
  exact ⟨hards, hfrees 4 _ rfl rfl⟩

/-- A statement is dropped while an explicit descriptor is active on it: freeing that follows the
freed statement. -/
theorem not_ards_consistent :
    ¬ ∀ (calls : List HandleCall) (h : Handles (Query (InterleavedQuery Unit Unit))),
      run (step sampleClass) new calls = some h →
      h.ArdsConsistent sampleClass ∧ ∀ desc d, h.descriptors desc = some d → d.owner = none →
        h.FreesAlone sampleClass desc := by
  intro hclaim
  obtain ⟨-, hfrees⟩ := hclaim [.allocStmt 0 1 0 0 1 2 3, .allocDesc 0 4,
    .setAppRowDesc 0 (some 4), .freeStmt 0 Statement.sqlDrop] _ rfl
  obtain ⟨h', hreturns, -⟩ := hfrees 4 _ rfl rfl
  have hreply : _ = some (some CallReply.success) :=
    congrArg (Option.map HandleOutcome.reply?) hreturns
  exact absurd hreply (by decide)

end Handles

end TimestreamOdbc
