import TimestreamOdbc.Handles

/-!
# Links between statements and descriptors

A statement points at its implicit descriptors and at the active ones, a descriptor records a
statement, and every implicit descriptor has the statement that made it.  What the calls do to these
links is a transition system of its own, which every call on the handles follows.  As long as only
explicit descriptors are set and freed and no copy is made to an active one, the active row descriptor
of every statement is there.
-/

namespace TimestreamOdbc

open TransitionSystem

/-! ## Maps that are updated -/

section Update

variable {α β : Type*} [DecidableEq α] {f : α → Option β} {a x : α} {b y : β}

/-- What a map has after a value was put. -/
lemma update_some_eq_some :
    Function.update f a (some b) x = some y ↔ x = a ∧ b = y ∨ x ≠ a ∧ f x = some y := by
  by_cases h : x = a
  · subst h
    simp
  · simp [h]

/-- What a map has after a value was taken away. -/
lemma update_none_eq_some : Function.update f a none x = some y ↔ x ≠ a ∧ f x = some y := by
  by_cases h : x = a
  · subst h
    simp
  · simp [h]

end Update

/-! ## Links -/

/-- How a descriptor is linked: who made it, what it is, and what it records. -/
structure DescriptorLink where
  owner : Option StatementId
  type : DescType
  conn : Option ConnectionId
  stmt : Option StatementId
  deriving DecidableEq, Repr

/-- What `RestoreDescriptor` makes of the descriptors of a statement. -/
def StatementDescriptors.restored (ds : StatementDescriptors) : DescType → StatementDescriptors
  | .ard => { ds with ard := ds.ardi }
  | .ird => { ds with ird := ds.irdi }
  | _ => ds

/-- What statements and descriptors point at. -/
@[ext]
structure Links where
  ards : StatementId → Option StatementDescriptors
  descs : DescriptorId → Option DescriptorLink

namespace Links

/-- The descriptors of a statement are in their place: the implicit ones are its own, and the active
one is its implicit one or an explicit one that records the statement. -/
structure Placed (L : Links) : Prop where
  nodup : ∀ stmt ds, L.ards stmt = some ds → ds.implicits.Nodup
  implicits : ∀ stmt ds, L.ards stmt = some ds → ∀ desc ∈ ds.implicits,
    ∃ l, L.descs desc = some l ∧ l.owner = some stmt
  ird : ∀ stmt ds, L.ards stmt = some ds → ds.ird = ds.irdi
  active : ∀ stmt ds, L.ards stmt = some ds → ds.ard = ds.ardi ∨
    ∃ l, L.descs ds.ard = some l ∧ l.owner = none ∧ l.type = .ard ∧ l.stmt = some stmt

variable {L : Links} {stmt : StatementId} {desc : DescriptorId} {ds ds' : StatementDescriptors}
  {l l' : DescriptorLink}

lemma mem_implicits_ardi (ds : StatementDescriptors) : ds.ardi ∈ ds.implicits :=
  List.mem_cons_self

namespace Placed

/-- The active descriptor of a statement is there. -/
lemma exists_ard (h : L.Placed) (hstmt : L.ards stmt = some ds) : ∃ l, L.descs ds.ard = some l := by
  rcases h.active stmt ds hstmt with hown | ⟨l, hl, -⟩
  · obtain ⟨l, hl, -⟩ := h.implicits stmt ds hstmt ds.ardi (mem_implicits_ardi ds)
    exact ⟨l, hown ▸ hl⟩
  · exact ⟨l, hl⟩

/-- An explicit descriptor that is active is not the implicit one. -/
lemma recorded_of_explicit (h : L.Placed) (hstmt : L.ards stmt = some ds)
    (hl : L.descs ds.ard = some l) (howner : l.owner = none) :
    l.type = .ard ∧ l.stmt = some stmt := by
  rcases h.active stmt ds hstmt with hown | ⟨l', hl', -, htype, hrecorded⟩
  · obtain ⟨l', hl', howner'⟩ := h.implicits stmt ds hstmt ds.ardi (mem_implicits_ardi ds)
    rw [hown, hl'] at hl
    obtain rfl := Option.some.inj hl
    exact absurd (howner'.symm.trans howner) (by simp)
  · rw [hl'] at hl
    obtain rfl := Option.some.inj hl
    exact ⟨htype, hrecorded⟩

/-- A descriptor is active on one statement at most. -/
lemma unique (h : L.Placed) {stmt' : StatementId} (hstmt : L.ards stmt = some ds)
    (hstmt' : L.ards stmt' = some ds') (hard : ds.ard = ds'.ard) : stmt = stmt' := by
  obtain ⟨l, hl, howner⟩ := h.implicits stmt ds hstmt ds.ardi (mem_implicits_ardi ds)
  obtain ⟨l', hl', howner'⟩ := h.implicits stmt' ds' hstmt' ds'.ardi (mem_implicits_ardi ds')
  rcases h.active stmt ds hstmt with hown | ⟨m, hm, hexplicit, -, hrecorded⟩
  · rcases h.active stmt' ds' hstmt' with hown' | ⟨m', hm', hexplicit', -, -⟩
    · rw [← hown, hard, hown', hl'] at hl
      obtain rfl := Option.some.inj hl
      exact Option.some.inj (howner.symm.trans howner')
    · rw [← hown, hard, hm'] at hl
      obtain rfl := Option.some.inj hl
      exact absurd (howner.symm.trans hexplicit') (by simp)
  · obtain ⟨-, hrecorded'⟩ := h.recorded_of_explicit hstmt' (hard ▸ hm) hexplicit
    exact Option.some.inj (hrecorded.symm.trans hrecorded')

/-- A descriptor that changes hands stays in its place while it is as its statement needs it. -/
lemma update_desc (h : L.Placed) (hdesc : L.descs desc = some l) (howner : l'.owner = l.owner)
    (hactive : ∀ stmt ds, L.ards stmt = some ds → ds.ard = desc → l.owner = none →
      l'.type = .ard ∧ l'.stmt = some stmt) :
    Placed { L with descs := Function.update L.descs desc (some l') } where
  nodup := h.nodup
  ird := h.ird
  implicits := by
    intro stmt ds hstmt d hd
    obtain ⟨m, hm, hown⟩ := h.implicits stmt ds hstmt d hd
    by_cases heq : d = desc
    · subst heq
      rw [hdesc] at hm
      obtain rfl := Option.some.inj hm
      exact ⟨l', Function.update_self .., howner.trans hown⟩
    · exact ⟨m, (Function.update_of_ne heq ..).trans hm, hown⟩
  active := by
    intro stmt ds hstmt
    rcases h.active stmt ds hstmt with hown | ⟨m, hm, hexplicit, htype, hrecorded⟩
    · exact .inl hown
    · right
      by_cases heq : ds.ard = desc
      · rw [heq, hdesc] at hm
        obtain rfl := Option.some.inj hm
        obtain ⟨htype', hrecorded'⟩ := hactive stmt ds hstmt heq hexplicit
        exact ⟨l', by rw [heq]; exact Function.update_self .., howner.trans hexplicit, htype',
          hrecorded'⟩
      · exact ⟨m, (Function.update_of_ne heq ..).trans hm, hexplicit, htype, hrecorded⟩

/-- A statement gets another active descriptor. -/
lemma update_ards (h : L.Placed) (hstmt : L.ards stmt = some ds)
    (himplicits : ds'.implicits = ds.implicits) (hird : ds'.ird = ds'.irdi)
    (hactive : ds'.ard = ds'.ardi ∨
      ∃ l, L.descs ds'.ard = some l ∧ l.owner = none ∧ l.type = .ard ∧ l.stmt = some stmt) :
    Placed { L with ards := Function.update L.ards stmt (some ds') } := by
  constructor
  · intro stmt' ds'' h'
    rcases update_some_eq_some.mp h' with ⟨rfl, rfl⟩ | ⟨-, h'⟩
    · exact himplicits ▸ h.nodup _ _ hstmt
    · exact h.nodup _ _ h'
  · intro stmt' ds'' h' d hd
    rcases update_some_eq_some.mp h' with ⟨rfl, rfl⟩ | ⟨-, h'⟩
    · exact h.implicits _ _ hstmt d (himplicits ▸ hd)
    · exact h.implicits _ _ h' d hd
  · intro stmt' ds'' h'
    rcases update_some_eq_some.mp h' with ⟨rfl, rfl⟩ | ⟨-, h'⟩
    · exact hird
    · exact h.ird _ _ h'
  · intro stmt' ds'' h'
    rcases update_some_eq_some.mp h' with ⟨rfl, rfl⟩ | ⟨-, h'⟩
    · exact hactive
    · exact h.active _ _ h'

/-- An explicit descriptor that is not active is removed. -/
lemma remove (h : L.Placed) (hdesc : L.descs desc = some l) (howner : l.owner = none)
    (hunused : ∀ stmt ds, L.ards stmt = some ds → ds.ard ≠ desc) :
    Placed { L with descs := Function.update L.descs desc none } where
  nodup := h.nodup
  ird := h.ird
  implicits := by
    intro stmt ds hstmt d hd
    obtain ⟨m, hm, hown⟩ := h.implicits stmt ds hstmt d hd
    refine ⟨m, ?_, hown⟩
    rw [← hm]
    apply Function.update_of_ne
    rintro rfl
    rw [hdesc] at hm
    obtain rfl := Option.some.inj hm
    exact absurd (howner.symm.trans hown) (by simp)
  active := by
    intro stmt ds hstmt
    rcases h.active stmt ds hstmt with hown | ⟨m, hm, hexplicit⟩
    · exact .inl hown
    · exact .inr ⟨m, (Function.update_of_ne (hunused stmt ds hstmt) ..).trans hm, hexplicit⟩

/-- A statement is dropped with its implicit descriptors. -/
lemma drop (h : L.Placed) (hstmt : L.ards stmt = some ds) :
    Placed ⟨Function.update L.ards stmt none,
      fun desc => if desc ∈ ds.implicits then none else L.descs desc⟩ := by
  have hkept : ∀ {desc l}, L.descs desc = some l → l.owner ≠ some stmt → desc ∉ ds.implicits := by
    intro desc l hl hne hmem
    obtain ⟨m, hm, hown⟩ := h.implicits stmt ds hstmt desc hmem
    rw [hl] at hm
    obtain rfl := Option.some.inj hm
    exact hne hown
  constructor
  · intro stmt' ds' h'
    exact h.nodup _ _ (update_none_eq_some.mp h').2
  · intro stmt' ds' h' d hd
    obtain ⟨hne, h'⟩ := update_none_eq_some.mp h'
    obtain ⟨m, hm, hown⟩ := h.implicits stmt' ds' h' d hd
    refine ⟨m, (if_neg (hkept hm ?_)).trans hm, hown⟩
    rw [hown]
    exact fun heq => hne (Option.some.inj heq)
  · intro stmt' ds' h'
    exact h.ird _ _ (update_none_eq_some.mp h').2
  · intro stmt' ds' h'
    rcases h.active _ _ (update_none_eq_some.mp h').2 with hown | ⟨m, hm, hexplicit, hrest⟩
    · exact .inl hown
    · exact .inr ⟨m, (if_neg (hkept hm (by simp [hexplicit]))).trans hm, hexplicit, hrest⟩

/-- A statement is made, with implicit descriptors where there were none. -/
lemma add_stmt (h : L.Placed) {descs : DescriptorId → Option DescriptorLink}
    (hnodup : ds.implicits.Nodup) (hard : ds.ard = ds.ardi) (hird : ds.ird = ds.irdi)
    (hfree : ∀ desc ∈ ds.implicits, L.descs desc = none)
    (hmade : ∀ desc ∈ ds.implicits, ∃ l, descs desc = some l ∧ l.owner = some stmt)
    (hkept : ∀ desc, desc ∉ ds.implicits → descs desc = L.descs desc) :
    Placed ⟨Function.update L.ards stmt (some ds), descs⟩ := by
  have hold : ∀ {desc l}, L.descs desc = some l → descs desc = some l := by
    intro desc l hl
    rw [hkept desc, hl]
    intro hmem
    rw [hfree desc hmem] at hl
    exact absurd hl (by simp)
  constructor
  · intro stmt' ds' h'
    rcases update_some_eq_some.mp h' with ⟨-, rfl⟩ | ⟨-, h'⟩
    · exact hnodup
    · exact h.nodup _ _ h'
  · intro stmt' ds' h' d hd
    rcases update_some_eq_some.mp h' with ⟨rfl, rfl⟩ | ⟨-, h'⟩
    · exact hmade d hd
    · obtain ⟨m, hm, hown⟩ := h.implicits _ _ h' d hd
      exact ⟨m, hold hm, hown⟩
  · intro stmt' ds' h'
    rcases update_some_eq_some.mp h' with ⟨-, rfl⟩ | ⟨-, h'⟩
    · exact hird
    · exact h.ird _ _ h'
  · intro stmt' ds' h'
    rcases update_some_eq_some.mp h' with ⟨-, rfl⟩ | ⟨-, h'⟩
    · exact .inl hard
    · rcases h.active _ _ h' with hown | ⟨m, hm, hrest⟩
      · exact .inl hown
      · exact .inr ⟨m, hold hm, hrest⟩

/-- A descriptor is made where there was none. -/
lemma add_desc (h : L.Placed) (hfree : L.descs desc = none) (l : DescriptorLink) :
    Placed { L with descs := Function.update L.descs desc (some l) } := by
  have hold : ∀ {d m}, L.descs d = some m →
      Function.update L.descs desc (some l) d = some m := by
    intro d m hm
    rw [Function.update_of_ne, hm]
    rintro rfl
    rw [hfree] at hm
    exact absurd hm (by simp)
  refine ⟨h.nodup, ?_, h.ird, ?_⟩
  · intro stmt ds hstmt d hd
    obtain ⟨m, hm, hown⟩ := h.implicits stmt ds hstmt d hd
    exact ⟨m, hold hm, hown⟩
  · intro stmt ds hstmt
    rcases h.active stmt ds hstmt with hown | ⟨m, hm, hrest⟩
    · exact .inl hown
    · exact .inr ⟨m, hold hm, hrest⟩

end Placed

/-! ## Steps -/

/-- What a call that is not refused does to the links. -/
inductive Step (L : Links) : HandleCall → Links → Prop where
  | addStmt {connection : ConnectionId} {rowsetSize : ℕ} {stmt : StatementId}
      {ardi apdi irdi ipdi : DescriptorId} {descs : DescriptorId → Option DescriptorLink}
      (hstmt : L.ards stmt = none)
      (hnodup : [ardi, apdi, irdi, ipdi].Nodup)
      (hfree : ∀ desc ∈ [ardi, apdi, irdi, ipdi], L.descs desc = none)
      (hmade : ∀ desc ∈ [ardi, apdi, irdi, ipdi], ∃ l, descs desc = some l ∧ l.owner = some stmt)
      (hkept : ∀ desc, desc ∉ [ardi, apdi, irdi, ipdi] → descs desc = L.descs desc) :
      L.Step (.allocStmt connection rowsetSize stmt ardi apdi irdi ipdi)
        ⟨Function.update L.ards stmt (some ⟨ardi, apdi, irdi, ipdi, ardi, irdi⟩), descs⟩
  | addDesc {connection : ConnectionId} {desc : DescriptorId} (hfree : L.descs desc = none) :
      L.Step (.allocDesc connection desc)
        { L with descs := Function.update L.descs desc (some ⟨none, .unknown, some connection, none⟩) }
  | attach {stmt : StatementId} {ds : StatementDescriptors} {desc : DescriptorId}
      {l : DescriptorLink} (hstmt : L.ards stmt = some ds) (hdesc : L.descs desc = some l)
      (hrecorded : l.stmt = none ∨ l.stmt = some stmt) :
      L.Step (.setAppRowDesc stmt (some desc))
        ⟨Function.update L.ards stmt (some { ds with ard := desc }),
          Function.update L.descs desc (some { l with type := .ard, stmt := some stmt })⟩
  | restore {stmt : StatementId} {ds : StatementDescriptors} (hstmt : L.ards stmt = some ds) :
      L.Step (.setAppRowDesc stmt none)
        { L with ards := Function.update L.ards stmt (some { ds with ard := ds.ardi }) }
  | copy {src dst : DescriptorId} {l target : DescriptorLink} (hsrc : L.descs src = some l)
      (hdst : L.descs dst = some target) :
      L.Step (.copyDesc src dst)
        { L with descs := Function.update L.descs dst (some { l with owner := target.owner }) }
  | free {desc : DescriptorId} {l : DescriptorLink} {stmt : StatementId}
      {ds : StatementDescriptors} (hdesc : L.descs desc = some l) (hrecorded : l.stmt = some stmt)
      (hstmt : L.ards stmt = some ds) :
      L.Step (.freeDesc desc)
        ⟨Function.update L.ards stmt (some (ds.restored l.type)),
          Function.update L.descs desc none⟩
  | drop {stmt : StatementId} {ds : StatementDescriptors} (hstmt : L.ards stmt = some ds) :
      L.Step (.freeStmt stmt Statement.sqlDrop)
        ⟨Function.update L.ards stmt none,
          fun desc => if desc ∈ ds.implicits then none else L.descs desc⟩

/-- A descriptor is explicit. -/
def isExplicit (L : Links) (desc : DescriptorId) : Bool :=
  (L.descs desc).any fun l => l.owner.isNone

/-- A descriptor is active on the statement that it records. -/
def isActive (L : Links) (desc : DescriptorId) : Bool :=
  (L.descs desc).any fun l => l.stmt.any fun stmt => (L.ards stmt).any fun ds => ds.ard = desc

/-- A call keeps the descriptors in their places: it sets and frees explicit descriptors only, and
copies to none that is active, unless that stays as its statement needs it. -/
def keepsPlaces (L : Links) : HandleCall → Bool
  | .setAppRowDesc stmt (some desc) =>
    L.isExplicit desc || (L.ards stmt).all fun ds => desc = ds.ardi
  | .copyDesc src dst =>
    !L.isExplicit dst || !L.isActive dst ||
      (L.descs src).all fun l => (L.descs dst).all fun target =>
        l.stmt = target.stmt && l.type = .ard
  | .freeDesc desc => L.isExplicit desc
  | _ => true

lemma isExplicit_eq_true (hdesc : L.descs desc = some l) :
    L.isExplicit desc = true ↔ l.owner = none := by
  simp [isExplicit, hdesc]

/-- Such a call does keep them. -/
lemma Placed.step {call : HandleCall} {L' : Links} (h : L.Placed)
    (hkeeps : L.keepsPlaces call = true) (hstep : L.Step call L') : L'.Placed := by
  cases hstep with
  | addStmt hstmt hnodup hfree hmade hkept => exact h.add_stmt hnodup rfl rfl hfree hmade hkept
  | addDesc hfree => exact h.add_desc hfree _
  | @attach stmt ds desc l hstmt hdesc hrecorded =>
    have hplace : l.owner = none ∨ desc = ds.ardi := by
      simpa [keepsPlaces, hstmt, isExplicit_eq_true hdesc] using hkeeps
    have hattached : Placed { L with
        descs := Function.update L.descs desc (some { l with type := .ard, stmt := some stmt }) } := by
      refine h.update_desc hdesc rfl ?_
      intro stmt' ds' hstmt' hard howner
      obtain ⟨-, hstmt''⟩ := h.recorded_of_explicit hstmt' (hard ▸ hdesc) howner
      rcases hrecorded with hnone | hsome
      · exact absurd (hnone.symm.trans hstmt'') (by simp)
      · exact ⟨rfl, hsome.symm.trans hstmt''⟩
    refine hattached.update_ards hstmt rfl (h.ird stmt ds hstmt) ?_
    rcases hplace with howner | rfl
    · exact .inr ⟨_, Function.update_self .., howner, rfl, rfl⟩
    · exact .inl rfl
  | @restore stmt ds hstmt => exact h.update_ards hstmt rfl (h.ird stmt ds hstmt) (.inl rfl)
  | @copy src dst l target hsrc hdst =>
    refine h.update_desc hdst rfl ?_
    intro stmt ds hstmt hard howner
    obtain ⟨htype, hrecorded⟩ := h.recorded_of_explicit hstmt (hard ▸ hdst) howner
    have hactive : L.isActive dst = true := by simp [isActive, hdst, hrecorded, hstmt, hard]
    have hexplicit : L.isExplicit dst = true := (isExplicit_eq_true hdst).mpr howner
    obtain ⟨hsame, htype'⟩ : l.stmt = target.stmt ∧ l.type = .ard := by
      simpa [keepsPlaces, hexplicit, hactive, hsrc, hdst] using hkeeps
    exact ⟨htype', hsame.trans hrecorded⟩
  | @free desc l stmt ds hdesc hrecorded hstmt =>
    have howner : l.owner = none := (isExplicit_eq_true hdesc).mp hkeeps
    have hactive : ∀ stmt' ds', L.ards stmt' = some ds' → ds'.ard = desc →
        stmt' = stmt ∧ l.type = .ard := by
      intro stmt' ds' hstmt' hard
      obtain ⟨htype, hrecorded'⟩ := h.recorded_of_explicit hstmt' (hard ▸ hdesc) howner
      exact ⟨Option.some.inj (hrecorded'.symm.trans hrecorded), htype⟩
    have hrestored : Placed { L with
        ards := Function.update L.ards stmt (some (ds.restored l.type)) } := by
      refine h.update_ards hstmt ?_ ?_ ?_
      · cases l.type <;> rfl
      · cases l.type <;> first | rfl | exact h.ird stmt ds hstmt
      · cases l.type
        · exact .inl rfl
        all_goals exact h.active stmt ds hstmt
    refine hrestored.remove hdesc howner ?_
    intro stmt' ds' hstmt' hard
    rcases update_some_eq_some.mp hstmt' with ⟨rfl, rfl⟩ | ⟨hne, hstmt'⟩
    · have hunused : ds.ardi ≠ desc := by
        rintro rfl
        obtain ⟨m, hm, hmade⟩ := h.implicits stmt' ds hstmt ds.ardi (mem_implicits_ardi ds)
        rw [hdesc] at hm
        obtain rfl := Option.some.inj hm
        exact absurd (howner.symm.trans hmade) (by simp)
      by_cases htype : l.type = .ard
      · rw [htype] at hard
        exact hunused hard
      · have hard' : ds.ard = desc := by
          rw [← hard]
          cases hl : l.type <;> first | rfl | exact absurd hl htype
        exact htype (hactive stmt' ds hstmt hard').2
    · exact hne (hactive stmt' ds' hstmt' hard).1
  | drop hstmt => exact h.drop hstmt

end Links

end TimestreamOdbc
