import TimestreamOdbc.Lib.TransitionSystem
import TimestreamOdbc.Statement

/-!
# Rowsets

What a turn of the loop over a rowset preserves, the loop preserves; and what the calls of a
statement come to in terms of the functions of its query.
-/

namespace TimestreamOdbc

/-! ## The rowset loop -/

namespace RowsetLoop

variable {Q : Type} {K : QueryClass Q}

/-- What every turn preserves, the loop preserves. -/
lemma turns_invariant {J : RowsetLoop Q → Prop}
    (hturn : ∀ i l l', J l → l.turn K i = some l' → J l') {n i : ℕ} {l l' : RowsetLoop Q}
    (h : J l) (hturns : turns K i n l = some l') : J l' := by
  induction n generalizing i l with
  | zero =>
    cases hturns
    exact h
  | succ n ih =>
    obtain ⟨u, hu, hrest⟩ := Option.bind_eq_some_iff.mp hturns
    exact ih (hturn i l u h hu) hrest

/-- Whether some turn of the loop finds a property of the buffers and the query. -/
def anyTurn (K : QueryClass Q) (p : ColumnBindings → Q → Bool) (i : ℕ) :
    ℕ → RowsetLoop Q → Bool
  | 0, _ => false
  | n + 1, l =>
    p (l.columnBindings.setElementOffset i) l.currentQuery ||
      (l.turn K i).elim false (anyTurn K p (i + 1) n)

/-- What a fetch preserves where a property does not hold, a loop preserves that does not find the
property. -/
lemma turns_of_not_anyTurn {I : Q → Prop} {p : ColumnBindings → Q → Bool}
    (hfetch : ∀ b q row q', I q → p b q = false → K.fetchNextRow b q = some (row, q') → I q')
    {n i : ℕ} {l l' : RowsetLoop Q} (h : I l.currentQuery) (hp : anyTurn K p i n l = false)
    (hturns : turns K i n l = some l') : I l'.currentQuery := by
  induction n generalizing i l with
  | zero =>
    cases hturns
    exact h
  | succ n ih =>
    obtain ⟨u, hu, hrest⟩ := Option.bind_eq_some_iff.mp hturns
    unfold anyTurn at hp
    rw [hu] at hp
    obtain ⟨hfirst, hothers⟩ := Bool.or_eq_false_iff.mp hp
    obtain ⟨⟨row, q'⟩, hrow, rfl⟩ := Option.map_eq_some_iff.mp hu
    exact ih (hfetch _ _ row q' h hfirst hrow) hothers hrest

end RowsetLoop

/-! ## What was written through the bindings -/

/-- What was done through the buffers of the columns so far. -/
def ColumnBindings.written (columnBindings : ColumnBindings) (i : ℕ) : List Written :=
  (columnBindings i).elim [] ColumnBinding.written

@[simp] lemma ColumnBindings.written_setByteOffset (byteOffset : ℕ) (b : ColumnBindings) :
    (b.setByteOffset byteOffset).written = b.written := by
  funext i
  unfold written setByteOffset
  cases b i <;> rfl

@[simp] lemma ColumnBindings.written_setElementOffset (elementOffset : ℕ) (b : ColumnBindings) :
    (b.setElementOffset elementOffset).written = b.written := by
  funext i
  unfold written setElementOffset
  cases b i <;> rfl

/-! ## The calls of a statement by their outcome -/

namespace Statement

variable {Q : Type} {K : QueryClass Q} {s t : Statement Q}

/-- A fetch of a rowset by a statement: either nothing is done, or the loop of its size runs over the
current query. -/
def FetchesRowset (K : QueryClass Q) (s : Statement Q) (size byteOffset : ℕ) (reply : RowsetReply)
    (t : Statement Q) : Prop :=
  t = s ∧ reply.result = .aiError ∧ reply.rowStatuses = [] ∧
      (reply.rowsFetched = none ∨ reply.rowsFetched = some 0) ∨
    ∃ q q', s.currentQuery = some q ∧ t.currentQuery = some q' ∧
      fetchRowset K size byteOffset s.columnBindings q = some (reply, t.columnBindings, q')

/-- `SQLFetch` fetches a rowset of the row array size, at the bound offset. -/
lemma fetchesRowset_internalFetchRow {memory : ℕ → ℕ} {reply : RowsetReply}
    (h : s.internalFetchRow K memory = some (reply, t)) :
    s.FetchesRowset K s.rowArraySize (s.columnBindOffset.elim 0 memory) reply t := by
  unfold internalFetchRow at h
  split at h
  · cases h
    exact .inl ⟨rfl, rfl, rfl, .inr rfl⟩
  · next q hq =>
    obtain ⟨⟨reply, bindings, q'⟩, hrowset, hx⟩ := Option.map_eq_some_iff.mp h
    cases hx
    exact .inr ⟨q, q', hq, rfl, hrowset⟩

/-- So does `SQLFetchScroll`. -/
lemma fetchesRowset_internalFetchScroll {orientation : ℤ} {memory : ℕ → ℕ} {reply : RowsetReply}
    (h : s.internalFetchScroll K orientation memory = some (reply, t)) :
    s.FetchesRowset K s.rowArraySize (s.columnBindOffset.elim 0 memory) reply t := by
  unfold internalFetchScroll at h
  split at h
  · cases h
    exact .inl ⟨rfl, rfl, rfl, .inl rfl⟩
  · exact fetchesRowset_internalFetchRow h

/-- `SQLExtendedFetch` fetches a rowset of the rowset size, at no offset. -/
lemma fetchesRowset_internalExtendedFetch {orientation : ℤ} {reply : RowsetReply}
    (h : s.internalExtendedFetch K orientation = some (reply, t)) :
    s.FetchesRowset K s.rowsetSize 0 reply t := by
  unfold internalExtendedFetch at h
  split at h
  · cases h
    exact .inl ⟨rfl, rfl, rfl, .inl rfl⟩
  · split at h
    · cases h
      exact .inl ⟨rfl, rfl, rfl, .inl rfl⟩
    · next q hq =>
      obtain ⟨⟨reply, bindings, q'⟩, hrowset, hx⟩ := Option.map_eq_some_iff.mp h
      cases hx
      exact .inr ⟨q, q', hq, rfl, hrowset⟩

/-- `SQLGetData` reads a column of the current query, if there is one. -/
lemma getData_eq_some {colNum : ℕ} {driverType : OdbcNativeType} {targetValue : Bool}
    {bufferLength : ℕ} {strLengthOrIndicator : Bool} {read : ColumnRead}
    (h : s.getData K colNum driverType targetValue bufferLength strLengthOrIndicator =
      some (read, t)) :
    t.columnBindings = s.columnBindings ∧
      (s.currentQuery = none ∧ t.currentQuery = none ∧ read.put = none ∨
        ∃ q q' buffer, s.currentQuery = some q ∧ t.currentQuery = some q' ∧
          K.getColumn colNum buffer q = some (read, q')) := by
  obtain ⟨⟨read, u⟩, hread, hx⟩ := Option.map_eq_some_iff.mp h
  cases hx
  unfold internalGetColumnData at hread
  split at hread
  · next hq =>
    cases hread
    exact ⟨rfl, .inl ⟨hq, hq, rfl⟩⟩
  · next q hq =>
    obtain ⟨⟨read, q'⟩, hcolumn, hx⟩ := Option.map_eq_some_iff.mp hread
    cases hx
    exact ⟨rfl, .inr ⟨q, q', _, hq, rfl, hcolumn⟩⟩

/-- An execution executes the current query, if there is one. -/
lemma executeQuery_eq_some {reply : CallReply} (h : s.executeQuery K = some (reply, t)) :
    s.currentQuery = none ∧ t = s ∧ reply.result = .aiError ∨
      ∃ q q', s.currentQuery = some q ∧ t.currentQuery = some q' ∧
        K.execute q = some ((reply.result, reply.records), q') := by
  unfold executeQuery at h
  split at h
  · next hq =>
    cases h
    exact .inl ⟨hq, rfl, rfl⟩
  · next q hq =>
    obtain ⟨⟨⟨result, records⟩, q'⟩, hexecute, hx⟩ := Option.map_eq_some_iff.mp h
    cases hx
    exact .inr ⟨q, q', hq, rfl, hexecute⟩

/-- A replaced query is the current one. -/
lemma replaceQuery_currentQuery {query : Q} (h : s.replaceQuery K query = some t) :
    t.currentQuery = some query := by
  unfold replaceQuery at h
  split at h
  · cases h
    rfl
  · obtain ⟨-, -, rfl⟩ := Option.map_eq_some_iff.mp h
    rfl

/-- A close closes the current query if it has data available. -/
lemma internalClose_eq_some {ignoreErrors : Bool} {reply : CallReply}
    (h : s.internalClose K ignoreErrors = some (reply, t)) :
    s.currentQuery = none ∧ t = s ∧ reply = ⟨.aiSuccess, []⟩ ∨
      ∃ q, s.currentQuery = some q ∧
        (K.dataAvailable q = false ∧ t = s ∧
            reply = ⟨if ignoreErrors then .aiSuccess else .aiError, [noCursorWasOpen]⟩ ∨
          K.dataAvailable q = true ∧ ∃ result q', K.close q = some (result, q') ∧
            t.currentQuery = some q' ∧ reply = ⟨if ignoreErrors then .aiSuccess else result, []⟩) := by
  unfold internalClose at h
  split at h
  · next hq =>
    cases h
    exact .inl ⟨hq, rfl, rfl⟩
  · next q hq =>
    split at h
    · next havailable =>
      cases h
      exact .inr ⟨q, hq, .inl ⟨by simpa using havailable, rfl, rfl⟩⟩
    · next havailable =>
      obtain ⟨⟨result, q'⟩, hclose, hx⟩ := Option.map_eq_some_iff.mp h
      cases hx
      exact .inr ⟨q, hq, .inr ⟨by simpa using havailable, result, q', hclose, rfl, rfl⟩⟩

end Statement

end TimestreamOdbc
