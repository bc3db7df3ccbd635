import TimestreamOdbc.Config.ConnectionStringParser
import Mathlib.Data.List.Perm.Basic

/-!
# The segments of a connection string

What a connection string means is a matter of its segments: the texts between the semicolons, of
the string without the NUL characters at its end.  A segment with an `=` behind its first character
is a pair of a key and a value, and the parser handles the pairs from the last one to the first.

* `parseConnectionString_segments`: the parser is that fold, the leftmost valid value of a key is
  the one that stays, segments that name no attribute change nothing, and the order of segments with
  different keys does not matter.
* `parseConfigAttributes_eq`: a list of attributes that are each followed by NUL is parsed as the
  same attributes separated by semicolons, and nothing behind the second NUL in a row is read.
-/

namespace TimestreamOdbc

open RightScan

namespace ConnectionStringParser

/-! ## The fold over the pairs -/

/-- The segments of a connection string. -/
def segments (str : Text) : List Text := (str.rdropWhile fun c => c = '\x00').splitOn ';'

/-- What the parser does with pairs, from the last one to the first. -/
def handlePairs (isValidDirectory : Text → Bool) (pairs : List (Text × Text))
    (cfg : Configuration) : Configuration × List DiagnosticRecord :=
  pairs.foldr (fun pair handled =>
    let next := handleAttributePair isValidDirectory pair.1 pair.2 handled.1
    (next.1, handled.2 ++ next.2)) (cfg, [])

/-- The key of a segment in lower case, in which the parser compares it. -/
def segmentKey (segment : Text) : Option Text := (segmentPair segment).map fun pair => toLower pair.1

/-- Whether the key of a segment names an attribute. -/
def namesAttribute (segment : Text) : Bool := ((segmentKey segment).bind Attr.ofKey).isSome

/-- A segment is a pair when there is an `=` behind its first character. -/
lemma segmentPair_eq_none_iff (segment : Text) : segmentPair segment = none ↔ '=' ∉ segment.tail := by
  unfold segmentPair
  cases hfind : rfind '=' segment with
  | none =>
    have hnot : '=' ∉ segment := rfind_eq_none_iff.mp hfind
    simp only [true_iff]
    intro hmem
    exact hnot (List.mem_of_mem_tail hmem)
  | some j =>
    obtain ⟨pre, post, rfl, hpost, hlen⟩ := exists_of_rfind_eq_some hfind
    cases pre with
    | nil =>
      obtain rfl : 0 = j := hlen
      simpa using hpost
    | cons c pre =>
      obtain rfl : pre.length + 1 = j := hlen
      simp

section Fold

variable (isValidDirectory : Text → Bool)

/-- Handling the segments is handling their pairs. -/
lemma handleSegments_eq_handlePairs (l : List Text) (cfg : Configuration) :
    handleSegments isValidDirectory l cfg =
      handlePairs isValidDirectory (l.filterMap segmentPair) cfg := by
  induction l with
  | nil => rfl
  | cons segment l ih =>
    rw [handleSegments, ih, List.filterMap_cons]
    unfold handleSegment
    cases segmentPair segment with
    | none => simp
    | some pair => rfl

/-- A segment that names no attribute gives none a value. -/
lemma assigned_eq_none {segment : Text} (h : namesAttribute segment = false) (a : Attr) :
    assigned isValidDirectory a segment = none := by
  unfold namesAttribute segmentKey at h
  unfold assigned
  cases hpair : segmentPair segment with
  | none => rfl
  | some pair =>
    have hkey : Attr.ofKey (toLower pair.1) = none := by simpa [hpair] using h
    simp [hkey]

/-- A segment that gives an attribute a value has the key of the attribute. -/
lemma segmentKey_of_assigned {segment : Text} {a : Attr} {v : a.Value}
    (h : assigned isValidDirectory a segment = some v) : segmentKey segment = some a.key := by
  unfold assigned at h
  unfold segmentKey
  cases hpair : segmentPair segment with
  | none =>
    rw [hpair] at h
    cases h
  | some pair =>
    rw [hpair] at h
    dsimp only at h
    by_cases hkey : Attr.ofKey (toLower pair.1) = some a
    · have hfound := List.find?_some hkey
      rw [Option.map_some, of_decide_eq_true hfound]
    · rw [if_neg hkey] at h
      cases h

/-- Segments that name no attribute change no attribute. -/
lemma handleSegments_filter (l : List Text) (cfg : Configuration) :
    (handleSegments isValidDirectory (l.filter namesAttribute) cfg).1 =
      (handleSegments isValidDirectory l cfg).1 := by
  apply Configuration.ext
  intro a
  rw [handleSegments_apply, handleSegments_apply]
  congr 1
  induction l with
  | nil => rfl
  | cons segment l ih =>
    rw [List.findSome?_cons, List.filter_cons]
    by_cases hnames : namesAttribute segment = true
    · rw [if_pos hnames, List.findSome?_cons, ih]
    · rw [if_neg hnames, ih, assigned_eq_none isValidDirectory (by simpa using hnames)]

/-- Among segments with different keys at most one gives an attribute a value. -/
lemma findSome?_assigned_eq_some_iff {l : List Text} (h : (l.filterMap segmentKey).Nodup) {a : Attr}
    {v : a.Value} :
    l.findSome? (assigned isValidDirectory a) = some v ↔
      ∃ segment ∈ l, assigned isValidDirectory a segment = some v := by
  induction l with
  | nil => simp
  | cons segment l ih =>
    rw [List.findSome?_cons]
    cases hfirst : assigned isValidDirectory a segment with
    | none =>
      have hl : (l.filterMap segmentKey).Nodup :=
        h.sublist (List.Sublist.filterMap _ (List.sublist_cons_self segment l))
      simp [ih hl, hfirst]
    | some w =>
      have hkey := segmentKey_of_assigned isValidDirectory hfirst
      have hnodup : (a.key :: l.filterMap segmentKey).Nodup := by
        rwa [List.filterMap_cons, hkey] at h
      have hrest : ∀ other ∈ l, ∀ u, assigned isValidDirectory a other ≠ some u := by
        intro other hother u hu
        apply (List.nodup_cons.mp hnodup).1
        exact List.mem_filterMap.mpr ⟨other, hother, segmentKey_of_assigned isValidDirectory hu⟩
      constructor
      · intro hw
        exact ⟨segment, List.mem_cons_self, hfirst.trans hw⟩
      · rintro ⟨other, hother, hassigned⟩
        rcases List.mem_cons.mp hother with rfl | hother
        · exact hfirst.symm.trans hassigned
        · exact absurd hassigned (hrest other hother v)

/-- The order of segments with different keys does not matter. -/
lemma handleSegments_perm {l m : List Text} (hperm : l.Perm m) (h : (l.filterMap segmentKey).Nodup)
    (cfg : Configuration) :
    (handleSegments isValidDirectory l cfg).1 = (handleSegments isValidDirectory m cfg).1 := by
  apply Configuration.ext
  intro a
  rw [handleSegments_apply, handleSegments_apply]
  congr 1
  apply Option.ext
  intro v
  have hm : (m.filterMap segmentKey).Nodup := (hperm.filterMap segmentKey).nodup_iff.mp h
  rw [findSome?_assigned_eq_some_iff isValidDirectory h,
    findSome?_assigned_eq_some_iff isValidDirectory hm]
  simp only [hperm.mem_iff]

/-- A connection string is the fold of `HandleAttributePair` over the pairs of its segments, from
the last one to the first: the leftmost valid value of an attribute stays, a segment that names no
attribute changes none, and segments with different keys can be permuted. -/
theorem parseConnectionString_segments (str : Text) (cfg : Configuration) :
    parseConnectionString isValidDirectory str cfg =
        handlePairs isValidDirectory ((segments str).filterMap segmentPair) cfg ∧
      (∀ segment, segmentPair segment = none ↔ '=' ∉ segment.tail) ∧
      (∀ a, (parseConnectionString isValidDirectory str cfg).1 a =
        ((segments str).findSome? (assigned isValidDirectory a)).or (cfg a)) ∧
      (parseConnectionString isValidDirectory str cfg).1 =
        (handleSegments isValidDirectory ((segments str).filter namesAttribute) cfg).1 ∧
      ∀ str', (segments str).Perm (segments str') → ((segments str).filterMap segmentKey).Nodup →
        (parseConnectionString isValidDirectory str' cfg).1 =
          (parseConnectionString isValidDirectory str cfg).1 := by
  have hparse : ∀ s, parseConnectionString isValidDirectory s cfg =
      handleSegments isValidDirectory (segments s) cfg := fun s => parseLoop_eq _ cfg
  refine ⟨?_, segmentPair_eq_none_iff, ?_, ?_, ?_⟩
  · rw [hparse, handleSegments_eq_handlePairs]
  · intro a
    rw [hparse, handleSegments_apply]
  · rw [hparse, handleSegments_filter]
  · intro str' hperm hkeys
    rw [hparse, hparse, handleSegments_perm isValidDirectory hperm hkeys]

end Fold

/-- The user and the region can be given in either order. -/
theorem parseConnectionString_swapped :
    (parseConnectionString (fun _ => true) "region=b;uid=a;x".toList .new).1 =
      (parseConnectionString (fun _ => true) "uid=a;x;region=b".toList .new).1 := by
  apply (parseConnectionString_segments (fun _ => true) "uid=a;x;region=b".toList .new).2.2.2.2
  · decide
  · decide

/-- A NUL character at the end of the string is no part of its last segment, and keys that differ in
the case of their letters are the same. -/
theorem not_segments_as_written :
    (¬ ∀ str cfg, parseConnectionString (fun _ => true) str cfg =
      handlePairs (fun _ => true) ((str.splitOn ';').filterMap segmentPair) cfg) ∧
    ¬ ∀ str str' cfg, (segments str).Perm (segments str') →
      (((segments str).filterMap segmentPair).map Prod.fst).Nodup →
      (parseConnectionString (fun _ => true) str' cfg).1 =
        (parseConnectionString (fun _ => true) str cfg).1 := by
  constructor
  · intro h
    have huid := congrArg (fun handled => handled.1 .uid) (h "uid=a\x00".toList .new)
    unfold parseConnectionString parseAttributes at huid
    rw [parseLoop_eq] at huid
    revert huid
    decide
  · intro h
    have huid := congrArg (fun cfg => cfg .uid)
      (h "uid=a;UID=b".toList "UID=b;uid=a".toList .new (by decide) (by decide))
    unfold parseConnectionString parseAttributes at huid
    rw [parseLoop_eq, parseLoop_eq] at huid
    revert huid
    decide

/-! ## Lists of attributes -/

/-- The loop of `ParseConfigAttributes`, which counts the characters in front of two NUL characters
in a row; nothing when it reads behind the end of the buffer. -/
def attributesLength : Text → Option ℕ
  | c :: d :: str =>
    if c ≠ '\x00' ∨ d ≠ '\x00' then (attributesLength (d :: str)).map (· + 1) else some 0
  | _ => none

/-- `ParseConfigAttributes` of what is in the buffer; nothing when it reads behind its end. -/
def parseConfigAttributes (isValidDirectory : Text → Bool) (str : Text) (cfg : Configuration) :
    Option (Configuration × List DiagnosticRecord) :=
  (attributesLength str).map fun len =>
    parseAttributes isValidDirectory '\x00' (str.take (len + 1)) cfg

/-- The texts with NUL behind each of them. -/
def nulTerminated (texts : List Text) : Text := (texts.map (· ++ ['\x00'])).flatten

/-- A character that is not NUL is counted. -/
lemma attributesLength_cons {c : Char} (hc : c ≠ '\x00') (d : Char) (str : Text) :
    attributesLength (c :: d :: str) = (attributesLength (d :: str)).map (· + 1) := by
  rw [attributesLength, if_pos (.inl hc)]

/-- A text without NUL is counted as a whole. -/
lemma attributesLength_append {text : Text} (h : '\x00' ∉ text) (d : Char) (str : Text) :
    attributesLength (text ++ d :: str) =
      (attributesLength (d :: str)).map (· + text.length) := by
  induction text with
  | nil => simp
  | cons c text ih =>
    have hc : c ≠ '\x00' := fun heq => h (heq ▸ List.mem_cons_self)
    have hrest := ih fun hmem => h (List.mem_cons_of_mem _ hmem)
    have hcons : attributesLength (c :: (text ++ d :: str)) =
        (attributesLength (text ++ d :: str)).map (· + 1) := by
      cases text with
      | nil => exact attributesLength_cons hc d str
      | cons e text => exact attributesLength_cons hc e (text ++ d :: str)
    rw [List.cons_append, hcons, hrest, Option.map_map, List.length_cons]
    congr 1

/-- What is counted of a list of texts is the list up to the NUL behind the last text. -/
lemma attributesLength_nulTerminated {texts : List Text} (hne : texts ≠ [])
    (h : ∀ text ∈ texts, text ≠ [] ∧ '\x00' ∉ text) (rest : Text) :
    (attributesLength (nulTerminated texts ++ '\x00' :: rest)).map (· + 1) =
      some (nulTerminated texts).length := by
  induction texts with
  | nil => exact absurd rfl hne
  | cons text texts ih =>
    obtain ⟨hnil, hnul⟩ := h text List.mem_cons_self
    have htail : ∀ t ∈ texts, t ≠ [] ∧ '\x00' ∉ t := fun t ht => h t (List.mem_cons_of_mem _ ht)
    have hsplit : nulTerminated (text :: texts) = text ++ '\x00' :: nulTerminated texts := by
      simp [nulTerminated]
    rw [hsplit, List.append_assoc, List.cons_append, attributesLength_append hnul]
    cases htexts : texts with
    | nil =>
      simp [nulTerminated, attributesLength]
    | cons next others =>
      rw [htexts] at ih htail
      obtain ⟨c, next', hnext⟩ := List.exists_cons_of_ne_nil (htail next List.mem_cons_self).1
      have hc : c ≠ '\x00' := by
        rintro rfl
        exact (htail next List.mem_cons_self).2 (hnext ▸ List.mem_cons_self)
      have hcons : nulTerminated (next :: others) = c :: (next' ++ '\x00' :: nulTerminated others) := by
        simp [nulTerminated, hnext]
      have hstep : attributesLength ('\x00' :: (nulTerminated (next :: others) ++ '\x00' :: rest)) =
          (attributesLength (nulTerminated (next :: others) ++ '\x00' :: rest)).map (· + 1) := by
        rw [hcons, List.cons_append, attributesLength, if_pos (.inr hc)]
      obtain ⟨len, hlen, hsucc⟩ := Option.map_eq_some_iff.mp (ih (List.cons_ne_nil _ _) htail)
      rw [hstep, hlen]
      simp only [Option.map_some, List.length_append, List.length_cons, Option.some.injEq]
      omega

/-- Texts that are joined by a delimiter, with the last text apart. -/
lemma intercalate_concat (delimiter : Char) (texts : List Text) (last : Text) :
    [delimiter].intercalate (texts ++ [last]) =
      (texts.map (· ++ [delimiter])).flatten ++ last := by
  induction texts with
  | nil => simp
  | cons text texts ih =>
    rw [List.cons_append, List.intercalate_cons_of_ne_nil (by simp), ih]
    simp

/-- A text that ends in no NUL is taken as it is, and the NUL characters behind it are dropped. -/
lemma rdropWhile_nul {text : Text} (hne : text ≠ []) (h : '\x00' ∉ text) (pre : Text) :
    (pre ++ text).rdropWhile (fun c => c = '\x00') = pre ++ text := by
  rw [List.rdropWhile_eq_self_iff]
  intro hl
  have hlast : (pre ++ text).getLast hl ∈ text := by
    rw [List.getLast_append_of_ne_nil hl hne]
    exact List.getLast_mem hne
  intro heq
  exact h (of_decide_eq_true heq ▸ hlast)

section Lists

variable (isValidDirectory : Text → Bool)

/-- Texts that are joined by a delimiter they do not contain are handled one by one. -/
lemma parseAttributes_intercalate {delimiter : Char} {texts : List Text} (hne : texts ≠ [])
    (h : ∀ text ∈ texts, text ≠ [] ∧ delimiter ∉ text ∧ '\x00' ∉ text) (cfg : Configuration) :
    parseAttributes isValidDirectory delimiter ([delimiter].intercalate texts) cfg =
      handleSegments isValidDirectory texts cfg := by
  obtain ⟨init, last, rfl⟩ := (List.eq_nil_or_concat' texts).resolve_left hne
  obtain ⟨hnil, -, hnul⟩ := h last (by simp)
  have hclean : ∀ text ∈ init ++ [last], delimiter ∉ text := fun text htext => (h text htext).2.1
  unfold parseAttributes
  rw [intercalate_concat, rdropWhile_nul hnil hnul, ← intercalate_concat, parseLoop_eq,
    List.splitOn_intercalate delimiter hclean hne]

/-- A list of texts that are each followed by NUL, with another NUL behind the last one, is parsed
as the texts joined by semicolons, with or without a semicolon at the end, whatever comes behind
it. -/
theorem parseConfigAttributes_eq {texts : List Text} (hne : texts ≠ [])
    (h : ∀ text ∈ texts, text ≠ [] ∧ ';' ∉ text ∧ '\x00' ∉ text) (rest : Text)
    (cfg : Configuration) :
    parseConfigAttributes isValidDirectory (nulTerminated texts ++ '\x00' :: rest) cfg =
        some (parseConnectionString isValidDirectory ([';'].intercalate texts) cfg) ∧
      parseConnectionString isValidDirectory ([';'].intercalate texts ++ [';']) cfg =
        parseConnectionString isValidDirectory ([';'].intercalate texts) cfg := by
  have hsemicolons : parseConnectionString isValidDirectory ([';'].intercalate texts) cfg =
      handleSegments isValidDirectory texts cfg :=
    parseAttributes_intercalate isValidDirectory hne h cfg
  constructor
  · obtain ⟨len, hlen, hsucc⟩ := Option.map_eq_some_iff.mp (attributesLength_nulTerminated hne
      (fun text htext => ⟨(h text htext).1, (h text htext).2.2⟩) rest)
    have hnuls : parseAttributes isValidDirectory '\x00' (nulTerminated texts) cfg =
        handleSegments isValidDirectory texts cfg := by
      obtain ⟨init, last, rfl⟩ := (List.eq_nil_or_concat' texts).resolve_left hne
      have hjoined : nulTerminated (init ++ [last]) =
          ['\x00'].intercalate (init ++ [last]) ++ ['\x00'] := by
        rw [intercalate_concat]
        simp [nulTerminated]
      rw [← parseAttributes_intercalate isValidDirectory hne
        (fun text htext => ⟨(h text htext).1, (h text htext).2.2, (h text htext).2.2⟩) cfg, hjoined]
      unfold parseAttributes
      rw [List.rdropWhile_concat_pos _ _ _ (by simp)]
    unfold parseConfigAttributes
    rw [hlen, Option.map_some, hsucc, List.take_left, hnuls, hsemicolons]
  · rw [hsemicolons]
    unfold parseConnectionString parseAttributes
    have hend : ([';'].intercalate texts ++ [';']).rdropWhile (fun c => c = '\x00') =
        [';'].intercalate texts ++ [';'] :=
      rdropWhile_nul (List.cons_ne_nil _ _) (by decide) _
    have hempty : [';'].intercalate texts ++ [';'] = [';'].intercalate (texts ++ [[]]) := by
      obtain ⟨init, last, rfl⟩ := (List.eq_nil_or_concat' texts).resolve_left hne
      rw [intercalate_concat ';' (init ++ [last]) [], intercalate_concat]
      simp
    have hclean : ∀ text ∈ texts ++ [[]], ';' ∉ text := by
      intro text htext
      rcases List.mem_append.mp htext with htext | htext
      · exact (h text htext).2.1
      · obtain rfl : text = [] := by simpa using htext
        exact List.not_mem_nil
    rw [hend, parseLoop_eq, hempty, List.splitOn_intercalate ';' hclean (by simp),
      handleSegments_append]
    simp [handleSegments, handleSegment, segmentPair, rfind]

end Lists

/-- The list of a driver and a name is parsed as the connection string of the two. -/
theorem parseConfigAttributes_driver :
    parseConfigAttributes (fun _ => true) "driver=x\x00dsn={y}\x00\x00".toList .new =
        some (parseConnectionString (fun _ => true) "driver=x;dsn={y}".toList .new) ∧
      parseConnectionString (fun _ => true) "driver=x;dsn={y};".toList .new =
        parseConnectionString (fun _ => true) "driver=x;dsn={y}".toList .new :=
  parseConfigAttributes_eq (fun _ => true)
    (by decide : ["driver=x".toList, "dsn={y}".toList] ≠ []) (by decide) [] .new

end ConnectionStringParser

end TimestreamOdbc
