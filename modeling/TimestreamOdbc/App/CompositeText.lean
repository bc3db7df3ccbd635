import TimestreamOdbc.App.ElementBuffer

/-!
# Texts of composite values

The reference rendering of arrays, rows and time series, and how much of it the driver makes.  The text
of a datum is a cut of the reference at every depth, so that a text that is made in full was cut
nowhere on the way.
-/

namespace TimestreamOdbc

/-! ## The reference -/

/-- Texts with commas between them. -/
abbrev commaSeparated (texts : List Text) : Text := separated [','] texts

/-- The rendering of a data point. -/
def renderPoint (point : Option Text × Text) : Text :=
  "\x7btime: ".toList ++ point.1.getD [] ++ ", value: ".toList ++ point.2 ++ "\x7d".toList

mutual

/-- The rendering of a datum: a scalar is its text, and a null has none. -/
def Datum.render : Datum → Text
  | .scalar value => value
  | .timeSeries points => "[".toList ++ commaSeparated ((pointTexts points).map renderPoint) ++
      "]".toList
  | .array elements => "[".toList ++ commaSeparated (elementTexts elements) ++ "]".toList
  | .row (some data) => "(".toList ++ commaSeparated (elementTexts data) ++ ")".toList
  | .row none => "()".toList
  | .null | .unset => []

/-- The renderings of elements. -/
def elementTexts : List Datum → List Text
  | [] => []
  | element :: elements => element.render :: elementTexts elements

/-- The times and the renderings of the values of data points. -/
def pointTexts : List (TimeSeriesDataPoint Datum) → List (Option Text × Text)
  | [] => []
  | ⟨time, none⟩ :: points => (time, []) :: pointTexts points
  | ⟨time, some value⟩ :: points => (time, value.render) :: pointTexts points

end

mutual

/-- No array in a datum is empty, and every row has its data. -/
def Datum.Complete : Datum → Prop
  | .scalar _ | .null | .unset => True
  | .timeSeries points => CompletePoints points
  | .array elements => elements ≠ [] ∧ CompleteElements elements
  | .row (some data) => CompleteElements data
  | .row none => False

@[inherit_doc Datum.Complete]
def CompleteElements : List Datum → Prop
  | [] => True
  | element :: elements => element.Complete ∧ CompleteElements elements

@[inherit_doc Datum.Complete]
def CompletePoints : List (TimeSeriesDataPoint Datum) → Prop
  | [] => True
  | ⟨_, none⟩ :: points => CompletePoints points
  | ⟨_, some value⟩ :: points => value.Complete ∧ CompletePoints points

end

namespace Datum

/-- Arrays, rows and time series. -/
def IsComposite : Datum → Prop
  | .timeSeries _ | .array _ | .row _ => True
  | .scalar _ | .null | .unset => False

/-- The renderings of the elements of a composite value. -/
def texts : Datum → List Text
  | .timeSeries points => (pointTexts points).map Prod.snd
  | .array elements => elementTexts elements
  | .row (some data) => elementTexts data
  | .row none | .scalar _ | .null | .unset => []

end Datum

/-! ## Separated bytes -/

lemma joinElements_eq (texts : List (List UInt8)) :
    joinElements texts = separated (literal ",") texts := by
  have hcomma : literal "," = [44] := by decide
  rw [joinElements, hcomma]
  exact dropLast_flatMap_append 44 texts

/-- The bytes of a data point. -/
def pointBytes (point : Option Text × List UInt8) : List UInt8 :=
  literal "\x7btime: " ++ Utf8.encode (point.1.getD []) ++ literal ", value: " ++ point.2 ++ literal "\x7d"

lemma joinPoints_eq (points : List (Option Text × List UInt8)) :
    joinPoints points = separated (literal ",") (points.map pointBytes) := by
  have hend : literal "\x7d," = literal "\x7d" ++ literal "," := by decide
  rw [← joinElements_eq, joinPoints, joinElements, List.flatMap_map]
  simp only [pointBytes, hend, List.append_assoc]

/-- The bytes of separated texts. -/
lemma encode_commaSeparated (texts : List Text) :
    Utf8.encode (commaSeparated texts) = separated (literal ",") (texts.map Utf8.encode) := by
  induction texts with
  | nil => rfl
  | cons text texts ih =>
    cases texts with
    | nil => rfl
    | cons text' texts =>
      rw [commaSeparated, separated_cons_cons, Utf8.encode_append, Utf8.encode_append, ih]
      rfl

lemma encode_renderPoint (point : Option Text × Text) :
    Utf8.encode (renderPoint point) = pointBytes (point.1, Utf8.encode point.2) := by
  have happend (s t u v w : Text) : Utf8.encode (s ++ t ++ u ++ v ++ w) =
      Utf8.encode s ++ Utf8.encode t ++ Utf8.encode u ++ Utf8.encode v ++ Utf8.encode w := by
    simp only [Utf8.encode_append]
  exact happend _ _ _ _ _

/-- A cut of a value is a cut of its data point. -/
lemma pointBytes_cut {point whole : Option Text × List UInt8} (htime : point.1 = whole.1)
    (h : IsCutOf point.2 whole.2) :
    IsCutOf (pointBytes point) (pointBytes whole) ∧
      (pointBytes point = pointBytes whole → point = whole) := by
  obtain ⟨time, text⟩ := point
  obtain ⟨time', text'⟩ := whole
  obtain rfl : time = time' := htime
  have hcut := h.append (IsCutOf.refl (literal "\x7d"))
  constructor
  · unfold pointBytes
    simp only [List.append_assoc]
    exact (IsCutOf.refl _).append ((IsCutOf.refl _).append ((IsCutOf.refl _).append hcut))
  · intro heq
    simp only [pointBytes, List.append_assoc, List.append_cancel_left_eq] at heq
    rw [List.append_cancel_right heq]

/-! ## The texts of composite values -/

section Join

variable {wholes : List Text}

/-- Elements that may be cut make an array that may be cut, and an array with nothing cut has elements
and all of them uncut. -/
lemma arrayText_cut {texts : List (List UInt8)}
    (h : List.Forall₂ IsCutOf texts (wholes.map Utf8.encode)) :
    IsCutOf (arrayText texts) (Utf8.encode ("[".toList ++ commaSeparated wholes ++ "]".toList)) ∧
      (arrayText texts = Utf8.encode ("[".toList ++ commaSeparated wholes ++ "]".toList) →
        wholes ≠ [] ∧ texts = wholes.map Utf8.encode) := by
  have hcut := separated_cut (literal ",") h
  have hopen := (IsCutOf.refl (literal "[")).append hcut.1
  rw [Utf8.encode_append, Utf8.encode_append, encode_commaSeparated]
  unfold arrayText
  split
  · next hnone =>
    refine ⟨IsCutOf.nil _, fun heq => absurd heq.symm ?_⟩
    simp
  · next hsome =>
    rw [joinElements_eq]
    refine ⟨hopen.append (IsCutOf.refl (literal "]")), ?_⟩
    intro heq
    have hinner := List.append_cancel_left (List.append_cancel_right heq)
    have htexts := hcut.2 hinner
    refine ⟨?_, htexts⟩
    rintro rfl
    exact hsome htexts

/-- Elements that may be cut make a row that may be cut, and a row with nothing cut has all of them
uncut. -/
lemma rowText_cut {texts : List (List UInt8)}
    (h : List.Forall₂ IsCutOf texts (wholes.map Utf8.encode)) :
    IsCutOf (rowText texts) (Utf8.encode ("(".toList ++ commaSeparated wholes ++ ")".toList)) ∧
      (rowText texts = Utf8.encode ("(".toList ++ commaSeparated wholes ++ ")".toList) →
        texts = wholes.map Utf8.encode) := by
  have hcut := separated_cut (literal ",") h
  have hopen := (IsCutOf.refl (literal "(")).append hcut.1
  rw [Utf8.encode_append, Utf8.encode_append, encode_commaSeparated, rowText, joinElements_eq]
  refine ⟨hopen.append (IsCutOf.refl (literal ")")), ?_⟩
  intro heq
  exact hcut.2 (List.append_cancel_left (List.append_cancel_right heq))

/-- A data point whose value may be cut. -/
def PointCut (point : Option Text × List UInt8) (whole : Option Text × Text) : Prop :=
  point.1 = whole.1 ∧ IsCutOf point.2 (Utf8.encode whole.2)

/-- The data points with the bytes of their values. -/
def encodedPoints (points : List (Option Text × Text)) : List (Option Text × List UInt8) :=
  points.map fun point => (point.1, Utf8.encode point.2)

/-- Separated data points may be cut, and where nothing is cut of them, nothing is cut of a value. -/
lemma joinPoints_cut {points : List (Option Text × List UInt8)} {wholes : List (Option Text × Text)}
    (h : List.Forall₂ PointCut points wholes) :
    IsCutOf (joinPoints points) (Utf8.encode (commaSeparated (wholes.map renderPoint))) ∧
      (joinPoints points = Utf8.encode (commaSeparated (wholes.map renderPoint)) →
        points = encodedPoints wholes) := by
  have hpoints : (wholes.map renderPoint).map Utf8.encode = (encodedPoints wholes).map pointBytes := by
    rw [encodedPoints, List.map_map, List.map_map]
    exact List.map_congr_left fun whole _ => encode_renderPoint whole
  rw [joinPoints_eq, encode_commaSeparated, hpoints]
  have hbytes : List.Forall₂ IsCutOf (points.map pointBytes)
      ((encodedPoints wholes).map pointBytes) := by
    rw [encodedPoints, List.map_map, List.forall₂_map_left_iff, List.forall₂_map_right_iff]
    exact h.imp fun point whole hpoint => (pointBytes_cut hpoint.1 hpoint.2).1
  have hcut := separated_cut (literal ",") hbytes
  refine ⟨hcut.1, ?_⟩
  intro heq
  have hmap := hcut.2 heq
  clear heq hcut hbytes hpoints
  induction h with
  | nil => rfl
  | @cons point whole points wholes hpoint _ ih =>
    obtain ⟨hfirst, hrest⟩ := List.cons.inj hmap
    have hpointCut : point = (whole.1, Utf8.encode whole.2) :=
      (pointBytes_cut hpoint.1 hpoint.2).2 hfirst
    rw [hpointCut, ih hrest]
    rfl

/-- Values that may be cut make a time series that may be cut, and a time series with nothing cut has
all of them uncut. -/
lemma timeSeriesText_cut {points : List (Option Text × List UInt8)}
    {wholes : List (Option Text × Text)} (h : List.Forall₂ PointCut points wholes) :
    IsCutOf (timeSeriesText points)
        (Utf8.encode ("[".toList ++ commaSeparated (wholes.map renderPoint) ++ "]".toList)) ∧
      (timeSeriesText points =
          Utf8.encode ("[".toList ++ commaSeparated (wholes.map renderPoint) ++ "]".toList) →
        points = encodedPoints wholes) := by
  have hcut := joinPoints_cut h
  have hopen := (IsCutOf.refl (literal "[")).append hcut.1
  rw [Utf8.encode_append, Utf8.encode_append, timeSeriesText]
  refine ⟨hopen.append (IsCutOf.refl (literal "]")), ?_⟩
  intro heq
  exact hcut.2 (List.append_cancel_left (List.append_cancel_right heq))

end Join

/-! ## Elements to any depth -/

section Depth

variable (P : ColumnPlatform)

/-- Text put into the buffer of an element. -/
lemma putBytes_tmpBuf (value : List UInt8) :
    (tmpBuf.putBytes P.toPlatform value).map Put.bufText = elementText P.toPlatform value := rfl

variable {P}

/-- What an element leaves in its buffer may be cut; where nothing is cut, the text that was put there
has nothing cut and is small. -/
lemma bufText_cut (hP : NarrowsAscii P.toPlatform) {bytes : List UInt8} {whole : Text} {put : Put}
    (hput : tmpBuf.putBytes P.toPlatform bytes = some put) (hcut : IsCutOf bytes (Utf8.encode whole)) :
    IsCutOf put.bufText (Utf8.encode whole) ∧ (put.bufText = Utf8.encode whole →
      bytes = Utf8.encode whole ∧ Small P.toPlatform whole) := by
  have htext : elementText P.toPlatform bytes = some put.bufText := by
    rw [← putBytes_tmpBuf, hput]
    rfl
  have helement := elementText_cut hP htext
  refine ⟨helement.trans hcut, ?_⟩
  intro heq
  have hbytes := helement.eq_of_trans hcut heq
  rw [hbytes, heq] at htext
  exact ⟨hbytes, (elementText_encode_iff hP).mp htext⟩

mutual

/-- What a datum leaves in the buffer of an element may be cut, and if nothing is cut, the datum is
complete and its text is small. -/
theorem parseDatum_cut (hP : NarrowsAscii P.toPlatform) :
    ∀ (d : Datum) {put : Put}, parseDatum P .varchar d tmpBuf = some put →
      IsCutOf put.bufText (Utf8.encode d.render) ∧
        (put.bufText = Utf8.encode d.render → d.Complete ∧ Small P.toPlatform d.render)
  | .scalar value, put, h => by
    have hcut := bufText_cut hP h (IsCutOf.refl (Utf8.encode value))
    refine ⟨hcut.1, ?_⟩
    intro heq
    exact ⟨trivial, (hcut.2 heq).2⟩
  | .timeSeries points, put, h => by
    obtain ⟨texts, htexts, hput⟩ := Option.bind_eq_some_iff.mp h
    obtain ⟨hpoints, hcomplete⟩ := parsePoints_cut hP points htexts
    have hseries := timeSeriesText_cut hpoints
    have hcut := bufText_cut hP hput hseries.1
    refine ⟨hcut.1, ?_⟩
    intro heq
    obtain ⟨hwhole, hsmall⟩ := hcut.2 heq
    exact ⟨(hcomplete (hseries.2 hwhole)).1, hsmall⟩
  | .array elements, put, h => by
    obtain ⟨texts, htexts, hput⟩ := Option.bind_eq_some_iff.mp h
    obtain ⟨helements, hcomplete⟩ := parseElements_cut hP elements htexts
    have harray := arrayText_cut helements
    have hcut := bufText_cut hP hput harray.1
    refine ⟨hcut.1, ?_⟩
    intro heq
    obtain ⟨hwhole, hsmall⟩ := hcut.2 heq
    obtain ⟨hne, hsame⟩ := harray.2 hwhole
    refine ⟨⟨?_, (hcomplete hsame).1⟩, hsmall⟩
    rintro rfl
    exact hne rfl
  | .row (some data), put, h => by
    obtain ⟨texts, htexts, hput⟩ := Option.bind_eq_some_iff.mp h
    obtain ⟨helements, hcomplete⟩ := parseElements_cut hP data htexts
    have hrow := rowText_cut helements
    have hcut := bufText_cut hP hput hrow.1
    refine ⟨hcut.1, ?_⟩
    intro heq
    obtain ⟨hwhole, hsmall⟩ := hcut.2 heq
    exact ⟨(hcomplete (hrow.2 hwhole)).1, hsmall⟩
  | .row none, put, h => by
    obtain rfl := Option.some.inj h
    refine ⟨IsCutOf.nil _, fun heq => absurd heq ?_⟩
    decide
  | .null, put, h => by
    obtain rfl := Option.some.inj h
    exact ⟨IsCutOf.nil _, fun _ => ⟨trivial, small_nil⟩⟩
  | .unset, put, h => by
    obtain rfl := Option.some.inj h
    exact ⟨IsCutOf.nil _, fun _ => ⟨trivial, small_nil⟩⟩

/-- The texts of elements may be cut, and if nothing is cut of any, the elements are complete and
their texts are small. -/
theorem parseElements_cut (hP : NarrowsAscii P.toPlatform) :
    ∀ (elements : List Datum) {texts : List (List UInt8)},
      parseElements P .varchar elements = some texts →
      List.Forall₂ IsCutOf texts ((elementTexts elements).map Utf8.encode) ∧
        (texts = (elementTexts elements).map Utf8.encode →
          CompleteElements elements ∧ ∀ t ∈ elementTexts elements, Small P.toPlatform t)
  | [], texts, h => by
    obtain rfl := Option.some.inj h
    exact ⟨.nil, fun _ => ⟨trivial, fun t ht => absurd ht List.not_mem_nil⟩⟩
  | element :: elements, texts, h => by
    obtain ⟨put, hput, hmapped⟩ := Option.bind_eq_some_iff.mp h
    obtain ⟨rest, hrest, rfl⟩ := Option.map_eq_some_iff.mp hmapped
    obtain ⟨hfirst, hwhole⟩ := parseDatum_cut hP element hput
    obtain ⟨hothers, hwholes⟩ := parseElements_cut hP elements hrest
    refine ⟨.cons hfirst hothers, ?_⟩
    intro heq
    obtain ⟨hhead, htail⟩ := List.cons.inj heq
    obtain ⟨hcomplete, hsmall⟩ := hwhole hhead
    obtain ⟨hcompletes, hsmalls⟩ := hwholes htail
    exact ⟨⟨hcomplete, hcompletes⟩, List.forall_mem_cons.mpr ⟨hsmall, hsmalls⟩⟩

/-- The texts of the values of data points may be cut, and if nothing is cut of any, the values are
complete and their texts are small. -/
theorem parsePoints_cut (hP : NarrowsAscii P.toPlatform) :
    ∀ (points : List (TimeSeriesDataPoint Datum)) {texts : List (Option Text × List UInt8)},
      parsePoints P .varchar points = some texts →
      List.Forall₂ PointCut texts (pointTexts points) ∧
        (texts = encodedPoints (pointTexts points) →
          CompletePoints points ∧ ∀ t ∈ (pointTexts points).map Prod.snd, Small P.toPlatform t)
  | [], texts, h => by
    obtain rfl := Option.some.inj h
    exact ⟨.nil, fun _ => ⟨trivial, fun t ht => absurd ht List.not_mem_nil⟩⟩
  | ⟨time, none⟩ :: points, texts, h => by
    obtain ⟨rest, hrest, rfl⟩ := Option.map_eq_some_iff.mp h
    obtain ⟨hothers, hwholes⟩ := parsePoints_cut hP points hrest
    refine ⟨.cons ⟨rfl, IsCutOf.refl _⟩ hothers, ?_⟩
    intro heq
    obtain ⟨hcompletes, hsmalls⟩ := hwholes (List.cons.inj heq).2
    exact ⟨hcompletes, List.forall_mem_cons.mpr ⟨small_nil, hsmalls⟩⟩
  | ⟨time, some value⟩ :: points, texts, h => by
    obtain ⟨put, hput, hmapped⟩ := Option.bind_eq_some_iff.mp h
    obtain ⟨rest, hrest, rfl⟩ := Option.map_eq_some_iff.mp hmapped
    obtain ⟨hfirst, hwhole⟩ := parseDatum_cut hP value hput
    obtain ⟨hothers, hwholes⟩ := parsePoints_cut hP points hrest
    refine ⟨.cons ⟨rfl, hfirst⟩ hothers, ?_⟩
    intro heq
    obtain ⟨hhead, htail⟩ := List.cons.inj heq
    obtain ⟨hcomplete, hsmall⟩ := hwhole (Prod.mk.inj hhead).2
    obtain ⟨hcompletes, hsmalls⟩ := hwholes htail
    exact ⟨⟨hcomplete, hcompletes⟩, List.forall_mem_cons.mpr ⟨hsmall, hsmalls⟩⟩

end

/-! ### Parts of a text -/

/-- The value of a data point is a part of its rendering. -/
lemma infix_renderPoint (point : Option Text × Text) : point.2 <:+: renderPoint point :=
  List.infix_append _ _ _

/-- What stands between brackets is a part of the whole. -/
lemma Small.of_mem_brackets {open' close t : Text} {texts : List Text}
    (h : Small P.toPlatform (open' ++ commaSeparated texts ++ close)) (ht : t ∈ texts) :
    Small P.toPlatform t :=
  (h.of_isInfix (List.infix_append _ _ _)).of_isInfix (infix_separated ht)

/-- The values of the data points of a small time series are small. -/
lemma small_of_timeSeries {points : List (Option Text × Text)} {open' close : Text}
    (h : Small P.toPlatform (open' ++ commaSeparated (points.map renderPoint) ++ close)) :
    ∀ t ∈ points.map Prod.snd, Small P.toPlatform t := by
  intro t ht
  obtain ⟨point, hpoint, rfl⟩ := List.mem_map.mp ht
  have hwhole := h.of_mem_brackets (List.mem_map_of_mem hpoint)
  exact hwhole.of_isInfix (infix_renderPoint point)

/-! ### The reference text of complete elements -/

/-- The text of an array that has elements and lost nothing. -/
lemma arrayText_map_encode {wholes : List Text} (hne : wholes ≠ []) :
    arrayText (wholes.map Utf8.encode) =
      Utf8.encode ("[".toList ++ commaSeparated wholes ++ "]".toList) := by
  have hsome : wholes.map Utf8.encode ≠ [] := by
    intro hnone
    exact hne (List.map_eq_nil_iff.mp hnone)
  rw [Utf8.encode_append, Utf8.encode_append, encode_commaSeparated, arrayText, if_neg hsome,
    joinElements_eq]
  rfl

/-- The text of a row that lost nothing. -/
lemma rowText_map_encode (wholes : List Text) :
    rowText (wholes.map Utf8.encode) =
      Utf8.encode ("(".toList ++ commaSeparated wholes ++ ")".toList) := by
  rw [Utf8.encode_append, Utf8.encode_append, encode_commaSeparated, rowText, joinElements_eq]
  rfl

/-- The text of a time series that lost nothing. -/
lemma timeSeriesText_encodedPoints (wholes : List (Option Text × Text)) :
    timeSeriesText (encodedPoints wholes) =
      Utf8.encode ("[".toList ++ commaSeparated (wholes.map renderPoint) ++ "]".toList) := by
  have hpoints : (encodedPoints wholes).map pointBytes =
      (wholes.map renderPoint).map Utf8.encode := by
    rw [encodedPoints, List.map_map, List.map_map]
    exact List.map_congr_left fun whole _ => (encode_renderPoint whole).symm
  rw [Utf8.encode_append, Utf8.encode_append, encode_commaSeparated, timeSeriesText, joinPoints_eq,
    hpoints]
  rfl

/-- A small text that is put into the buffer of an element is left there as it is. -/
lemma bufText_of_small (hP : NarrowsAscii P.toPlatform) {whole : Text}
    (h : Small P.toPlatform whole) :
    ∃ put, tmpBuf.putBytes P.toPlatform (Utf8.encode whole) = some put ∧
      put.bufText = Utf8.encode whole := by
  have htext := (elementText_encode_iff hP).mpr h
  rw [← putBytes_tmpBuf] at htext
  exact Option.map_eq_some_iff.mp htext

mutual

/-- A complete datum with a small text leaves its text in the buffer of an element. -/
theorem parseDatum_complete (hP : NarrowsAscii P.toPlatform) :
    ∀ d : Datum, d.Complete → Small P.toPlatform d.render →
      ∃ put, parseDatum P .varchar d tmpBuf = some put ∧ put.bufText = Utf8.encode d.render
  | .scalar _, _, hsmall => bufText_of_small hP hsmall
  | .timeSeries points, hcomplete, hsmall => by
    have htexts := parsePoints_complete hP points hcomplete (small_of_timeSeries hsmall)
    obtain ⟨put, hput, htext⟩ := bufText_of_small hP hsmall
    refine ⟨put, ?_, htext⟩
    rw [parseDatum, htexts, Option.bind_some, timeSeriesText_encodedPoints]
    exact hput
  | .array elements, hcomplete, hsmall => by
    have htexts := parseElements_complete hP elements hcomplete.2 fun t => hsmall.of_mem_brackets
    obtain ⟨put, hput, htext⟩ := bufText_of_small hP hsmall
    refine ⟨put, ?_, htext⟩
    have hne : elementTexts elements ≠ [] := by
      cases elements with
      | nil => exact absurd rfl hcomplete.1
      | cons element elements => exact List.cons_ne_nil _ _
    rw [parseDatum, htexts, Option.bind_some, arrayText_map_encode hne]
    exact hput
  | .row (some data), hcomplete, hsmall => by
    have htexts := parseElements_complete hP data hcomplete fun t => hsmall.of_mem_brackets
    obtain ⟨put, hput, htext⟩ := bufText_of_small hP hsmall
    refine ⟨put, ?_, htext⟩
    rw [parseDatum, htexts, Option.bind_some, rowText_map_encode]
    exact hput
  | .row none, hcomplete, _ => absurd hcomplete id
  | .null, _, _ => ⟨_, rfl, rfl⟩
  | .unset, _, _ => ⟨_, rfl, rfl⟩

/-- Complete elements with small texts give these. -/
theorem parseElements_complete (hP : NarrowsAscii P.toPlatform) :
    ∀ elements : List Datum, CompleteElements elements →
      (∀ t ∈ elementTexts elements, Small P.toPlatform t) →
      parseElements P .varchar elements = some ((elementTexts elements).map Utf8.encode)
  | [], _, _ => rfl
  | element :: elements, hcomplete, hsmall => by
    obtain ⟨hfirst, hothers⟩ := List.forall_mem_cons.mp hsmall
    obtain ⟨put, hput, htext⟩ := parseDatum_complete hP element hcomplete.1 hfirst
    have hrest := parseElements_complete hP elements hcomplete.2 hothers
    rw [parseElements, hput, Option.bind_some, hrest, Option.map_some, htext]
    rfl

/-- Data points with complete values with small texts give these. -/
theorem parsePoints_complete (hP : NarrowsAscii P.toPlatform) :
    ∀ points : List (TimeSeriesDataPoint Datum), CompletePoints points →
      (∀ t ∈ (pointTexts points).map Prod.snd, Small P.toPlatform t) →
      parsePoints P .varchar points = some (encodedPoints (pointTexts points))
  | [], _, _ => rfl
  | ⟨time, none⟩ :: points, hcomplete, hsmall => by
    have hothers := (List.forall_mem_cons.mp hsmall).2
    rw [parsePoints, parsePoints_complete hP points hcomplete hothers]
    rfl
  | ⟨time, some value⟩ :: points, hcomplete, hsmall => by
    obtain ⟨hfirst, hothers⟩ := List.forall_mem_cons.mp hsmall
    obtain ⟨put, hput, htext⟩ := parseDatum_complete hP value hcomplete.1 hfirst
    have hrest := parsePoints_complete hP points hcomplete.2 hothers
    rw [parsePoints, hput, Option.bind_some, hrest, Option.map_some, htext]
    rfl

end

end Depth

end TimestreamOdbc
