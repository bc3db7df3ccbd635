import TimestreamOdbc.App.CompositeText

/-!
# Delivery of composite values

A column delivers the text of a composite value in full exactly when nothing of it was lost in the
buffers of the elements, and no conversion fails on a character on its way to the application.
-/

namespace TimestreamOdbc

/-! ## The buffer of the application -/

section Delivery

variable {P : Platform} {outChar : OutChar} {whole : Text} {bytes : List UInt8} {buflen : ℕ}
  {copied : Copied}

/-- The codes of a text determine it. -/
lemma toNat_injective : Function.Injective Char.toNat := by
  intro c d h
  exact Char.ext (UInt32.toNat.inj h)

/-- The bytes of an ASCII text that is copied from a C string. -/
lemma encode_of_ansi_copy (hP : P.ansiStringOnly = true) (hascii : ∀ c ∈ whole, Utf8.IsAscii c)
    (h : copyUtf8String P .char bytes buflen = some copied)
    (hstored : copied.stored = some (whole.map Char.toNat ++ [0])) :
    Utf8.encode whole <+: cString bytes := by
  have hbegins : ∃ taken, taken <+: cString bytes ∧
      copied.stored = some (taken.map UInt8.toNat ++ [0]) := by
    simp only [copyUtf8String, copyUtf8StringToSqlCharString, Bool.not_true, Bool.false_eq_true,
      if_false, hP, if_true] at h
    split at h
    · obtain rfl := Option.some.inj h
      split at hstored
      · next hpos => exact ⟨(cString bytes).take (buflen - 1), List.take_prefix _ _, if_pos hpos⟩
      · exact absurd hstored (by simp)
    · obtain rfl := Option.some.inj h
      exact ⟨_, List.prefix_rfl, rfl⟩
  obtain ⟨taken, htaken, hunits⟩ := hbegins
  have hsame := List.append_cancel_right (Option.some.inj (hunits.symm.trans hstored))
  rw [← map_toNat_encode hascii] at hsame
  rw [← map_toNat_injective hsame]
  exact htaken

/-- The number of the characters that are copied in their narrow forms. -/
lemma length_of_narrow_copy (hP : ¬ P.ansiStringOnly = true)
    (h : copyUtf8String P .char bytes buflen = some copied)
    (hstored : copied.stored = some (whole.map Char.toNat ++ [0])) :
    whole.length ≤ (cString bytes).length := by
  simp only [copyUtf8String, copyUtf8StringToSqlCharString, Bool.not_true, Bool.false_eq_true,
    if_false, hP] at h
  obtain ⟨inString, hdecoded, rfl⟩ := Option.map_eq_some_iff.mp h
  have hencode := (encode_of_fromBytes hdecoded).length_le
  have hchars := Utf8.length_le_length_encode inString
  dsimp only at hstored
  generalize (if 0 < buflen then min inString.length (buflen - 1) else 0) = count at hstored
  split at hstored
  · have hsame := congrArg List.length (Option.some.inj hstored)
    simp only [List.length_append, List.length_map, List.length_take] at hsame
    omega
  · exact absurd hstored (by simp)

/-- The bytes of a text that is copied into wide characters, all of which the facet converts to. -/
lemma encode_of_wide_copy (h : copyUtf8String P .sqlWchar bytes buflen = some copied)
    (hstored : copied.stored = some (whole.map Char.toNat ++ [0])) :
    Utf8.encode whole <+: cString bytes ∧ ∀ c ∈ whole, unitFits P.sqlWcharSize c = true := by
  obtain rfl := Option.some.inj h
  unfold copyUtf8StringToWcharString at hstored
  split at hstored
  · exact absurd hstored (by simp)
  · dsimp only at hstored
    split at hstored
    · have hsame := List.append_cancel_right (Option.some.inj hstored)
      obtain rfl := List.map_injective_iff.mpr toNat_injective hsame
      exact ⟨Utf8.encode_convert_isPrefix _ _ _, fun c hc => Utf8.fits_of_mem_convert hc⟩
    · exact absurd hstored (by simp)

/-- What is delivered in full was not cut before, and has no null character. -/
lemma bytes_of_copy (hascii : outChar = .char → ∀ c ∈ whole, Utf8.IsAscii c)
    (hcut : IsCutOf bytes (Utf8.encode whole))
    (h : copyUtf8String P outChar bytes buflen = some copied)
    (hstored : copied.stored = some (whole.map Char.toNat ++ [0])) :
    bytes = Utf8.encode whole ∧ '\x00' ∉ whole := by
  have hread := cString_isPrefix bytes
  have hboth : bytes = Utf8.encode whole ∧ cString bytes = bytes := by
    rcases outChar with _ | _
    · have hlength := Utf8.length_encode_of_isAscii (hascii rfl)
      have hcount : whole.length ≤ (cString bytes).length := by
        by_cases hP : P.ansiStringOnly = true
        · rw [← hlength]
          exact (encode_of_ansi_copy hP (hascii rfl) h hstored).length_le
        · exact length_of_narrow_copy hP h hstored
      have hle := hread.length_le
      have hle' := hcut.1
      exact ⟨hcut.2 (by omega), hread.eq_of_length (by omega)⟩
    · have hencode := (encode_of_wide_copy h hstored).1
      have hbytes := hcut.eq_of_isPrefix (hencode.trans hread)
      refine ⟨hbytes, hread.eq_of_length_le ?_⟩
      rw [hbytes] at hencode ⊢
      exact hencode.length_le
  obtain ⟨hbytes, hwhole⟩ := hboth
  refine ⟨hbytes, fun hnul => zero_notMem_cString bytes ?_⟩
  rw [hwhole, hbytes]
  exact Utf8.zero_mem_encode hnul

/-- The units of a text whose ASCII characters keep their codes. -/
lemma map_unit (hP : NarrowsAscii P) (hascii : outChar = .char → ∀ c ∈ whole, Utf8.IsAscii c) :
    whole.map (outChar.unit P) = whole.map Char.toNat := by
  apply List.map_congr_left
  intro c hc
  rcases outChar with _ | _
  · by_cases hansi : P.ansiStringOnly = true
    · rw [OutChar.unit_char_of_ansi hansi]
    · rw [OutChar.unit_char_of_not_ansi hansi]
      exact hP c (hascii rfl c hc)
  · rfl

/-- A string that is no longer than a text is delivered as this text just if it is its encoding, and
no conversion fails on a character of it. -/
theorem putStrToStrBuffer_delivers_iff (hP : NarrowsAscii P) (hne : whole ≠ [])
    (hascii : outChar = .char → ∀ c ∈ whole, Utf8.IsAscii c)
    (hcut : IsCutOf bytes (Utf8.encode whole)) {b : ApplicationDataBuffer} (hbuffer : b.buffer = true)
    (hoffset : b.cellOffset ≤ 0) (hroom : (whole.length + 1) * outChar.size P ≤ b.buflen) :
    (∃ put, b.putStrToStrBuffer P outChar bytes = some put ∧
        put.stored = some (.units (outChar.size P) (whole.map Char.toNat ++ [0]))) ↔
      bytes = Utf8.encode whole ∧ ∀ c ∈ whole, c ≠ '\x00' ∧ outChar.represents P c = true := by
  have hstored := stored_putStrToStrBuffer P outChar bytes hbuffer hoffset
  rw [← Option.map_eq_some_iff, hstored]
  have hsize := outChar.size_pos P
  have hlen : 0 < whole.length := List.length_pos_iff.mpr hne
  constructor
  · intro h
    obtain ⟨required, hrequired, h⟩ := Option.bind_eq_some_iff.mp h
    split at h
    · exact absurd h (by simp)
    · obtain ⟨copied, hcopied, h⟩ := Option.map_eq_some_iff.mp h
      obtain ⟨units, hunits, h⟩ := Option.map_eq_some_iff.mp h
      obtain ⟨-, rfl⟩ := Stored.units.inj h
      obtain ⟨rfl, hnul⟩ := bytes_of_copy hascii hcut hcopied hunits
      refine ⟨rfl, ?_⟩
      intro c hc
      refine ⟨fun hzero => hnul (hzero ▸ hc), ?_⟩
      have hwide : P.ansiStringOnly = true ∨ unitFits P.wcharSize c = true := by
        by_cases hansi : P.ansiStringOnly = true
        · exact .inl hansi
        · rw [ApplicationDataBuffer.bytesRequired, if_neg hansi, fromBytes_encode P hnul] at hrequired
          split at hrequired
          · exact .inr (List.all_eq_true.mp ‹_› c hc)
          · exact absurd hrequired (by simp)
      have hout : outChar = .char ∨ unitFits P.sqlWcharSize c = true := by
        rcases outChar with _ | _
        · exact .inl rfl
        · exact .inr ((encode_of_wide_copy hcopied hunits).2 c hc)
      simpa only [OutChar.represents, Bool.and_eq_true, Bool.or_eq_true, decide_eq_true_eq] using
        ⟨hwide, hout⟩
  · rintro ⟨rfl, hchars⟩
    have hnul : '\x00' ∉ whole := fun h => (hchars _ h).1 rfl
    have hrep : ∀ c ∈ whole, outChar.represents P c = true := fun c hc => (hchars c hc).2
    have htwo : 2 * outChar.size P ≤ b.buflen := by
      refine le_trans ?_ hroom
      exact Nat.mul_le_mul_right _ (by omega)
    have hfit : whole.length ≤ b.buflen / outChar.size P - 1 := by
      have := (Nat.le_div_iff_mul_le hsize).mpr hroom
      omega
    have hrequired : ∃ required, required ≠ 0 ∧
        ApplicationDataBuffer.bytesRequired P outChar (Utf8.encode whole) = some required := by
      unfold ApplicationDataBuffer.bytesRequired
      by_cases hansi : P.ansiStringOnly = true
      · rw [if_pos hansi]
        have hbytes := Utf8.length_le_length_encode whole
        exact ⟨_, (Nat.mul_pos (by omega) hsize).ne', rfl⟩
      · have hfits : whole.all (unitFits P.wcharSize) = true := by
          apply List.all_eq_true.mpr
          intro c hc
          simpa [OutChar.represents, hansi] using (Bool.and_eq_true_iff.mp (hrep c hc)).1
        rw [if_neg hansi, fromBytes_encode P hnul, if_pos hfits]
        exact ⟨_, (Nat.mul_pos hlen hsize).ne', rfl⟩
    obtain ⟨required, hpos, hrequired⟩ := hrequired
    rw [hrequired, Option.bind_some, if_neg hpos,
      copyUtf8String_encode hnul hrep (fun h _ => hascii h) hne htwo, Option.map_some,
      List.take_of_length_le hfit, map_unit hP hascii]
    rfl

end Delivery

/-! ## Composite values of a column -/

section Column

variable {P : ColumnPlatform}

/-- The bytes that are put for a composite value. -/
def compositeText (P : ColumnPlatform) : Datum → Option (List UInt8)
  | .timeSeries points => (parsePoints P .varchar points).map timeSeriesText
  | .array elements => (parseElements P .varchar elements).map arrayText
  | .row (some data) => (parseElements P .varchar data).map rowText
  | .row none | .scalar _ | .null | .unset => none

/-- What is stored for a composite value is what is stored for its text. -/
lemma parseDatum_composite {d : Datum} (hd : d.IsComposite) {b : ApplicationDataBuffer}
    {stored : Stored} :
    (∃ put, parseDatum P .varchar d b = some put ∧ put.stored = some stored) ↔
      ∃ bytes, compositeText P d = some bytes ∧
        ∃ put, b.putBytes P.toPlatform bytes = some put ∧ put.stored = some stored := by
  rcases d with value | points | elements | ⟨_ | data⟩ | _ | _
  · exact absurd hd id
  · rcases h : parsePoints P .varchar points with _ | texts <;> simp [parseDatum, compositeText, h]
  · rcases h : parseElements P .varchar elements with _ | texts <;>
      simp [parseDatum, compositeText, h]
  · simp [parseDatum, compositeText]
  · rcases h : parseElements P .varchar data with _ | texts <;> simp [parseDatum, compositeText, h]
  · exact absurd hd id
  · exact absurd hd id

/-- The text of a composite value may be cut, and if nothing is cut, the value is complete and the
texts of its elements are small. -/
lemma compositeText_cut (hP : NarrowsAscii P.toPlatform) {d : Datum} {bytes : List UInt8}
    (h : compositeText P d = some bytes) :
    IsCutOf bytes (Utf8.encode d.render) ∧ (bytes = Utf8.encode d.render →
      d.Complete ∧ ∀ t ∈ d.texts, Small P.toPlatform t) := by
  rcases d with value | points | elements | ⟨_ | data⟩ | _ | _
  · exact absurd h (by simp [compositeText])
  · obtain ⟨texts, htexts, rfl⟩ := Option.map_eq_some_iff.mp h
    obtain ⟨hpoints, hcomplete⟩ := parsePoints_cut hP points htexts
    have hseries := timeSeriesText_cut hpoints
    exact ⟨hseries.1, fun heq => hcomplete (hseries.2 heq)⟩
  · obtain ⟨texts, htexts, rfl⟩ := Option.map_eq_some_iff.mp h
    obtain ⟨helements, hcomplete⟩ := parseElements_cut hP elements htexts
    have harray := arrayText_cut helements
    refine ⟨harray.1, ?_⟩
    intro heq
    obtain ⟨hne, hsame⟩ := harray.2 heq
    obtain ⟨hcompletes, hsmalls⟩ := hcomplete hsame
    refine ⟨⟨?_, hcompletes⟩, hsmalls⟩
    rintro rfl
    exact hne rfl
  · exact absurd h (by simp [compositeText])
  · obtain ⟨texts, htexts, rfl⟩ := Option.map_eq_some_iff.mp h
    obtain ⟨helements, hcomplete⟩ := parseElements_cut hP data htexts
    have hrow := rowText_cut helements
    exact ⟨hrow.1, fun heq => hcomplete (hrow.2 heq)⟩
  · exact absurd h (by simp [compositeText])
  · exact absurd h (by simp [compositeText])

/-- The text of a complete composite value whose elements have small texts. -/
lemma compositeText_complete (hP : NarrowsAscii P.toPlatform) {d : Datum} (hd : d.IsComposite)
    (hcomplete : d.Complete) (hsmall : ∀ t ∈ d.texts, Small P.toPlatform t) :
    compositeText P d = some (Utf8.encode d.render) := by
  rcases d with value | points | elements | ⟨_ | data⟩ | _ | _
  · exact absurd hd id
  · rw [compositeText, parsePoints_complete hP points hcomplete hsmall, Option.map_some,
      timeSeriesText_encodedPoints]
    rfl
  · have hne : elementTexts elements ≠ [] := by
      cases elements with
      | nil => exact absurd rfl hcomplete.1
      | cons element elements => exact List.cons_ne_nil _ _
    rw [compositeText, parseElements_complete hP elements hcomplete.2 hsmall, Option.map_some,
      arrayText_map_encode hne]
    rfl
  · exact absurd hcomplete id
  · rw [compositeText, parseElements_complete hP data hcomplete hsmall, Option.map_some,
      rowText_map_encode]
    rfl
  · exact absurd hd id
  · exact absurd hd id

/-- Composite values have a text. -/
lemma Datum.render_ne_nil {d : Datum} (hd : d.IsComposite) : d.render ≠ [] := by
  rcases d with value | points | elements | ⟨_ | data⟩ | _ | _
  · exact absurd hd id
  · exact List.cons_ne_nil _ _
  · exact List.cons_ne_nil _ _
  · exact List.cons_ne_nil _ _
  · exact List.cons_ne_nil _ _
  · exact absurd hd id
  · exact absurd hd id

/-- A composite value that the driver renders in full: every array has elements and every row has its
data, the text of every element fits the buffer that it goes through, and no character is lost on its
way to the buffer of the application. -/
structure RenderedInFull (P : Platform) (outChar : OutChar) (d : Datum) : Prop where
  complete : d.Complete
  elements : ∀ t ∈ d.texts, Small P t
  characters : ∀ c ∈ d.render, c ≠ '\x00' ∧ outChar.represents P c = true

/-- The text that a column delivers for a composite value into a buffer with room for it is the
reference rendering just if the value is one that the driver renders in full. -/
theorem delivered_iff_renderedInFull (hP : NarrowsAscii P.toPlatform) {columnInfo : ColumnInfo}
    (htype : columnInfo.typeHasBeenSet = true) (hscalar : columnInfo.scalarType = none) {d : Datum}
    (hd : d.IsComposite) {outChar : OutChar}
    (hascii : outChar = .char → ∀ c ∈ d.render, Utf8.IsAscii c) {b : ApplicationDataBuffer}
    (hb : b.type = outChar.driverType) (hbuffer : b.buffer = true) (hoffset : b.cellOffset ≤ 0)
    (hroom : (d.render.length + 1) * outChar.size P.toPlatform ≤ b.buflen) :
    (∃ put, readToBuffer P columnInfo d b = some put ∧
        put.stored = some (.units (outChar.size P.toPlatform) (d.render.map Char.toNat ++ [0]))) ↔
      RenderedInFull P.toPlatform outChar d := by
  have hput (bytes : List UInt8) :
      b.putBytes P.toPlatform bytes = b.putStrToStrBuffer P.toPlatform outChar bytes := by
    cases outChar <;> simp only [OutChar.driverType] at hb <;>
      simp only [ApplicationDataBuffer.putBytes, hb]
  have hdata : columnInfo.dataType = .varchar := by
    rw [ColumnInfo.dataType, hscalar, Option.getD_none]
  rw [readToBuffer, if_pos htype, hdata, parseDatum_composite hd]
  have hdelivers {bytes : List UInt8} (hcut : IsCutOf bytes (Utf8.encode d.render)) :=
    putStrToStrBuffer_delivers_iff hP (Datum.render_ne_nil hd) hascii hcut hbuffer hoffset hroom
  constructor
  · rintro ⟨bytes, hbytes, hdelivered⟩
    rw [hput] at hdelivered
    obtain ⟨hcut, hwhole⟩ := compositeText_cut hP hbytes
    obtain ⟨hsame, hchars⟩ := (hdelivers hcut).mp hdelivered
    obtain ⟨hcomplete, hsmall⟩ := hwhole hsame
    exact ⟨hcomplete, hsmall, hchars⟩
  · rintro ⟨hcomplete, hsmall, hchars⟩
    refine ⟨_, compositeText_complete hP hd hcomplete hsmall, ?_⟩
    rw [hput]
    exact (hdelivers (IsCutOf.refl _)).mpr ⟨rfl, hchars⟩

end Column

/-! ## On a sample platform -/

lemma narrowsAscii_samplePlatform : NarrowsAscii samplePlatform := by
  intro c hc
  have hlt : c.toNat < 128 := hc.toNat_lt
  have hnarrow : samplePlatform.narrow c = c.toNat.toUInt8 := if_pos hlt
  rw [hnarrow]
  exact UInt8.toNat_ofNat_of_lt (hlt.trans (by decide))

/-- An array of two short texts is delivered in full. -/
theorem delivered_array_of_two :
    ∃ put, readToBuffer sampleColumnPlatform ⟨true, none⟩ (.array [.scalar ['1'], .scalar ['2']])
        (.new .aiChar true 16 true) = some put ∧
      put.stored = some (.units 1 ("[1,2]".toList.map Char.toNat ++ [0])) := by
  have hchars : ∀ c ∈ "[1,2]".toList, Utf8.IsAscii c ∧ c ≠ '\x00' ∧
      OutChar.char.represents samplePlatform c = true := by
    have hall : "[1,2]".toList.all (fun c => decide (Utf8.IsAscii c ∧ c ≠ '\x00' ∧
        OutChar.char.represents samplePlatform c = true)) = true := by decide
    intro c hc
    exact of_decide_eq_true (List.all_eq_true.mp hall c hc)
  have hascii : OutChar.char = .char →
      ∀ c ∈ (Datum.array [.scalar ['1'], .scalar ['2']]).render, Utf8.IsAscii c :=
    fun _ c hc => (hchars c hc).1
  apply (delivered_iff_renderedInFull (P := sampleColumnPlatform) narrowsAscii_samplePlatform rfl rfl
    (d := .array [.scalar ['1'], .scalar ['2']]) trivial hascii rfl rfl (by decide)
    (by decide)).mpr
  refine ⟨⟨List.cons_ne_nil _ _, trivial, trivial, trivial⟩, ?_, fun c hc => (hchars c hc).2⟩
  have hsmall (c : Char) (hc : c = '1' ∨ c = '2') : Small samplePlatform [c] := by
    rcases hc with rfl | rfl
    · exact ⟨by decide, by decide, .inr (List.forall_mem_singleton.mpr (by decide))⟩
    · exact ⟨by decide, by decide, .inr (List.forall_mem_singleton.mpr (by decide))⟩
  exact List.forall_mem_cons.mpr
    ⟨hsmall '1' (.inl rfl), List.forall_mem_singleton.mpr (hsmall '2' (.inr rfl))⟩

/-- An accented letter in an array is delivered as a question mark, also into wide characters, and the
conversion succeeds. -/
theorem not_delivered_accented :
    ∃ put, readToBuffer sampleColumnPlatform ⟨true, none⟩ (.array [.scalar ['é']])
        (.new .aiWchar true 64 true) = some put ∧
      put.result = .aiSuccess ∧
      put.stored = some (.units 4 ("[?]".toList.map Char.toNat ++ [0])) ∧
      put.stored ≠
        some (.units 4 ((Datum.array [.scalar ['é']]).render.map Char.toNat ++ [0])) := by
  refine ⟨⟨.aiSuccess, some (.units 4 ("[?]".toList.map Char.toNat ++ [0])), some 12, -1⟩, ?_, rfl,
    rfl, ?_⟩
  · decide +kernel
  · decide +kernel

end TimestreamOdbc