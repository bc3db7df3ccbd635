import TimestreamOdbc.Lib.EcmaRegex
import TimestreamOdbc.Lib.SearchPattern
import TimestreamOdbc.Utils

/-!
# Search patterns as regular expressions

`ConvertPatternToRegex` of `utility.cpp` writes a regular expression for a search pattern.  The text
between two characters that it replaces is copied, from a start that it keeps, and what is copied is not
quoted.

A pattern is made of pieces, and its regular expression of their texts.  As long as no piece has a text
that means something else, the regular expression matches the texts that the pattern means, except that
no wildcard stands for a line terminator.
-/

namespace TimestreamOdbc

open SearchPattern EcmaRegex

/-! ## The conversion -/

/-- `UpdateRegexExpression`: the index behind the character, and what has been converted. The indices
are those of a text, which fit into an `int`. -/
def updateRegexExpression (index start : ℕ) (pattern str converted : Text) : ℕ × Text :=
  (index + 1,
    (if 0 < index - start then converted ++ (pattern.drop start).take (index - start)
      else converted) ++ str)

/-- The variables of the loop in `ConvertPatternToRegex`. -/
structure PatternConversion where
  escapeFound : Bool
  start : ℕ
  converted : Text

namespace PatternConversion

/-- The body of the loop. -/
def step (pattern : Text) (index : ℕ) (currChar : Char) (s : PatternConversion) :
    PatternConversion :=
  if currChar = '\\' then
    if s.escapeFound then
      -- two backslashes
      let (next, converted) :=
        updateRegexExpression (index - 1) s.start pattern ['[', '\\', ']'] s.converted
      ⟨!s.escapeFound, next + 1, converted⟩
    else { s with escapeFound := !s.escapeFound }
  else if s.escapeFound then
    let (next, converted) :=
      updateRegexExpression (index - 1) s.start pattern ['[', currChar, ']'] s.converted
    ⟨false, next + 1, converted⟩
  else if currChar = '_' then
    let (next, converted) := updateRegexExpression index s.start pattern ['.'] s.converted
    { s with start := next, converted := converted }
  else if currChar = '%' then
    let (next, converted) := updateRegexExpression index s.start pattern ['.', '*'] s.converted
    { s with start := next, converted := converted }
  else s

/-- The loop over the characters from an index on. -/
def loop (pattern : Text) : ℕ → Text → PatternConversion → PatternConversion
  | _, [], s => s
  | index, c :: rest, s => loop pattern (index + 1) rest (step pattern index c s)

end PatternConversion

/-- `ConvertPatternToRegex`. -/
def convertPatternToRegex (pattern : Text) : Text :=
  if pattern = [] ∨ trim pattern = [] then []
  else
    let s := PatternConversion.loop pattern 0 pattern ⟨false, 0, []⟩
    -- the trailing text
    if 0 < pattern.length - s.start then s.converted ++ pattern.drop s.start else s.converted

/-! ## The pieces of a pattern -/

/-- A piece of a pattern. -/
inductive PatternPiece where
  | anyText
  | anyChar
  | char (c : Char)
  | escaped (c : Char)
  deriving DecidableEq, Repr

namespace PatternPiece

/-- The piece that is written as a character. -/
def ofChar (c : Char) : PatternPiece :=
  if c = '%' then .anyText else if c = '_' then .anyChar else .char c

/-- What the piece means. -/
def element : PatternPiece → Element
  | .anyText => .anyText
  | .anyChar => .anyChar
  | .char c => .char c
  | .escaped c => .char c

/-- What the piece is converted to. -/
def regex : PatternPiece → Text
  | .anyText => ['.', '*']
  | .anyChar => ['.']
  | .char c => [c]
  | .escaped c => ['[', c, ']']

end PatternPiece

/-- The pieces of a pattern. A backslash at the end has nothing to escape. -/
def patternPieces : Text → List PatternPiece
  | [] => []
  | [c] => [.ofChar c]
  | c :: d :: cs =>
    if c = '\\' then .escaped d :: patternPieces cs else .ofChar c :: patternPieces (d :: cs)

/-- The text that pieces are converted to. -/
def regexText (pieces : List PatternPiece) : Text := pieces.flatMap PatternPiece.regex

@[simp] lemma regexText_nil : regexText [] = [] := rfl

@[simp] lemma regexText_cons (piece : PatternPiece) (pieces : List PatternPiece) :
    regexText (piece :: pieces) = piece.regex ++ regexText pieces :=
  List.flatMap_cons

/-- The elements of a pattern are what its pieces mean. -/
lemma map_element_patternPieces (pattern : Text) :
    (patternPieces pattern).map PatternPiece.element = parse '\\' pattern := by
  have hofChar : ∀ c, (PatternPiece.ofChar c).element = Element.ofChar c := by
    intro c
    unfold PatternPiece.ofChar Element.ofChar
    split
    · rfl
    · split <;> rfl
  induction pattern using patternPieces.induct with
  | case1 => rfl
  | case2 c => rw [patternPieces, parse, List.map_singleton, hofChar]
  | case3 d cs ih =>
    rw [patternPieces, parse, if_pos rfl, if_pos rfl, List.map_cons, ih]
    rfl
  | case4 c d cs hne ih =>
    rw [patternPieces, parse, if_neg hne, if_neg hne, List.map_cons, ih, hofChar]

namespace PatternConversion

/-- The text between the start and an index is added in front of what replaces a character. -/
lemma updateRegexExpression_eq (index start : ℕ) (pattern str converted : Text) :
    updateRegexExpression index start pattern str converted =
      (index + 1, converted ++ (pattern.drop start).take (index - start) ++ str) := by
  unfold updateRegexExpression
  split
  · rfl
  · rename_i h
    rw [Nat.eq_zero_of_not_pos h, List.take_zero, List.append_nil]

/-- Behind a backslash a character is put into a class. -/
lemma step_escaped (pattern : Text) (index : ℕ) (c : Char) {s : PatternConversion}
    (h : s.escapeFound = true) :
    step pattern (index + 1) c s = ⟨false, index + 2,
      s.converted ++ (pattern.drop s.start).take (index - s.start) ++ ['[', c, ']']⟩ := by
  unfold step
  rw [h, updateRegexExpression_eq, updateRegexExpression_eq, Nat.add_sub_cancel]
  split
  · rename_i hslash
    rw [hslash]
    rfl
  · rfl

/-- The text from the start on, with a character more. -/
lemma take_succ_of_drop {pattern : Text} {start index : ℕ} {c : Char} {rest : Text}
    (hle : start ≤ index) (hrest : pattern.drop index = c :: rest) :
    (pattern.drop start).take (index + 1 - start) =
      (pattern.drop start).take (index - start) ++ [c] := by
  have hget : (pattern.drop start)[index - start]? = some c := by
    rw [List.getElem?_drop, Nat.add_sub_cancel' hle, ← List.head?_drop, hrest, List.head?_cons]
  rw [Nat.sub_add_comm hle, List.take_add_one, hget, Option.toList_some]

/-- The rest is what follows its first character. -/
lemma drop_succ_of_drop {pattern : Text} {index : ℕ} {c : Char} {rest : Text}
    (hrest : pattern.drop index = c :: rest) : pattern.drop (index + 1) = rest := by
  rw [← List.drop_drop, hrest]
  rfl

/-- The text from the start on is the part in front of an index and the rest. -/
lemma append_drop_eq {pattern rest : Text} {start index : ℕ} (converted : Text)
    (hle : start ≤ index) (hrest : pattern.drop index = rest) :
    converted ++ pattern.drop start =
      converted ++ (pattern.drop start).take (index - start) ++ rest := by
  have hsplit := List.take_append_drop (index - start) (pattern.drop start)
  rw [List.drop_drop, Nat.add_sub_cancel' hle, hrest] at hsplit
  rw [List.append_assoc, hsplit]

/-- A character that is not a backslash is a piece of its own. -/
lemma step_unescaped {pattern rest : Text} {index start : ℕ} (converted : Text) {c : Char}
    (hslash : c ≠ '\\') (hle : start ≤ index) (hrest : pattern.drop index = c :: rest) :
    ∃ start' converted', step pattern index c ⟨false, start, converted⟩ =
        ⟨false, start', converted'⟩ ∧ start' ≤ index + 1 ∧
      converted' ++ (pattern.drop start').take (index + 1 - start') =
        converted ++ (pattern.drop start).take (index - start) ++
          (PatternPiece.ofChar c).regex := by
  unfold step PatternPiece.ofChar
  rw [if_neg hslash, if_neg Bool.false_ne_true, updateRegexExpression_eq,
    updateRegexExpression_eq]
  by_cases hunderscore : c = '_'
  · subst hunderscore
    exact ⟨_, _, rfl, le_rfl, by rw [Nat.sub_self, List.take_zero, List.append_nil]; rfl⟩
  · rw [if_neg hunderscore]
    by_cases hpercent : c = '%'
    · subst hpercent
      exact ⟨_, _, rfl, le_rfl, by rw [Nat.sub_self, List.take_zero, List.append_nil]; rfl⟩
    · rw [if_neg hpercent, if_neg hpercent, if_neg hunderscore]
      -- It stays in the text that is still to be copied.
      refine ⟨_, _, rfl, hle.trans (Nat.le_succ _), ?_⟩
      rw [take_succ_of_drop hle hrest, List.append_assoc]
      rfl

/-- The loop and what follows it add the text that is still to be copied and the texts of the pieces
of the rest. -/
lemma loop_spec {pattern rest : Text} {index start : ℕ} {converted : Text}
    (hle : start ≤ index) (hrest : pattern.drop index = rest) :
    (loop pattern index rest ⟨false, start, converted⟩).converted ++
        pattern.drop (loop pattern index rest ⟨false, start, converted⟩).start =
      converted ++ (pattern.drop start).take (index - start) ++ regexText (patternPieces rest) := by
  induction rest using patternPieces.induct generalizing index start converted with
  | case1 =>
    rw [loop, patternPieces, regexText_nil]
    exact append_drop_eq converted hle hrest
  | case2 c =>
    by_cases hslash : c = '\\'
    · subst hslash
      exact append_drop_eq converted hle hrest
    · obtain ⟨start', converted', hstep, hle', hpending⟩ :=
        step_unescaped converted hslash hle hrest
      rw [loop, loop, hstep, append_drop_eq converted' hle' (drop_succ_of_drop hrest), hpending,
        patternPieces, regexText_cons, regexText_nil, List.append_nil, List.append_nil]
  | case3 d cs ih =>
    have hrest' := drop_succ_of_drop hrest
    have hslash : step pattern index '\\' ⟨false, start, converted⟩ = ⟨true, start, converted⟩ := rfl
    rw [loop, loop, hslash, step_escaped pattern index d rfl,
      ih le_rfl (drop_succ_of_drop hrest'), Nat.sub_self, List.take_zero, List.append_nil,
      patternPieces, if_pos rfl, regexText_cons, List.append_assoc]
    rfl
  | case4 c d cs hslash ih =>
    obtain ⟨start', converted', hstep, hle', hpending⟩ :=
      step_unescaped converted hslash hle hrest
    rw [loop, hstep, ih hle' (drop_succ_of_drop hrest), hpending, patternPieces, if_neg hslash,
      regexText_cons, List.append_assoc]

end PatternConversion

/-- The regular expression of a pattern that is not blank has the texts of its pieces. -/
theorem convertPatternToRegex_eq {pattern : Text} (hblank : trim pattern ≠ []) :
    convertPatternToRegex pattern = regexText (patternPieces pattern) := by
  have hne : ¬ (pattern = [] ∨ trim pattern = []) := by
    rintro (rfl | h)
    · exact hblank rfl
    · exact hblank h
  have hspec := @PatternConversion.loop_spec pattern pattern 0 0 [] le_rfl List.drop_zero
  rw [Nat.sub_self, List.take_zero, List.nil_append, List.nil_append] at hspec
  rw [convertPatternToRegex, if_neg hne, ← hspec]
  dsimp only
  split
  · rfl
  · rename_i hlength
    rw [List.drop_eq_nil_of_le (by omega), List.append_nil]

/-! ## The terms of a regular expression -/

namespace PatternPiece

/-- The text of the piece is a term, whatever stands in front of it. -/
def IsTerm : PatternPiece → Prop
  | .char c => c ∉ syntaxCharacters ∨ c = '.'
  | .escaped c => c ≠ '\\' ∧ c ≠ ']'
  | _ => True

/-- The term. -/
def term : PatternPiece → Regex
  | .anyText => .quantified (.charClass .dot) 0 none
  | .anyChar => .charClass .dot
  | .char c => .charClass (if c = '.' then .dot else .single c)
  | .escaped c => .charClass (if c = '^' then ⟨true, []⟩ else .single c)

variable {piece : PatternPiece} {rest mid : Text} {r : Regex}

/-- It starts with a character that stands for itself, a dot or a bracket. -/
lemma IsTerm.exists_cons (h : piece.IsTerm) : ∃ c tail, piece.regex = c :: tail ∧
    (c ∉ syntaxCharacters ∨ c = '.' ∨ c = '[') := by
  cases piece with
  | anyText => exact ⟨_, _, rfl, .inr (.inl rfl)⟩
  | anyChar => exact ⟨_, _, rfl, .inr (.inl rfl)⟩
  | char c => exact ⟨_, _, rfl, h.imp_right .inl⟩
  | escaped c => exact ⟨_, _, rfl, .inr (.inr rfl)⟩

/-- The term is derived from the text. -/
lemma IsTerm.derives (h : piece.IsTerm) (rest : Text) :
    Derives .term (piece.regex ++ rest) piece.term rest := by
  cases piece with
  | anyText => exact .quantified .dot (.greedy .star)
  | anyChar => exact .atom .dot
  | char c =>
    rw [term]
    split
    · rename_i hdot
      subst hdot
      exact .atom .dot
    · rename_i hdot
      exact .atom (.char c (h.resolve_right hdot))
  | escaped c =>
    rw [term]
    split
    · rename_i hcaret
      subst hcaret
      exact .atom (.negatedClass .close)
    · rename_i hcaret
      refine .atom (.charClass ?_ (.single c (.char c h.1 h.2) ?_ .close))
      · exact fun heq => hcaret (Option.some.inj heq)
      · rintro d mid ⟨⟩

/-- An atom at the text of a piece is its term, but for a star. -/
lemma IsTerm.of_atom (h : piece.IsTerm) (hatom : Derives .atom (piece.regex ++ rest) r mid) :
    (piece ≠ .anyText ∧ r = piece.term ∧ mid = rest) ∨
      piece = .anyText ∧ r = .charClass .dot ∧ mid = '*' :: rest := by
  cases piece with
  | anyText => exact .inr ⟨rfl, hatom.of_dot⟩
  | anyChar => exact .inl ⟨by decide, hatom.of_dot⟩
  | char c =>
    refine .inl ⟨by simp, ?_⟩
    rw [term]
    split
    · rename_i hdot
      subst hdot
      exact hatom.of_dot
    · rename_i hdot
      exact hatom.of_char (h.resolve_right hdot)
  | escaped c =>
    refine .inl ⟨by simp, ?_⟩
    rw [term]
    obtain ⟨ranges, hnegation, hranges, rfl⟩ | ⟨tail, ranges, htail, hranges, rfl⟩ :=
      hatom.of_bracket
    · have hcaret : c ≠ '^' := by
        rintro rfl
        exact hnegation rfl
      obtain ⟨rfl, rfl⟩ := hranges.of_char h.1 h.2
      rw [if_neg hcaret]
      exact ⟨rfl, rfl⟩
    · obtain ⟨rfl, rfl⟩ := List.cons.inj htail
      obtain ⟨rfl, rfl⟩ := hranges.of_close
      rw [if_pos rfl]
      exact ⟨rfl, rfl⟩

/-- A term at the text of a piece is its term when no quantifier follows, or leaves the star. -/
lemma IsTerm.of_term (h : piece.IsTerm) (hterm : Derives .term (piece.regex ++ rest) r mid)
    (hrest : ∀ c ∈ rest.head?, c ∉ quantifierCharacters) :
    r = piece.term ∧ mid = rest ∨ mid = '*' :: rest := by
  obtain ⟨c, tail, hregex, hhead⟩ := h.exists_cons
  have hstart : c ∉ ['^', '$', '('] := by
    rcases hhead with hhead | rfl | rfl
    · have hsubset : ['^', '$', '('] ⊆ syntaxCharacters := by simp [syntaxCharacters]
      exact fun hmem => hhead (hsubset hmem)
    · decide
    · decide
  have hcons : piece.regex ++ rest = c :: (tail ++ rest) := by rw [hregex, List.cons_append]
  rw [hcons] at hterm
  obtain hatom | ⟨q, mid', least, most, hatom, hquantifier, rfl⟩ := hterm.term_cases hstart
  · rw [← hcons] at hatom
    obtain ⟨-, hatom⟩ | ⟨-, -, hmid⟩ := h.of_atom hatom
    · exact .inl hatom
    · exact .inr hmid
  · rw [← hcons] at hatom
    obtain ⟨-, -, rfl⟩ | ⟨rfl, rfl, rfl⟩ := h.of_atom hatom
    · obtain ⟨d, tail, rfl, hd⟩ := hquantifier.exists_cons
      exact absurd hd (hrest d rfl)
    · obtain ⟨rfl, rfl, rfl | rfl⟩ := hquantifier.of_star
      · exact .inl ⟨rfl, rfl⟩
      · exact absurd (by decide) (hrest '?' rfl)

end PatternPiece

/-- The terms of pieces, one after the other. -/
def termsOf (pieces : List PatternPiece) : Regex :=
  pieces.foldr (fun piece r => .seq piece.term r) .empty

section Terms

variable {pieces : List PatternPiece} {rest : Text} {r : Regex}

/-- A text of terms and closing brackets does not start with a bar or a quantifier. -/
lemma not_mem_of_head_regexText (h : ∀ piece ∈ pieces, piece.IsTerm ∨ piece = .char ']') :
    ∀ c ∈ (regexText pieces).head?, c ∉ '|' :: quantifierCharacters := by
  cases pieces with
  | nil => exact fun c hc => absurd hc (by simp)
  | cons piece pieces =>
    intro c hc hmem
    rw [regexText_cons] at hc
    rcases h piece List.mem_cons_self with hpiece | rfl
    · obtain ⟨d, tail, hregex, hhead⟩ := hpiece.exists_cons
      rw [hregex, List.cons_append, List.head?_cons] at hc
      obtain rfl := Option.some.inj hc
      rcases hhead with hchar | rfl | rfl
      · have hsubset : '|' :: quantifierCharacters ⊆ syntaxCharacters := by
          simp [quantifierCharacters, syntaxCharacters]
        exact hchar (hsubset hmem)
      · exact absurd hmem (by decide)
      · exact absurd hmem (by decide)
    · obtain rfl : ']' = c := Option.some.inj hc
      exact absurd hmem (by decide)

/-- The terms are derived from the text. -/
lemma derives_termsOf (h : ∀ piece ∈ pieces, piece.IsTerm) :
    Derives .alternative (regexText pieces) (termsOf pieces) [] := by
  induction pieces with
  | nil => exact .empty
  | cons piece pieces ih =>
    obtain ⟨hpiece, hpieces⟩ := List.forall_mem_cons.mp h
    rw [regexText_cons]
    exact .term (hpiece.derives _) (ih hpieces)

/-- An alternative that stops at the end or at a bar has all of them, and no closing bracket. -/
lemma eq_termsOf_of_alternative (h : ∀ piece ∈ pieces, piece.IsTerm ∨ piece = .char ']')
    (hderives : Derives .alternative (regexText pieces) r rest)
    (hrest : ∀ c ∈ rest.head?, c = '|') :
    (∀ piece ∈ pieces, piece.IsTerm) ∧ r = termsOf pieces ∧ rest = [] := by
  induction pieces generalizing r with
  | nil =>
    cases hderives with
    | empty => exact ⟨fun _ hmem => absurd hmem List.not_mem_nil, rfl, rfl⟩
    | term hterm =>
      obtain ⟨c, tail, hnil, -⟩ := hterm.term_head
      cases hnil
  | cons piece pieces ih =>
    have hhead := not_mem_of_head_regexText h
    obtain ⟨hpiece, hpieces⟩ := List.forall_mem_cons.mp h
    rw [regexText_cons] at hhead hderives
    rcases hpiece with hpiece | rfl
    · obtain ⟨c, tail, hregex, -⟩ := hpiece.exists_cons
      cases hderives with
      | empty =>
        rw [hregex, List.cons_append] at hhead hrest
        exact absurd (hrest c rfl ▸ List.mem_cons_self) (hhead c rfl)
      | term hterm halternative =>
        obtain ⟨rfl, rfl⟩ | rfl := hpiece.of_term hterm fun c hc hmem =>
          not_mem_of_head_regexText hpieces c hc (List.mem_cons_of_mem _ hmem)
        · obtain ⟨hterms, rfl, rfl⟩ := ih hpieces halternative
          exact ⟨List.forall_mem_cons.mpr ⟨hpiece, hterms⟩, rfl, rfl⟩
        · obtain rfl := halternative.of_stuck (by decide)
          exact absurd (hrest '*' rfl) (by decide)
    · obtain rfl := Derives.of_stuck hderives (by decide)
      exact absurd (hrest ']' rfl) (by decide)

/-- Nothing but them is derived from the text as a whole. -/
lemma eq_termsOf_of_disjunction (h : ∀ piece ∈ pieces, piece.IsTerm ∨ piece = .char ']')
    (hderives : Derives .disjunction (regexText pieces) r []) :
    (∀ piece ∈ pieces, piece.IsTerm) ∧ r = termsOf pieces := by
  cases hderives with
  | alternative hderives =>
    obtain ⟨hterms, heq, -⟩ := eq_termsOf_of_alternative h hderives fun c hc => absurd hc (by simp)
    exact ⟨hterms, heq⟩
  | bar hderives =>
    obtain ⟨-, -, hnil⟩ := eq_termsOf_of_alternative h hderives fun c hc =>
      (Option.some.inj hc).symm
    cases hnil

/-- They are. -/
lemma derives_regexText_iff (h : ∀ piece ∈ pieces, piece.IsTerm) :
    Derives .disjunction (regexText pieces) r [] ↔ r = termsOf pieces := by
  constructor
  · exact fun hderives => (eq_termsOf_of_disjunction (fun piece hmem => .inl (h piece hmem))
      hderives).2
  · rintro rfl
    exact .alternative (derives_termsOf h)

/-- A text of terms is a regular expression. -/
lemma wellFormed_regexText (h : ∀ piece ∈ pieces, piece.IsTerm) : WellFormed (regexText pieces) :=
  ⟨termsOf pieces, (derives_regexText_iff h).mpr rfl⟩

/-- It matches what the terms match one after the other. -/
lemma fullMatch_regexText_iff (h : ∀ piece ∈ pieces, piece.IsTerm) {input : Text} :
    FullMatch (regexText pieces) input ↔ (termsOf pieces).Accepts input input [] := by
  constructor
  · rintro ⟨r, hderives, haccepts⟩
    rwa [(derives_regexText_iff h).mp hderives] at haccepts
  · exact fun haccepts => ⟨_, (derives_regexText_iff h).mpr rfl, haccepts⟩

end Terms

/-! ## Plain patterns -/

/-- The piece means in a regular expression what it means in a pattern. -/
def PatternPiece.Plain : PatternPiece → Prop
  | .char c => c ∉ syntaxCharacters
  | .escaped c => c ≠ '\\' ∧ c ≠ ']' ∧ c ≠ '^'
  | _ => True

instance PatternPiece.decidablePlain : DecidablePred PatternPiece.Plain
  | .anyText => inferInstanceAs (Decidable True)
  | .anyChar => inferInstanceAs (Decidable True)
  | .char c => inferInstanceAs (Decidable (c ∉ syntaxCharacters))
  | .escaped c => inferInstanceAs (Decidable (c ≠ '\\' ∧ c ≠ ']' ∧ c ≠ '^'))

/-- Its text is a term. -/
lemma PatternPiece.Plain.isTerm {piece : PatternPiece} (h : piece.Plain) : piece.IsTerm := by
  cases piece with
  | char c => exact .inl h
  | escaped c => exact ⟨h.1, h.2.1⟩
  | _ => exact trivial

/-- A pattern is plain when no character of a regular expression stands in it by itself, no backslash,
no closing bracket and no caret is escaped, and no backslash is at its end. -/
def PlainPattern (pattern : Text) : Prop := ∀ piece ∈ patternPieces pattern, piece.Plain

instance (pattern : Text) : Decidable (PlainPattern pattern) :=
  inferInstanceAs (Decidable (∀ piece ∈ patternPieces pattern, piece.Plain))

/-- A wildcard stands for these characters only. -/
def WithinLine (pattern candidate : Text) : Prop :=
  MatchesWithin (fun c => ¬ IsLineTerminator c) (parse '\\' pattern) candidate

/-- The terms of plain pieces match what the pieces mean within a line. -/
lemma accepts_termsOf_iff {pieces : List PatternPiece} (h : ∀ piece ∈ pieces, piece.Plain)
    {input text : Text} :
    (termsOf pieces).Accepts input text [] ↔
      MatchesWithin (fun c => ¬ IsLineTerminator c) (pieces.map PatternPiece.element) text := by
  induction pieces generalizing text with
  | nil =>
    constructor
    · rintro ⟨⟩
      exact .nil
    · rintro ⟨⟩
      rfl
  | cons piece pieces ih =>
    obtain ⟨hpiece, hpieces⟩ := List.forall_mem_cons.mp h
    have hcons : (termsOf (piece :: pieces)).Accepts input text [] ↔
        ∃ rest, piece.term.Accepts input text rest ∧
          MatchesWithin (fun c => ¬ IsLineTerminator c) (pieces.map PatternPiece.element) rest :=
      exists_congr fun rest => and_congr_right fun _ => ih hpieces
    rw [hcons, List.map_cons]
    have hsingle : ∀ c, (∃ rest, (Regex.charClass (.single c)).Accepts input text rest ∧
          MatchesWithin (fun c => ¬ IsLineTerminator c) (pieces.map PatternPiece.element) rest) ↔
        MatchesWithin (fun c => ¬ IsLineTerminator c)
          (.char c :: pieces.map PatternPiece.element) text := by
      intro c
      constructor
      · rintro ⟨rest, ⟨d, rfl, hd⟩, hrest⟩
        rw [CharClass.single_contains.mp hd]
        exact .char c hrest
      · rintro (_ | _ | _ | ⟨_, hrest⟩)
        exact ⟨_, ⟨c, rfl, CharClass.single_contains.mpr rfl⟩, hrest⟩
    cases piece with
    | anyText =>
      constructor
      · rintro ⟨rest, haccepts, hrest⟩
        obtain ⟨skipped, rfl, hskipped⟩ := accepts_star_iff.mp haccepts
        exact .anyText skipped (fun c hc => CharClass.dot_contains.mp (hskipped c hc)) hrest
      · rintro (_ | ⟨skipped, hskipped, hrest⟩)
        exact ⟨_, accepts_star_iff.mpr ⟨skipped, rfl, fun c hc =>
          CharClass.dot_contains.mpr (hskipped c hc)⟩, hrest⟩
    | anyChar =>
      constructor
      · rintro ⟨rest, ⟨c, rfl, hc⟩, hrest⟩
        exact .anyChar c (CharClass.dot_contains.mp hc) hrest
      · rintro (_ | _ | ⟨c, hc, hrest⟩)
        exact ⟨_, ⟨c, rfl, CharClass.dot_contains.mpr hc⟩, hrest⟩
    | char c =>
      have hdot : c ≠ '.' := by
        rintro rfl
        exact hpiece (by decide)
      rw [PatternPiece.term, if_neg hdot]
      exact hsingle c
    | escaped c =>
      rw [PatternPiece.term, if_neg hpiece.2.2]
      exact hsingle c

/-- The regular expression of a plain pattern matches what the pattern means within a line. -/
theorem fullMatch_convertPatternToRegex_iff {pattern : Text} (hblank : trim pattern ≠ [])
    (hplain : PlainPattern pattern) {candidate : Text} :
    FullMatch (convertPatternToRegex pattern) candidate ↔ WithinLine pattern candidate := by
  rw [convertPatternToRegex_eq hblank,
    fullMatch_regexText_iff fun piece hpiece => (hplain piece hpiece).isTerm,
    accepts_termsOf_iff hplain, map_element_patternPieces]
  rfl

/-- It is well formed. -/
theorem wellFormed_convertPatternToRegex {pattern : Text} (hblank : trim pattern ≠ [])
    (hplain : PlainPattern pattern) : WellFormed (convertPatternToRegex pattern) := by
  rw [convertPatternToRegex_eq hblank]
  exact wellFormed_regexText fun piece hpiece => (hplain piece hpiece).isTerm

end TimestreamOdbc
