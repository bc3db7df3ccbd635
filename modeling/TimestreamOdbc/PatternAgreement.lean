import TimestreamOdbc.PatternRegex
import Mathlib.Algebra.GroupWithZero.Nat

/-!
# Where a pattern and its regular expression agree

A plain pattern agrees with its regular expression on a text unless a wildcard has to stand for a line
terminator.  A pattern that is not plain disagrees with it somewhere, as long as it has no quantifier:
what is derived from the text of its pieces matches no more characters than there are pieces, and fewer
when a piece is an assertion, a group, a bar or a part of a larger class.
-/

namespace TimestreamOdbc

open SearchPattern EcmaRegex

/-! ## Patterns without quantifiers -/

namespace PatternPiece

/-- The piece does not start a quantifier. -/
def Unquantified : PatternPiece → Prop
  | .char c => c ∉ quantifierCharacters
  | _ => True

instance decidableUnquantified : DecidablePred Unquantified
  | .anyText => inferInstanceAs (Decidable True)
  | .anyChar => inferInstanceAs (Decidable True)
  | .char c => inferInstanceAs (Decidable (c ∉ quantifierCharacters))
  | .escaped _ => inferInstanceAs (Decidable True)

/-- The most characters that the piece can account for in a match. A class that several pieces make is
the one character of the piece that closes it. -/
def weight : PatternPiece → ℕ
  | .anyText => 0
  | .anyChar => 1
  | .char c => if c ∉ syntaxCharacters ∨ c = '.' ∨ c = ']' then 1 else 0
  | .escaped c => if c = '\\' ∨ c = ']' then 0 else 1

/-- It is at most one. -/
lemma weight_le_one (piece : PatternPiece) : piece.weight ≤ 1 := by
  cases piece with
  | anyText => exact Nat.zero_le 1
  | anyChar => exact le_rfl
  | char c =>
    rw [weight]
    split <;> omega
  | escaped c =>
    rw [weight]
    split <;> omega

end PatternPiece

/-- The weight of pieces. -/
def weightOf (pieces : List PatternPiece) : ℕ := (pieces.map PatternPiece.weight).sum

@[simp] lemma weightOf_nil : weightOf [] = 0 := rfl

@[simp] lemma weightOf_cons (piece : PatternPiece) (pieces : List PatternPiece) :
    weightOf (piece :: pieces) = piece.weight + weightOf pieces := by
  rw [weightOf, List.map_cons, List.sum_cons, weightOf]

@[simp] lemma weightOf_append (first second : List PatternPiece) :
    weightOf (first ++ second) = weightOf first + weightOf second := by
  rw [weightOf, List.map_append, List.sum_append, weightOf, weightOf]

section Weights

/- The text is that of pieces and, when a pattern ends with a backslash, this one. -/
variable {ending : Text} {pieces : List PatternPiece} {c : Char} {text rest : Text}

/-- What a text of pieces starts with. -/
lemma regexText_eq_cons (hending : ending = [] ∨ ending = ['\\'])
    (hslash : PatternPiece.char '\\' ∉ pieces) (htext : c :: text = regexText pieces ++ ending) :
    (c = '\\' ∧ text = []) ∨ ∃ piece remaining tail, pieces = piece :: remaining ∧
      piece.regex = c :: tail ∧ text = tail ++ (regexText remaining ++ ending) ∧
      PatternPiece.char '\\' ∉ remaining := by
  cases pieces with
  | nil =>
    rw [regexText_nil, List.nil_append] at htext
    rcases hending with rfl | rfl
    · cases htext
    · exact .inl (List.cons.inj htext)
  | cons piece remaining =>
    rw [regexText_cons, List.append_assoc] at htext
    have hremaining := fun h => hslash (List.mem_cons_of_mem piece h)
    refine .inr ⟨piece, remaining, ?_⟩
    cases piece <;> obtain ⟨rfl, rfl⟩ := List.cons.inj htext <;>
      exact ⟨_, rfl, rfl, rfl, hremaining⟩

/-- A character that starts no other piece is one. -/
lemma regexText_eq_char_cons (hending : ending = [] ∨ ending = ['\\'])
    (hslash : PatternPiece.char '\\' ∉ pieces) (hc : c ∉ ['.', '[', '\\'])
    (htext : c :: text = regexText pieces ++ ending) :
    ∃ remaining, pieces = .char c :: remaining ∧ text = regexText remaining ++ ending := by
  obtain ⟨rfl, -⟩ | ⟨piece, remaining, tail, rfl, hregex, rfl, -⟩ :=
    regexText_eq_cons hending hslash htext
  · exact absurd (by decide) hc
  · cases piece with
    | char d =>
      obtain ⟨rfl, rfl⟩ := List.cons.inj hregex
      exact ⟨remaining, rfl, rfl⟩
    | _ =>
      obtain ⟨rfl, -⟩ := List.cons.inj hregex
      exact absurd (by decide) hc

/-- Places inside a class, with the pieces behind it and the weight of the piece it is in. -/
inductive InClass (ending : Text) : List PatternPiece → ℕ → Text → Prop
  | between (pieces : List PatternPiece) : InClass ending pieces 0 (regexText pieces ++ ending)
  | escaped (c : Char) (pieces : List PatternPiece) :
    InClass ending pieces (PatternPiece.escaped c).weight (c :: ']' :: (regexText pieces ++ ending))
  | closing (pieces : List PatternPiece) :
    InClass ending pieces 1 (']' :: (regexText pieces ++ ending))
  | star (pieces : List PatternPiece) : InClass ending pieces 0 ('*' :: (regexText pieces ++ ending))

/-- A character of a class leads from one of them to another. -/
lemma InClass.atom {weight : ℕ} (hending : ending = [] ∨ ending = ['\\'])
    (hslash : PatternPiece.char '\\' ∉ pieces) (h : InClass ending pieces weight text)
    (hatom : ClassAtom text c rest) :
    ∃ used remaining weight', pieces = used ++ remaining ∧ InClass ending remaining weight' rest ∧
      weight' ≤ weight + weightOf used := by
  cases h with
  | between =>
    generalize htext : regexText pieces ++ ending = text at hatom
    cases text with
    | nil => cases hatom
    | cons d text =>
      obtain ⟨rfl, rfl⟩ | ⟨piece, remaining, tail, rfl, hregex, rfl, -⟩ :=
        regexText_eq_cons hending hslash htext.symm
      · cases hatom with
        | char _ hslash => exact absurd rfl hslash
      · have hd : d ≠ '\\' := by
          rintro rfl
          cases piece with
          | char d =>
            obtain ⟨rfl, -⟩ := List.cons.inj hregex
            exact hslash List.mem_cons_self
          | _ => cases hregex
        obtain ⟨rfl, rfl, -⟩ := hatom.of_cons hd
        refine ⟨[piece], remaining, ?_⟩
        cases piece <;> obtain ⟨rfl, rfl⟩ := List.cons.inj hregex
        · exact ⟨_, rfl, .star remaining, Nat.zero_le _⟩
        · exact ⟨_, rfl, .between remaining, Nat.zero_le _⟩
        · exact ⟨_, rfl, .between remaining, Nat.zero_le _⟩
        · rename_i e
          exact ⟨_, rfl, .escaped e remaining, by simp⟩
  | escaped d =>
    by_cases hd : d = '\\'
    · subst hd
      cases hatom with
      | char _ hslash => exact absurd rfl hslash
      | escape => exact ⟨[], pieces, 0, rfl, .between pieces, Nat.zero_le _⟩
    · obtain ⟨-, rfl, hclose⟩ := hatom.of_cons hd
      refine ⟨[], pieces, 1, rfl, .closing pieces, ?_⟩
      rw [PatternPiece.weight, if_neg (by tauto), weightOf_nil]
  | closing => exact absurd rfl (hatom.of_cons (by decide)).2.2
  | star =>
    obtain ⟨-, rfl, -⟩ := hatom.of_cons (by decide)
    exact ⟨[], pieces, 0, rfl, .between pieces, Nat.zero_le _⟩

/-- A class ends in front of a piece, and then it has a piece with a weight, or in front of a closing
bracket. -/
lemma InClass.ranges {weight : ℕ} {ranges : List (Char × Char)}
    (hending : ending = [] ∨ ending = ['\\']) (hslash : PatternPiece.char '\\' ∉ pieces)
    (h : InClass ending pieces weight text) (hranges : ClassRanges text ranges rest) :
    (∃ used remaining, pieces = used ++ remaining ∧ rest = regexText remaining ++ ending ∧
      1 ≤ weight + weightOf used) ∨ ∃ tail, rest = ']' :: tail := by
  induction hranges generalizing pieces weight with
  | @close rest =>
    generalize htext : ']' :: rest = text at h
    cases h with
    | between =>
      obtain ⟨remaining, rfl, rfl⟩ := regexText_eq_char_cons hending hslash (by decide) htext
      exact .inl ⟨[.char ']'], remaining, rfl, rfl, by decide⟩
    | escaped d =>
      obtain ⟨rfl, rfl⟩ := List.cons.inj htext
      exact .inr ⟨_, rfl⟩
    | closing =>
      obtain ⟨-, rfl⟩ := List.cons.inj htext
      exact .inl ⟨[], pieces, rfl, rfl, le_rfl⟩
    | star => cases htext
  | @range text mid rest rest' ranges low high hlow hhigh hle hrest ih =>
    -- The two bounds and the dash between them.
    obtain ⟨first, pieces₁, weight₁, rfl, h₁, hle₁⟩ := h.atom hending hslash hlow
    have hslash₁ := fun hmem => hslash (List.mem_append_right first hmem)
    obtain ⟨second, pieces₂, weight₂, rfl, h₂, hle₂⟩ :=
      h₁.atom hending hslash₁ (.char '-' (by decide) (by decide))
    have hslash₂ := fun hmem => hslash₁ (List.mem_append_right second hmem)
    obtain ⟨third, pieces₃, weight₃, rfl, h₃, hle₃⟩ := h₂.atom hending hslash₂ hhigh
    have hslash₃ := fun hmem => hslash₂ (List.mem_append_right third hmem)
    obtain ⟨used, remaining, rfl, rfl, hone⟩ | hstuck := ih hslash₃ h₃
    · refine .inl ⟨first ++ (second ++ (third ++ used)), remaining, ?_, rfl, ?_⟩
      · simp only [List.append_assoc]
      · simp only [weightOf_append]
        omega
    · exact .inr hstuck
  | single d hd _ hrest ih =>
    obtain ⟨first, pieces₁, weight₁, rfl, h₁, hle₁⟩ := h.atom hending hslash hd
    have hslash₁ := fun hmem => hslash (List.mem_append_right first hmem)
    obtain ⟨used, remaining, rfl, rfl, hone⟩ | hstuck := ih hslash₁ h₁
    · refine .inl ⟨first ++ used, remaining, ?_, rfl, ?_⟩
      · rw [List.append_assoc]
      · rw [weightOf_append]
        omega
    · exact .inr hstuck

/-- The pieces have no quantifier and no backslash, and what stands for any text does not stand for
characters that count. -/
def Admissible (p : Char → Bool) (pieces : List PatternPiece) : Prop :=
  ∀ piece ∈ pieces, piece.Unquantified ∧ piece ≠ .char '\\' ∧
    (piece = .anyText → ∀ c, p c = true → IsLineTerminator c)

/-- What is left of the text of pieces behind what is derived from it: the text of the last of them, when
the others have the weight of what is derived, or a text that nothing is derived from. -/
inductive Outcome (ending : Text) (p : Char → Bool) (nonterminal : Nonterminal)
    (pieces : List PatternPiece) (r : Regex) (rest : Text) : Prop
  | reaches (used remaining : List PatternPiece) (hpieces : pieces = used ++ remaining)
    (hrest : rest = regexText remaining ++ ending) (h : r.AtMost p (weightOf used))
  | stuck (c : Char) (tail : Text) (hc : c ∈ [']', '*']) (hrest : rest = c :: tail)
    (hatom : nonterminal = .atom → c = '*' → ∃ remaining, pieces = .anyText :: remaining ∧
      r = .charClass .dot ∧ tail = regexText remaining ++ ending)

section Outcomes

variable {p : Char → Bool} {first second : List PatternPiece} {r : Regex}

lemma Admissible.not_mem (h : Admissible p pieces) : PatternPiece.char '\\' ∉ pieces :=
  fun hmem => (h _ hmem).2.1 rfl

lemma Admissible.tail {piece : PatternPiece} (h : Admissible p (piece :: pieces)) :
    Admissible p pieces :=
  (List.forall_mem_cons.mp h).2

lemma Admissible.right (h : Admissible p (first ++ second)) : Admissible p second :=
  (List.forall_mem_append.mp h).2

/-- No quantifier starts with what such pieces start with. -/
lemma Admissible.not_quantifier {least : ℕ} {most : Option ℕ}
    (hending : ending = [] ∨ ending = ['\\']) (h : Admissible p pieces) :
    ¬ Quantifier (regexText pieces ++ ending) least most rest := by
  intro hquantifier
  obtain ⟨c, tail, htext, hc⟩ := hquantifier.exists_cons
  have hstart : c ∉ ['.', '[', '\\'] := by
    rintro hmem
    have hdisjoint : ['.', '[', '\\'].all (fun c => decide (c ∉ quantifierCharacters)) = true := rfl
    exact of_decide_eq_true (List.all_eq_true.mp hdisjoint c hmem) hc
  obtain ⟨remaining, rfl, -⟩ := regexText_eq_char_cons hending h.not_mem hstart htext.symm
  exact (h _ List.mem_cons_self).1 hc

/-- A class of such pieces. -/
lemma Outcome.of_ranges (first : List PatternPiece) {set : EcmaRegex.CharClass}
    {ranges : List (Char × Char)} {weight : ℕ}
    (hending : ending = [] ∨ ending = ['\\']) (hslash : PatternPiece.char '\\' ∉ second)
    (hclass : InClass ending second weight text) (hweight : weight ≤ weightOf first)
    (hranges : ClassRanges text ranges rest) :
    Outcome ending p .atom (first ++ second) (.charClass set) rest := by
  obtain ⟨used, remaining, rfl, hrest, hone⟩ | ⟨tail, hrest⟩ :=
    hclass.ranges hending hslash hranges
  · refine .reaches (first ++ used) remaining (List.append_assoc _ _ _).symm hrest ?_
    refine (Regex.AtMost.charClass set).mono ?_
    rw [weightOf_append]
    omega
  · exact .stuck ']' tail (by decide) hrest fun _ h => absurd h (by decide)

/-- Derivations from the text of such pieces. -/
lemma Derives.outcome {nonterminal : Nonterminal} (hending : ending = [] ∨ ending = ['\\'])
    (h : Derives nonterminal text r rest) (hpieces : Admissible p pieces)
    (htext : text = regexText pieces ++ ending) : Outcome ending p nonterminal pieces r rest := by
  induction h generalizing pieces with
  | alternative _ ih =>
    cases ih hpieces htext with
    | reaches used remaining heq hrest h => exact .reaches used remaining heq hrest h
    | stuck c tail hc hrest => exact .stuck c tail hc hrest nofun
  | bar _ _ ih ihrest =>
    cases ih hpieces htext with
    | reaches used remaining heq hbar h =>
      subst heq
      obtain ⟨remaining, rfl, rfl⟩ :=
        regexText_eq_char_cons hending hpieces.right.not_mem (by decide) hbar
      cases ihrest hpieces.right.tail rfl with
      | reaches used' remaining heq hrest h' =>
        subst heq
        refine .reaches (used ++ .char '|' :: used') remaining ?_ hrest ?_
        · rw [List.append_assoc, List.cons_append]
        · refine (h.alt h').mono ?_
          simp only [weightOf_append, weightOf_cons]
          omega
      | stuck c tail hc hrest => exact .stuck c tail hc hrest nofun
    | stuck c tail hc hrest =>
      obtain ⟨rfl, -⟩ := List.cons.inj hrest
      exact absurd hc (by decide)
  | empty => exact .reaches [] pieces rfl htext Regex.AtMost.empty
  | term _ hrest ih ihrest =>
    cases ih hpieces htext with
    | reaches used remaining heq hmid h =>
      subst heq
      cases ihrest hpieces.right hmid with
      | reaches used' remaining heq hrest h' =>
        subst heq
        refine .reaches (used ++ used') remaining (List.append_assoc _ _ _).symm hrest ?_
        rw [weightOf_append]
        exact h.seq h'
      | stuck c tail hc hrest => exact .stuck c tail hc hrest nofun
    | stuck c tail hc hmid =>
      subst hmid
      exact .stuck c tail hc (hrest.of_stuck hc) nofun
  | inputStart =>
    obtain ⟨remaining, rfl, rfl⟩ :=
      regexText_eq_char_cons hending hpieces.not_mem (by decide) htext
    exact .reaches [.char '^'] remaining rfl rfl (Regex.AtMost.inputStart.mono (Nat.zero_le _))
  | inputEnd =>
    obtain ⟨remaining, rfl, rfl⟩ :=
      regexText_eq_char_cons hending hpieces.not_mem (by decide) htext
    exact .reaches [.char '$'] remaining rfl rfl (Regex.AtMost.inputEnd.mono (Nat.zero_le _))
  | atom _ ih =>
    cases ih hpieces htext with
    | reaches used remaining heq hrest h => exact .reaches used remaining heq hrest h
    | stuck c tail hc hrest => exact .stuck c tail hc hrest nofun
  | quantified _ hquantifier ih =>
    cases ih hpieces htext with
    | reaches used remaining heq hmid h =>
      subst heq hmid
      exact absurd hquantifier (hpieces.right.not_quantifier hending)
    | stuck c tail hc hmid hatom =>
      subst hmid
      obtain rfl : c = '*' := by
        obtain ⟨d, _, hcons, hd⟩ := hquantifier.exists_cons
        obtain ⟨rfl, -⟩ := List.cons.inj hcons
        simp only [List.mem_cons, List.not_mem_nil, or_false] at hc
        rcases hc with rfl | rfl
        · exact absurd hd (by decide)
        · rfl
      obtain ⟨remaining, rfl, rfl, rfl⟩ := hatom rfl rfl
      obtain ⟨rfl, rfl, hrest | hrest⟩ := hquantifier.of_star
      · refine .reaches [.anyText] remaining rfl hrest.symm (Regex.AtMost.star fun c hc => ?_)
        exact (hpieces _ List.mem_cons_self).2.2 rfl c hc
      · obtain ⟨remaining, rfl, -⟩ :=
          regexText_eq_char_cons hending hpieces.tail.not_mem (by decide) hrest.symm
        exact absurd (by decide) (hpieces.tail _ List.mem_cons_self).1
  | char c hc =>
    have hstart : c ∉ ['.', '[', '\\'] := by
      have hsubset : ['.', '[', '\\'] ⊆ syntaxCharacters := by simp [syntaxCharacters]
      exact fun hmem => hc (hsubset hmem)
    obtain ⟨remaining, rfl, rfl⟩ :=
      regexText_eq_char_cons hending hpieces.not_mem hstart htext
    refine .reaches [.char c] remaining rfl rfl ((Regex.AtMost.charClass _).mono ?_)
    rw [weightOf_cons, PatternPiece.weight, if_pos (.inl hc)]
    exact Nat.le_add_right 1 _
  | dot =>
    obtain ⟨hslash, -⟩ | ⟨piece, remaining, tail, rfl, hregex, hrest, -⟩ :=
      regexText_eq_cons hending hpieces.not_mem htext
    · exact absurd hslash (by decide)
    · cases piece with
      | anyText =>
        obtain ⟨-, rfl⟩ := List.cons.inj hregex
        exact .stuck '*' _ (by decide) hrest fun _ _ => ⟨remaining, rfl, rfl, rfl⟩
      | anyChar =>
        obtain ⟨-, rfl⟩ := List.cons.inj hregex
        exact .reaches [.anyChar] remaining rfl hrest (Regex.AtMost.charClass _)
      | char c =>
        obtain ⟨rfl, rfl⟩ := List.cons.inj hregex
        exact .reaches [.char '.'] remaining rfl hrest (Regex.AtMost.charClass _)
      | escaped c => cases hregex
  | escape c =>
    obtain ⟨-, hnil⟩ | ⟨piece, remaining, tail, rfl, hregex, -, -⟩ :=
      regexText_eq_cons hending hpieces.not_mem htext
    · cases hnil
    · cases piece with
      | char c =>
        obtain ⟨rfl, -⟩ := List.cons.inj hregex
        exact absurd List.mem_cons_self hpieces.not_mem
      | _ => cases hregex
  | charClass _ hranges =>
    obtain ⟨hslash, -⟩ | ⟨piece, remaining, tail, rfl, hregex, rfl, hslash⟩ :=
      regexText_eq_cons hending hpieces.not_mem htext
    · exact absurd hslash (by decide)
    · cases piece with
      | char c =>
        obtain ⟨rfl, rfl⟩ := List.cons.inj hregex
        exact Outcome.of_ranges [.char '['] hending hslash (.between remaining)
          (Nat.zero_le _) hranges
      | escaped c =>
        obtain ⟨-, rfl⟩ := List.cons.inj hregex
        exact Outcome.of_ranges [.escaped c] hending hslash (.escaped c remaining)
          (by simp) hranges
      | _ => cases hregex
  | negatedClass hranges =>
    obtain ⟨hslash, -⟩ | ⟨piece, remaining, tail, rfl, hregex, hrest, hslash⟩ :=
      regexText_eq_cons hending hpieces.not_mem htext
    · exact absurd hslash (by decide)
    · cases piece with
      | char c =>
        obtain ⟨rfl, rfl⟩ := List.cons.inj hregex
        obtain ⟨remaining, rfl, rfl⟩ :=
          regexText_eq_char_cons hending hslash (by decide) hrest
        exact Outcome.of_ranges [.char '[', .char '^'] hending
          (fun hmem => hslash (List.mem_cons_of_mem _ hmem)) (.between remaining) (Nat.zero_le _)
          hranges
      | escaped c =>
        obtain ⟨-, rfl⟩ := List.cons.inj hregex
        obtain ⟨rfl, rfl⟩ := List.cons.inj hrest
        exact Outcome.of_ranges [.escaped '^'] hending hslash (.closing remaining)
          (by decide) hranges
      | _ => cases hregex
  | group _ ih =>
    obtain ⟨remaining, rfl, rfl⟩ :=
      regexText_eq_char_cons hending hpieces.not_mem (by decide) htext
    cases ih hpieces.tail rfl with
    | reaches used remaining heq hrest h =>
      subst heq
      obtain ⟨remaining, rfl, rfl⟩ :=
        regexText_eq_char_cons hending hpieces.tail.right.not_mem (by decide) hrest
      refine .reaches (.char '(' :: used ++ [.char ')']) remaining ?_ rfl (h.mono ?_)
      · rw [List.append_assoc, List.cons_append, List.singleton_append]
      · simp only [List.cons_append, weightOf_cons, weightOf_append]
        omega
    | stuck c tail hc hrest =>
      obtain ⟨rfl, -⟩ := List.cons.inj hrest
      exact absurd hc (by decide)
  | _ =>
    -- a group that has a question mark behind its parenthesis
    obtain ⟨remaining, rfl, hquestion⟩ :=
      regexText_eq_char_cons hending hpieces.not_mem (by decide) htext
    obtain ⟨remaining, rfl, -⟩ :=
      regexText_eq_char_cons hending hpieces.tail.not_mem (by decide) hquestion
    exact absurd (by decide) (hpieces.tail _ List.mem_cons_self).1

/-- A whole regular expression has no backslash at its end, and the weight of all pieces. -/
lemma Derives.atMost (hending : ending = [] ∨ ending = ['\\'])
    (h : Derives .disjunction (regexText pieces ++ ending) r []) (hpieces : Admissible p pieces) :
    ending = [] ∧ r.AtMost p (weightOf pieces) := by
  cases Derives.outcome hending h hpieces rfl with
  | reaches used remaining heq hrest hr =>
    subst heq
    obtain ⟨hnil, rfl⟩ := List.append_eq_nil_iff.mp hrest.symm
    refine ⟨rfl, hr.mono ?_⟩
    rw [weightOf_append]
    exact Nat.le_add_right _ _
  | stuck c tail hc hrest => cases hrest

/-- What it matches has no more characters than the pieces weigh. -/
lemma countP_le_weightOf (hpieces : Admissible p pieces) (h : FullMatch (regexText pieces) text) :
    text.countP p ≤ weightOf pieces := by
  obtain ⟨r, hderives, haccepts⟩ := h
  rw [← List.append_nil (regexText pieces)] at hderives
  have hle := (Derives.atMost (.inl rfl) hderives hpieces).2 text text [] haccepts
  rwa [List.countP_nil, Nat.add_zero] at hle

end Outcomes

end Weights

/-! ## Texts that pieces mean -/

namespace PatternPiece

/-- The character that a piece stands for, when a wildcard stands for a given one. -/
def letter (wildcard : Char) : PatternPiece → Char
  | .anyText => wildcard
  | .anyChar => wildcard
  | .char c => c
  | .escaped c => c

/-- A text that a piece means. -/
def sample (skipped : Text) (wildcard : Char) : PatternPiece → Text
  | .anyText => skipped
  | piece => [piece.letter wildcard]

/-- A character that its term contains, and another one if the piece is a dot or an escaped caret. -/
def other : PatternPiece → Char
  | .char c => if c = '.' then 'a' else c
  | .escaped c => if c = '^' then 'a' else c
  | _ => 'a'

end PatternPiece

section Samples

variable {pieces : List PatternPiece}

/-- The samples of pieces make a text that the pieces mean. -/
lemma matches_samples (pieces : List PatternPiece) (skipped : Text) (wildcard : Char) :
    Matches (pieces.map PatternPiece.element)
      (pieces.flatMap (PatternPiece.sample skipped wildcard)) := by
  induction pieces with
  | nil => exact .nil
  | cons piece pieces ih =>
    rw [List.map_cons, List.flatMap_cons]
    cases piece with
    | anyText => exact .anyText skipped ih
    | anyChar => exact .anyChar wildcard ih
    | char c => exact .char c ih
    | escaped c => exact .char c ih

/-- So do the letters of pieces that do not stand for any text. -/
lemma matches_letters (htext : PatternPiece.anyText ∉ pieces) (wildcard : Char) :
    Matches (pieces.map PatternPiece.element) (pieces.map (PatternPiece.letter wildcard)) := by
  have hsample : pieces.flatMap (PatternPiece.sample [] wildcard) =
      pieces.map (PatternPiece.letter wildcard) := by
    rw [← List.flatMap_pure_eq_map]
    refine List.flatMap_congr fun piece hpiece => ?_
    cases piece with
    | anyText => exact absurd hpiece htext
    | _ => rfl
  rw [← hsample]
  exact matches_samples pieces [] wildcard

/-- The letters are all that pieces without wildcards mean. -/
lemma matches_iff_letters (htext : PatternPiece.anyText ∉ pieces)
    (hchar : PatternPiece.anyChar ∉ pieces) {wildcard : Char} {text : Text} :
    Matches (pieces.map PatternPiece.element) text ↔
      pieces.map (PatternPiece.letter wildcard) = text := by
  have helements : pieces.map PatternPiece.element =
      (pieces.map (PatternPiece.letter wildcard)).map Element.char := by
    rw [List.map_map]
    refine List.map_congr_left fun piece hpiece => ?_
    cases piece with
    | anyText => exact absurd hpiece htext
    | anyChar => exact absurd hpiece hchar
    | _ => rfl
  rw [helements, matches_chars_iff]

/-- A text with as many line terminators as one likes, if a piece stands for any text. -/
lemma le_countP_samples (htext : PatternPiece.anyText ∈ pieces) (n : ℕ) :
    n ≤ (pieces.flatMap (PatternPiece.sample (List.replicate n '\n') 'a')).countP
      (fun c => decide (IsLineTerminator c)) := by
  obtain ⟨first, second, rfl⟩ := List.append_of_mem htext
  have hcount : (List.replicate n '\n').countP (fun c => decide (IsLineTerminator c)) = n := by
    rw [List.countP_replicate, if_pos (by decide)]
  have hsample : PatternPiece.sample (List.replicate n '\n') 'a' .anyText =
    List.replicate n '\n' := rfl
  rw [List.flatMap_append, List.flatMap_cons, hsample, List.countP_append, List.countP_append,
    hcount]
  omega

/-- The terms of pieces that do not stand for any text match one character each. -/
lemma accepts_map_iff (htext : PatternPiece.anyText ∉ pieces) {input : Text}
    {f : PatternPiece → Char} :
    (termsOf pieces).Accepts input (pieces.map f) [] ↔
      ∀ piece ∈ pieces, piece.term.Accepts input [f piece] [] := by
  have hclass : ∀ {piece : PatternPiece}, piece ≠ .anyText → ∃ set, piece.term = .charClass set := by
    intro piece hpiece
    cases piece with
    | anyText => exact absurd rfl hpiece
    | _ => exact ⟨_, rfl⟩
  induction pieces with
  | nil => exact ⟨fun _ _ h => absurd h List.not_mem_nil, fun _ => rfl⟩
  | cons piece pieces ih =>
    obtain ⟨set, hset⟩ := hclass (List.ne_of_not_mem_cons htext).symm
    rw [List.forall_mem_cons, hset]
    refine Iff.trans ?_ (and_congr_right fun _ => ih (List.not_mem_of_not_mem_cons htext))
    constructor
    · rintro ⟨rest, hfirst, haccepts⟩
      rw [hset] at hfirst
      obtain ⟨c, hcons, hc⟩ := hfirst
      obtain ⟨rfl, rfl⟩ := List.cons.inj hcons
      exact ⟨⟨_, rfl, hc⟩, haccepts⟩
    · rintro ⟨⟨c, hcons, hc⟩, haccepts⟩
      obtain ⟨rfl, -⟩ := List.cons.inj hcons
      refine ⟨_, ?_, haccepts⟩
      rw [hset]
      exact ⟨_, rfl, hc⟩

/-- They match the other characters. -/
lemma accepts_other {piece : PatternPiece} (htext : piece ≠ .anyText) (input : Text) :
    piece.term.Accepts input [piece.other] [] := by
  cases piece with
  | anyText => exact absurd rfl htext
  | anyChar => exact ⟨'a', rfl, rfl⟩
  | char c =>
    rw [PatternPiece.term, PatternPiece.other]
    split
    · exact ⟨'a', rfl, rfl⟩
    · exact ⟨c, rfl, CharClass.single_contains.mpr rfl⟩
  | escaped c =>
    rw [PatternPiece.term, PatternPiece.other]
    split
    · exact ⟨'a', rfl, rfl⟩
    · exact ⟨c, rfl, CharClass.single_contains.mpr rfl⟩

/-- Pieces weigh no more than one each. -/
lemma weightOf_le_length (pieces : List PatternPiece) : weightOf pieces ≤ pieces.length := by
  induction pieces with
  | nil => exact le_rfl
  | cons piece pieces ih =>
    rw [weightOf_cons, List.length_cons]
    have := piece.weight_le_one
    omega

/-- When they weigh as much as that, each of them is a term or a closing bracket. -/
lemma isTerm_of_length_le (h : pieces.length ≤ weightOf pieces) :
    ∀ piece ∈ pieces, piece.IsTerm ∨ piece = .char ']' := by
  induction pieces with
  | nil => exact fun _ hmem => absurd hmem List.not_mem_nil
  | cons piece pieces ih =>
    rw [weightOf_cons, List.length_cons] at h
    have hone := piece.weight_le_one
    have hle := weightOf_le_length pieces
    refine List.forall_mem_cons.mpr ⟨?_, ih (by omega)⟩
    have hweight : piece.weight ≠ 0 := by omega
    cases piece with
    | char c =>
      rw [PatternPiece.weight] at hweight
      split at hweight
      · rename_i hc
        obtain hc | hc | rfl := hc
        · exact .inl (.inl hc)
        · exact .inl (.inr hc)
        · exact .inr rfl
      · exact absurd rfl hweight
    | escaped c =>
      rw [PatternPiece.weight] at hweight
      split at hweight
      · exact absurd rfl hweight
      · rename_i hc
        exact .inl (not_or.mp hc)
    | _ => exact .inl trivial

end Samples

/-! ## Agreement -/

/-- The regular expression of a pattern is well formed, and it matches a text as a whole exactly when the
pattern does. -/
def RegexAgrees (pattern candidate : Text) : Prop :=
  WellFormed (convertPatternToRegex pattern) ∧
    (FullMatch (convertPatternToRegex pattern) candidate ↔
      Matches (parse '\\' pattern) candidate)

/-- No character of a quantifier stands by itself in the pattern. -/
def UnquantifiedPattern (pattern : Text) : Prop :=
  ∀ piece ∈ patternPieces pattern, piece.Unquantified

instance (pattern : Text) : Decidable (UnquantifiedPattern pattern) :=
  inferInstanceAs (Decidable (∀ piece ∈ patternPieces pattern, piece.Unquantified))

/-- The pattern has no wildcards. -/
def LiteralPattern (pattern : Text) : Prop :=
  ∀ piece ∈ patternPieces pattern, piece ≠ .anyText ∧ piece ≠ .anyChar

instance (pattern : Text) : Decidable (LiteralPattern pattern) :=
  inferInstanceAs (Decidable (∀ piece ∈ patternPieces pattern, piece ≠ .anyText ∧ piece ≠ .anyChar))

/-- Only the last piece of a pattern may be a backslash. -/
lemma patternPieces_eq_append (pattern : Text) :
    ∃ pieces, PatternPiece.char '\\' ∉ pieces ∧
      (patternPieces pattern = pieces ∨ patternPieces pattern = pieces ++ [.char '\\']) := by
  have hofChar : ∀ {c}, c ≠ '\\' → PatternPiece.ofChar c ≠ .char '\\' := by
    intro c hc
    unfold PatternPiece.ofChar
    split
    · exact PatternPiece.noConfusion
    · split
      · exact PatternPiece.noConfusion
      · exact fun h => hc (PatternPiece.char.inj h)
  have hcons : ∀ {piece pieces}, piece ≠ .char '\\' →
      (∃ pieces', PatternPiece.char '\\' ∉ pieces' ∧
        (pieces = pieces' ∨ pieces = pieces' ++ [.char '\\'])) →
      ∃ pieces', PatternPiece.char '\\' ∉ pieces' ∧
        (piece :: pieces = pieces' ∨ piece :: pieces = pieces' ++ [.char '\\']) := by
    rintro piece pieces hpiece ⟨pieces', hslash, heq⟩
    refine ⟨piece :: pieces', List.not_mem_cons_of_ne_of_not_mem hpiece.symm hslash, ?_⟩
    rcases heq with rfl | rfl
    · exact .inl rfl
    · exact .inr rfl
  induction pattern using patternPieces.induct with
  | case1 => exact ⟨[], List.not_mem_nil, .inl rfl⟩
  | case2 c =>
    by_cases hc : c = '\\'
    · subst hc
      exact ⟨[], List.not_mem_nil, .inr rfl⟩
    · exact hcons (hofChar hc) ⟨[], List.not_mem_nil, .inl rfl⟩
  | case3 d cs ih =>
    rw [patternPieces, if_pos rfl]
    exact hcons PatternPiece.noConfusion ih
  | case4 c d cs hc ih =>
    rw [patternPieces, if_neg hc]
    exact hcons (hofChar hc) ih

section Agreement

variable {pieces : List PatternPiece}
  (hagrees : ∀ candidate, FullMatch (regexText pieces) candidate ↔
    Matches (pieces.map PatternPiece.element) candidate)

include hagrees

/-- Pieces that agree with their text on everything do not stand for any text, since the most they match
is bounded when line terminators alone count. -/
lemma anyText_not_mem_of_agrees (hunquantified : ∀ piece ∈ pieces, piece.Unquantified)
    (hslash : PatternPiece.char '\\' ∉ pieces) : PatternPiece.anyText ∉ pieces := by
  intro htext
  have hadmissible : Admissible (fun c => decide (IsLineTerminator c)) pieces :=
    fun piece hpiece => ⟨hunquantified piece hpiece, fun h => hslash (h ▸ hpiece),
      fun _ _ hc => of_decide_eq_true hc⟩
  have hmatches := (hagrees _).mpr
    (matches_samples pieces (List.replicate (weightOf pieces + 1) '\n') 'a')
  have hmost := countP_le_weightOf hadmissible hmatches
  have hleast := le_countP_samples htext (weightOf pieces + 1)
  omega

/-- They are terms or closing brackets, since the text they mean is as long as they are many. -/
lemma isTerm_of_agrees (hunquantified : ∀ piece ∈ pieces, piece.Unquantified)
    (hslash : PatternPiece.char '\\' ∉ pieces) (htext : PatternPiece.anyText ∉ pieces) :
    ∀ piece ∈ pieces, piece.IsTerm ∨ piece = .char ']' := by
  have hadmissible : Admissible (fun _ => true) pieces :=
    fun piece hpiece => ⟨hunquantified piece hpiece, fun h => hslash (h ▸ hpiece),
      fun h => absurd (h ▸ hpiece) htext⟩
  have hmatches := (hagrees _).mpr (matches_letters htext 'a')
  have hmost := countP_le_weightOf hadmissible hmatches
  rw [List.countP_true, List.length_map] at hmost
  exact isTerm_of_length_le hmost

/-- They have no wildcard and are plain, since they mean no other text. -/
lemma plain_of_agrees (hterms : ∀ piece ∈ pieces, piece.IsTerm)
    (htext : PatternPiece.anyText ∉ pieces) :
    PatternPiece.anyChar ∉ pieces ∧ ∀ piece ∈ pieces, piece.Plain := by
  have hchar : PatternPiece.anyChar ∉ pieces := by
    intro hchar
    have hmatches := (hagrees _).mpr (matches_letters htext '\n')
    rw [fullMatch_regexText_iff hterms, accepts_map_iff htext] at hmatches
    obtain ⟨c, hcons, hc⟩ := hmatches _ hchar
    obtain ⟨rfl, -⟩ := List.cons.inj hcons
    exact absurd hc (by decide)
  have hother : FullMatch (regexText pieces) (pieces.map PatternPiece.other) := by
    rw [fullMatch_regexText_iff hterms, accepts_map_iff htext]
    exact fun piece hpiece => accepts_other (fun h => htext (h ▸ hpiece)) _
  rw [hagrees, @matches_iff_letters _ htext hchar 'a' _, List.map_inj_left] at hother
  refine ⟨hchar, fun piece hpiece => ?_⟩
  have hterm := hterms piece hpiece
  have hletter := hother piece hpiece
  cases piece with
  | char c =>
    refine hterm.resolve_right ?_
    rintro rfl
    exact absurd hletter (by decide)
  | escaped c =>
    refine ⟨hterm.1, hterm.2, ?_⟩
    rintro rfl
    exact absurd hletter (by decide)
  | _ => exact trivial

end Agreement

end TimestreamOdbc
