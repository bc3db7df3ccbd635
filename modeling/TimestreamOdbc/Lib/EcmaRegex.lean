import Mathlib.Data.Char
import Mathlib.Data.List.Basic
import Mathlib.Data.List.Infix
import Mathlib.Data.Nat.Notation
import Mathlib.Order.Basic
import Mathlib.Tactic.Common

/-!
# Regular expressions of ECMAScript

`Regex` is what a regular expression means, and `Derives` is the grammar of its text.  A text is well
formed when the grammar derives it as a whole, and it matches the inputs that what it means accepts from
their start to their end.

Of the escapes there are those of a character that is neither a letter nor a digit nor an underscore.
Nothing refers to a group, so that a group is no more than what is in it, and the empty iterations that
the matcher of the standard gives up do not change what is accepted.
-/

namespace EcmaRegex

/-! ## Sets of characters -/

/-- The characters of some ranges, or all others. -/
structure CharClass where
  negated : Bool
  ranges : List (Char × Char)
  deriving DecidableEq, Repr

namespace CharClass

/-- Whether a character is in the set. -/
def contains (s : CharClass) (c : Char) : Bool :=
  s.ranges.any (fun range => decide (range.1 ≤ c) && decide (c ≤ range.2)) != s.negated

/-- The set of one character. -/
def single (c : Char) : CharClass := ⟨false, [(c, c)]⟩

/-- The set of a dot: every character but the line terminators. -/
def dot : CharClass := ⟨true, [('\n', '\n'), ('\r', '\r'), ('\u2028', '\u2029')]⟩

end CharClass

/-- A line terminator. -/
def IsLineTerminator (c : Char) : Prop := CharClass.dot.contains c = false

instance (c : Char) : Decidable (IsLineTerminator c) :=
  inferInstanceAs (Decidable (CharClass.dot.contains c = false))

@[simp] lemma CharClass.single_contains {c d : Char} :
    (CharClass.single c).contains d = true ↔ d = c := by
  simp only [CharClass.contains, CharClass.single, List.any_cons, List.any_nil, Bool.or_false,
    Bool.bne_false, Bool.and_eq_true, decide_eq_true_eq]
  constructor
  · rintro ⟨hle, hge⟩
    exact le_antisymm hge hle
  · rintro rfl
    exact ⟨le_rfl, le_rfl⟩

@[simp] lemma CharClass.dot_contains {c : Char} :
    CharClass.dot.contains c = true ↔ ¬ IsLineTerminator c := by
  rw [IsLineTerminator, Bool.not_eq_false]

/-! ## What a regular expression means -/

/-- A regular expression. -/
inductive Regex where
  | empty
  | charClass (s : CharClass)
  | inputStart
  | inputEnd
  | seq (r q : Regex)
  | alt (r q : Regex)
  | quantified (r : Regex) (least : ℕ) (most : Option ℕ)
  | lookahead (negative : Bool) (r : Regex)
  deriving DecidableEq, Repr

/-- A relation, a number of times in a row. -/
def Iterated {α : Type*} (step : α → α → Prop) : ℕ → α → α → Prop
  | 0, s, t => t = s
  | n + 1, s, t => ∃ u, step s u ∧ Iterated step n u t

/-- From a place in the input, given by the text that follows it, a regular expression gets to
another one. -/
def Regex.Accepts (input : List Char) : Regex → List Char → List Char → Prop
  | .empty, s, t => t = s
  | .charClass set, s, t => ∃ c, s = c :: t ∧ set.contains c = true
  | .inputStart, s, t => t = s ∧ s = input
  | .inputEnd, s, t => t = s ∧ s = []
  | .seq r q, s, t => ∃ u, r.Accepts input s u ∧ q.Accepts input u t
  | .alt r q, s, t => r.Accepts input s t ∨ q.Accepts input s t
  | .quantified r least most, s, t =>
    ∃ n, least ≤ n ∧ (∀ m ∈ most, n ≤ m) ∧ Iterated (r.Accepts input) n s t
  | .lookahead negative r, s, t => t = s ∧ ((∃ u, r.Accepts input s u) ↔ negative = false)

/-! ## The grammar -/

/-- The characters that do not stand for themselves. -/
def syntaxCharacters : List Char :=
  ['^', '$', '\\', '.', '*', '+', '?', '(', ')', '[', ']', '{', '}', '|']

/-- The characters that an escape leaves as they are. -/
def IdentityEscape (c : Char) : Prop := c.isAlphanum = false ∧ c ≠ '_'

/-- A character of a class, in front of a rest. -/
inductive ClassAtom : List Char → Char → List Char → Prop
  | char {rest} (c : Char) (hslash : c ≠ '\\') (hclose : c ≠ ']') : ClassAtom (c :: rest) c rest
  | escape {rest} (c : Char) (h : IdentityEscape c) : ClassAtom ('\\' :: c :: rest) c rest

/-- The ranges of a class and its closing bracket. A dash between two characters makes a range of
them, and one that does not stands at the beginning or at the end. -/
inductive ClassRanges : List Char → List (Char × Char) → List Char → Prop
  | close {rest} : ClassRanges (']' :: rest) [] rest
  | range {text mid rest rest' : List Char} {ranges} (low high : Char)
    (hlow : ClassAtom text low ('-' :: mid)) (hhigh : ClassAtom mid high rest) (hle : low ≤ high)
    (hrest : ClassRanges rest ranges rest') :
    ClassRanges text ((low, high) :: ranges) rest'
  | single {text rest rest' : List Char} {ranges} (c : Char) (hc : ClassAtom text c rest)
    (hdash : ∀ d mid, rest = '-' :: d :: mid → d = ']') (hrest : ClassRanges rest ranges rest') :
    ClassRanges text ((c, c) :: ranges) rest'

/-- The bounds of a quantifier that takes as much as it can. -/
inductive QuantifierPrefix : List Char → ℕ → Option ℕ → List Char → Prop
  | star {rest} : QuantifierPrefix ('*' :: rest) 0 none rest
  | plus {rest} : QuantifierPrefix ('+' :: rest) 1 none rest
  | optional {rest} : QuantifierPrefix ('?' :: rest) 0 (some 1) rest
  | exactly {rest} (digits : List Char) (hne : digits ≠ []) (h : ∀ c ∈ digits, c.isDigit = true) :
    QuantifierPrefix ('{' :: (digits ++ '}' :: rest)) (Nat.ofDigitChars 10 digits 0)
      (some (Nat.ofDigitChars 10 digits 0)) rest
  | atLeast {rest} (digits : List Char) (hne : digits ≠ []) (h : ∀ c ∈ digits, c.isDigit = true) :
    QuantifierPrefix ('{' :: (digits ++ ',' :: '}' :: rest)) (Nat.ofDigitChars 10 digits 0) none rest
  | between {rest} (low high : List Char) (hlow : low ≠ []) (hhigh : high ≠ [])
    (h : ∀ c ∈ low ++ high, c.isDigit = true)
    (hle : Nat.ofDigitChars 10 low 0 ≤ Nat.ofDigitChars 10 high 0) :
    QuantifierPrefix ('{' :: (low ++ ',' :: (high ++ '}' :: rest))) (Nat.ofDigitChars 10 low 0)
      (some (Nat.ofDigitChars 10 high 0)) rest

/-- The bounds of a quantifier. How much it takes does not change what a whole match is. -/
inductive Quantifier : List Char → ℕ → Option ℕ → List Char → Prop
  | greedy {text least most rest} (h : QuantifierPrefix text least most rest) :
    Quantifier text least most rest
  | lazy {text least most rest} (h : QuantifierPrefix text least most ('?' :: rest)) :
    Quantifier text least most rest

/-- What the grammar has rules for. -/
inductive Nonterminal where
  | disjunction
  | alternative
  | term
  | atom
  deriving DecidableEq, Repr

/-- The text in front of a rest is derived from a nonterminal. -/
inductive Derives : Nonterminal → List Char → Regex → List Char → Prop
  | alternative {text r rest} (h : Derives .alternative text r rest) :
    Derives .disjunction text r rest
  | bar {text r mid q rest} (h : Derives .alternative text r ('|' :: mid))
    (hrest : Derives .disjunction mid q rest) : Derives .disjunction text (.alt r q) rest
  | empty {text} : Derives .alternative text .empty text
  | term {text r mid q rest} (h : Derives .term text r mid)
    (hrest : Derives .alternative mid q rest) : Derives .alternative text (.seq r q) rest
  | inputStart {rest} : Derives .term ('^' :: rest) .inputStart rest
  | inputEnd {rest} : Derives .term ('$' :: rest) .inputEnd rest
  | lookahead {text r rest} (h : Derives .disjunction text r (')' :: rest)) :
    Derives .term ('(' :: '?' :: '=' :: text) (.lookahead false r) rest
  | negativeLookahead {text r rest} (h : Derives .disjunction text r (')' :: rest)) :
    Derives .term ('(' :: '?' :: '!' :: text) (.lookahead true r) rest
  | atom {text r rest} (h : Derives .atom text r rest) : Derives .term text r rest
  | quantified {text r mid least most rest} (h : Derives .atom text r mid)
    (hquantifier : Quantifier mid least most rest) :
    Derives .term text (.quantified r least most) rest
  | char {rest} (c : Char) (h : c ∉ syntaxCharacters) :
    Derives .atom (c :: rest) (.charClass (.single c)) rest
  | dot {rest} : Derives .atom ('.' :: rest) (.charClass .dot) rest
  | escape {rest} (c : Char) (h : IdentityEscape c) :
    Derives .atom ('\\' :: c :: rest) (.charClass (.single c)) rest
  | charClass {text ranges rest} (hnegation : text.head? ≠ some '^')
    (h : ClassRanges text ranges rest) : Derives .atom ('[' :: text) (.charClass ⟨false, ranges⟩) rest
  | negatedClass {text ranges rest} (h : ClassRanges text ranges rest) :
    Derives .atom ('[' :: '^' :: text) (.charClass ⟨true, ranges⟩) rest
  | group {text r rest} (h : Derives .disjunction text r (')' :: rest)) :
    Derives .atom ('(' :: text) r rest
  | uncapturedGroup {text r rest} (h : Derives .disjunction text r (')' :: rest)) :
    Derives .atom ('(' :: '?' :: ':' :: text) r rest

/-- A text is a regular expression. -/
def WellFormed (text : List Char) : Prop := ∃ r, Derives .disjunction text r []

/-- It matches a whole input. -/
def FullMatch (text input : List Char) : Prop :=
  ∃ r, Derives .disjunction text r [] ∧ r.Accepts input input []

/-! ## What is derived from a text -/

/-- The characters that a quantifier starts with. -/
def quantifierCharacters : List Char := ['*', '+', '?', '{']

/-- It starts with one of them. -/
lemma Quantifier.exists_cons {text least most rest} (h : Quantifier text least most rest) :
    ∃ c tail, text = c :: tail ∧ c ∈ quantifierCharacters := by
  have hprefix : ∀ {rest}, QuantifierPrefix text least most rest →
      ∃ c tail, text = c :: tail ∧ c ∈ quantifierCharacters := by
    rintro rest (_ | _ | _ | _ | _ | _) <;> exact ⟨_, _, rfl, by decide⟩
  cases h with
  | greedy h => exact hprefix h
  | lazy h => exact hprefix h

/-- A star is greedy or has a question mark behind it. -/
lemma Quantifier.of_star {text least most rest} (h : Quantifier ('*' :: text) least most rest) :
    least = 0 ∧ most = none ∧ (text = rest ∨ text = '?' :: rest) := by
  cases h with
  | greedy h =>
    cases h
    exact ⟨rfl, rfl, .inl rfl⟩
  | lazy h =>
    cases h
    exact ⟨rfl, rfl, .inr rfl⟩

/-- A character of a class that is not escaped is followed by the rest. -/
lemma ClassAtom.of_cons {c d text rest} (h : ClassAtom (c :: text) d rest) (hslash : c ≠ '\\') :
    d = c ∧ rest = text ∧ c ≠ ']' := by
  cases h with
  | char _ _ hclose => exact ⟨rfl, rfl, hclose⟩
  | escape => exact absurd rfl hslash

/-- A closing bracket ends the class. -/
lemma ClassRanges.of_close {text ranges rest} (h : ClassRanges (']' :: text) ranges rest) :
    ranges = [] ∧ rest = text := by
  cases h with
  | close => exact ⟨rfl, rfl⟩
  | range low high hlow => exact absurd rfl (hlow.of_cons (by decide)).2.2
  | single c hc => exact absurd rfl (hc.of_cons (by decide)).2.2

/-- A character and a closing bracket are the class of the character. -/
lemma ClassRanges.of_char {c text ranges rest} (h : ClassRanges (c :: ']' :: text) ranges rest)
    (hslash : c ≠ '\\') (hclose : c ≠ ']') : ranges = [(c, c)] ∧ rest = text := by
  cases h with
  | close => exact absurd rfl hclose
  | range low high hlow => exact absurd (hlow.of_cons hslash).2.1 (by simp)
  | single d hd _ hrest =>
    obtain ⟨rfl, rfl, -⟩ := hd.of_cons hslash
    obtain ⟨rfl, rfl⟩ := hrest.of_close
    exact ⟨rfl, rfl⟩

/-- An atom starts with a character that stands for itself, or with one of four others. -/
lemma Derives.atom_head {c text r rest} (h : Derives .atom (c :: text) r rest) :
    c ∉ syntaxCharacters ∨ c ∈ ['.', '\\', '[', '('] := by
  cases h with
  | char _ h => exact .inl h
  | _ => exact .inr (by decide)

/-- A term that does not start with an assertion is an atom, which may have a quantifier. -/
lemma Derives.term_cases {c text r rest} (h : Derives .term (c :: text) r rest)
    (hstart : c ∉ ['^', '$', '(']) :
    Derives .atom (c :: text) r rest ∨ ∃ q mid least most, Derives .atom (c :: text) q mid ∧
      Quantifier mid least most rest ∧ r = .quantified q least most := by
  cases h with
  | atom h => exact .inl h
  | quantified h hquantifier => exact .inr ⟨_, _, _, _, h, hquantifier, rfl⟩
  | _ => exact absurd (by decide) hstart

/-- No term starts with a closing bracket, a quantifier or the end of the text. -/
lemma Derives.term_head {text r rest} (h : Derives .term text r rest) :
    ∃ c tail, text = c :: tail ∧
      (c ∉ syntaxCharacters ∨ c ∈ ['.', '\\', '[', '('] ∨ c ∈ ['^', '$', '(']) := by
  have hatom : ∀ {r rest}, Derives .atom text r rest → ∃ c tail, text = c :: tail ∧
      (c ∉ syntaxCharacters ∨ c ∈ ['.', '\\', '[', '('] ∨ c ∈ ['^', '$', '(']) := by
    intro r rest h
    cases text with
    | nil => cases h
    | cons c tail => exact ⟨c, tail, rfl, h.atom_head.imp_right .inl⟩
  cases h with
  | atom h => exact hatom h
  | quantified h => exact hatom h
  | _ => exact ⟨_, _, rfl, .inr (.inr (by decide))⟩

/-- In front of a closing bracket or a star there is nothing to derive. -/
lemma Derives.of_stuck {c text r rest} (h : Derives .alternative (c :: text) r rest)
    (hc : c ∈ [']', '*']) : rest = c :: text := by
  cases h with
  | empty => rfl
  | term h =>
    obtain ⟨d, tail, hcons, hhead⟩ := h.term_head
    obtain ⟨rfl, rfl⟩ := List.cons.inj hcons
    simp only [List.mem_cons, List.not_mem_nil, or_false] at hc
    rcases hc with rfl | rfl <;> exact absurd hhead (by decide)

/-- A character that stands for itself is an atom. -/
lemma Derives.of_char {c text r rest} (h : Derives .atom (c :: text) r rest)
    (hc : c ∉ syntaxCharacters) : r = .charClass (.single c) ∧ rest = text := by
  cases h with
  | char => exact ⟨rfl, rfl⟩
  | _ => exact absurd (by decide) hc

/-- So is a dot. -/
lemma Derives.of_dot {text r rest} (h : Derives .atom ('.' :: text) r rest) :
    r = .charClass .dot ∧ rest = text := by
  cases h with
  | char _ h => exact absurd (by decide) h
  | dot => exact ⟨rfl, rfl⟩

/-- An opening bracket starts a class. -/
lemma Derives.of_bracket {text r rest} (h : Derives .atom ('[' :: text) r rest) :
    (∃ ranges, text.head? ≠ some '^' ∧ ClassRanges text ranges rest ∧
      r = .charClass ⟨false, ranges⟩) ∨
    ∃ tail ranges, text = '^' :: tail ∧ ClassRanges tail ranges rest ∧
      r = .charClass ⟨true, ranges⟩ := by
  cases h with
  | char _ h => exact absurd (by decide) h
  | charClass hnegation h => exact .inl ⟨_, hnegation, h, rfl⟩
  | negatedClass h => exact .inr ⟨_, _, rfl, h, rfl⟩

/-! ## What is accepted -/

/-- A set of characters, a number of times in a row. -/
lemma iterated_charClass_iff {input : List Char} {set : CharClass} {n : ℕ} {s t : List Char} :
    Iterated ((Regex.charClass set).Accepts input) n s t ↔
      ∃ skipped : List Char, skipped.length = n ∧ s = skipped ++ t ∧
        ∀ c ∈ skipped, set.contains c = true := by
  induction n generalizing s with
  | zero =>
    constructor
    · rintro rfl
      exact ⟨[], rfl, rfl, by simp⟩
    · rintro ⟨skipped, hlength, rfl, -⟩
      rw [List.length_eq_zero_iff.mp hlength]
      rfl
  | succ n ih =>
    constructor
    · rintro ⟨u, ⟨c, rfl, hc⟩, hrest⟩
      obtain ⟨skipped, hlength, rfl, hskipped⟩ := ih.mp hrest
      exact ⟨c :: skipped, by rw [List.length_cons, hlength], rfl,
        List.forall_mem_cons.mpr ⟨hc, hskipped⟩⟩
    · rintro ⟨skipped, hlength, rfl, hskipped⟩
      obtain ⟨c, skipped, rfl⟩ := List.exists_cons_of_length_eq_add_one hlength
      obtain ⟨hc, hskipped⟩ := List.forall_mem_cons.mp hskipped
      exact ⟨skipped ++ t, ⟨c, rfl, hc⟩,
        ih.mpr ⟨skipped, Nat.succ_injective hlength, rfl, hskipped⟩⟩

/-- A star over a set skips characters of it. -/
lemma accepts_star_iff {input : List Char} {set : CharClass} {s t : List Char} :
    (Regex.quantified (.charClass set) 0 none).Accepts input s t ↔
      ∃ skipped : List Char, s = skipped ++ t ∧ ∀ c ∈ skipped, set.contains c = true := by
  constructor
  · rintro ⟨n, -, -, hiterated⟩
    obtain ⟨skipped, -, h⟩ := iterated_charClass_iff.mp hiterated
    exact ⟨skipped, h⟩
  · rintro ⟨skipped, h⟩
    exact ⟨skipped.length, Nat.zero_le _, by simp, iterated_charClass_iff.mpr ⟨skipped, rfl, h⟩⟩

/-- Every match has at most a number of the characters with a property. -/
def Regex.AtMost (p : Char → Bool) (r : Regex) (k : ℕ) : Prop :=
  ∀ input s t, r.Accepts input s t → s.countP p ≤ k + t.countP p

namespace Regex.AtMost

variable {p : Char → Bool} {r q : Regex} {k l : ℕ}

lemma mono (h : r.AtMost p k) (hle : k ≤ l) : r.AtMost p l := by
  intro input s t haccepts
  have := h input s t haccepts
  omega

lemma empty : Regex.empty.AtMost p 0 := by
  rintro input s t rfl
  omega

lemma charClass (set : CharClass) : (Regex.charClass set).AtMost p 1 := by
  rintro input s t ⟨c, rfl, -⟩
  rw [List.countP_cons]
  split <;> omega

lemma inputStart : Regex.inputStart.AtMost p 0 := by
  rintro input s t ⟨rfl, -⟩
  omega

lemma inputEnd : Regex.inputEnd.AtMost p 0 := by
  rintro input s t ⟨rfl, -⟩
  omega

lemma lookahead {negative : Bool} : (Regex.lookahead negative r).AtMost p 0 := by
  rintro input s t ⟨rfl, -⟩
  omega

lemma seq (hr : r.AtMost p k) (hq : q.AtMost p l) : (Regex.seq r q).AtMost p (k + l) := by
  rintro input s t ⟨u, hfirst, hsecond⟩
  have := hr input s u hfirst
  have := hq input u t hsecond
  omega

lemma alt (hr : r.AtMost p k) (hq : q.AtMost p l) : (Regex.alt r q).AtMost p (k + l) := by
  rintro input s t (h | h)
  · have := hr input s t h
    omega
  · have := hq input s t h
    omega

/-- What a set does not contain is not skipped by a star over it. -/
lemma star {set : CharClass} (h : ∀ c, p c = true → set.contains c = false) :
    (Regex.quantified (.charClass set) 0 none).AtMost p 0 := by
  intro input s t haccepts
  obtain ⟨skipped, rfl, hskipped⟩ := accepts_star_iff.mp haccepts
  have hnone : skipped.countP p = 0 := by
    rw [List.countP_eq_zero]
    intro c hc hp
    exact absurd (hskipped c hc) (by rw [h c hp]; decide)
  rw [List.countP_append, hnone]

end Regex.AtMost

end EcmaRegex
