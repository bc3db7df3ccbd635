import Mathlib.Data.List.Basic
import Mathlib.Data.List.Infix
import Mathlib.Tactic.Common

/-!
# Search patterns

A search pattern has elements for any text, for any one character, and for a character that stands for
itself.  It is written with `%`, with `_` and with the character, which an escape character in front of
it keeps from being one of the others.
-/

namespace SearchPattern

/-- An element of a pattern. -/
inductive Element where
  | anyText
  | anyChar
  | char (c : Char)
  deriving DecidableEq, Repr

/-- The element that is written as a character. -/
def Element.ofChar (c : Char) : Element :=
  if c = '%' then .anyText else if c = '_' then .anyChar else .char c

/-- The elements of a written pattern. An escape character at the end stands for itself. -/
def parse (escape : Char) : List Char → List Element
  | [] => []
  | [c] => [.ofChar c]
  | c :: d :: cs =>
    if c = escape then .char d :: parse escape cs else .ofChar c :: parse escape (d :: cs)

/-- The texts that a pattern means. -/
inductive Matches : List Element → List Char → Prop
  | nil : Matches [] []
  | anyText {elements text} (skipped : List Char) (rest : Matches elements text) :
    Matches (.anyText :: elements) (skipped ++ text)
  | anyChar {elements text} (c : Char) (rest : Matches elements text) :
    Matches (.anyChar :: elements) (c :: text)
  | char {elements text} (c : Char) (rest : Matches elements text) :
    Matches (.char c :: elements) (c :: text)

/-- The search for a way to match. -/
def accepts : List Element → List Char → Bool
  | [], text => text.isEmpty
  | .anyText :: elements, text => text.tails.any (accepts elements)
  | .anyChar :: elements, text => text.tail?.any (accepts elements)
  | .char c :: elements, text => text.head? = some c && text.tail?.any (accepts elements)

/-- It finds one if there is one. -/
lemma accepts_iff {elements : List Element} {text : List Char} :
    accepts elements text = true ↔ Matches elements text := by
  induction elements generalizing text with
  | nil =>
    rw [accepts, List.isEmpty_iff]
    constructor
    · rintro rfl
      exact .nil
    · rintro ⟨⟩
      rfl
  | cons element elements ih =>
    cases element with
    | anyText =>
      simp only [accepts, List.any_eq_true, List.mem_tails, ih]
      constructor
      · rintro ⟨_, ⟨skipped, rfl⟩, hrest⟩
        exact .anyText skipped hrest
      · rintro (_ | ⟨skipped, hrest⟩)
        exact ⟨_, List.suffix_append _ _, hrest⟩
    | anyChar =>
      cases text with
      | nil =>
        simp only [accepts, List.tail?_nil, Option.any_none, Bool.false_eq_true, false_iff]
        rintro ⟨⟩
      | cons c text =>
        simp only [accepts, List.tail?_cons, Option.any_some, ih]
        constructor
        · exact .anyChar c
        · rintro (_ | _ | ⟨_, hrest⟩)
          exact hrest
    | char d =>
      cases text with
      | nil =>
        simp only [accepts, List.head?_nil, List.tail?_nil, Option.any_none, Bool.and_false,
          Bool.false_eq_true, false_iff]
        rintro ⟨⟩
      | cons c text =>
        simp only [accepts, List.head?_cons, List.tail?_cons, Option.any_some, Bool.and_eq_true,
          decide_eq_true_eq, Option.some.injEq, ih]
        constructor
        · rintro ⟨rfl, hrest⟩
          exact .char c hrest
        · rintro (_ | _ | _ | ⟨_, hrest⟩)
          exact ⟨rfl, hrest⟩

instance (elements : List Element) (text : List Char) : Decidable (Matches elements text) :=
  decidable_of_iff (accepts elements text = true) accepts_iff

/-- Any text is matched by the element for it. -/
lemma matches_anyText (text : List Char) : Matches [.anyText] text := by
  have h := Matches.anyText text .nil
  rwa [List.append_nil] at h

/-- Characters that stand for themselves match themselves alone. -/
lemma matches_chars_iff {characters text : List Char} :
    Matches (characters.map .char) text ↔ characters = text := by
  induction characters generalizing text with
  | nil =>
    constructor
    · rintro ⟨⟩
      rfl
    · rintro rfl
      exact .nil
  | cons c characters ih =>
    constructor
    · rintro (_ | _ | _ | ⟨_, hrest⟩)
      rw [ih.mp hrest]
    · rintro rfl
      exact .char c (ih.mpr rfl)

/-- They are written as they are. -/
lemma parse_chars {escape : Char} {characters : List Char}
    (h : ∀ c ∈ characters, c ≠ '%' ∧ c ≠ '_' ∧ c ≠ escape) :
    parse escape characters = characters.map .char := by
  have hchar : ∀ c, c ≠ '%' ∧ c ≠ '_' ∧ c ≠ escape → Element.ofChar c = .char c := by
    rintro c ⟨hpercent, hunderscore, -⟩
    rw [Element.ofChar, if_neg hpercent, if_neg hunderscore]
  induction characters using parse.induct escape with
  | case1 => rfl
  | case2 c =>
    rw [parse, hchar c (h c List.mem_cons_self)]
    rfl
  | case3 d cs ih => exact absurd rfl (h escape List.mem_cons_self).2.2
  | case4 c d cs hne ih =>
    rw [parse, if_neg hne, ih fun e he => h e (List.mem_cons_of_mem _ he),
      hchar c (h c List.mem_cons_self)]
    rfl

/-! ## Wildcards for some characters -/

/-- The texts that a pattern means when its wildcards stand for allowed characters only. -/
inductive MatchesWithin (allowed : Char → Prop) : List Element → List Char → Prop
  | nil : MatchesWithin allowed [] []
  | anyText {elements text} (skipped : List Char) (h : ∀ c ∈ skipped, allowed c)
    (rest : MatchesWithin allowed elements text) :
    MatchesWithin allowed (.anyText :: elements) (skipped ++ text)
  | anyChar {elements text} (c : Char) (h : allowed c) (rest : MatchesWithin allowed elements text) :
    MatchesWithin allowed (.anyChar :: elements) (c :: text)
  | char {elements text} (c : Char) (rest : MatchesWithin allowed elements text) :
    MatchesWithin allowed (.char c :: elements) (c :: text)

variable {allowed : Char → Prop} {elements : List Element} {text : List Char}

/-- The pattern means them anyway. -/
lemma MatchesWithin.matches (h : MatchesWithin allowed elements text) : Matches elements text := by
  induction h with
  | nil => exact .nil
  | anyText skipped _ _ ih => exact .anyText skipped ih
  | anyChar c _ _ ih => exact .anyChar c ih
  | char c _ ih => exact .char c ih

/-- All characters of a text may be allowed. -/
lemma Matches.within (h : Matches elements text) (hallowed : ∀ c ∈ text, allowed c) :
    MatchesWithin allowed elements text := by
  induction h with
  | nil => exact .nil
  | anyText skipped _ ih =>
    obtain ⟨hskipped, hrest⟩ := List.forall_mem_append.mp hallowed
    exact .anyText skipped hskipped (ih hrest)
  | anyChar c _ ih =>
    obtain ⟨hc, hrest⟩ := List.forall_mem_cons.mp hallowed
    exact .anyChar c hc (ih hrest)
  | char c _ ih => exact .char c (ih (List.forall_mem_cons.mp hallowed).2)

/-- There may be no wildcards. -/
lemma Matches.within_of_chars (h : Matches elements text)
    (hchars : ∀ element ∈ elements, ∃ c, element = .char c) :
    MatchesWithin allowed elements text := by
  induction h with
  | nil => exact .nil
  | anyText =>
    obtain ⟨c, hc⟩ := hchars _ List.mem_cons_self
    cases hc
  | anyChar =>
    obtain ⟨c, hc⟩ := hchars _ List.mem_cons_self
    cases hc
  | char c _ ih => exact .char c (ih (List.forall_mem_cons.mp hchars).2)

end SearchPattern
