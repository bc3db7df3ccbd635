import Mathlib.Data.Nat.Notation
import Mathlib.Data.List.Basic
import Mathlib.Tactic.Common

/-!
# Tokens of SQL statements

A lexer with the usual rules: single quotes delimit literals, double quotes delimit identifiers, a
doubled quote inside of either stands for one, `--` starts a comment to the end of the line and `/*`
one up to `*/`.  It reads one character after the other; the state says what has been begun.

The results say what the lexer makes of a text between two quotes: it comes back as it is if and only
if the quote is not in it.
-/

namespace SqlLexer

/-! ## The lexer -/

/-- The two quotes. -/
inductive Quote where
  | single
  | double
  deriving DecidableEq, Repr

/-- A token: a word, a literal or an identifier without its quotes, or a symbol. -/
inductive Token where
  | word (text : List Char)
  | quoted (quote : Quote) (text : List Char)
  | symbol (c : Char)
  deriving DecidableEq, Repr

/-- What has been begun, with the characters of it that were read. Behind a quote inside of quotes it
is not known yet whether it is the first of two. -/
inductive State where
  | outside
  | word (text : List Char)
  | dash
  | slash
  | lineComment
  | blockComment
  | blockStar
  | quoted (quote : Quote) (text : List Char)
  | closing (quote : Quote) (text : List Char)
  deriving DecidableEq, Repr

/-- The character of a quote. -/
def Quote.char : Quote → Char
  | single => '\''
  | double => '"'

/-- A character of a word. -/
def isWordChar (c : Char) : Bool := c.isAlphanum || c = '_'

/-- A character behind a token. -/
def start (c : Char) : List Token × State :=
  if c = '\'' then ([], .quoted .single [])
  else if c = '"' then ([], .quoted .double [])
  else if isWordChar c then ([], .word [c])
  else if c.isWhitespace then ([], .outside)
  else if c = '-' then ([], .dash)
  else if c = '/' then ([], .slash)
  else ([.symbol c], .outside)

/-- The step for a character: the tokens that end in front of it, and what it begins. -/
def step : State → Char → List Token × State
  | .outside, c => start c
  | .word text, c =>
    if isWordChar c then ([], .word (text ++ [c]))
    else (.word text :: (start c).1, (start c).2)
  | .dash, c =>
    if c = '-' then ([], .lineComment) else (.symbol '-' :: (start c).1, (start c).2)
  | .slash, c =>
    if c = '*' then ([], .blockComment) else (.symbol '/' :: (start c).1, (start c).2)
  | .lineComment, c => ([], if c = '\n' then .outside else .lineComment)
  | .blockComment, c => ([], if c = '*' then .blockStar else .blockComment)
  | .blockStar, c =>
    ([], if c = '/' then .outside else if c = '*' then .blockStar else .blockComment)
  | .quoted quote text, c =>
    if c = quote.char then ([], .closing quote text) else ([], .quoted quote (text ++ [c]))
  | .closing quote text, c =>
    if c = quote.char then ([], .quoted quote (text ++ [c]))
    else (.quoted quote text :: (start c).1, (start c).2)

/-- The last token, or nothing when a quote or a comment does not end. -/
def finish : State → Option (List Token)
  | .outside | .lineComment => some []
  | .word text => some [.word text]
  | .dash => some [.symbol '-']
  | .slash => some [.symbol '/']
  | .blockComment | .blockStar | .quoted _ _ => none
  | .closing quote text => some [.quoted quote text]

/-- The tokens of the rest of a text. -/
def lexFrom : State → List Char → Option (List Token)
  | state, [] => finish state
  | state, c :: cs => (lexFrom (step state c).2 cs).map ((step state c).1 ++ ·)

/-- The tokens of a text. -/
def lex (text : List Char) : Option (List Token) := lexFrom .outside text

example : lex "LIKE 'it''s' -- x".toList = some [.word "LIKE".toList, .quoted .single "it's".toList] := by
  decide

/-! ## Parts of a text -/

/-- The tokens that end in a part of a text, and what is begun behind it. -/
def run : State → List Char → List Token × State
  | state, [] => ([], state)
  | state, c :: cs => ((step state c).1 ++ (run (step state c).2 cs).1, (run (step state c).2 cs).2)

/-- A text is read part by part. -/
lemma lexFrom_append (state : State) (part rest : List Char) :
    lexFrom state (part ++ rest) =
      (lexFrom (run state part).2 rest).map ((run state part).1 ++ ·) := by
  induction part generalizing state with
  | nil => simp [run]
  | cons c cs ih =>
    simp only [List.cons_append, lexFrom, run, ih, Option.map_map, List.append_assoc]
    rfl

/-- The tokens of a text whose first part is known. -/
lemma lexFrom_append_eq_some_iff {state state' : State} {part rest : List Char}
    {read tokens : List Token} (hrun : run state part = (read, state')) :
    lexFrom state (part ++ rest) = some (read ++ tokens) ↔ lexFrom state' rest = some tokens := by
  rw [lexFrom_append, hrun]
  dsimp only
  rw [Option.map_eq_some_iff]
  simp

/-! ## Texts between quotes -/

variable {quote : Quote} {text rest : List Char}

/-- Behind the closing quote the rest of the text is read like a text of its own. -/
lemma lexFrom_closing (hrest : rest.head? ≠ some quote.char) (text : List Char) :
    lexFrom (.closing quote text) rest = (lexFrom .outside rest).map (Token.quoted quote text :: ·) := by
  rcases rest with _ | ⟨c, rest⟩
  · rfl
  · have hc : c ≠ quote.char := by simpa using hrest
    simp only [lexFrom, step, if_neg hc, Option.map_map]
    rfl

/-- A text without the quote is read as it is. -/
lemma lexFrom_quoted_append (hquote : quote.char ∉ text) (read rest : List Char) :
    lexFrom (.quoted quote read) (text ++ rest) = lexFrom (.quoted quote (read ++ text)) rest := by
  induction text generalizing read with
  | nil => simp
  | cons c cs ih =>
    have hc : c ≠ quote.char := fun h => hquote (h ▸ List.mem_cons_self)
    have hcs : quote.char ∉ cs := fun h => hquote (List.mem_cons_of_mem _ h)
    simp only [List.cons_append, lexFrom, step, if_neg hc, List.nil_append, Option.map_id']
    rw [ih hcs, List.append_assoc, List.singleton_append]

/-- A text without the quote, up to its closing quote. -/
lemma lexFrom_quoted_close (hquote : quote.char ∉ text) (hrest : rest.head? ≠ some quote.char) :
    lexFrom (.quoted quote []) (text ++ quote.char :: rest) =
      (lexFrom .outside rest).map (Token.quoted quote text :: ·) := by
  rw [lexFrom_quoted_append hquote, List.nil_append, ← lexFrom_closing hrest]
  simp only [lexFrom, step, if_pos, List.nil_append, Option.map_id']

/-- The quotes of a text, doubled. -/
def doubled (quote : Quote) (text : List Char) : List Char :=
  text.flatMap fun c => if c = quote.char then [c, c] else [c]

/-- A text between quotes that is read to its end starts with the text of the token, its quotes
doubled, and a quote that closes it. -/
lemma exists_of_lexFrom_quoted {read input : List Char} {tokens : List Token}
    (h : lexFrom (.quoted quote read) input = some tokens) :
    ∃ text rest tokens', input = doubled quote text ++ quote.char :: rest ∧
      rest.head? ≠ some quote.char ∧ lexFrom .outside rest = some tokens' ∧
      tokens = .quoted quote (read ++ text) :: tokens' := by
  match input with
  | [] => simp [lexFrom, finish] at h
  | c :: cs =>
    by_cases hc : c = quote.char
    · match cs with
      | [] =>
        simp only [lexFrom, step, if_pos hc, finish, Option.map_some, List.nil_append,
          Option.some.injEq] at h
        exact ⟨[], [], [], by simp [doubled, hc], by simp, rfl, by rw [← h, List.append_nil]⟩
      | d :: ds =>
        by_cases hd : d = quote.char
        · have hread : lexFrom (.quoted quote (read ++ [d])) ds = some tokens := by
            simpa only [lexFrom, step, if_pos hc, if_pos hd, List.nil_append, Option.map_id'] using h
          obtain ⟨text, rest, tokens', rfl, hrest, htokens, rfl⟩ := exists_of_lexFrom_quoted hread
          refine ⟨d :: text, rest, tokens', ?_, hrest, htokens, ?_⟩
          · simp [doubled, hc, hd]
          · rw [List.append_assoc, List.singleton_append]
        · have hne : (d :: ds).head? ≠ some quote.char := by simpa using hd
          have hread : lexFrom (.closing quote read) (d :: ds) = some tokens := by
            have hstep : step (.quoted quote read) c = ([], .closing quote read) := if_pos hc
            rw [lexFrom, hstep] at h
            simpa only [List.nil_append, Option.map_id'] using h
          rw [lexFrom_closing hne, Option.map_eq_some_iff] at hread
          obtain ⟨tokens', htokens, rfl⟩ := hread
          exact ⟨[], d :: ds, tokens', by simp [doubled, hc], hne, htokens, by rw [List.append_nil]⟩
    · have hread : lexFrom (.quoted quote (read ++ [c])) cs = some tokens := by
        simpa only [lexFrom, step, if_neg hc, List.nil_append, Option.map_id'] using h
      obtain ⟨text, rest, tokens', rfl, hrest, htokens, rfl⟩ := exists_of_lexFrom_quoted hread
      refine ⟨c :: text, rest, tokens', ?_, hrest, htokens, ?_⟩
      · simp [doubled, hc]
      · rw [List.append_assoc, List.singleton_append]

/-- The quotes at the beginning of a text are too few for the doubled quotes of the same text and some
more. -/
lemma ne_replicate_append_doubled (hrest : rest.head? ≠ some quote.char) (text tail : List Char)
    (n : ℕ) :
    text ++ quote.char :: rest ≠
      List.replicate (n + 1) quote.char ++ (doubled quote text ++ quote.char :: tail) := by
  induction text generalizing n with
  | nil =>
    intro h
    rw [List.replicate_succ, List.cons_append, List.nil_append] at h
    apply hrest
    rw [(List.cons.inj h).2]
    rcases n with _ | n
    · rfl
    · rfl
  | cons c cs ih =>
    intro h
    rw [List.replicate_succ, List.cons_append, List.cons_append] at h
    obtain ⟨rfl, h⟩ := List.cons.inj h
    apply ih (n + 1)
    rw [h]
    have hdoubled : doubled quote (quote.char :: cs) =
        List.replicate 2 quote.char ++ doubled quote cs := by simp [doubled, List.replicate_succ]
    rw [hdoubled, List.append_assoc, ← List.append_assoc, List.replicate_append_replicate]

/-- Only a text without the quote is found between quotes as it is. -/
lemma notMem_of_eq_doubled (hrest : rest.head? ≠ some quote.char) {tail : List Char}
    (h : text ++ quote.char :: rest = doubled quote text ++ quote.char :: tail) :
    quote.char ∉ text := by
  induction text with
  | nil => simp
  | cons c cs ih =>
    by_cases hc : c = quote.char
    · have hdoubled : doubled quote (c :: cs) = c :: c :: doubled quote cs := by
        simp [doubled, hc]
      rw [hdoubled, List.cons_append, List.cons_append, List.cons_append] at h
      have htail := (List.cons.inj h).2
      exact absurd (hc ▸ htail) (ne_replicate_append_doubled hrest cs tail 0)
    · have hdoubled : doubled quote (c :: cs) = c :: doubled quote cs := by
        simp [doubled, hc]
      rw [hdoubled, List.cons_append, List.cons_append] at h
      have hcs := ih (List.cons.inj h).2
      simp [hcs, Ne.symm hc]

/-- A text between quotes is the first token, and the rest gives the others, if and only if the quote
is not in it and the others are those of the rest. -/
theorem lexFrom_quoted_iff (hrest : rest.head? ≠ some quote.char) (tokens : List Token) :
    lexFrom (.quoted quote []) (text ++ quote.char :: rest) = some (.quoted quote text :: tokens) ↔
      quote.char ∉ text ∧ lexFrom .outside rest = some tokens := by
  constructor
  · intro h
    obtain ⟨text', rest', tokens', hinput, -, -, htokens⟩ := exists_of_lexFrom_quoted h
    obtain rfl : text = text' := by
      simpa using (List.cons.inj htokens).1
    have hquote := notMem_of_eq_doubled hrest hinput
    refine ⟨hquote, ?_⟩
    rw [lexFrom_quoted_close hquote hrest, Option.map_eq_some_iff] at h
    obtain ⟨tokens'', hlex, hcons⟩ := h
    rw [hlex, (List.cons.inj hcons).2]
  · rintro ⟨hquote, hlex⟩
    rw [lexFrom_quoted_close hquote hrest, hlex, Option.map_some]

end SqlLexer
