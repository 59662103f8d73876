import Flowsmith.Proofs.CodeLines
import Flowsmith.Proofs.TokenText

/-!
Lines of code as rows of symbols: words, marks, and texts between quotes. Symbols are read from left
to right, one character after the other, so what a line is put together from tells its symbols:
where a part ends outside of words and quotes, those of the rest follow.
-/

namespace Flowsmith.Source

/-- A piece of a line: a word, a mark, or a text between quotes, as it is written. -/
inductive Symbol where
  | word (text : String)
  | mark (c : Char)
  | quote (text : String)
deriving DecidableEq, Repr

/-- Where reading stands: in code, after some characters of a word, or in a text between quotes, of
    which some is read and the last character perhaps escapes the next. -/
inductive Reading where
  | code (word : List Char)
  | quotation (text : List Char) (escapes : Bool)
deriving DecidableEq, Repr

/-- The symbol of a word that has ended, if there was one. -/
def Symbol.ofWord (word : List Char) : List Symbol :=
  if word.isEmpty then [] else [.word (String.ofList word)]

namespace Reading

/-- What one more character gives, and where reading stands after it. -/
def step : Reading → Char → List Symbol × Reading
  | .code word, c =>
      if Naming.isWordChar c then ([], .code (word ++ [c]))
      else if c = '"' then (Symbol.ofWord word, .quotation ['"'] false)
      else if c = ' ' then (Symbol.ofWord word, .code [])
      else (Symbol.ofWord word ++ [.mark c], .code [])
  | .quotation text true, c => ([], .quotation (text ++ [c]) false)
  | .quotation text false, c =>
      if c = '"' then ([.quote (String.ofList (text ++ ['"']))], .code [])
      else ([], .quotation (text ++ [c]) (c = '\\'))

/-- Where reading stands after more characters. -/
def after (r : Reading) (cs : List Char) : Reading :=
  cs.foldl (fun r c => (r.step c).2) r

/-- The symbols of what is still to be read. -/
def symbolsFrom : Reading → List Char → List Symbol
  | .code word, [] => Symbol.ofWord word
  | .quotation _ _, [] => []
  | r, c :: rest => (r.step c).1 ++ symbolsFrom (r.step c).2 rest

end Reading

open Reading

/-- The symbols of a line. -/
def symbols (line : List Char) : List Symbol :=
  symbolsFrom (.code []) line

section Parts

/-! Lines that are put together from parts. -/

theorem symbolsFrom_cons (r : Reading) (c : Char) (rest : List Char) :
    symbolsFrom r (c :: rest) = (r.step c).1 ++ symbolsFrom (r.step c).2 rest := by
  cases r <;> rfl

theorem symbolsFrom_append {r : Reading} {front : List Char} (clean : r.after front = .code [])
    (back : List Char) : symbolsFrom r (front ++ back) = symbolsFrom r front ++ symbols back := by
  induction front generalizing r with
  | nil =>
      obtain rfl : r = .code [] := clean
      rfl
  | cons c rest ih =>
      rw [List.cons_append, symbolsFrom_cons, symbolsFrom_cons, ih clean, List.append_assoc]

/-- Where a part ends outside of words and quotes, the symbols of the rest follow. -/
theorem symbols_append {front : List Char} (clean : (Reading.code []).after front = .code [])
    (back : List Char) : symbols (front ++ back) = symbols front ++ symbols back :=
  symbolsFrom_append clean back

theorem symbols_space (rest : List Char) : symbols (' ' :: rest) = symbols rest := rfl

theorem symbols_replicate_space (n : Nat) (rest : List Char) :
    symbols (List.replicate n ' ' ++ rest) = symbols rest := by
  induction n with
  | zero => rfl
  | succ n ih => rw [List.replicate_succ, List.cons_append, symbols_space, ih]

/-- A character that stands for itself in code. -/
def isLone (c : Char) : Bool :=
  !Naming.isWordChar c && c != '"' && c != ' ' && c != '\n'

theorem symbols_mark {c : Char} (lone : isLone c = true) (rest : List Char) :
    symbols (c :: rest) = .mark c :: symbols rest := by
  simp only [isLone, Bool.and_eq_true, Bool.not_eq_true', bne_iff_ne, ne_eq] at lone
  obtain ⟨⟨⟨notWord, notQuote⟩, notSpace⟩, -⟩ := lone
  have step : (Reading.code []).step c = ([.mark c], .code []) := by
    simp [Reading.step, notWord, notQuote, notSpace, Symbol.ofWord]
  rw [symbols, symbolsFrom_cons, step]
  rfl

/-- Characters of a word go on with it. -/
theorem symbolsFrom_word {v : List Char} (isWord : ∀ c ∈ v, Naming.isWordChar c = true)
    (w rest : List Char) :
    symbolsFrom (.code w) (v ++ rest) = symbolsFrom (.code (w ++ v)) rest := by
  induction v generalizing w with
  | nil => rw [List.append_nil, List.nil_append]
  | cons c v ih =>
      rw [List.forall_mem_cons] at isWord
      have step : (Reading.code w).step c = ([], .code (w ++ [c])) := by
        simp [Reading.step, isWord.1]
      rw [List.cons_append, symbolsFrom_cons, step, List.nil_append, ih isWord.2, List.append_assoc,
        List.singleton_append]

/-- A word ends where something else comes. -/
theorem symbolsFrom_apart {rest : List Char} (apart : Token.Apart rest) (w : List Char) :
    symbolsFrom (.code w) rest = Symbol.ofWord w ++ symbols rest := by
  cases rest with
  | nil => exact (List.append_nil _).symm
  | cons c rest =>
      have notWord : Naming.isWordChar c = false := apart c rfl
      rw [symbols, symbolsFrom_cons, symbolsFrom_cons]
      simp only [Reading.step, notWord]
      split
      · simp [*] at *
      · split
        · simp [Symbol.ofWord]
        · split <;> simp [Symbol.ofWord]

/-- Where a part ends outside of quotes, perhaps with a word, and no word follows, the symbols of
    the rest follow. -/
theorem symbolsFrom_append_apart {r : Reading} {front word back : List Char}
    (inCode : r.after front = .code word) (apart : Token.Apart back) :
    symbolsFrom r (front ++ back) = symbolsFrom r front ++ symbols back := by
  induction front generalizing r with
  | nil =>
      obtain rfl : r = .code word := inCode
      exact symbolsFrom_apart apart word
  | cons c rest ih =>
      rw [List.cons_append, symbolsFrom_cons, symbolsFrom_cons, ih inCode, List.append_assoc]

/-- Whether a text is a word. -/
def isWord (text : String) : Bool :=
  !text.toList.isEmpty && text.toList.all Naming.isWordChar

theorem isWord_iff {text : String} :
    isWord text = true ↔ text.toList ≠ [] ∧ ∀ c ∈ text.toList, Naming.isWordChar c = true := by
  simp [isWord]

theorem isWord_append {front rest : String} (first : isWord front = true)
    (second : isWord rest = true) : isWord (front ++ rest) = true := by
  obtain ⟨notEmpty, chars⟩ := isWord_iff.1 first
  rw [isWord_iff, String.toList_append]
  refine ⟨List.append_ne_nil_of_left_ne_nil notEmpty _, fun c member => ?_⟩
  exact (List.mem_append.1 member).elim (chars c) ((isWord_iff.1 second).2 c)

theorem symbols_word {word : String} (isWord : isWord word = true) {rest : List Char}
    (apart : Token.Apart rest) : symbols (word.toList ++ rest) = .word word :: symbols rest := by
  obtain ⟨notEmpty, chars⟩ := isWord_iff.1 isWord
  rw [symbols, symbolsFrom_word chars, symbolsFrom_apart apart]
  simp [Symbol.ofWord, notEmpty]

end Parts

section Quotes

/-! What is quoted is one symbol, whatever it is, and stands on one line. -/

/-- Text between quotes that does not end it. -/
def Quotable (text : List Char) : Prop :=
  ∀ before rest, symbolsFrom (.quotation before false) (text ++ rest) =
    symbolsFrom (.quotation (before ++ text) false) rest

theorem Quotable.append {text more : List Char} (first : Quotable text) (second : Quotable more) :
    Quotable (text ++ more) := by
  intro before rest
  rw [List.append_assoc, first, second, List.append_assoc]

theorem quotable_nil : Quotable [] := by
  intro before rest
  rw [List.append_nil, List.nil_append]

theorem quotable_char {c : Char} (notQuote : c ≠ '"') (notBackslash : c ≠ '\\') : Quotable [c] := by
  intro before rest
  rw [List.singleton_append, symbolsFrom_cons]
  simp [Reading.step, notQuote, notBackslash]

theorem quotable_escape (c : Char) : Quotable ['\\', c] := by
  intro before rest
  rw [List.cons_append, List.singleton_append, symbolsFrom_cons, symbolsFrom_cons]
  simp [Reading.step]

theorem quotable_of_forall {text : List Char} (plain : ∀ c ∈ text, c ≠ '"' ∧ c ≠ '\\') :
    Quotable text := by
  induction text with
  | nil => exact quotable_nil
  | cons c rest ih =>
      rw [List.forall_mem_cons] at plain
      exact (quotable_char plain.1.1 plain.1.2).append (ih plain.2)

theorem hexDigits_plain (n : Nat) : ∀ c ∈ Text.hexDigits n, c ≠ '"' ∧ c ≠ '\\' ∧ c ≠ '\n' := by
  intro c member
  obtain ⟨i, below, rfl⟩ := Text.exists_digitChar_of_mem_hexDigits member
  have digits : ∀ i < 16, Nat.digitChar i ≠ '"' ∧ Nat.digitChar i ≠ '\\' ∧
      Nat.digitChar i ≠ '\n' := by
    decide
  exact digits i below

theorem quotable_escapeChar (c : Char) : Quotable (Text.escapeChar c) := by
  rcases Text.escapeChar_cases c with ⟨code, notBackslash, notQuote⟩ | ⟨key, -, code⟩ | code <;>
    rw [code]
  · exact quotable_char notQuote notBackslash
  · exact quotable_escape key
  · have digits : Quotable (Text.hexDigits c.toNat) :=
      quotable_of_forall fun d member =>
        ⟨(hexDigits_plain _ d member).1, (hexDigits_plain _ d member).2.1⟩
    have braces : Quotable ['\x7b'] ∧ Quotable ['\x7d'] :=
      ⟨quotable_char (by decide) (by decide), quotable_char (by decide) (by decide)⟩
    exact (((quotable_escape 'u').append braces.1).append digits).append braces.2

theorem quotable_flatMap {escape : Char → List Char} (each : ∀ c, Quotable (escape c))
    (s : List Char) :
    Quotable (s.flatMap escape) := by
  induction s with
  | nil => exact quotable_nil
  | cons c rest ih => exact (each c).append ih

theorem quotable_literalChars (s : List Char) : Quotable (Text.literalChars s) := by
  induction s with
  | nil => exact quotable_nil
  | cons c rest ih =>
      rw [Text.literalChars_cons]
      refine Quotable.append ?_ ih
      unfold Text.literalChar
      split
      · exact (quotable_escape 'x').append (quotable_of_forall (by simp))
      · exact quotable_escapeChar c

/-- What stands between quotes is one symbol. -/
theorem symbols_between {text : List Char} (quotable : Quotable text) (rest : List Char) :
    symbols ('"' :: text ++ ['"'] ++ rest) =
      .quote (String.ofList ('"' :: text ++ ['"'])) :: symbols rest := by
  have opened : symbols ('"' :: (text ++ '"' :: rest)) =
      symbolsFrom (.quotation ['"'] false) (text ++ '"' :: rest) := rfl
  rw [List.cons_append, List.cons_append, List.append_assoc, List.singleton_append, opened,
    quotable, symbolsFrom_cons]
  rfl

theorem symbols_quoted (s : String) (rest : List Char) :
    symbols ((Text.quoted s).toList ++ rest) = .quote (Text.quoted s) :: symbols rest := by
  rw [Text.quoted, String.toList_ofList]
  exact symbols_between (quotable_flatMap quotable_escapeChar _) rest

theorem symbols_literal (s : String) (rest : List Char) :
    symbols ((Text.literal s).toList ++ rest) = .quote (Text.literal s) :: symbols rest := by
  rw [Text.literal, String.toList_ofList]
  exact symbols_between (quotable_literalChars _) rest

theorem newline_not_mem_escapeChar (c : Char) : '\n' ∉ Text.escapeChar c := by
  unfold Text.escapeChar
  split
  · decide
  · split
    · decide
    · split
      · decide
      · split
        · decide
        · rename_i notNewline
          split
          · decide
          · split
            · decide
            · split
              · intro member
                simp only [Text.codePointEscape, List.cons_append, List.nil_append, List.mem_cons,
                  List.mem_append, List.not_mem_nil, or_false] at member
                rcases member with isIt | isIt | isIt | digit | isIt
                · exact absurd isIt (by decide)
                · exact absurd isIt (by decide)
                · exact absurd isIt (by decide)
                · exact (hexDigits_plain _ _ digit).2.2 rfl
                · exact absurd isIt (by decide)
              · simpa using Ne.symm notNewline

theorem newline_not_mem_quoted (s : String) : '\n' ∉ (Text.quoted s).toList := by
  rw [Text.quoted, String.toList_ofList]
  simp [newline_not_mem_escapeChar]

theorem newline_not_mem_literalChars (s : List Char) : '\n' ∉ Text.literalChars s := by
  induction s with
  | nil => decide
  | cons c rest ih =>
      rw [Text.literalChars_cons, List.mem_append, not_or]
      refine ⟨?_, ih⟩
      unfold Text.literalChar
      split
      · decide
      · exact newline_not_mem_escapeChar c

theorem newline_not_mem_literal (s : String) : '\n' ∉ (Text.literal s).toList := by
  rw [Text.literal, String.toList_ofList]
  simp [newline_not_mem_literalChars]

end Quotes

namespace Token

/-! The symbols of token streams. -/

/-- What opens a group. -/
def left : Bracket → Char
  | .round => '('
  | .square => '['
  | .curly => '\x7b'

/-- What closes a group. -/
def right : Bracket → Char
  | .round => ')'
  | .square => ']'
  | .curly => '\x7d'

mutual

/-- The symbols of a token. -/
def symbols : Token → List Symbol
  | .word text => [.word text]
  | .mark c _ => [.mark c]
  | .literal value => [.quote (Text.literal value)]
  | .verbatim text => Source.symbols text.toList
  | .group bracket body => .mark (left bracket) :: streamSymbols body ++ [.mark (right bracket)]

/-- The symbols of a stream. -/
def streamSymbols : List Token → List Symbol
  | [] => []
  | t :: rest => symbols t ++ streamSymbols rest

/-- Whether a token stands on one line and is read as it was meant. -/
def isLexical : Token → Bool
  | .word text => isWord text
  | .mark c _ => isLone c
  | .literal _ => true
  | .verbatim text =>
      (Reading.code []).after text.toList = .code [] && !text.toList.contains '\n'
  | .group _ body => isLexicalStream body

/-- Whether all tokens of a stream are so. -/
def isLexicalStream : List Token → Bool
  | [] => true
  | t :: rest => isLexical t && isLexicalStream rest

end

@[simp] theorem streamSymbols_nil : streamSymbols [] = [] := rfl

@[simp] theorem streamSymbols_cons (t : Token) (rest : List Token) :
    streamSymbols (t :: rest) = t.symbols ++ streamSymbols rest := rfl

@[simp] theorem streamSymbols_append (ts us : List Token) :
    streamSymbols (ts ++ us) = streamSymbols ts ++ streamSymbols us := by
  induction ts with
  | nil => rfl
  | cons t rest ih =>
      rw [List.cons_append, streamSymbols_cons, streamSymbols_cons, ih, List.append_assoc]

theorem streamSymbols_flatMap {α : Type} (f : α → List Token) (as : List α) :
    streamSymbols (as.flatMap f) = as.flatMap fun a => streamSymbols (f a) := by
  induction as with
  | nil => rfl
  | cons a rest ih => rw [List.flatMap_cons, List.flatMap_cons, streamSymbols_append, ih]

@[simp] theorem isLexicalStream_nil : isLexicalStream [] = true := rfl

@[simp] theorem isLexicalStream_cons (t : Token) (rest : List Token) :
    isLexicalStream (t :: rest) = (t.isLexical && isLexicalStream rest) := rfl

@[simp] theorem isLexicalStream_append (ts us : List Token) :
    isLexicalStream (ts ++ us) = (isLexicalStream ts && isLexicalStream us) := by
  induction ts with
  | nil => rfl
  | cons t rest ih =>
      rw [List.cons_append, isLexicalStream_cons, isLexicalStream_cons, ih, Bool.and_assoc]

theorem isLexicalStream_flatMap {α : Type} {f : α → List Token} {as : List α}
    (each : ∀ a ∈ as, isLexicalStream (f a) = true) : isLexicalStream (as.flatMap f) = true := by
  induction as with
  | nil => rfl
  | cons a rest ih =>
      rw [List.forall_mem_cons] at each
      rw [List.flatMap_cons, isLexicalStream_append, each.1, ih each.2]
      rfl

theorem apart_space (rest : List Char) : Apart (' ' :: rest) := by
  intro c isHead
  obtain rfl := Option.mem_some.1 isHead
  decide

theorem apart_right (bracket : Bracket) (rest : List Char) : Apart (right bracket :: rest) := by
  intro c isHead
  obtain rfl := Option.mem_some.1 isHead
  cases bracket <;> decide

private theorem symbols_around {body : List Char} {out : List Symbol}
    (inside : ∀ rest, Apart rest → Source.symbols (body ++ rest) = out ++ Source.symbols rest)
    (bracket : Bracket) (rest : List Char) : Source.symbols (around bracket body ++ rest) =
      .mark (left bracket) :: out ++ [.mark (right bracket)] ++ Source.symbols rest := by
  have closes : Source.symbols (body ++ right bracket :: rest) =
      out ++ .mark (right bracket) :: Source.symbols rest := by
    rw [inside _ (apart_right bracket rest), symbols_mark (by cases bracket <;> decide)]
  have shown : Source.symbols (around bracket body ++ rest) =
      .mark (left bracket) :: Source.symbols (body ++ right bracket :: rest) := by
    cases bracket with
    | round =>
        simp only [around, List.cons_append, List.append_assoc, List.nil_append]
        exact symbols_mark (by decide) _
    | square =>
        simp only [around, List.cons_append, List.append_assoc, List.nil_append]
        exact symbols_mark (by decide) _
    | curly =>
        have opens (more : List Char) : Source.symbols ('\x7b' :: ' ' :: more) =
            .mark '\x7b' :: Source.symbols more := symbols_mark (by decide) _
        simp only [around, List.cons_append, List.append_assoc, List.nil_append, opens]
        split
        · rfl
        · rw [List.cons_append, List.nil_append, inside _ (apart_space _), symbols_space,
            inside _ (apart_right .curly rest)]
          rfl
  rw [shown, closes]
  simp

mutual

/-- The symbols of a text that a token begins are those of the token and of the rest. -/
theorem symbols_chars_append : (t : Token) → t.isLexical = true → ∀ {rest : List Char},
    t.isJoint = true ∨ Apart rest → Source.symbols (t.chars ++ rest) =
      t.symbols ++ Source.symbols rest
  | .word text, lexical, rest, apart => by
      rcases apart with joint | apart
      · exact absurd joint (by simp [isJoint])
      · exact symbols_word lexical apart
  | .mark c _, lexical, _, _ => symbols_mark lexical _
  | .literal value, _, _, _ => symbols_literal value _
  | .verbatim text, lexical, _, _ => by
      simp only [isLexical, Bool.and_eq_true, decide_eq_true_eq] at lexical
      exact symbols_append lexical.1 _
  | .group bracket body, lexical, rest, _ => by
      have inside : ∀ rest, Apart rest → Source.symbols (streamChars body ++ rest) =
          streamSymbols body ++ Source.symbols rest :=
        fun _ apart => symbols_streamChars_append body lexical apart
      exact symbols_around inside bracket rest

/-- The symbols of a text that a stream begins are those of the stream and of the rest. -/
theorem symbols_streamChars_append : (ts : List Token) → isLexicalStream ts = true →
    ∀ {rest : List Char}, Apart rest →
      Source.symbols (streamChars ts ++ rest) = streamSymbols ts ++ Source.symbols rest
  | [], _, _, _ => rfl
  | [t], lexical, _, apart => by
      rw [isLexicalStream_cons, Bool.and_eq_true] at lexical
      rw [streamChars, symbols_chars_append t lexical.1 (.inr apart)]
      simp
  | t :: u :: more, lexical, rest, apart => by
      rw [isLexicalStream_cons, Bool.and_eq_true] at lexical
      have others := symbols_streamChars_append (u :: more) lexical.2 apart
      rw [streamChars, List.append_assoc, List.append_assoc, streamSymbols_cons, List.append_assoc,
        ← others]
      cases joint : t.isJoint with
      | true => exact symbols_chars_append t lexical.1 (.inl joint)
      | false => exact symbols_chars_append t lexical.1 (.inr (apart_space _))

end

mutual

theorem newline_not_mem_chars : (t : Token) → t.isLexical = true → '\n' ∉ t.chars
  | .word text, lexical => by
      intro member
      exact absurd ((isWord_iff.1 lexical).2 _ member) (by decide)
  | .mark c _, lexical => by
      simp only [isLexical, isLone, Bool.and_eq_true, bne_iff_ne, ne_eq] at lexical
      simpa [chars] using Ne.symm lexical.2
  | .literal value, _ => newline_not_mem_literal value
  | .verbatim text, lexical => by
      simp only [isLexical, Bool.and_eq_true, Bool.not_eq_true'] at lexical
      simpa [chars] using lexical.2
  | .group bracket body, lexical => by
      have inside := newline_not_mem_streamChars body lexical
      cases bracket
      · simp [chars, around, inside]
      · simp [chars, around, inside]
      · simp only [chars, around, List.mem_append, not_or]
        refine ⟨⟨⟨by decide, inside⟩, ?_⟩, by decide⟩
        split <;> decide

theorem newline_not_mem_streamChars :
    (ts : List Token) → isLexicalStream ts = true → '\n' ∉ streamChars ts
  | [], _ => by simp [streamChars]
  | [t], lexical => by
      rw [isLexicalStream_cons, Bool.and_eq_true] at lexical
      exact newline_not_mem_chars t lexical.1
  | t :: u :: more, lexical => by
      rw [isLexicalStream_cons, Bool.and_eq_true] at lexical
      rw [streamChars, List.mem_append, List.mem_append, not_or, not_or]
      refine ⟨⟨newline_not_mem_chars t lexical.1, ?_⟩,
        newline_not_mem_streamChars (u :: more) lexical.2⟩
      split <;> decide

end

end Token

end Flowsmith.Source
