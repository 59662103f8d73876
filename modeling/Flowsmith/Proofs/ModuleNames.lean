import Flowsmith.Proofs.FieldNames
import Mathlib.Data.List.Chain
import Mathlib.Data.List.DropRight

/-!
Module names in normal form. The scan that splits a text into small words remembers what it wrote
last, so it writes no underscore at the beginning and none beside another; the one that it may leave
at the end is stripped. Words of that form come through the scan as they are, which makes a module
name its own module name. The exception is the name of a text without letters and digits: its
underscore is no divider, and is lost when the name is scanned.
-/

namespace Flowsmith.Naming

section Characters

theorem isUpper_eq_false_of_isSmall {c : Char} (small : IsSmall c) : c.isUpper = false := by
  rw [Bool.eq_false_iff]
  intro upper
  have range := isUpper_iff.1 upper
  rcases small with (lower | rfl) | digit
  · have letters := isLower_iff.1 (isLower_iff_le.2 lower)
    omega
  · exact absurd upper (by decide)
  · have digits := isDigit_iff.1 (isDigit_iff_le.2 digit)
    omega

theorem isAlphanum_of_isSmall {c : Char} (small : IsSmall c) (other : c ≠ '_') :
    c.isAlphanum = true := by
  have admitted := isWordChar_of_isSmall small
  simpa [isWordChar, other] using admitted

theorem isDigit_toLower (c : Char) : c.toLower.isDigit = c.isDigit := by
  cases upper : c.isUpper with
  | false => rw [toLower_of_not_isUpper upper]
  | true =>
      have range := isUpper_iff.1 upper
      rw [Bool.eq_iff_iff, isDigit_iff, isDigit_iff, toNat_toLower_of_isUpper upper]
      omega

end Characters

/-- Neighbours that are not both underscores. -/
def Parted (c d : Char) : Prop :=
  c ≠ '_' ∨ d ≠ '_'

theorem not_infix_of_isChain {word : List Char} (parted : word.IsChain Parted) :
    ¬ ['_', '_'] <:+: word := by
  intro doubled
  have both := parted.infix doubled
  simp [Parted] at both

theorem head?_ne_of_isChain {word : List Char} (parted : ('_' :: word).IsChain Parted) :
    word.head? ≠ some '_' := by
  intro start
  have first := (List.isChain_cons.1 parted).1 '_' start
  simp [Parted] at first

/-- Words in small letters, divided by single underscores. -/
structure IsWords (word : List Char) : Prop where
  small : ∀ c ∈ word, IsSmall c
  /-- No underscore stands beside another, nor at the beginning, which counts as one. -/
  parted : ('_' :: word).IsChain Parted
  ended : word.getLast? ≠ some '_'

section Scan

/-- What the scan wrote last. The beginning counts as an underscore. -/
def SnakeState.before (state : SnakeState) : Char :=
  state.last.getD '_'

/-- Where a capital would begin a new word, the scan did not write an underscore last. -/
def SnakeState.Sound (state : SnakeState) : Prop :=
  state.afterSmall = true → state.before ≠ '_'

theorem SnakeState.sound_mk_false (last : Option Char) : SnakeState.Sound ⟨last, false⟩ :=
  fun never => Bool.noConfusion never

/-- An underscore can be written exactly where none was written last. -/
theorem SnakeState.before_ne_iff {state : SnakeState} :
    state.before ≠ '_' ↔ ¬ (state.last.isNone || state.last == some '_') = true := by
  cases written : state.last <;> simp [before, written]

/-- The scan writes no underscore beside another. -/
theorem isChain_smallWords {state : SnakeState} (sound : state.Sound) (cs : List Char) :
    (state.before :: smallWords state cs).IsChain Parted := by
  fun_induction smallWords state cs with
  | case1 => exact .singleton _
  | case2 state head rest upper small after ih =>
      have word := ne_underscore_of_isAlphanum (isAlphanum_toLower (isAlphanum_of_isUpper upper))
      exact .cons_cons (.inl (sound after))
        (.cons_cons (.inr word) (ih (SnakeState.sound_mk_false _)))
  | case3 state head rest upper small after ih =>
      have word := ne_underscore_of_isAlphanum (isAlphanum_toLower (isAlphanum_of_isUpper upper))
      exact .cons_cons (.inr word) (ih (SnakeState.sound_mk_false _))
  | case4 state head rest notUpper word ih =>
      have other := ne_underscore_of_isAlphanum word
      exact .cons_cons (.inr other) (ih fun _ => other)
  | case5 state head rest notUpper notWord opening ih => exact ih (SnakeState.sound_mk_false _)
  | case6 state head rest notUpper notWord inside ih =>
      exact .cons_cons (.inl (SnakeState.before_ne_iff.2 inside)) (ih (SnakeState.sound_mk_false _))

/-- Words of the form that the scan writes come through it as they are. -/
theorem smallWords_eq_self {state : SnakeState} {word : List Char} (small : ∀ c ∈ word, IsSmall c)
    (parted : (state.before :: word).IsChain Parted) : smallWords state word = word := by
  induction word generalizing state with
  | nil => rfl
  | cons c rest ih =>
      obtain ⟨isSmall, smallRest⟩ := List.forall_mem_cons.1 small
      obtain ⟨first, partedRest⟩ := List.isChain_cons_cons.1 parted
      have notUpper := isUpper_eq_false_of_isSmall isSmall
      by_cases underscore : c = '_'
      · subst underscore
        have inside := SnakeState.before_ne_iff.1 (first.resolve_right (not_not_intro rfl))
        have kept : smallWords ⟨some '_', false⟩ rest = rest := ih smallRest partedRest
        simp [smallWords, inside, kept]
      · have word := isAlphanum_of_isSmall isSmall underscore
        have kept : smallWords ⟨some c, true⟩ rest = rest := ih smallRest partedRest
        simp [smallWords, notUpper, word, kept]

end Scan

section Strip

theorem stripChars_of_head {cs : List Char} (start : cs.head? ≠ some '_') :
    Text.stripChars (· == '_') cs = cs.rdropWhile (· == '_') := by
  have kept : cs.dropWhile (· == '_') = cs := by
    cases cs with
    | nil => rfl
    | cons c rest => simpa using start
  unfold Text.stripChars
  rw [kept, List.rdropWhile]

theorem IsWords.stripChars_eq_self {word : List Char} (words : IsWords word) :
    Text.stripChars (· == '_') word = word := by
  rw [stripChars_of_head (head?_ne_of_isChain words.parted), List.rdropWhile_eq_self_iff]
  intro notEmpty underscore
  apply words.ended
  rw [List.getLast?_eq_some_getLast notEmpty, beq_iff_eq.1 underscore]

end Strip

/-- The words of a text, without what makes them an identifier. -/
def wordsOf (cs : List Char) : List Char :=
  Text.stripChars (· == '_') (smallWords {} cs)

theorem snakeChars_eq (cs : List Char) : snakeChars cs = sanitizeChars (wordsOf cs) := rfl

theorem isChain_smallWords_start (cs : List Char) : ('_' :: smallWords {} cs).IsChain Parted :=
  @isChain_smallWords {} (SnakeState.sound_mk_false none) cs

/-- Only the end of what the scan writes can need stripping. -/
theorem wordsOf_eq (cs : List Char) : wordsOf cs = (smallWords {} cs).rdropWhile (· == '_') :=
  stripChars_of_head (head?_ne_of_isChain (isChain_smallWords_start cs))

theorem isWords_wordsOf (cs : List Char) : IsWords (wordsOf cs) := by
  refine ⟨?_, ?_, getLast?_stripChars_ne _⟩
  · intro c member
    exact isSmall_of_mem_smallWords (mem_of_mem_stripChars member)
  · have parted := isChain_smallWords_start cs
    have shorter := List.rdropWhile_prefix (· == '_') (smallWords {} cs)
    rw [wordsOf_eq]
    exact parted.prefix ((List.prefix_cons_inj '_').2 shorter)

theorem isWordChar_of_mem_wordsOf {cs : List Char} {c : Char} (member : c ∈ wordsOf cs) :
    isWordChar c = true :=
  isWordChar_of_isSmall ((isWords_wordsOf cs).small c member)

theorem wordsOf_of_isWords {word : List Char} (words : IsWords word) : wordsOf word = word := by
  have scanned : smallWords {} word = word := smallWords_eq_self words.small words.parted
  rw [wordsOf, scanned, words.stripChars_eq_self]

/-- An underscore at the beginning is not seen. -/
theorem wordsOf_underscore (cs : List Char) : wordsOf ('_' :: cs) = wordsOf cs := rfl

/-- The words begin with the first letter or digit of the text. -/
theorem head?_wordsOf (cs : List Char) :
    (wordsOf cs).head? = (cs.find? Char.isAlphanum).map Char.toLower := by
  have kept : letters (wordsOf cs) = smallLetters cs := by
    rw [wordsOf, letters_stripChars, letters_smallWords]
  have first : (letters (wordsOf cs)).head? = (wordsOf cs).head? := by
    have start := head?_ne_of_isChain (isWords_wordsOf cs).parted
    cases words : wordsOf cs with
    | nil => rfl
    | cons c rest =>
        rw [words] at start
        rw [letters_cons (by simpa using start)]
        rfl
  rw [← first, kept, smallLetters, List.head?_map, List.head?_filter]

theorem wordsOf_eq_nil_iff (cs : List Char) : wordsOf cs = [] ↔ ∀ c ∈ cs, c.isAlphanum = false := by
  rw [← List.head?_eq_none_iff, head?_wordsOf, Option.map_eq_none_iff, List.find?_eq_none]
  simp only [Bool.not_eq_true]

theorem wordsOf_ne_nil {cs : List Char} {c : Char} (member : c ∈ cs) (word : c.isAlphanum = true) :
    wordsOf cs ≠ [] := by
  rw [Ne, wordsOf_eq_nil_iff]
  intro none
  rw [none c member] at word
  exact Bool.noConfusion word

/-- Words become an identifier in one of three ways. -/
theorem IsWords.sanitizeChars_cases {word : List Char} (words : IsWords word) :
    (word = [] ∧ sanitizeChars word = "_empty".toList) ∨
      (∃ c rest, word = c :: rest ∧ c.isDigit = true ∧ sanitizeChars word = '_' :: word) ∨
      ∃ c rest, word = c :: rest ∧ c.isDigit = false ∧ sanitizeChars word = word := by
  have sanitized := sanitizeChars_of_isSmall words.small
  cases word with
  | nil => exact .inl ⟨rfl, rfl⟩
  | cons c rest =>
      rw [if_neg (List.cons_ne_nil _ _)] at sanitized
      cases digit : c.isDigit with
      | true => exact .inr (.inl ⟨c, rest, rfl, digit, by simpa [digit] using sanitized⟩)
      | false => exact .inr (.inr ⟨c, rest, rfl, digit, by simpa [digit] using sanitized⟩)

/-- What is made an identifier out of words still has them as its words, when there are any. -/
theorem IsWords.wordsOf_sanitizeChars {word : List Char} (words : IsWords word)
    (notEmpty : word ≠ []) :
    wordsOf (sanitizeChars word) = word := by
  rcases words.sanitizeChars_cases with ⟨none, -⟩ | ⟨c, rest, -, -, sanitized⟩ |
    ⟨c, rest, -, -, sanitized⟩
  · exact absurd none notEmpty
  · rw [sanitized, wordsOf_underscore, wordsOf_of_isWords words]
  · rw [sanitized, wordsOf_of_isWords words]

theorem snakeChars_snakeChars {cs : List Char} (notEmpty : wordsOf cs ≠ []) :
    snakeChars (snakeChars cs) = snakeChars cs := by
  rw [snakeChars_eq (snakeChars cs), snakeChars_eq cs,
    (isWords_wordsOf cs).wordsOf_sanitizeChars notEmpty]

theorem IsWords.sanitizeChars_eq_empty_iff {word : List Char} (words : IsWords word) :
    sanitizeChars word = "_empty".toList ↔ word = [] := by
  constructor
  · intro empty
    rcases words.sanitizeChars_cases with
      ⟨none, -⟩ | ⟨c, rest, rfl, digit, sanitized⟩ | ⟨c, rest, rfl, -, sanitized⟩
    · exact none
    · -- The word would go on with the first letter of `empty`.
      rw [sanitized] at empty
      obtain ⟨-, rfl, -⟩ : '_' = '_' ∧ c = 'e' ∧ rest = "mpty".toList := by simpa using empty
      exact absurd digit (by decide)
    · rw [sanitized] at empty
      exact absurd (by simp [empty]) (head?_ne_of_isChain words.parted)
  · rintro rfl
    rfl

theorem IsWords.head?_sanitizeChars_iff {word : List Char} (words : IsWords word) :
    (sanitizeChars word).head? = some '_' ↔
      word = [] ∨ ∃ c, word.head? = some c ∧ c.isDigit = true := by
  rcases words.sanitizeChars_cases with
    ⟨rfl, sanitized⟩ | ⟨c, rest, rfl, digit, sanitized⟩ | ⟨c, rest, rfl, digit, sanitized⟩
  · simp [sanitized]
  · simp [sanitized, digit]
  · have start := head?_ne_of_isChain words.parted
    simpa [sanitized, digit] using start

theorem IsWords.not_infix_sanitizeChars {word : List Char} (words : IsWords word) :
    ¬ ['_', '_'] <:+: sanitizeChars word := by
  rcases words.sanitizeChars_cases with
    ⟨-, sanitized⟩ | ⟨c, rest, -, -, sanitized⟩ | ⟨c, rest, -, -, sanitized⟩
  · rw [sanitized]
    exact not_infix_of_isChain (by simp [Parted])
  · rw [sanitized]
    exact not_infix_of_isChain words.parted
  · rw [sanitized]
    exact not_infix_of_isChain words.parted.tail

/-- The normal form of a module name, and how the name comes from its text. -/
structure IsModuleName (text name : List Char) : Prop where
  /-- The name is an identifier in small letters. -/
  identifier : IsFieldName name
  /-- The name has no two underscores side by side. -/
  single : ¬ ['_', '_'] <:+: name
  /-- The name does not end in an underscore. -/
  ended : name.getLast? ≠ some '_'
  /-- There is one name for the texts without letters and digits, which no other text has. -/
  empty : name = "_empty".toList ↔ ∀ c ∈ text, c.isAlphanum = false
  /-- Besides it, the names that begin with an underscore are those of texts whose first letter or
      digit is a digit. -/
  start : name.head? = some '_' ↔
    (∀ c ∈ text, c.isAlphanum = false) ∨ ∃ c, text.find? Char.isAlphanum = some c ∧ c.isDigit = true
  /-- Without its underscores, the name is the letters and digits of the text in small letters. -/
  spelling : (∃ c ∈ text, c.isAlphanum = true) → letters name = smallLetters text

theorem exists_head?_wordsOf_iff (cs : List Char) :
    (∃ c, (wordsOf cs).head? = some c ∧ c.isDigit = true) ↔
      ∃ c, cs.find? Char.isAlphanum = some c ∧ c.isDigit = true := by
  rw [head?_wordsOf]
  cases cs.find? Char.isAlphanum with
  | none => simp
  | some c => simp [isDigit_toLower]

theorem isModuleName_snake (s : String) : IsModuleName s.toList (snake s).toList := by
  have words := isWords_wordsOf s.toList
  have chars : (snake s).toList = sanitizeChars (wordsOf s.toList) := String.toList_ofList
  refine ⟨isFieldName_snake s, ?_, getLast?_snake_ne s, ?_, ?_, ?_⟩
  · rw [chars]
    exact words.not_infix_sanitizeChars
  · rw [chars, words.sanitizeChars_eq_empty_iff, wordsOf_eq_nil_iff]
  · rw [chars, words.head?_sanitizeChars_iff, wordsOf_eq_nil_iff, exists_head?_wordsOf_iff]
  · rintro ⟨c, member, word⟩
    rw [snake, String.toList_ofList]
    have inside : c.toLower ∈ smallLetters s.toList :=
      List.mem_map_of_mem (List.mem_filter.2 ⟨member, word⟩)
    exact letters_snakeChars (List.ne_nil_of_mem inside)

/-- The module name of any text is in normal form, and it is its own module name exactly when the
    text has a letter or a digit. -/
theorem snake_normal (s : String) :
    IsModuleName s.toList (snake s).toList ∧
      (snake (snake s) = snake s ↔ ∃ c ∈ s.toList, c.isAlphanum = true) := by
  refine ⟨isModuleName_snake s, ?_⟩
  constructor
  · intro same
    by_contra nothing
    have empty : snake s = "_empty" := by
      rw [← String.toList_inj, (isModuleName_snake s).empty]
      simpa using nothing
    rw [empty] at same
    exact absurd same (by decide)
  · rintro ⟨c, member, word⟩
    rw [snake, snake, String.toList_ofList, snakeChars_snakeChars (wordsOf_ne_nil member word)]

end Flowsmith.Naming
