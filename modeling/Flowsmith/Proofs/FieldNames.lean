import Flowsmith.Proofs.Words

/-!
Field names. Whatever the text, its field name is an identifier in small letters, and more than an
underscore. A name that is on the list of keywords gets an underscore at its end, which no word of
the language has. But the list lacks the words that the language only reserves, so these come out as
they are.
-/

namespace Flowsmith.Naming

/-- A small letter of ASCII, or an underscore. -/
def OpensFieldName (c : Char) : Prop :=
  ('a' ≤ c ∧ c ≤ 'z') ∨ c = '_'

/-- A small letter or a digit of ASCII, or an underscore. -/
def IsSmall (c : Char) : Prop :=
  OpensFieldName c ∨ ('0' ≤ c ∧ c ≤ '9')

/-- The identifiers in small letters: `[a-z_][a-z0-9_]*`. -/
def IsFieldName (word : List Char) : Prop :=
  ∃ first rest, word = first :: rest ∧ OpensFieldName first ∧ ∀ c ∈ rest, IsSmall c

/-- The words in small letters that the generated language uses or reserves. -/
def reservedWords : List String :=
  ["as", "async", "await", "break", "const", "continue", "crate", "dyn", "else", "enum", "extern",
    "false", "fn", "for", "gen", "if", "impl", "in", "let", "loop", "match", "mod", "move", "mut",
    "pub", "ref", "return", "self", "static", "struct", "super", "trait", "true", "type", "unsafe",
    "use", "where", "while", "abstract", "become", "box", "do", "final", "macro", "override",
    "priv", "try", "typeof", "unsized", "virtual", "yield"]

/-- Those of them that field names do not keep clear of. -/
def unguardedWords : List String :=
  ["abstract", "become", "do", "final", "macro", "override", "priv", "typeof", "unsized", "virtual"]

section Characters

theorem isSmall_of_isAlphanum {c : Char} (word : c.isAlphanum = true) (small : c.isUpper = false) :
    IsSmall c := by
  have classes : c.isAlphanum = true ↔ c.isAlpha = true ∨ c.isDigit = true := Bool.or_eq_true_iff
  rcases classes.1 word with letter | digit
  · rcases isAlpha_iff_le.1 letter with capital | isLower
    · rw [isUpper_iff_le.2 capital] at small
      exact Bool.noConfusion small
    · exact .inl (.inl isLower)
  · exact .inr (isDigit_iff_le.1 digit)

theorem isSmall_toLower {c : Char} (upper : c.isUpper = true) : IsSmall c.toLower := by
  refine isSmall_of_isAlphanum (isAlphanum_toLower (isAlphanum_of_isUpper upper)) ?_
  have range := isUpper_iff.1 upper
  rw [Bool.eq_false_iff]
  intro still
  rw [isUpper_iff, toNat_toLower_of_isUpper upper] at still
  omega

theorem isWordChar_of_isSmall {c : Char} (small : IsSmall c) : isWordChar c = true := by
  rw [isWordChar_iff]
  exact small.imp_left .inr

/-- The words of a text in small letters hold nothing but small characters, whatever came before. -/
theorem isSmall_of_mem_smallWords {state : SnakeState} {cs : List Char} {c : Char}
    (member : c ∈ smallWords state cs) : IsSmall c := by
  have underscore : IsSmall '_' := .inl (.inr rfl)
  fun_induction smallWords state cs with
  | case1 => simp at member
  | case2 state head rest upper small after ih =>
      rcases List.mem_cons.1 member with rfl | inner
      · exact underscore
      · rcases List.mem_cons.1 inner with rfl | inner
        · exact isSmall_toLower upper
        · exact ih inner
  | case3 state head rest upper small after ih =>
      rcases List.mem_cons.1 member with rfl | inner
      · exact isSmall_toLower upper
      · exact ih inner
  | case4 state head rest notUpper word ih =>
      rcases List.mem_cons.1 member with rfl | inner
      · exact isSmall_of_isAlphanum word (Bool.eq_false_iff.2 notUpper)
      · exact ih inner
  | case5 state head rest notUpper notWord opening ih => exact ih member
  | case6 state head rest notUpper notWord inside ih =>
      rcases List.mem_cons.1 member with rfl | inner
      · exact underscore
      · exact ih inner

end Characters

/-- A text of small characters is kept, but for an underscore before a digit. Without any characters
    there is a name of its own. -/
theorem sanitizeChars_of_isSmall {cs : List Char} (small : ∀ c ∈ cs, IsSmall c) :
    sanitizeChars cs =
      if cs = [] then "_empty".toList else if cs.head?.any Char.isDigit then '_' :: cs else cs := by
  cases cs with
  | nil => rfl
  | cons head rest =>
      have admitted : ∀ c ∈ head :: rest, isWordChar c = true :=
        fun c member => isWordChar_of_isSmall (small c member)
      have others :=
        map_wordChar_eq_self fun c member => admitted c (List.mem_cons_of_mem head member)
      have first := wordChar_of_isWordChar (admitted head List.mem_cons_self)
      simp only [sanitizeChars, others, first, List.head?_cons, Option.any_some, reduceCtorEq,
        if_false]
      exact apply_ite (· ++ rest) _ _ _

theorem isFieldName_sanitizeChars {cs : List Char} (small : ∀ c ∈ cs, IsSmall c) :
    IsFieldName (sanitizeChars cs) := by
  rw [sanitizeChars_of_isSmall small]
  cases cs with
  | nil =>
      refine ⟨'_', "empty".toList, rfl, .inr rfl, ?_⟩
      have letters : "empty".toList.all Char.isLower = true := by decide
      exact fun c member => .inl (.inl (isLower_iff_le.1 (List.all_eq_true.1 letters c member)))
  | cons head rest =>
      rw [if_neg (List.cons_ne_nil _ _)]
      split
      · exact ⟨'_', head :: rest, rfl, .inr rfl, small⟩
      · rename_i noDigit
        refine ⟨head, rest, rfl, ?_, fun c member => small c (List.mem_cons_of_mem _ member)⟩
        rcases small head List.mem_cons_self with opens | digit
        · exact opens
        · exact absurd (isDigit_iff_le.2 digit) (by simpa using noDigit)

theorem isFieldName_snake (s : String) : IsFieldName (snake s).toList := by
  rw [snake, String.toList_ofList]
  exact isFieldName_sanitizeChars fun c member => isSmall_of_mem_smallWords
    (mem_of_mem_stripChars member)

theorem getLast?_stripChars_ne (cs : List Char) :
    (Text.stripChars (· == '_') cs).getLast? ≠ some '_' := by
  unfold Text.stripChars
  rw [List.getLast?_reverse]
  have stripped := List.head?_dropWhile_not (· == '_') (cs.dropWhile (· == '_')).reverse
  intro isLast
  rw [isLast] at stripped
  simp at stripped

/-- A module name does not end in an underscore. -/
theorem getLast?_snake_ne (s : String) : (snake s).toList.getLast? ≠ some '_' := by
  rw [snake, String.toList_ofList, snakeChars, sanitizeChars_of_isSmall fun c member =>
    isSmall_of_mem_smallWords (mem_of_mem_stripChars member)]
  have stripped := getLast?_stripChars_ne (smallWords {} s.toList)
  cases words : Text.stripChars (· == '_') (smallWords {} s.toList) with
  | nil => decide
  | cons head rest =>
      rw [words] at stripped
      rw [if_neg (List.cons_ne_nil _ _)]
      split
      · rwa [List.getLast?_cons_cons]
      · exact stripped

theorem field_of_mem_keywords {s : String} (keyword : snake s ∈ keywords) :
    field s = snake s ++ "_" :=
  if_pos keyword

theorem field_of_not_mem_keywords {s : String} (free : snake s ∉ keywords) : field s = snake s :=
  if_neg free

theorem isFieldName_field (s : String) : IsFieldName (field s).toList := by
  by_cases keyword : snake s ∈ keywords
  · obtain ⟨first, rest, chars, opens, small⟩ := isFieldName_snake s
    refine ⟨first, rest ++ ['_'], ?_, opens, ?_⟩
    · rw [field_of_mem_keywords keyword, String.toList_append, chars]
      rfl
    · intro c member
      rcases List.mem_append.1 member with inside | isLast
      · exact small c inside
      · rw [List.mem_singleton.1 isLast]
        exact .inl (.inr rfl)
  · rw [field_of_not_mem_keywords keyword]
    exact isFieldName_snake s

theorem field_ne_underscore (s : String) : field s ≠ "_" := by
  by_cases keyword : snake s ∈ keywords
  · obtain ⟨first, rest, chars, -⟩ := isFieldName_snake s
    rw [field_of_mem_keywords keyword, Ne, ← String.toList_inj, String.toList_append, chars]
    simp
  · rw [field_of_not_mem_keywords keyword]
    intro alone
    exact getLast?_snake_ne s (by rw [alone]; rfl)

/-- A field name is a reserved word exactly when its text comes to a word that is not guarded. -/
theorem field_mem_reservedWords_iff (s : String) :
    field s ∈ reservedWords ↔ snake s ∈ unguardedWords := by
  have noneEnds : ∀ word ∈ reservedWords, word.toList.getLast? ≠ some '_' := by decide
  have divided : (∀ word ∈ reservedWords, word ∈ keywords ∨ word ∈ unguardedWords) ∧
      (∀ word ∈ unguardedWords, word ∈ reservedWords ∧ word ∉ keywords) := by decide
  by_cases keyword : snake s ∈ keywords
  · rw [field_of_mem_keywords keyword]
    refine iff_of_false ?_ fun unguarded => (divided.2 _ unguarded).2 keyword
    intro reserved
    exact noneEnds _ reserved (by rw [String.toList_append]; exact List.getLast?_concat)
  · rw [field_of_not_mem_keywords keyword]
    exact ⟨fun reserved => (divided.1 _ reserved).resolve_left keyword,
      fun unguarded => (divided.2 _ unguarded).1⟩

/-- Every field name is an identifier in small letters and more than an underscore. It is a word of
    the language exactly when the text comes to one of the ten reserved words that are not guarded
    against. -/
theorem field_exact (s : String) :
    IsFieldName (field s).toList ∧ field s ≠ "_" ∧
      (field s ∈ reservedWords ↔ snake s ∈ unguardedWords) :=
  ⟨isFieldName_field s, field_ne_underscore s, field_mem_reservedWords_iff s⟩

/-- A field can be named by a reserved word. -/
theorem field_reserved : ¬ ∀ s : String, field s ∉ reservedWords := by
  intro guarded
  exact guarded "final" (by decide)

end Flowsmith.Naming
