import Flowsmith.Naming

/-!
The letters of derived names. A module name is the words of a text in small letters with underscores
between them; without the underscores, it is the letters and digits of the text. This is what tells
derived names apart: where the underscores stand depends on the words before, the letters do not.
-/

namespace Flowsmith.Naming

theorem isUpper_iff {c : Char} : c.isUpper = true ↔ 65 ≤ c.toNat ∧ c.toNat ≤ 90 :=
  decide_eq_true_iff

theorem isLower_iff {c : Char} : c.isLower = true ↔ 97 ≤ c.toNat ∧ c.toNat ≤ 122 :=
  (Bool.and_eq_true_iff).trans (and_congr decide_eq_true_iff decide_eq_true_iff)

theorem isDigit_iff {c : Char} : c.isDigit = true ↔ 48 ≤ c.toNat ∧ c.toNat ≤ 57 :=
  Char.isDigit_iff_toNat

theorem isAlpha_iff {c : Char} : c.isAlpha = true ↔
    (65 ≤ c.toNat ∧ c.toNat ≤ 90) ∨ (97 ≤ c.toNat ∧ c.toNat ≤ 122) :=
  (Bool.or_eq_true_iff).trans (or_congr isUpper_iff isLower_iff)

/-- The code points of the letters and digits. -/
theorem isAlphanum_iff {c : Char} : c.isAlphanum = true ↔
    (65 ≤ c.toNat ∧ c.toNat ≤ 90) ∨ (97 ≤ c.toNat ∧ c.toNat ≤ 122) ∨
      (48 ≤ c.toNat ∧ c.toNat ≤ 57) := by
  have classes : c.isAlphanum = true ↔ c.isAlpha = true ∨ c.isDigit = true := Bool.or_eq_true_iff
  rw [classes, isAlpha_iff, isDigit_iff]
  exact or_assoc

theorem toNat_toLower_of_isUpper {c : Char} (upper : c.isUpper = true) :
    c.toLower.toNat = c.toNat + 32 := by
  have range := isUpper_iff.1 upper
  have condition : c.val ≥ 'A'.val ∧ c.val ≤ 'Z'.val := decide_eq_true_iff.1 upper
  unfold Char.toLower
  rw [dif_pos condition]
  change (c.val + ('a'.val - 'A'.val)).toNat = c.toNat + 32
  rw [UInt32.toNat_add]
  change (c.toNat + 32) % 4294967296 = c.toNat + 32
  omega

theorem toLower_of_not_isUpper {c : Char} (small : c.isUpper = false) : c.toLower = c := by
  have condition : ¬ (c.val ≥ 'A'.val ∧ c.val ≤ 'Z'.val) := by
    intro range
    have upper : c.isUpper = true := decide_eq_true_iff.2 range
    rw [small] at upper
    exact Bool.noConfusion upper
  unfold Char.toLower
  rw [dif_neg condition]

theorem isAlphanum_of_isUpper {c : Char} (upper : c.isUpper = true) : c.isAlphanum = true := by
  rw [isAlphanum_iff]
  exact .inl (isUpper_iff.1 upper)

theorem isAlphanum_toLower {c : Char} (word : c.isAlphanum = true) :
    c.toLower.isAlphanum = true := by
  cases upper : c.isUpper with
  | false => rwa [toLower_of_not_isUpper upper]
  | true =>
      have range := isUpper_iff.1 upper
      rw [isAlphanum_iff, toNat_toLower_of_isUpper upper]
      omega

/-- A letter or digit made large is a capital or a digit. -/
theorem isUpper_or_isDigit_toUpper {c : Char} (word : c.isAlphanum = true) :
    c.toUpper.isUpper = true ∨ c.toUpper.isDigit = true := by
  unfold Char.toUpper
  split
  · rename_i condition
    have range : 97 ≤ c.toNat ∧ c.toNat ≤ 122 := condition
    left
    rw [isUpper_iff]
    change _ ≤ (c.val + ('A'.val - 'a'.val)).toNat ∧ (c.val + ('A'.val - 'a'.val)).toNat ≤ _
    rw [UInt32.toNat_add]
    change _ ≤ (c.toNat + 4294967264) % 4294967296 ∧ (c.toNat + 4294967264) % 4294967296 ≤ _
    omega
  · rename_i condition
    have range : ¬ (97 ≤ c.toNat ∧ c.toNat ≤ 122) := condition
    rw [isAlphanum_iff] at word
    rw [isUpper_iff, isDigit_iff]
    omega

theorem isAlphanum_toUpper {c : Char} (word : c.isAlphanum = true) :
    c.toUpper.isAlphanum = true := by
  rcases isUpper_or_isDigit_toUpper word with upper | digit
  · exact isAlphanum_of_isUpper upper
  · rw [isAlphanum_iff]
    exact .inr (.inr (isDigit_iff.1 digit))

/-- No letter is a digit. -/
theorem isDigit_eq_false_of_isAlpha {c : Char} (letter : c.isAlpha = true) : c.isDigit = false := by
  rw [Bool.eq_false_iff]
  intro digit
  rw [isAlpha_iff] at letter
  rw [isDigit_iff] at digit
  omega

/-- No letter or digit is the underscore. -/
theorem ne_underscore_of_isAlphanum {c : Char} (word : c.isAlphanum = true) : c ≠ '_' := by
  rintro rfl
  exact absurd word (by decide)

theorem wordChar_of_isWordChar {c : Char} (admitted : isWordChar c = true) : wordChar c = c := by
  simp [wordChar, admitted]

/-- Admitted characters are kept as they are. -/
theorem map_wordChar_eq_self {cs : List Char} (admitted : ∀ c ∈ cs, isWordChar c = true) :
    cs.map wordChar = cs := by
  rw [List.map_congr_left (g := id), List.map_id]
  intro c member
  exact wordChar_of_isWordChar (admitted c member)

theorem isWordChar_of_isAlphanum {c : Char} (word : c.isAlphanum = true) : isWordChar c = true := by
  simp [isWordChar, word]

theorem isWordChar_wordChar (c : Char) : isWordChar (wordChar c) = true := by
  unfold wordChar
  split
  · assumption
  · decide

/-- A sanitized identifier has none but admitted characters. -/
theorem isWordChar_of_mem_sanitizeChars {cs : List Char} {c : Char}
    (member : c ∈ sanitizeChars cs) :
    isWordChar c = true := by
  cases cs with
  | nil =>
      simp only [sanitizeChars, List.mem_cons, List.not_mem_nil, or_false] at member
      rcases member with rfl | rfl | rfl | rfl | rfl | rfl <;> decide
  | cons head rest =>
      simp only [sanitizeChars, List.mem_append, List.mem_map] at member
      rcases member with inHead | ⟨d, -, rfl⟩
      · split at inHead
        · rename_i digit
          simp only [List.mem_cons, List.not_mem_nil, or_false] at inHead
          rcases inHead with rfl | rfl
          · decide
          · simp [isWordChar, Char.isAlphanum, digit]
        · simp only [List.mem_singleton] at inHead
          exact inHead ▸ isWordChar_wordChar head
      · exact isWordChar_wordChar d

/-- A text of admitted characters that does not begin with a digit is its own identifier. -/
theorem sanitizeChars_eq_self {cs : List Char} (notEmpty : cs ≠ [])
    (start : cs.head?.any Char.isDigit = false) (admitted : ∀ c ∈ cs, isWordChar c = true) :
    sanitizeChars cs = cs := by
  cases cs with
  | nil => exact absurd rfl notEmpty
  | cons head rest =>
      have noDigit : head.isDigit = false := by simpa using start
      have same :=
        map_wordChar_eq_self fun c member => admitted c (List.mem_cons_of_mem head member)
      simp [sanitizeChars, noDigit, same, wordChar_of_isWordChar (admitted head List.mem_cons_self)]

/-- What is left of a text without its underscores. -/
def letters (cs : List Char) : List Char :=
  cs.filter (· != '_')

@[simp] theorem letters_underscore (cs : List Char) : letters ('_' :: cs) = letters cs := by
  simp [letters]

theorem letters_cons {c : Char} (other : c ≠ '_') (cs : List Char) :
    letters (c :: cs) = c :: letters cs := by
  simp [letters, other]

/-- The letters and digits of a text, in small letters. -/
def smallLetters (cs : List Char) : List Char :=
  (cs.filter Char.isAlphanum).map Char.toLower

@[simp] theorem smallLetters_append (cs ds : List Char) :
    smallLetters (cs ++ ds) = smallLetters cs ++ smallLetters ds := by
  simp [smallLetters]

theorem isWordChar_of_mem_smallWords {state : SnakeState} {cs : List Char} {c : Char}
    (member : c ∈ smallWords state cs) : isWordChar c = true := by
  fun_induction smallWords state cs with
  | case1 => simp at member
  | case2 state head rest upper small after ih =>
      rcases List.mem_cons.1 member with rfl | inner
      · decide
      · rcases List.mem_cons.1 inner with rfl | inner
        · exact isWordChar_of_isAlphanum (isAlphanum_toLower (isAlphanum_of_isUpper upper))
        · exact ih inner
  | case3 state head rest upper small after ih =>
      rcases List.mem_cons.1 member with rfl | inner
      · exact isWordChar_of_isAlphanum (isAlphanum_toLower (isAlphanum_of_isUpper upper))
      · exact ih inner
  | case4 state head rest notUpper word ih =>
      rcases List.mem_cons.1 member with rfl | inner
      · exact isWordChar_of_isAlphanum word
      · exact ih inner
  | case5 state head rest notUpper notWord opening ih => exact ih member
  | case6 state head rest notUpper notWord inside ih =>
      rcases List.mem_cons.1 member with rfl | inner
      · decide
      · exact ih inner

/-- Splitting a text into words keeps its letters and digits, whatever came before. -/
theorem letters_smallWords (state : SnakeState) (cs : List Char) :
    letters (smallWords state cs) = smallLetters cs := by
  fun_induction smallWords state cs with
  | case1 => rfl
  | case2 state head rest upper small after ih =>
      have word := isAlphanum_of_isUpper upper
      rw [letters_underscore, letters_cons (ne_underscore_of_isAlphanum (isAlphanum_toLower word)),
        ih]
      simp [smallLetters, word]
  | case3 state head rest upper small after ih =>
      have word := isAlphanum_of_isUpper upper
      rw [letters_cons (ne_underscore_of_isAlphanum (isAlphanum_toLower word)), ih]
      simp [smallLetters, word]
  | case4 state head rest notUpper word ih =>
      rw [letters_cons (ne_underscore_of_isAlphanum word), ih]
      simp [smallLetters, word, toLower_of_not_isUpper (Bool.eq_false_iff.2 notUpper)]
  | case5 state head rest notUpper notWord opening ih =>
      rw [ih]
      simp [smallLetters, notWord]
  | case6 state head rest notUpper notWord inside ih =>
      rw [letters_underscore, ih]
      simp [smallLetters, notWord]

private theorem letters_dropWhile (cs : List Char) :
    letters (cs.dropWhile (· == '_')) = letters cs := by
  induction cs with
  | nil => rfl
  | cons c rest ih =>
      by_cases underscore : c = '_'
      · subst underscore
        simpa using ih
      · simp [underscore]

theorem letters_reverse (cs : List Char) : letters cs.reverse = (letters cs).reverse :=
  List.filter_reverse ..

/-- Taking underscores from the ends keeps the letters. -/
theorem letters_stripChars (cs : List Char) :
    letters (Text.stripChars (· == '_') cs) = letters cs := by
  unfold Text.stripChars
  rw [letters_reverse, letters_dropWhile, letters_reverse, letters_dropWhile, List.reverse_reverse]

theorem mem_of_mem_stripChars {p : Char → Bool} {cs : List Char} {c : Char}
    (member : c ∈ Text.stripChars p cs) : c ∈ cs := by
  unfold Text.stripChars at member
  have inner := (List.dropWhile_suffix p).subset (List.mem_reverse.1 member)
  exact (List.dropWhile_suffix p).subset (List.mem_reverse.1 inner)

/-- Sanitizing a text of admitted characters keeps its letters, unless there is nothing in it. -/
theorem letters_sanitizeChars {cs : List Char} (notEmpty : cs ≠ [])
    (admitted : ∀ c ∈ cs, isWordChar c = true) : letters (sanitizeChars cs) = letters cs := by
  cases cs with
  | nil => exact absurd rfl notEmpty
  | cons head rest =>
      have same :=
        map_wordChar_eq_self fun c member => admitted c (List.mem_cons_of_mem head member)
      have first := wordChar_of_isWordChar (admitted head List.mem_cons_self)
      simp only [sanitizeChars, same, first]
      split
      · simp
      · simp

/-- The letters of a module name are the letters and digits of the text, when it has any. -/
theorem letters_snakeChars {cs : List Char} (anyLetter : smallLetters cs ≠ []) :
    letters (snakeChars cs) = smallLetters cs := by
  have stripped : letters (Text.stripChars (· == '_') (smallWords {} cs)) = smallLetters cs := by
    rw [letters_stripChars, letters_smallWords]
  unfold snakeChars
  rw [letters_sanitizeChars, stripped]
  · intro none
    rw [none] at stripped
    exact anyLetter stripped.symm
  · intro c member
    exact isWordChar_of_mem_smallWords (mem_of_mem_stripChars member)

theorem isWordChar_of_mem_snake {s : String} {c : Char} (member : c ∈ (snake s).toList) :
    isWordChar c = true := by
  simp only [snake, String.toList_ofList] at member
  exact isWordChar_of_mem_sanitizeChars member

theorem isAlphanum_of_mem_capitalWords {start : Bool} {cs : List Char} {c : Char}
    (member : c ∈ capitalWords start cs) : c.isAlphanum = true := by
  induction cs generalizing start with
  | nil => exact absurd member (List.not_mem_nil)
  | cons head rest ih =>
      unfold capitalWords at member
      split at member
      · rename_i word
        rcases List.mem_cons.1 member with rfl | later
        · split
          · exact isAlphanum_toUpper word
          · exact word
        · exact ih later
      · exact ih member

theorem isWordChar_of_mem_pascal {s : String} {c : Char} (member : c ∈ (pascal s).toList) :
    isWordChar c = true := by
  rw [pascal, String.toList_ofList, pascalChars] at member
  split at member
  · exact List.all_eq_true.1
      (by decide : ['U', 'n', 'n', 'a', 'm', 'e', 'd'].all isWordChar = true) c member
  · rename_i first rest words
    have word : ∀ d ∈ first :: rest, isWordChar d = true := by
      rw [← words]
      exact fun d isWord => isWordChar_of_isAlphanum (isAlphanum_of_mem_capitalWords isWord)
    split at member
    · rcases List.mem_cons.1 member with rfl | later
      · decide
      · exact word c later
    · exact word c member

/-- A module name has no slash. -/
theorem slash_not_mem_snake (s : String) : '/' ∉ (snake s).toList := by
  intro member
  exact absurd (isWordChar_of_mem_snake member) (by decide)

/-- A letter of ASCII, or an underscore. -/
def OpensIdentifier (c : Char) : Prop :=
  ('A' ≤ c ∧ c ≤ 'Z') ∨ ('a' ≤ c ∧ c ≤ 'z') ∨ c = '_'

/-- The identifiers of generated sources: `[A-Za-z_][A-Za-z0-9_]*`. -/
def IsIdentifier (word : List Char) : Prop :=
  ∃ first rest, word = first :: rest ∧ OpensIdentifier first ∧
    ∀ c ∈ rest, OpensIdentifier c ∨ ('0' ≤ c ∧ c ≤ '9')

theorem isUpper_iff_le {c : Char} : c.isUpper = true ↔ 'A' ≤ c ∧ c ≤ 'Z' :=
  decide_eq_true_iff

theorem isLower_iff_le {c : Char} : c.isLower = true ↔ 'a' ≤ c ∧ c ≤ 'z' :=
  (Bool.and_eq_true_iff).trans (and_congr decide_eq_true_iff decide_eq_true_iff)

theorem isDigit_iff_le {c : Char} : c.isDigit = true ↔ '0' ≤ c ∧ c ≤ '9' :=
  (Bool.and_eq_true_iff).trans (and_congr decide_eq_true_iff decide_eq_true_iff)

theorem isAlpha_iff_le {c : Char} : c.isAlpha = true ↔ ('A' ≤ c ∧ c ≤ 'Z') ∨ ('a' ≤ c ∧ c ≤ 'z') :=
  (Bool.or_eq_true_iff).trans (or_congr isUpper_iff_le isLower_iff_le)

theorem isWordChar_iff {c : Char} :
    isWordChar c = true ↔ OpensIdentifier c ∨ ('0' ≤ c ∧ c ≤ '9') := by
  have classes : c.isAlphanum = true ↔ c.isAlpha = true ∨ c.isDigit = true := Bool.or_eq_true_iff
  simp only [isWordChar, Bool.or_eq_true, classes, isAlpha_iff_le, isDigit_iff_le, beq_iff_eq,
    OpensIdentifier]
  grind

end Flowsmith.Naming
