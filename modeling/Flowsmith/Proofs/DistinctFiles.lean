import Flowsmith.Proofs.ClassFiles
import Flowsmith.Proofs.ModuleNames

/-!
The files of one process. Its types are named by the stem and different endings, and their modules
by the words of these names. Where the words of the stem end and those of the ending begin depends
on the stem, so modules are told apart by their letters. The types for the messages of triggers are
the exception, as they share their letters before the trigger. But there a capital follows a small
letter, which always divides words: the module ends with the words of the trigger.
-/

namespace Flowsmith

namespace Naming

section Boundary

/-- Behind a small letter or a digit, the scan goes on alike, whatever came before. -/
theorem exists_smallWords_append {c : Char} (word : c.isAlphanum = true) (small : c.isUpper = false)
    (state : SnakeState) (front : List Char) :
    ∃ words, ∀ back, smallWords state (front ++ c :: back) =
      words ++ c :: smallWords ⟨some c, true⟩ back := by
  fun_induction smallWords state front with
  | case1 => exact ⟨[], fun back => by simp [smallWords, word, small]⟩
  | case2 state head rest upper lowered after ih =>
      obtain ⟨words, scanned⟩ := ih
      exact ⟨'_' :: head.toLower :: words, fun back => by simp [smallWords, upper, after, scanned]⟩
  | case3 state head rest upper lowered after ih =>
      obtain ⟨words, scanned⟩ := ih
      exact ⟨head.toLower :: words, fun back => by simp [smallWords, upper, after, scanned]⟩
  | case4 state head rest notUpper inWord ih =>
      obtain ⟨words, scanned⟩ := ih
      exact ⟨head :: words, fun back => by simp [smallWords, notUpper, inWord, scanned]⟩
  | case5 state head rest notUpper notWord opening ih =>
      obtain ⟨words, scanned⟩ := ih
      exact ⟨words, fun back => by simp [smallWords, notUpper, notWord, opening, scanned]⟩
  | case6 state head rest notUpper notWord inside ih =>
      obtain ⟨words, scanned⟩ := ih
      exact ⟨'_' :: words, fun back => by simp [smallWords, notUpper, notWord, inside, scanned]⟩

/-- A capital behind a small letter or a digit is parted from it, and is scanned as at the
    beginning. -/
theorem smallWords_capital {d : Char} (capital : d.isUpper = true) (last : Option Char)
    (back : List Char) :
    smallWords ⟨last, true⟩ (d :: back) = '_' :: smallWords {} (d :: back) := by
  simp [smallWords, capital]

theorem rdropWhile_append {p : Char → Bool} {front back : List Char}
    (kept : back.rdropWhile p ≠ []) :
    (front ++ back).rdropWhile p = front ++ back.rdropWhile p := by
  have some : back.reverse.dropWhile p ≠ [] := by simpa [List.rdropWhile] using kept
  simp [List.rdropWhile, List.dropWhile_append, some]

/-- A capital behind a small letter or a digit divides the words of a text. -/
theorem wordsOf_append {c d : Char} (word : c.isAlphanum = true) (small : c.isUpper = false)
    (capital : d.isUpper = true) (front back : List Char) :
    wordsOf (front ++ c :: d :: back) = wordsOf (front ++ [c]) ++ '_' :: wordsOf (d :: back) := by
  obtain ⟨words, scanned⟩ := exists_smallWords_append word small {} front
  have unstripped : wordsOf (front ++ [c]) = words ++ [c] := by
    rw [wordsOf_eq, scanned]
    exact List.rdropWhile_concat_neg _ _ _ (by simpa using ne_underscore_of_isAlphanum word)
  have notEmpty := wordsOf_ne_nil (List.mem_cons_self (l := back)) (isAlphanum_of_isUpper capital)
  have divided : smallWords {} (front ++ c :: d :: back) =
      (words ++ [c, '_']) ++ smallWords {} (d :: back) := by
    rw [scanned, smallWords_capital capital]
    simp
  rw [wordsOf_eq] at notEmpty
  rw [wordsOf_eq (front ++ c :: d :: back), divided, rdropWhile_append notEmpty, unstripped,
    wordsOf_eq (d :: back)]
  simp

end Boundary

theorem sanitizeChars_append {front back : List Char} (notEmpty : front ≠ [])
    (admitted : ∀ c ∈ back, isWordChar c = true) :
    sanitizeChars (front ++ back) = sanitizeChars front ++ back := by
  cases front with
  | nil => exact absurd rfl notEmpty
  | cons c rest => simp [sanitizeChars, map_wordChar_eq_self admitted]

/-- The words of a text that begins with a capital are an identifier as they are. -/
theorem snakeChars_capital {d : Char} (capital : d.isUpper = true) (back : List Char) :
    snakeChars (d :: back) = wordsOf (d :: back) := by
  have word := isAlphanum_of_isUpper capital
  have noDigit := isDigit_eq_false_of_isAlpha (isAlpha_iff.2 (.inl (isUpper_iff.1 capital)))
  have start : (wordsOf (d :: back)).head?.any Char.isDigit = false := by
    simp [head?_wordsOf, word, isDigit_toLower, noDigit]
  exact sanitizeChars_eq_self (wordsOf_ne_nil List.mem_cons_self word) start fun _ =>
    isWordChar_of_mem_wordsOf

/-- The module name of a text that ends in a small letter or a digit goes on with that of a text
    that begins with a capital. -/
theorem snake_append {s t : String} {c d : Char} (ends : s.toList.getLast? = some c)
    (word : c.isAlphanum = true)
    (small : c.isUpper = false) (starts : t.toList.head? = some d) (capital : d.isUpper = true) :
    snake (s ++ t) = snake s ++ "_" ++ snake t := by
  obtain ⟨front, lead⟩ := List.getLast?_eq_some_iff.1 ends
  obtain ⟨back, rear⟩ := List.head?_eq_some_iff.1 starts
  have words := wordsOf_append word small capital front back
  have first : wordsOf (front ++ [c]) ≠ [] := wordsOf_ne_nil (by simp) word
  have admitted : ∀ e ∈ '_' :: wordsOf (d :: back), isWordChar e = true := by
    rw [List.forall_mem_cons]
    exact ⟨by decide, fun _ => isWordChar_of_mem_wordsOf⟩
  have chars : snakeChars (front ++ c :: d :: back) =
      snakeChars (front ++ [c]) ++ '_' :: snakeChars (d :: back) := by
    rw [snakeChars_capital capital, snakeChars_eq, words, sanitizeChars_append first admitted,
      snakeChars_eq]
  rw [← String.toList_inj]
  simpa [snake, lead, rear] using chars

/-- The first of the words run together begins with a capital, or with a digit. -/
theorem capital_of_capitalWords {cs : List Char} {first : Char} {rest : List Char}
    (words : capitalWords true cs = first :: rest) :
    first.isUpper = true ∨ first.isDigit = true := by
  induction cs with
  | nil => simp [capitalWords] at words
  | cons c others ih =>
      unfold capitalWords at words
      split at words
      · rename_i word
        obtain ⟨rfl, -⟩ := List.cons.inj words
        exact isUpper_or_isDigit_toUpper word
      · exact ih words

/-- A type name begins with a capital, whatever the text. -/
theorem exists_head?_pascal (s : String) :
    ∃ d, (pascal s).toList.head? = some d ∧ d.isUpper = true := by
  rw [pascal, String.toList_ofList, pascalChars]
  cases words : capitalWords true s.toList with
  | nil => exact ⟨'U', rfl, by decide⟩
  | cons first rest =>
      by_cases digit : first.isDigit = true
      · exact ⟨'P', by simp [digit], by decide⟩
      · refine ⟨first, by simp [digit], ?_⟩
        exact (capital_of_capitalWords words).resolve_right digit

end Naming

namespace Names

/-- The types of a process, with the consumer of one trigger and the producer of another. -/
def classes (n : Names) (consumed produced : String) : List String :=
  n.fixedClasses ++ [n.consumerClass consumed, n.producerClass produced]

/-- What follows the stem in the names of the types for messages, before the trigger. -/
def messageLeads : List String :=
  ["MessageConsumer", "MessageProducer"]

/-- Their letters are not empty and begin no ending of another type, and they end in a small
    letter. -/
theorem messageLeads_letters :
    ∀ lead ∈ messageLeads, Naming.smallLetters lead.toList ≠ [] ∧
      (∀ ending ∈ fixedEndings, ¬ Naming.smallLetters lead.toList <+:
        Naming.smallLetters ending.toList) ∧
      lead.toList.getLast? = some 'r' := by
  decide

variable {n : Names}

theorem letters_message {lead : String} (isLead : lead ∈ messageLeads) (trigger : String) :
    Naming.smallLetters (lead ++ Naming.pascal trigger).toList ≠ [] := by
  simp [(messageLeads_letters lead isLead).1]

theorem fixed_apart_message {className lead : String} (fixed : className ∈ n.fixedClasses)
    (isLead : lead ∈ messageLeads) (trigger : String) :
    (n.classPath className).same
    (n.classPath (n.stem ++ lead ++ Naming.pascal trigger)) = false := by
  rw [fixedClasses_eq] at fixed
  obtain ⟨ending, isEnding, rfl⟩ := List.mem_map.1 fixed
  rw [String.append_assoc]
  refine not_same_of_letters (fixedEndings_letters.1 ending isEnding).1
    (letters_message isLead trigger) ?_
  intro equal
  apply (messageLeads_letters lead isLead).2.1 ending isEnding
  rw [equal, String.toList_append, Naming.smallLetters_append]
  exact List.prefix_append _ _

theorem message_apart_message {lead other : String} (isLead : lead ∈ messageLeads)
    (isOther : other ∈ messageLeads) (different : lead ≠ other) (t u : String) :
    (n.classPath (n.stem ++ lead ++ Naming.pascal t)).same
      (n.classPath (n.stem ++ other ++ Naming.pascal u)) = false := by
  -- The leads are of one length, so the triggers cannot make up for the difference.
  have apart : ∀ lead ∈ messageLeads, ∀ other ∈ messageLeads, lead ≠ other →
      (Naming.smallLetters lead.toList).length = (Naming.smallLetters other.toList).length ∧
      Naming.smallLetters lead.toList ≠ Naming.smallLetters other.toList := by decide
  obtain ⟨length, letters⟩ := apart lead isLead other isOther different
  rw [String.append_assoc, String.append_assoc]
  refine not_same_of_letters (letters_message isLead t) (letters_message isOther u) ?_
  intro equal
  rw [String.toList_append, String.toList_append, Naming.smallLetters_append,
    Naming.smallLetters_append] at equal
  exact letters (List.append_inj_left equal length)

/-- No two types of a process share a file. -/
theorem pairwise_classes (n : Names) (consumed produced : String) :
    (n.classes consumed produced).Pairwise fun c d => (n.classPath c).same
    (n.classPath d) = false := by
  refine List.pairwise_append.2 ⟨n.pairwise_fixedClasses, ?_, ?_⟩
  · rw [List.pairwise_pair]
    exact message_apart_message (by decide) (by decide) (by decide) consumed produced
  · intro className fixed message member
    simp only [List.mem_cons, List.not_mem_nil, or_false] at member
    rcases member with rfl | rfl
    · exact fixed_apart_message fixed (by decide) consumed
    · exact fixed_apart_message fixed (by decide) produced

theorem isClass_of_mem_classes {consumed produced className : String}
    (member : className ∈ n.classes consumed produced) : n.IsClass className := by
  rcases List.mem_append.1 member with fixed | message
  · exact .fixed fixed
  · simp only [List.mem_cons, List.not_mem_nil, or_false] at message
    rcases message with rfl | rfl
    · exact .consumer consumed
    · exact .producer produced

/-- The module of a type for the messages of a trigger ends with the words of the trigger. -/
theorem moduleOf_message {lead : String} (isLead : lead ∈ messageLeads) (n : Names)
    (trigger : String) :
    moduleOf (n.stem ++ lead ++ Naming.pascal trigger) =
      moduleOf (n.stem ++ lead) ++ "_" ++ Naming.snake (Naming.pascal trigger) := by
  have ends : (n.stem ++ lead).toList.getLast? = some 'r' := by
    simp [(messageLeads_letters lead isLead).2.2]
  obtain ⟨d, starts, capital⟩ := Naming.exists_head?_pascal trigger
  exact Naming.snake_append ends (by decide) (by decide) starts capital

theorem same_message_iff {lead : String} (isLead : lead ∈ messageLeads) (n : Names) (t u : String) :
    (n.classPath (n.stem ++ lead ++ Naming.pascal t)).same
        (n.classPath (n.stem ++ lead ++ Naming.pascal u)) = true ↔
      Naming.snake (Naming.pascal t) = Naming.snake (Naming.pascal u) := by
  rw [same_classPath_iff, moduleOf_message isLead, moduleOf_message isLead]
  exact String.append_right_inj _

/-- The files of the types of a process, for any two triggers, never meet. -/
structure FilesApart (n : Names) (t u : String) : Prop where
  /-- No two types share a file. -/
  distinct : (n.classes t u).Pairwise fun c d => (n.classPath c).same (n.classPath d) = false
  /-- No type has the file of the container. -/
  container : ∀ className ∈ n.classes t u, (n.classPath className).same Container.path = false
  /-- The consumers of two triggers share a file exactly when the type names of the triggers come to
      the same words. -/
  consumers : (n.classPath (n.consumerClass t)).same (n.classPath (n.consumerClass u)) = true ↔
    Naming.snake (Naming.pascal t) = Naming.snake (Naming.pascal u)
  /-- The producers of two triggers share a file exactly when the type names of the triggers come to
      the same words. -/
  producers : (n.classPath (n.producerClass t)).same (n.classPath (n.producerClass u)) = true ↔
    Naming.snake (Naming.pascal t) = Naming.snake (Naming.pascal u)

/-- Whatever the id, the package and the triggers of a process, its types have a file each. -/
theorem filesApart_ofId (processId package t u : String) :
    (ofId processId package).FilesApart t u where
  distinct := pairwise_classes _ t u
  container _ member := classPath_not_container (isClass_of_mem_classes member)
  consumers := same_message_iff (by decide) _ t u
  producers := same_message_iff (by decide) _ t u

/-- Triggers whose types have different names can share a file. -/
example : Naming.pascal "ab" ≠ Naming.pascal "a-b" ∧
    Naming.snake (Naming.pascal "ab") = Naming.snake (Naming.pascal "a-b") := by
  decide

end Names

end Flowsmith
