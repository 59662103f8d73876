import Flowsmith.Proofs.Containment
import Flowsmith.Proofs.FieldNames

/-!
Qualified names of generated types. A type is written to a file and referred to by a qualified name,
and the two are derived from its package and name in different ways. For a definition that is
accepted, they say the same: the directories of the file are the modules of the name, and the file
is the last of them. All segments are identifiers. But segments of the package are taken as they
are, so a word of the language comes through; no other segment is one.
-/

namespace Flowsmith

namespace Naming

/-- An identifier goes on with any admitted characters. -/
theorem IsIdentifier.append {word more : List Char} (isIdentifier : IsIdentifier word)
    (admitted : ∀ c ∈ more, isWordChar c = true) : IsIdentifier (word ++ more) := by
  obtain ⟨first, rest, rfl, opens, continues⟩ := isIdentifier
  refine ⟨first, rest ++ more, rfl, opens, ?_⟩
  intro c member
  rcases List.mem_append.1 member with inRest | inMore
  · exact continues c inRest
  · exact isWordChar_iff.1 (admitted c inMore)

theorem IsFieldName.isIdentifier {word : List Char} (isFieldName : IsFieldName word) :
    IsIdentifier word := by
  obtain ⟨first, rest, rfl, opens, small⟩ := isFieldName
  refine ⟨first, rest, rfl, .inr opens, ?_⟩
  intro c member
  exact (small c member).imp_left .inr

theorem IsFieldName.isSmall {word : List Char} (isFieldName : IsFieldName word) :
    ∀ c ∈ word, IsSmall c := by
  obtain ⟨first, rest, rfl, opens, small⟩ := isFieldName
  intro c member
  rcases List.mem_cons.1 member with rfl | inRest
  · exact .inl opens
  · exact small c inRest

/-- A type name begins with a letter, whatever the text. -/
theorem isIdentifier_pascal (s : String) : IsIdentifier (pascal s).toList := by
  rw [pascal, String.toList_ofList, pascalChars]
  have admitted : ∀ c ∈ capitalWords true s.toList, isWordChar c = true :=
    fun c member => isWordChar_of_isAlphanum (isAlphanum_of_mem_capitalWords member)
  cases words : capitalWords true s.toList with
  | nil => exact Validation.validSegment_iff.1 (by decide)
  | cons first rest =>
      rw [words] at admitted
      by_cases digit : first.isDigit = true
      · have lead : IsIdentifier ['P'] := ⟨'P', [], rfl, .inl (by decide), by simp⟩
        simp only [digit, if_true]
        exact lead.append admitted
      · rw [List.forall_mem_cons] at admitted
        simp only [digit]
        refine ⟨first, rest, rfl, ?_, fun c member => isWordChar_iff.1 (admitted.2 c member)⟩
        exact (isWordChar_iff.1 admitted.1).resolve_right fun range =>
          digit (isDigit_iff_le.2 range)

/-- The words that cannot stand in a path behind its first segment: those that the generated
    language uses or reserves, and the underscore. -/
def barredWords : List String :=
  "_" :: "Self" :: reservedWords

end Naming

namespace Names

/-- What the endings of all type names begin with. -/
def leads : List String :=
  ["Message", "Model", "Process", "Resource"]

variable {n : Names} {className : String}

/-- The ending of a type name: words that begin with one of the leads. -/
def IsEnding (ending : List Char) : Prop :=
  (∀ c ∈ ending, Naming.isWordChar c = true) ∧ ∃ lead ∈ leads, lead.toList <+: ending

-- Checked over the characters of the ending: a search for an instance may come upon one that tries
-- all characters.
instance (ending : List Char) : Decidable (IsEnding ending) :=
  @instDecidableAnd _ _ (List.decidableBAll _ ending) (List.decidableBEx _ leads)

theorem IsEnding.append {ending : List Char} (isEnding : IsEnding ending) (trigger : String) :
    IsEnding (ending ++ (Naming.pascal trigger).toList) := by
  obtain ⟨plain, lead, isLead, begins⟩ := isEnding
  refine ⟨?_, lead, isLead, begins.trans (List.prefix_append _ _)⟩
  intro c member
  rcases List.mem_append.1 member with inEnding | inTrigger
  · exact plain c inEnding
  · exact Naming.isWordChar_of_mem_pascal inTrigger

/-- A type is named by the stem and an ending. -/
theorem IsClass.exists_ending (owned : n.IsClass className) :
    ∃ ending, className.toList = n.stem.toList ++ ending ∧ IsEnding ending := by
  cases owned with
  | fixed member =>
      have isEnding : ∀ e ∈ fixedEndings, IsEnding e.toList := by decide
      rw [fixedClasses_eq] at member
      obtain ⟨ending, inEndings, rfl⟩ := List.mem_map.1 member
      exact ⟨ending.toList, String.toList_append, isEnding ending inEndings⟩
  | consumer trigger =>
      have isEnding : IsEnding "MessageConsumer".toList := by decide
      refine ⟨_, ?_, isEnding.append trigger⟩
      rw [consumerClass, String.toList_append, String.toList_append, List.append_assoc]
  | producer trigger =>
      have isEnding : IsEnding "MessageProducer".toList := by decide
      refine ⟨_, ?_, isEnding.append trigger⟩
      rw [producerClass, String.toList_append, String.toList_append, List.append_assoc]

theorem IsClass.isIdentifier {processId package : String}
    (owned : (ofId processId package).IsClass className) :
    Naming.IsIdentifier className.toList := by
  obtain ⟨ending, chars, admitted, -⟩ := owned.exists_ending
  rw [chars]
  exact (Naming.isIdentifier_pascal processId).append admitted

/-- The letters of a type name hold those of a lead. -/
theorem IsClass.exists_infix (owned : n.IsClass className) :
    ∃ lead ∈ leads, Naming.smallLetters lead.toList <:+: Naming.smallLetters className.toList := by
  obtain ⟨ending, chars, -, lead, isLead, more, rfl⟩ := owned.exists_ending
  refine ⟨lead, isLead, Naming.smallLetters n.stem.toList, Naming.smallLetters more, ?_⟩
  rw [chars, Naming.smallLetters_append, Naming.smallLetters_append, List.append_assoc]

/-- The letters of the words that are barred hold those of no lead. -/
theorem not_infix_barredWords :
    ∀ word ∈ Naming.barredWords, ∀ lead ∈ leads,
      ¬ Naming.smallLetters lead.toList <:+: Naming.letters word.toList ∧
      ¬ Naming.smallLetters lead.toList <:+: Naming.smallLetters word.toList := by
  decide +kernel

theorem IsClass.not_barred (owned : n.IsClass className) :
    moduleOf className ∉ Naming.barredWords ∧ className ∉ Naming.barredWords := by
  obtain ⟨lead, isLead, within⟩ := owned.exists_infix
  constructor
  · intro barred
    have anyLetter : Naming.smallLetters className.toList ≠ [] := by
      intro none
      rw [none, List.infix_nil] at within
      exact (by decide : ∀ lead ∈ leads, Naming.smallLetters lead.toList ≠ []) lead isLead within
    have letters : Naming.letters (moduleOf className).toList =
        Naming.smallLetters className.toList := by
      rw [moduleOf, Naming.snake, String.toList_ofList, Naming.letters_snakeChars anyLetter]
    rw [← letters] at within
    exact (not_infix_barredWords _ barred lead isLead).1 within
  · intro barred
    exact (not_infix_barredWords _ barred lead isLead).2 within

end Names

/-- A qualified name and the file of its type say the same. -/
structure Names.Agree (n : Names) (className : String) (directories : List String) (stem : String) :
    Prop where
  /-- The type is written to a file of that stem in these directories. -/
  file : (n.classPath className).components = directories.map .name ++ [.name (stem ++ ".rs")]
  /-- The qualified name of the type goes through the directories. -/
  path : n.classModulePath className =
    String.intercalate "::" ("crate" :: directories ++ [stem, className])
  /-- Each segment of the name is an identifier. -/
  identifiers : ∀ segment ∈ "crate" :: directories ++ [stem, className],
    Naming.IsIdentifier segment.toList
  /-- The stem is in small letters. -/
  small : ∀ c ∈ stem.toList, Naming.IsSmall c

/-- The qualified name of each type of an accepted definition leads through the directories of its
    file to the file and to the type. -/
theorem classModulePath_agrees {d : Definition} (ok : d.validate.isOk = true) {className : String}
    (owned : (Names.ofId d.id d.package).IsClass className) :
    ∃ directories stem, (Names.ofId d.id d.package).Agree className directories stem := by
  have plain : PlainPackage (Names.ofId d.id d.package).package := plainPackage_of_validate ok
  have isModule := Naming.isFieldName_snake className
  refine ⟨packageSegments d.package, Names.moduleOf className, ?_, ?_, ?_, isModule.isSmall⟩
  · have directories := Path.components_ofPieces fun _ member => plain.isFileName member
    rw [Names.components_classPath, packageDir, directories, append_extension]
    rfl
  · rw [Names.classModulePath, Names.classSegments_eq plain]
    rfl
  · intro segment member
    simp only [List.cons_append, List.mem_cons, List.mem_append, List.not_mem_nil,
      or_false] at member
    rcases member with rfl | inPackage | rfl | rfl
    · exact Validation.validSegment_iff.1 (by decide)
    · exact isIdentifier_of_mem_packageSegments ok inPackage
    · exact isModule.isIdentifier
    · exact owned.isIdentifier

/-- A process in a package. -/
def Definition.packaged (package : String) : Definition :=
  { id := "order-flow", package, nodes := [{ id := "start", kind := .start none }] }

theorem classModulePath_agrees_consumer :
    (Definition.packaged "com.acme").validate.isOk = true ∧
      (Names.ofId "order-flow" "com.acme").classModulePath
          ((Names.ofId "order-flow" "com.acme").consumerClass "paymentReceived") =
        "crate::com::acme::order_flow_message_consumer_payment_received::" ++
          "OrderFlowMessageConsumerPaymentReceived" ∧
      ∃ directories stem, (Names.ofId "order-flow" "com.acme").Agree
        ((Names.ofId "order-flow" "com.acme").consumerClass "paymentReceived") directories
        stem := by
  have ok : (Definition.packaged "com.acme").validate.isOk = true := by decide +kernel
  exact ⟨ok, by decide +kernel, classModulePath_agrees ok (.consumer "paymentReceived")⟩

/-- Of the segments behind the first one, none but those of the package can be words of the
    language. -/
theorem barred_segments_of_validate {d : Definition} (ok : d.validate.isOk = true)
    {className : String} (owned : (Names.ofId d.id d.package).IsClass className) :
    (Names.moduleOf className ∉ Naming.barredWords ∧ className ∉ Naming.barredWords) ∧
      ((∀ segment ∈ ((Names.ofId d.id d.package).classSegments className).tail,
          segment ∉ Naming.barredWords) ↔
        ∀ segment ∈ packageSegments d.package, segment ∉ Naming.barredWords) := by
  have plain : PlainPackage (Names.ofId d.id d.package).package := plainPackage_of_validate ok
  obtain ⟨isModule, isType⟩ := owned.not_barred
  refine ⟨⟨isModule, isType⟩, ?_⟩
  rw [Names.classSegments_eq plain, List.cons_append, List.tail_cons, List.forall_mem_append]
  constructor
  · rintro ⟨inPackage, -⟩
    exact inPackage
  · intro inPackage
    refine ⟨inPackage, ?_⟩
    simp [isModule, isType]

theorem barred_segments_of_validate_process :
    (Definition.packaged "com.acme").validate.isOk = true ∧
      ∀ segment ∈ ((Names.ofId "order-flow" "com.acme").classSegments
          (Names.ofId "order-flow" "com.acme").processClass).tail,
        segment ∉ Naming.barredWords := by
  have ok : (Definition.packaged "com.acme").validate.isOk = true := by decide +kernel
  have owned : (Names.ofId "order-flow" "com.acme").IsClass
      (Names.ofId "order-flow" "com.acme").processClass :=
    .fixed (by simp [Names.fixedClasses])
  exact ⟨ok, (barred_segments_of_validate ok owned).2.2 (by decide +kernel)⟩

/-- A package that is accepted can bring a word of the language into a qualified name. -/
theorem segments_barred :
    ¬ ∀ (d : Definition) (className : String), d.validate.isOk = true →
      (Names.ofId d.id d.package).IsClass className →
        ∀ segment ∈ ((Names.ofId d.id d.package).classSegments className).tail,
          segment ∉ Naming.barredWords := by
  intro legal
  have ok : (Definition.packaged "com.type").validate.isOk = true := by decide +kernel
  exact legal (.packaged "com.type") _ ok (.consumer "paymentReceived") "type" (by decide +kernel)
    (by decide +kernel)

end Flowsmith
