import Flowsmith.Proofs.CodeReading

/-!
Lines of code, part by part. A line is put together from fixed parts, words, qualified names, quoted
texts and token streams, and what is read in it is what is read in each of them.
-/

namespace Flowsmith.Source

/-- A text of one line in which these names and functions are read, and which does not go on with a
    name. -/
structure Reads (text : String) (refs : List (List String)) (fns : List String) : Prop where
  oneLine : '\n' ∉ text.toList
  unjoined : (symbols text.toList).head? ≠ some (.mark ':')
  references : referencesIn (symbols text.toList) = refs
  functions : functionsIn (symbols text.toList) = fns

variable {text : String} {refs : List (List String)} {fns : List String}

theorem reads_empty : Reads "" [] [] :=
  ⟨by decide, by decide, by decide, by decide⟩

/-- What a part in front shows is read before the rest. -/
theorem Reads.behind {front : String} {row : List Symbol} (reads : Reads text refs fns)
    (oneLine : '\n' ∉ front.toList)
    (shown : symbols (front ++ text).toList = row ++ symbols text.toList)
    (unjoined : row.head? ≠ some (.mark ':')) (apart : colonsAfter 0 row ≠ 2)
    (done : declaresAfter false row = false) :
    Reads (front ++ text) (referencesIn row ++ refs) (functionsIn row ++ fns) where
  oneLine := by
    rw [String.toList_append, List.mem_append, not_or]
    exact ⟨oneLine, reads.oneLine⟩
  unjoined := by
    rw [shown]
    cases row with
    | nil => exact reads.unjoined
    | cons s rest => simpa using unjoined
  references := by rw [shown, referencesIn_append apart reads.unjoined, reads.references]
  functions := by
    rw [shown, functionsIn, functionsFrom_append, done, ← reads.functions]
    rfl

section Fixed

/-! Fixed parts. What they show is computed from their characters. -/

/-- Whether a row has no names of its own, is not joined to names around it, and declares these
    functions; `declares` says whether it ends with the word that declares functions. -/
def isNameless (fns : List String) (declares : Bool) (row : List Symbol) : Bool :=
  row.head? != some (.mark ':') && colonsAfter 0 row != 2 && referencesIn row == [] &&
    functionsIn row == fns && declaresAfter false row == declares

/-- Whether a part shows such a row, and ends outside of words and quotes. -/
def isLead (fns : List String) (declares : Bool) (lead : List Char) : Bool :=
  !lead.contains '\n' && (Reading.code []).after lead = .code [] &&
    isNameless fns declares (symbols lead)

/-- Whether a part shows a row that declares nothing, and ends outside of quotes. -/
def isPart (part : List Char) : Bool :=
  !part.contains '\n' && ((Reading.code []).after part matches .code _) &&
    isNameless [] false (symbols part)

/-- Whether a part can follow a word. -/
def isApart (part : List Char) : Bool :=
  part.head?.all fun c => !Naming.isWordChar c

theorem isNameless_iff {declares : Bool} {row : List Symbol} :
    isNameless fns declares row = true ↔ row.head? ≠ some (.mark ':') ∧ colonsAfter 0 row ≠ 2 ∧
      referencesIn row = [] ∧ functionsIn row = fns ∧ declaresAfter false row = declares := by
  simp [isNameless, and_assoc]

theorem isLead_iff {declares : Bool} {lead : List Char} :
    isLead fns declares lead = true ↔ '\n' ∉ lead ∧ (Reading.code []).after lead = .code [] ∧
      isNameless fns declares (symbols lead) = true := by
  simp [isLead, and_assoc]

theorem apart_append {part : List Char} (isApart : isApart part = true) {rest : List Char}
    (apart : Token.Apart rest) : Token.Apart (part ++ rest) := by
  cases part with
  | nil => exact apart
  | cons c others =>
      intro d isHead
      obtain rfl := Option.mem_some.1 isHead
      simpa [Source.isApart] using isApart

theorem Reads.head {lead : List Char} {fns' : List String} (isLead : isLead fns false lead = true)
    (reads : Reads text refs fns') : Reads (String.ofList lead ++ text) refs (fns ++ fns') := by
  obtain ⟨oneLine, clean, nameless⟩ := isLead_iff.1 isLead
  obtain ⟨unjoined, apart, names, functions, done⟩ := isNameless_iff.1 nameless
  have shown : symbols (String.ofList lead ++ text).toList =
      symbols lead ++ symbols text.toList := by
    rw [String.toList_append, String.toList_ofList, symbols_append clean]
  simpa [names, functions] using reads.behind (by simpa using oneLine) shown unjoined apart done

theorem Reads.lead {lead : List Char} (isLead : isLead [] false lead = true)
    (reads : Reads text refs fns) : Reads (String.ofList lead ++ text) refs fns :=
  reads.head isLead

end Fixed

section Words

theorem newline_not_mem_word {word : String} (isWord : isWord word = true) : '\n' ∉ word.toList :=
  fun member => absurd ((isWord_iff.1 isWord).2 _ member) (by decide)

theorem colonsAfter_append (colons : Nat) (front back : List Symbol) :
    colonsAfter colons (front ++ back) = colonsAfter (colonsAfter colons front) back := by
  induction front generalizing colons with
  | nil => rfl
  | cons s rest ih =>
      cases s with
      | word w => rw [List.cons_append, colonsAfter, colonsAfter, ih]
      | mark c =>
          rw [List.cons_append, colonsAfter, colonsAfter]
          split <;> exact ih _
      | quote t => rw [List.cons_append, colonsAfter, colonsAfter, ih]

theorem declaresAfter_append (declares : Bool) (front back : List Symbol) :
    declaresAfter declares (front ++ back) = declaresAfter (declaresAfter declares front) back := by
  induction front generalizing declares with
  | nil => rfl
  | cons s rest ih => cases s <;> rw [List.cons_append, declaresAfter, declaresAfter, ih]

theorem referencesIn_word (name : String) : referencesIn [.word name] = [] := by
  simp [referencesIn, namesFrom, ended, isRooted]

/-- A function is declared by its name, after the word for that. -/
theorem Reads.function {lead : List Char} {name : String} (isLead : isLead [] true lead = true)
    (isName : isWord name = true) (other : name ≠ "fn") (apart : Token.Apart text.toList)
    (reads : Reads text refs fns) :
    Reads (String.ofList lead ++ name ++ text) refs (name :: fns) := by
  obtain ⟨oneLine, clean, nameless⟩ := isLead_iff.1 isLead
  obtain ⟨unjoined, joint, names, functions, declares⟩ := isNameless_iff.1 nameless
  have shown : symbols (String.ofList lead ++ name ++ text).toList =
      (symbols lead ++ [.word name]) ++ symbols text.toList := by
    rw [String.append_assoc, String.toList_append, String.toList_ofList, symbols_append clean,
      String.toList_append, symbols_word isName apart, List.append_assoc]
    rfl
  have referred : referencesIn (symbols lead ++ [.word name]) = [] := by
    rw [referencesIn_append joint (by simp), names, referencesIn_word]
    rfl
  have declared : functionsIn (symbols lead ++ [.word name]) = [name] := by
    rw [functionsIn, functionsFrom_append, declares]
    rw [functionsIn] at functions
    rw [functions]
    rfl
  have row := reads.behind ?_ shown ?_ ?_ ?_
  · rwa [referred, declared] at row
  · rw [String.toList_append, String.toList_ofList, List.mem_append, not_or]
    exact ⟨oneLine, newline_not_mem_word isName⟩
  · cases begins : symbols lead with
    | nil => simp
    | cons s rest =>
        rw [begins] at unjoined
        simpa using unjoined
  · rw [colonsAfter_append]
    simp [colonsAfter]
  · rw [declaresAfter_append, declares]
    simpa [declaresAfter] using other

/-- A name before a colon, which is not joined to what follows. -/
theorem Reads.label {name : String} (isName : isWord name = true) (reads : Reads text refs fns) :
    Reads (name ++ ": " ++ text) refs fns := by
  have shown : symbols (name ++ ": " ++ text).toList =
      [.word name, .mark ':'] ++ symbols text.toList := by
    have parts : (name ++ ": " ++ text).toList = name.toList ++ ':' :: ' ' :: text.toList := by simp
    have colon : Token.Apart (':' :: ' ' :: text.toList) := by
      intro c isHead
      obtain rfl := Option.mem_some.1 isHead
      decide
    rw [parts, symbols_word isName colon, symbols_mark (by decide), symbols_space]
    rfl
  have silent : referencesIn [.word name, .mark ':'] = [] := by
    simp [referencesIn, namesFrom, ended, isRooted]
  have row := reads.behind ?_ shown (by simp) (by simp [colonsAfter]) rfl
  · rwa [silent] at row
  · rw [String.toList_append, List.mem_append, not_or]
    exact ⟨newline_not_mem_word isName, by decide⟩

end Words

section Parts

/-- A part of a line in which these names are read, if no word follows it. -/
def Adds (part : String) (refs : List (List String)) : Prop :=
  ∀ text refs' fns, Token.Apart text.toList → Reads text refs' fns →
    Reads (part ++ text) (refs ++ refs') fns

theorem Adds.reads {part : String} (adds : Adds part refs) : Reads part refs [] := by
  have alone := adds "" [] [] (fun _ isHead => absurd isHead (by simp)) reads_empty
  rwa [String.append_empty, List.append_nil] at alone

/-- A part adds one list of names. -/
theorem Adds.unique {part : String} {refs' : List (List String)} (adds : Adds part refs)
    (adds' : Adds part refs') : refs = refs' :=
  adds.reads.references.symm.trans adds'.reads.references

/-- What a part adds is read in the row that it shows. -/
theorem adds_of_row {part : String} {row : List Symbol} (oneLine : '\n' ∉ part.toList)
    (shown : ∀ rest, Token.Apart rest → symbols (part.toList ++ rest) = row ++ symbols rest)
    (unjoined : row.head? ≠ some (.mark ':')) (apart : colonsAfter 0 row ≠ 2)
    (still : functionsIn row = []) (done : declaresAfter false row = false) :
    Adds part (referencesIn row) := by
  intro text refs' fns follows reads
  have whole := reads.behind oneLine
    (by rw [String.toList_append, shown _ follows]) unjoined apart done
  rwa [still] at whole

theorem adds_of_isPart {part : List Char} (isPart : isPart part = true) :
    Adds (String.ofList part) [] := by
  simp only [Source.isPart, Bool.and_eq_true, Bool.not_eq_true', List.contains_eq_mem,
    decide_eq_false_iff_not] at isPart
  obtain ⟨⟨oneLine, inCode⟩, nameless⟩ := isPart
  obtain ⟨unjoined, apart, names, functions, done⟩ := isNameless_iff.1 nameless
  rw [← names]
  refine adds_of_row (by simpa using oneLine) (fun rest follows => ?_) unjoined apart functions done
  rw [String.toList_ofList]
  cases ends : (Reading.code []).after part with
  | code word => exact symbolsFrom_append_apart ends follows
  | quotation before escapes => simp [ends] at inCode

theorem adds_word {name : String} (isName : isWord name = true) (other : name ≠ "fn") :
    Adds name [] := by
  rw [← referencesIn_word name]
  refine adds_of_row (newline_not_mem_word isName) (fun rest follows => ?_) (by simp)
    (by simp [colonsAfter]) rfl (by simpa [declaresAfter] using other)
  rw [symbols_word isName follows]
  rfl

theorem adds_quoted (s : String) : Adds (Text.quoted s) [] := by
  have silent : referencesIn [.quote (Text.quoted s)] = [] := rfl
  rw [← silent]
  exact adds_of_row (newline_not_mem_quoted s) (fun rest _ => symbols_quoted s rest) (by simp)
    (by simp [colonsAfter]) rfl rfl

theorem Adds.append {part more : String} {refs' : List (List String)} (first : Adds part refs)
    (second : Adds more refs') (isApart : isApart more.toList = true) :
    Adds (part ++ more) (refs ++ refs') := by
  intro text refs'' fns follows reads
  rw [String.append_assoc, List.append_assoc]
  refine first _ _ _ ?_ (second _ _ _ follows reads)
  rw [String.toList_append]
  exact apart_append isApart follows

/-- Quoted texts, each with a comma after it. -/
theorem adds_join_quoted (names : List String) :
    Adds (String.join (names.map fun name => Text.quoted name ++ ", ")) [] := by
  induction names with
  | nil => exact adds_of_isPart (by decide : isPart [] = true)
  | cons name rest ih =>
      intro text refs' fns follows reads
      rw [List.map_cons, String.join_cons, String.append_assoc, String.append_assoc]
      refine adds_quoted name _ _ _ ?_ (Reads.lead (by decide) (ih text refs' fns follows reads))
      intro c isHead
      obtain rfl : ',' = c := by simpa using isHead
      decide

/-- Whether a fixed part ends outside of quotes, shows neither names nor functions, and can follow a
    word. -/
def isTail (part : List Char) : Bool :=
  isPart part && isApart part

theorem Adds.append_tail {part : String} {tail : List Char} (adds : Adds part refs)
    (ends : isTail tail = true) : Adds (part ++ String.ofList tail) refs := by
  rw [isTail, Bool.and_eq_true] at ends
  have both := adds.append (adds_of_isPart ends.1) (by simpa using ends.2)
  rwa [List.append_nil] at both

/-- A part between two fixed ones, of which the first may declare functions. -/
theorem Adds.reads_around {front back : List Char} {part : String}
    (leads : isLead fns false front = true) (adds : Adds part refs) (ends : isTail back = true) :
    Reads (String.ofList front ++ part ++ String.ofList back) refs fns := by
  have whole := (adds.append_tail ends).reads.head leads
  rwa [List.append_nil, ← String.append_assoc] at whole

/-- A part between two fixed ones. -/
theorem Adds.around {front back : List Char} {part : String} (leads : isLead [] false front = true)
    (adds : Adds part refs) (ends : isTail back = true) :
    Adds (String.ofList front ++ part ++ String.ofList back) refs := by
  intro text refs' fns follows reads
  have whole := (adds.append_tail ends text refs' fns follows reads).lead leads
  simpa only [String.append_assoc] using whole

end Parts

section Paths

/-! Qualified names. -/

/-- What follows the first segment of a qualified name. -/
def qualifiers (segments : List (List Char)) : List Char :=
  segments.flatMap fun segment => [':', ':'] ++ segment

theorem intercalate_cons_qualifiers (first : List Char) (rest : List (List Char)) :
    [':', ':'].intercalate (first :: rest) = first ++ qualifiers rest := by
  induction rest generalizing first with
  | nil => simp [qualifiers]
  | cons next others ih =>
      rw [List.intercalate_cons_cons, ih]
      simp only [qualifiers, List.flatMap_cons, List.append_assoc]

theorem apart_qualifiers_append (segments : List (List Char)) {rest : List Char}
    (apart : Token.Apart rest) : Token.Apart (qualifiers segments ++ rest) := by
  cases segments with
  | nil => exact apart
  | cons segment others =>
      intro c isHead
      obtain rfl : ':' = c := by simpa [qualifiers] using isHead
      decide

theorem symbols_qualifiers {segments : List String} (words : ∀ s ∈ segments, isWord s = true)
    {rest : List Char} (apart : Token.Apart rest) :
    symbols (qualifiers (segments.map String.toList) ++ rest) =
      qualifierSymbols segments ++ symbols rest := by
  induction segments with
  | nil => rfl
  | cons segment others ih =>
      rw [List.forall_mem_cons] at words
      have shown : qualifiers ((segment :: others).map String.toList) ++ rest =
          ':' :: ':' :: (segment.toList ++ (qualifiers (others.map String.toList) ++ rest)) := by
        simp [qualifiers]
      rw [shown, symbols_mark (by decide), symbols_mark (by decide),
        symbols_word words.1 (apart_qualifiers_append _ apart), ih words.2]
      rfl

/-- The segments of a qualified name that begins at the root module and can be read back. -/
structure IsQualified (segments : List String) : Prop where
  rooted : segments.head? = some "crate"
  notAlone : segments.tail ≠ []
  words : ∀ s ∈ segments, isWord s = true
  last : segments.getLast? ≠ some "fn"

theorem colonsAfter_qualifiers (segments : List String) :
    colonsAfter 0 (qualifierSymbols segments) = 0 := by
  induction segments with
  | nil => rfl
  | cons segment others ih =>
      rw [qualifierSymbols, List.flatMap_cons, colonsAfter_append]
      exact ih

theorem declaresAfter_qualifiers (segments : List String) (last : segments.getLast? ≠ some "fn") :
    declaresAfter false (qualifierSymbols segments) = false := by
  rcases List.eq_nil_or_concat segments with rfl | ⟨front, segment, rfl⟩
  · rfl
  · have other : segment ≠ "fn" := by simpa using last
    rw [qualifierSymbols, List.concat_eq_append, List.flatMap_append, declaresAfter_append]
    simpa [declaresAfter] using other

theorem adds_path {segments : List String} (qualified : IsQualified segments) :
    Adds (String.intercalate "::" segments) [segments] := by
  obtain ⟨rooted, notAlone, words, last⟩ := qualified
  cases segments with
  | nil => exact absurd rooted (by simp)
  | cons first rest =>
      obtain rfl : first = "crate" := by simpa using rooted
      have notEmpty : rest ≠ [] := notAlone
      have lastOfRest : rest.getLast? ≠ some "fn" := by
        intro isLast
        rw [List.getLast?_cons, isLast] at last
        exact last rfl
      rw [List.forall_mem_cons] at words
      have chars : (String.intercalate "::" ("crate" :: rest)).toList =
          "crate".toList ++ qualifiers (rest.map String.toList) := by
        rw [String.toList_intercalate]
        exact intercalate_cons_qualifiers _ _
      have named : referencesIn (pathSymbols ("crate" :: rest)) = ["crate" :: rest] := by
        have whole := referencesIn_path rest notEmpty
          (by simp : ([] : List Symbol).head? ≠ some (.mark ':'))
        rwa [List.append_nil] at whole
      rw [← named]
      refine adds_of_row ?_ (fun after follows => ?_) (by simp [pathSymbols]) ?_ ?_ ?_
      · rw [chars]
        simp only [List.mem_append, not_or, qualifiers, List.flatMap_map, List.mem_flatMap,
          not_exists, not_and]
        exact ⟨by decide, fun segment member =>
          ⟨by decide, newline_not_mem_word (words.2 segment member)⟩⟩
      · rw [chars, List.append_assoc, symbols_word (by decide) (apart_qualifiers_append _ follows),
          symbols_qualifiers words.2 follows]
        rfl
      · have none : colonsAfter 0 (pathSymbols ("crate" :: rest)) = 0 := colonsAfter_qualifiers rest
        simp [none]
      · have whole := functionsFrom_qualifiers rest []
          (fun segment isLast isFn => lastOfRest (isFn ▸ isLast))
        rw [List.append_nil] at whole
        exact whole
      · exact declaresAfter_qualifiers rest lastOfRest

/-- An item of a qualified name. -/
theorem IsQualified.item {segments : List String} (qualified : IsQualified segments) {item : String}
    (isItem : isWord item = true) (other : item ≠ "fn") : IsQualified (segments ++ [item]) where
  rooted := by
    rw [List.head?_append, qualified.rooted]
    rfl
  notAlone := by
    cases segments with
    | nil => exact absurd qualified.rooted (by simp)
    | cons first rest => simp
  words := by
    simpa [or_imp, forall_and] using ⟨qualified.words, isItem⟩
  last := by simpa using other

theorem intercalate_append_item {segments : List String} (notEmpty : segments ≠ [])
    (item : String) :
    String.intercalate "::" segments ++ ("::" ++ item) =
      String.intercalate "::" (segments ++ [item]) := by
  cases segments with
  | nil => exact absurd rfl notEmpty
  | cons first rest =>
      rw [← String.toList_inj, String.toList_append, String.toList_intercalate,
        String.toList_intercalate, String.toList_append]
      change [':', ':'].intercalate (first.toList :: rest.map String.toList) ++
          ([':', ':'] ++ item.toList) =
        [':', ':'].intercalate (first.toList :: (rest ++ [item]).map String.toList)
      rw [intercalate_cons_qualifiers, intercalate_cons_qualifiers]
      simp [qualifiers]

/-- The constructor of a type that is named in full. -/
theorem adds_constructor {segments : List String} (qualified : IsQualified segments) :
    Adds (String.intercalate "::" segments ++ "::new") [segments ++ ["new"]] := by
  have notEmpty : segments ≠ [] := by
    rintro rfl
    exact absurd qualified.rooted (by simp)
  have item : "::new" = "::" ++ "new" := rfl
  rw [item, intercalate_append_item notEmpty]
  exact adds_path (qualified.item (by decide) (by decide))

end Paths

namespace Token

/-! Token streams that name neither the root module nor a function. -/

mutual

/-- Whether a token can be read back, and is neither of the two words. -/
def isQuiet : Token → Bool
  | .word text => isWord text && text != "crate" && text != "fn"
  | .mark c _ => isLone c
  | .literal _ => true
  | .verbatim _ => false
  | .group _ body => isQuietStream body

/-- Whether all tokens of a stream are so. -/
def isQuietStream : List Token → Bool
  | [] => true
  | t :: rest => isQuiet t && isQuietStream rest

end

@[simp] theorem isQuietStream_nil : isQuietStream [] = true := rfl

@[simp] theorem isQuietStream_cons (t : Token) (rest : List Token) :
    isQuietStream (t :: rest) = (t.isQuiet && isQuietStream rest) := rfl

@[simp] theorem isQuiet_group (bracket : Bracket) (body : List Token) :
    (Token.group bracket body).isQuiet = isQuietStream body := rfl

@[simp] theorem isQuietStream_append (ts us : List Token) :
    isQuietStream (ts ++ us) = (isQuietStream ts && isQuietStream us) := by
  induction ts with
  | nil => rfl
  | cons t rest ih =>
      rw [List.cons_append, isQuietStream_cons, isQuietStream_cons, ih, Bool.and_assoc]

theorem isQuietStream_flatMap {α : Type} {f : α → List Token} {as : List α}
    (each : ∀ a ∈ as, isQuietStream (f a) = true) : isQuietStream (as.flatMap f) = true := by
  induction as with
  | nil => rfl
  | cons a rest ih =>
      rw [List.forall_mem_cons] at each
      rw [List.flatMap_cons, isQuietStream_append, each.1, ih each.2]
      rfl

theorem isQuietStream_separated {divider : List Token} (quiet : isQuietStream divider = true)
    {args : List (List Token)} (each : ∀ arg ∈ args, isQuietStream arg = true) :
    isQuietStream (separated divider args) = true := by
  induction args with
  | nil => rfl
  | cons arg rest ih =>
      rw [List.forall_mem_cons] at each
      cases rest with
      | nil => simpa [separated] using each.1
      | cons next others =>
          have shown : separated divider (arg :: next :: others) =
              arg ++ (divider ++ separated divider (next :: others)) := rfl
          rw [shown, isQuietStream_append, isQuietStream_append, each.1, quiet, ih each.2]
          rfl

mutual

theorem isLexical_of_isQuiet : (t : Token) → t.isQuiet = true →
    t.isLexical = true ∧ .word "crate" ∉ t.symbols ∧ .word "fn" ∉ t.symbols
  | .word text, quiet => by
      simp only [isQuiet, Bool.and_eq_true, bne_iff_ne, ne_eq] at quiet
      refine ⟨quiet.1.1, ?_, ?_⟩
      · simpa [symbols] using Ne.symm quiet.1.2
      · simpa [symbols] using Ne.symm quiet.2
  | .mark c _, quiet => ⟨quiet, by simp [symbols], by simp [symbols]⟩
  | .literal value, _ => ⟨rfl, by simp [symbols], by simp [symbols]⟩
  | .verbatim text, quiet => absurd quiet (by simp [isQuiet])
  | .group bracket body, quiet => by
      obtain ⟨lexical, silent, still⟩ := isLexicalStream_of_isQuiet body quiet
      exact ⟨lexical, by simpa [symbols] using silent, by simpa [symbols] using still⟩

theorem isLexicalStream_of_isQuiet : (ts : List Token) → isQuietStream ts = true →
    isLexicalStream ts = true ∧ .word "crate" ∉ streamSymbols ts ∧ .word "fn" ∉ streamSymbols ts
  | [], _ => ⟨rfl, by simp, by simp⟩
  | t :: rest, quiet => by
      rw [isQuietStream_cons, Bool.and_eq_true] at quiet
      obtain ⟨lexical, silent, still⟩ := isLexical_of_isQuiet t quiet.1
      obtain ⟨lexical', silent', still'⟩ := isLexicalStream_of_isQuiet rest quiet.2
      refine ⟨?_, ?_, ?_⟩
      · rw [isLexicalStream_cons, lexical, lexical']
        rfl
      · simpa using ⟨silent, silent'⟩
      · simpa using ⟨still, still'⟩

end

end Token

/-- The text of a stream shows its symbols. -/
theorem adds_tokens {ts : List Token} (lexical : Token.isLexicalStream ts = true)
    (unjoined : (Token.streamSymbols ts).head? ≠ some (.mark ':'))
    (joint : colonsAfter 0 (Token.streamSymbols ts) ≠ 2)
    (still : .word "fn" ∉ Token.streamSymbols ts) :
    Adds (Token.text ts) (referencesIn (Token.streamSymbols ts)) := by
  have chars : (Token.text ts).toList = Token.streamChars ts := by
    rw [Token.text, String.toList_ofList]
  refine adds_of_row ?_ (fun rest follows => ?_) unjoined joint (functionsFrom_eq_nil still).1
    (functionsFrom_eq_nil still).2
  · rw [chars]
    exact Token.newline_not_mem_streamChars ts lexical
  · rw [chars, Token.symbols_streamChars_append ts lexical follows]

end Flowsmith.Source
