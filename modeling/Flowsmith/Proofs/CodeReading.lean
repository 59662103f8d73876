import Flowsmith.Proofs.Symbols

/-!
What can be read off lines of code: the qualified names that begin at the root module, and the
functions that are declared. Both are read from left to right, so what a line is put together from
tells them as well.
-/

namespace Flowsmith.Source

section Names

/-- A name that has ended, if there was one. -/
def ended (name : List String) : List (List String) :=
  if name.isEmpty then [] else [name]

/-- The qualified names of a row of symbols, which are words divided by double colons, after the
    given part of one and a number of colons. -/
def namesFrom (name : List String) (colons : Nat) : List Symbol → List (List String)
  | [] => ended name
  | .word w :: rest =>
      if colons = 2 then namesFrom (name ++ [w]) 0 rest else ended name ++ namesFrom [w] 0 rest
  | .mark c :: rest =>
      if c = ':' ∧ colons < 2 then namesFrom name (colons + 1) rest
      else ended name ++ namesFrom [] 0 rest
  | .quote _ :: rest => ended name ++ namesFrom [] 0 rest

/-- Whether a name begins at the root module. -/
def isRooted (name : List String) : Bool :=
  name.head? == some "crate" && 2 ≤ name.length

/-- The qualified names of a row that begin at the root module. -/
def referencesIn (row : List Symbol) : List (List String) :=
  (namesFrom [] 0 row).filter isRooted

/-- How many colons a row ends with, after a number of them, as far as they can belong to a name. -/
def colonsAfter : Nat → List Symbol → Nat
  | colons, [] => colons
  | colons, .mark c :: rest =>
      if c = ':' ∧ colons < 2 then colonsAfter (colons + 1) rest else colonsAfter 0 rest
  | _, .word _ :: rest => colonsAfter 0 rest
  | _, .quote _ :: rest => colonsAfter 0 rest

/-- Names end between rows that no colon joins. -/
theorem namesFrom_append {front back : List Symbol} {colons : Nat}
    (apart : colonsAfter colons front ≠ 2) (unjoined : back.head? ≠ some (.mark ':'))
    (name : List String) :
    namesFrom name colons (front ++ back) = namesFrom name colons front ++ namesFrom [] 0 back := by
  induction front generalizing name colons with
  | nil =>
      have apart : colons ≠ 2 := apart
      cases back with
      | nil => simp [namesFrom, ended]
      | cons s rest =>
          cases s with
          | word w => simp [namesFrom, ended, apart]
          | mark c =>
              have notColon : c ≠ ':' := by simpa using unjoined
              simp [namesFrom, ended, notColon]
          | quote text => simp [namesFrom, ended]
  | cons s rest ih =>
      cases s with
      | word w =>
          have apart : colonsAfter 0 rest ≠ 2 := apart
          simp only [List.cons_append, namesFrom, ih apart]
          split
          · rfl
          · rw [List.append_assoc]
      | mark c =>
          simp only [List.cons_append, namesFrom]
          by_cases goesOn : c = ':' ∧ colons < 2
          · simp only [colonsAfter, if_pos goesOn] at apart
            rw [if_pos goesOn, if_pos goesOn, ih apart]
          · simp only [colonsAfter, if_neg goesOn] at apart
            rw [if_neg goesOn, if_neg goesOn, ih apart, List.append_assoc]
      | quote text =>
          have apart : colonsAfter 0 rest ≠ 2 := apart
          simp only [List.cons_append, namesFrom, ih apart, List.append_assoc]

theorem referencesIn_append {front back : List Symbol} (apart : colonsAfter 0 front ≠ 2)
    (unjoined : back.head? ≠ some (.mark ':')) :
    referencesIn (front ++ back) = referencesIn front ++ referencesIn back := by
  rw [referencesIn, namesFrom_append apart unjoined, List.filter_append]
  rfl

/-- The symbols of a qualified name after its first segment. -/
def qualifierSymbols (segments : List String) : List Symbol :=
  segments.flatMap fun segment => [.mark ':', .mark ':', .word segment]

/-- The symbols of a qualified name. -/
def pathSymbols : List String → List Symbol
  | [] => []
  | first :: rest => .word first :: qualifierSymbols rest

theorem namesFrom_qualifiers (segments name : List String) (rest : List Symbol) :
    namesFrom name 0 (qualifierSymbols segments ++ rest) = namesFrom (name ++ segments) 0 rest := by
  induction segments generalizing name with
  | nil => rw [List.append_nil]; rfl
  | cons segment others ih =>
      have shown : qualifierSymbols (segment :: others) ++ rest =
          .mark ':' :: .mark ':' :: .word segment :: (qualifierSymbols others ++ rest) := rfl
      rw [shown]
      simp only [namesFrom, true_and, Nat.zero_lt_succ, if_true, Nat.reduceAdd, Nat.reduceLT]
      rw [ih, List.append_assoc]
      rfl

/-- A qualified name that begins at the root module is read where no colon joins it to what
    follows. -/
theorem referencesIn_path (segments : List String) (notEmpty : segments ≠ []) {rest : List Symbol}
    (unjoined : rest.head? ≠ some (.mark ':')) :
    referencesIn (pathSymbols ("crate" :: segments) ++ rest) =
      ("crate" :: segments) :: referencesIn rest := by
  have rooted : isRooted ("crate" :: segments) = true := by
    have := List.length_pos_iff.2 notEmpty
    simp [isRooted]
    omega
  have whole : namesFrom ["crate"] 0 (qualifierSymbols segments ++ rest) =
      ("crate" :: segments) :: namesFrom [] 0 rest := by
    rw [namesFrom_qualifiers]
    exact namesFrom_append (by decide : colonsAfter 0 [] ≠ 2) unjoined _
  rw [referencesIn]
  change (namesFrom [] 0 (.word "crate" :: (qualifierSymbols segments ++ rest))).filter isRooted = _
  rw [namesFrom, if_neg (by decide), whole, ended, if_pos (by rfl), List.nil_append,
    List.filter_cons_of_pos rooted]
  rfl

theorem head?_of_mem_ended {name n : List String} (member : n ∈ ended name) : n = name := by
  unfold ended at member
  split at member
  · exact absurd member (List.not_mem_nil)
  · exact List.mem_singleton.1 member

/-- A name begins with a word of the row, or goes on with what was before. -/
theorem head_of_mem_namesFrom {name : List String} {colons : Nat} {row : List Symbol}
    {n : List String}
    {first : String} (member : n ∈ namesFrom name colons row) (begins : n.head? = some first) :
    name.head? = some first ∨ .word first ∈ row := by
  induction row generalizing name colons with
  | nil =>
      rw [head?_of_mem_ended member] at begins
      exact .inl begins
  | cons s rest ih =>
      -- Names that begin later begin with a word of the rest.
      have later {before : List String} (none : before.head? = some first → s = .word first)
          (inRest : before.head? = some first ∨ .word first ∈ rest) : .word first ∈ s :: rest := by
        rcases inRest with isHead | inRest
        · exact none isHead ▸ List.mem_cons_self
        · exact List.mem_cons_of_mem _ inRest
      cases s with
      | word w =>
          rw [namesFrom] at member
          split at member
          · cases name with
            | nil => exact .inr (later (by simp) (ih member))
            | cons head others =>
                rcases ih member with isHead | inRest
                · exact .inl isHead
                · exact .inr (List.mem_cons_of_mem _ inRest)
          · rcases List.mem_append.1 member with here | there
            · rw [head?_of_mem_ended here] at begins
              exact .inl begins
            · exact .inr (later (by simp) (ih there))
      | mark c =>
          rw [namesFrom] at member
          split at member
          · rcases ih member with isHead | inRest
            · exact .inl isHead
            · exact .inr (List.mem_cons_of_mem _ inRest)
          · rcases List.mem_append.1 member with here | there
            · rw [head?_of_mem_ended here] at begins
              exact .inl begins
            · exact .inr (later (by simp) (ih there))
      | quote text =>
          rw [namesFrom] at member
          rcases List.mem_append.1 member with here | there
          · rw [head?_of_mem_ended here] at begins
            exact .inl begins
          · exact .inr (later (by simp) (ih there))

/-- Where the root module is not named, nothing is referred to. -/
theorem referencesIn_eq_nil {row : List Symbol} (silent : .word "crate" ∉ row) :
    referencesIn row = [] := by
  refine List.filter_eq_nil_iff.2 ?_
  intro n member rooted
  simp only [isRooted, Bool.and_eq_true, beq_iff_eq] at rooted
  rcases head_of_mem_namesFrom member rooted.1 with never | inRow
  · exact absurd never (by simp)
  · exact silent inRow

end Names

section Functions

/-- The words of a row that follow the word which declares functions; `declares` says whether it has
    just been. -/
def functionsFrom (declares : Bool) : List Symbol → List String
  | [] => []
  | .word w :: rest => (if declares then [w] else []) ++ functionsFrom (w == "fn") rest
  | .mark _ :: rest => functionsFrom false rest
  | .quote _ :: rest => functionsFrom false rest

/-- The functions that a row declares. -/
def functionsIn (row : List Symbol) : List String :=
  functionsFrom false row

/-- Whether a row ends with the word that declares functions. -/
def declaresAfter : Bool → List Symbol → Bool
  | declares, [] => declares
  | _, .word w :: rest => declaresAfter (w == "fn") rest
  | _, .mark _ :: rest => declaresAfter false rest
  | _, .quote _ :: rest => declaresAfter false rest

theorem functionsFrom_append (declares : Bool) (front back : List Symbol) :
    functionsFrom declares (front ++ back) =
      functionsFrom declares front ++ functionsFrom (declaresAfter declares front) back := by
  induction front generalizing declares with
  | nil => rfl
  | cons s rest ih =>
      cases s with
      | word w =>
          rw [List.cons_append, functionsFrom, functionsFrom, ih, declaresAfter, List.append_assoc]
      | mark c => rw [List.cons_append, functionsFrom, functionsFrom, ih, declaresAfter]
      | quote text => rw [List.cons_append, functionsFrom, functionsFrom, ih, declaresAfter]

theorem functionsFrom_qualifiers (segments : List String) (rest : List Symbol)
    (last : ∀ segment ∈ segments.getLast?, segment ≠ "fn") :
    functionsFrom false (qualifierSymbols segments ++ rest) = functionsFrom false rest := by
  induction segments with
  | nil => rfl
  | cons segment others ih =>
      have shown : qualifierSymbols (segment :: others) ++ rest =
          .mark ':' :: .mark ':' :: .word segment :: (qualifierSymbols others ++ rest) := rfl
      rw [shown, functionsFrom, functionsFrom, functionsFrom, if_neg (by decide), List.nil_append]
      cases others with
      | nil =>
          have other : segment ≠ "fn" := last segment rfl
          rw [beq_eq_false_iff_ne.2 other]
          rfl
      | cons next more =>
          -- What follows the segment is a colon, so it declares nothing even if it is the word for
          -- that.
          have colon (declares : Bool) : functionsFrom declares
              (qualifierSymbols (next :: more) ++ rest) =
              functionsFrom false (qualifierSymbols (next :: more) ++ rest) := rfl
          rw [colon]
          exact ih fun s isLast => last s (by rwa [List.getLast?_cons_cons])

/-- Where no function is declared, none is read. -/
theorem functionsFrom_eq_nil {row : List Symbol} (still : .word "fn" ∉ row) :
    functionsFrom false row = [] ∧ declaresAfter false row = false := by
  induction row with
  | nil => exact ⟨rfl, rfl⟩
  | cons s rest ih =>
      rw [List.mem_cons, not_or] at still
      cases s with
      | word w =>
          have other : (w == "fn") = false := by
            rw [beq_eq_false_iff_ne]
            rintro rfl
            exact still.1 rfl
          rw [functionsFrom, declaresAfter, other]
          exact ih still.2
      | mark c => exact ih still.2
      | quote text => exact ih still.2

end Functions

section Lines

variable {α : Type} {read : List Symbol → List α}

/-- What is read off the lines of code of a text, one after the other. -/
def readCode (read : List Symbol → List α) (text : String) : List α :=
  (codeLines text.toList).flatMap fun line => read (symbols line)

/-- What is read off the lines of code below the first line of a text. -/
def readBelow (read : List Symbol → List α) (text : String) : List α :=
  (codeBelow text.toList).flatMap fun line => read (symbols line)

/-- What a line says, without its margin. -/
def Line.content : Line → String
  | .blank => ""
  | .text _ content => content

/-- What lines say. -/
def contents (lines : List Line) : List String :=
  lines.map Line.content

theorem isComment_replicate_space (n : Nat) (line : List Char) :
    isComment (List.replicate n ' ' ++ line) = isComment line := by
  induction n with
  | zero => rfl
  | succ n ih =>
      rw [← ih, List.replicate_succ, List.cons_append, isComment,
        List.dropWhile_cons_of_pos (by decide)]
      rfl

/-- A margin changes nothing of what is read. -/
theorem flatMap_codeLines_margin (n : Nat) (text : List Char) :
    ((codeLines (List.replicate n ' ' ++ text)).flatMap fun line => read (symbols line)) =
      (codeLines text).flatMap fun line => read (symbols line) := by
  have oneLine : '\n' ∉ List.replicate n ' ' := by simp
  rw [codeLines, codeLines, splitOn_append_of_not_mem oneLine]
  cases text.splitOn '\n' with
  | nil => rfl
  | cons first others =>
      rw [List.modifyHead_cons, List.filter_cons, List.filter_cons, isComment_replicate_space]
      cases isComment first
      · simp only [Bool.not_false, if_true, List.flatMap_cons, symbols_replicate_space]
      · rfl

theorem flatMap_codeLines_chars (line : Line) :
    ((codeLines line.chars).flatMap fun l => read (symbols l)) = readCode read line.content := by
  cases line with
  | blank => rfl
  | text depth content =>
      rw [Line.chars, Line.margin, String.toList_ofList]
      exact flatMap_codeLines_margin _ _

/-- What is read off lines in a row is what is read off each of them. -/
theorem readCode_renderAll (nothing : read [] = []) (lines : List Line) :
    readCode read (Line.renderAll lines) = (contents lines).flatMap (readCode read) := by
  have last : read (symbols []) = [] := nothing
  simp only [readCode, codeLines_renderAll, codeOf, List.flatMap_append, List.flatMap_assoc,
    List.flatMap_cons, List.flatMap_nil, last, List.append_nil, flatMap_codeLines_chars, contents,
    List.flatMap_map]

@[simp] theorem content_text (depth : Nat) (content : String) :
    (Line.text depth content).content = content := rfl

@[simp] theorem content_blank : Line.blank.content = "" := rfl

@[simp] theorem contents_nil : contents [] = [] := rfl

@[simp] theorem contents_cons (line : Line) (rest : List Line) :
    contents (line :: rest) = line.content :: contents rest := rfl

@[simp] theorem contents_append (front back : List Line) :
    contents (front ++ back) = contents front ++ contents back :=
  List.map_append

@[simp] theorem contents_indent (lines : List Line) :
    contents (Line.indent lines) = contents lines := by
  rw [contents, contents, Line.indent, List.map_map]
  refine List.map_congr_left fun line _ => ?_
  cases line <;> rfl

@[simp] theorem contents_braced (head : String) (body : List Line) :
    contents (Line.braced head body) = (head ++ " \x7b") :: contents body ++ ["\x7d"] := by
  simp [Line.braced]

/-- A comment says nothing in code but what breaks its line. -/
theorem readCode_comment {lead : String} (isLead : ['/', '/'] <+: lead.toList)
    (oneLine : '\n' ∉ lead.toList)
    (rest : String) : readCode read (lead ++ rest) = readBelow read rest := by
  obtain ⟨more, same⟩ := isLead
  rw [readCode, readBelow, String.toList_append]
  rw [← same] at oneLine ⊢
  exact congrArg (List.flatMap _) (codeLines_comment oneLine rest.toList)

theorem readBelow_eq_nil {text : String} (oneLine : '\n' ∉ text.toList) :
    readBelow read text = [] := by
  rw [readBelow, codeBelow_eq_nil oneLine]
  rfl

theorem readBelow_append {front : String} (oneLine : '\n' ∉ front.toList) (rest : String) :
    readBelow read (front ++ rest) = readBelow read rest := by
  rw [readBelow, readBelow, String.toList_append, codeBelow, codeBelow,
    splitOn_append_of_not_mem oneLine, List.tail_modifyHead]

end Lines

section Blocks

/-! Blocks between curly brackets, found by the line that opens them and by its margin. -/

/-- The line that closes what a line opens. -/
def closing (line : List Char) : List Char :=
  line.takeWhile (· == ' ') ++ ['\x7d']

/-- What stands in each block that is opened by a line of this kind. -/
def blocks (opens : List Char → Bool) : List (List Char) → List (List (List Char))
  | [] => []
  | line :: rest =>
      (if opens line then [rest.takeWhile (· != closing line)] else []) ++ blocks opens rest

variable {opens : List Char → Bool}

theorem blocks_eq_nil {lines : List (List Char)} (never : ∀ line ∈ lines, opens line = false) :
    blocks opens lines = [] := by
  induction lines with
  | nil => rfl
  | cons line rest ih =>
      rw [List.forall_mem_cons] at never
      rw [blocks, ih never.2, never.1]
      rfl

theorem exists_blocks_append (opens : List Char → Bool) (front back : List (List Char)) :
    ∃ more, blocks opens (front ++ back) = more ++ blocks opens back := by
  induction front with
  | nil => exact ⟨[], rfl⟩
  | cons line rest ih =>
      obtain ⟨more, same⟩ := ih
      exact ⟨_ ++ more, by rw [List.cons_append, blocks, same, List.append_assoc]⟩

/-- A block is among those that its opening line is asked for, before those that come later. -/
theorem exists_blocks_eq {head : List Char} {body : List (List Char)} (opened : opens head = true)
    (unclosed : closing head ∉ body) (front back : List (List Char)) :
    ∃ more, blocks opens (front ++ head :: (body ++ closing head :: back)) =
      more ++ body :: blocks opens (body ++ closing head :: back) := by
  obtain ⟨more, same⟩ :=
    exists_blocks_append opens front (head :: (body ++ closing head :: back))
  have inside : (body ++ closing head :: back).takeWhile (· != closing head) = body := by
    have all : ∀ line ∈ body, (line != closing head) = true := by
      intro line member
      rw [bne_iff_ne]
      rintro rfl
      exact unclosed member
    rw [List.takeWhile_append_of_pos all, List.takeWhile_cons_of_neg (by simp), List.append_nil]
  refine ⟨more, ?_⟩
  rw [same, blocks, opened, if_pos rfl, inside]
  rfl

/-- What stands in the last function of a name. -/
def functionBody? (name text : String) : Option (List String) :=
  (blocks (fun line => (functionsIn (symbols line)).contains name)
    (codeLines text.toList)).getLast?.map (·.map String.ofList)

/-- The qualified names on lines that begin at the root module. -/
def referencesOf (body : List String) : List (List String) :=
  body.flatMap fun line => referencesIn (symbols line.toList)

/-- What stands in the declarations of a type. -/
def structBodies (className text : String) : List (List String) :=
  (blocks (· == ("pub struct " ++ className ++ " \x7b").toList) (codeLines text.toList)).map
    (·.map String.ofList)

end Blocks

end Flowsmith.Source
