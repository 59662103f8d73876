import Mathlib.Logic.Function.Iterate
import Flowsmith.Proofs.LineReading
import Flowsmith.Proofs.Words

/-!
Lines in a row, and the blocks that they make up. Lines are read one after the other; a comment says
nothing but what the text in it has below its first line. A block is told by the line that opens it
and by how deep that line stands.
-/

namespace Flowsmith.Source

variable {text : String} {refs : List (List String)} {fns : List String}

section Rows

/-! Lines in a row. -/

/-- What lines in a row say in code: they refer to nothing but what is allowed, and declare these
    functions. -/
structure Says (allowed : List String → Prop) (lines : List Line) (fns : List String) : Prop where
  references : ∀ r ∈ (contents lines).flatMap (readCode referencesIn), allowed r
  functions : (contents lines).flatMap (readCode functionsIn) = fns

variable {allowed : List String → Prop} {lines : List Line} {depth : Nat}

theorem codeLines_of_oneLine {text : List Char} (oneLine : '\n' ∉ text) :
    codeLines text = if isComment text then [] else [text] := by
  rw [codeLines, List.splitOn_eq_singleton oneLine, List.filter_cons]
  cases isComment text <;> rfl

/-- Whether a text begins code: with something that is neither blank nor begins a comment. -/
def opensCode (text : List Char) : Bool :=
  text.head?.any fun c => !Text.isBlank c && c != '/'

theorem exists_of_opensCode {text : List Char} (opens : opensCode text = true) :
    ∃ c rest, text = c :: rest ∧ Text.isBlank c = false ∧ c ≠ '/' := by
  unfold opensCode at opens
  cases text with
  | nil => simp at opens
  | cons c rest => exact ⟨c, rest, rfl, by simpa using opens⟩

theorem isComment_of_opensCode {text : List Char} (opens : opensCode text = true) :
    isComment text = false := by
  obtain ⟨c, rest, rfl, notBlank, other⟩ := exists_of_opensCode opens
  rw [isComment, List.dropWhile_cons_of_neg (by simpa using notBlank), Bool.eq_false_iff]
  intro begins
  obtain ⟨slash, -⟩ := List.cons_prefix_cons.1 (List.isPrefixOf_iff_prefix.1 begins)
  exact other slash.symm

theorem opensCode_append {front : List Char} (opens : opensCode front = true) (rest : List Char) :
    opensCode (front ++ rest) = true := by
  obtain ⟨c, more, rfl, notBlank, other⟩ := exists_of_opensCode opens
  simp [opensCode, notBlank, other]

theorem isWord_of_isIdentifier {word : String} (isIdentifier : Naming.IsIdentifier word.toList) :
    isWord word = true := by
  obtain ⟨first, rest, chars, opens, goesOn⟩ := isIdentifier
  rw [isWord_iff, chars]
  refine ⟨by simp, fun c member => Naming.isWordChar_iff.2 ?_⟩
  rcases List.mem_cons.1 member with rfl | later
  · exact .inl opens
  · exact goesOn c later

theorem opensCode_of_isWord {word : String} (isWord : isWord word = true) :
    opensCode word.toList = true := by
  obtain ⟨notEmpty, chars⟩ := isWord_iff.1 isWord
  obtain ⟨c, rest, shown⟩ := List.exists_cons_of_ne_nil notEmpty
  have first : Naming.isWordChar c = true := chars c (by rw [shown]; exact List.mem_cons_self)
  have range : 48 ≤ c.toNat ∧ c.toNat ≤ 122 := by
    simp only [Naming.isWordChar, Bool.or_eq_true, beq_iff_eq, Naming.isAlphanum_iff] at first
    rcases first with letter | rfl
    · omega
    · decide
  have notBlank : Text.isBlank c = false := by
    simp only [Text.isBlank, Bool.or_eq_false_iff, Bool.and_eq_false_iff, decide_eq_false_iff_not,
      beq_eq_false_iff_ne]
    omega
  have notSlash : c ≠ '/' := by
    rintro rfl
    exact absurd range (by decide)
  simp [opensCode, shown, notBlank, notSlash]

theorem says_reads (reads : Reads text refs []) (all : ∀ r ∈ refs, allowed r) :
    Says allowed [.text depth text] [] where
  references := by
    simp only [contents_cons, content_text, contents_nil, List.flatMap_cons, List.flatMap_nil,
      List.append_nil, readCode, codeLines_of_oneLine reads.oneLine]
    split
    · simp
    · simpa [reads.references] using all
  functions := by
    simp only [contents_cons, content_text, contents_nil, List.flatMap_cons, List.flatMap_nil,
      List.append_nil, readCode, codeLines_of_oneLine reads.oneLine]
    split
    · rfl
    · simpa using reads.functions

theorem Reads.readCode_eq {α : Type} (reads : Reads text refs fns)
    (opens : opensCode text.toList = true)
    (read : List Symbol → List α) : readCode read text = read (symbols text.toList) := by
  simp [readCode, codeLines_of_oneLine reads.oneLine, isComment_of_opensCode opens]

theorem says_function (reads : Reads text refs fns) (opens : opensCode text.toList = true)
    (all : ∀ r ∈ refs, allowed r) : Says allowed [.text depth text] fns where
  references := by simpa [reads.readCode_eq opens, reads.references] using all
  functions := by simpa [reads.readCode_eq opens] using reads.functions

/-- Whether a text begins a comment, and stays on its line. -/
def isCommentLead (lead : List Char) : Bool :=
  ['/', '/'].isPrefixOf lead && !lead.contains '\n'

theorem readCode_of_isCommentLead {α : Type} {read : List Symbol → List α} {lead : List Char}
    (leads : isCommentLead lead = true) (rest : String) :
    readCode read (String.ofList lead ++ rest) = readBelow read rest := by
  simp only [isCommentLead, Bool.and_eq_true, Bool.not_eq_true', List.contains_eq_mem,
    decide_eq_false_iff_not, List.isPrefixOf_iff_prefix] at leads
  exact readCode_comment (by simpa using leads.1) (by simpa using leads.2) rest

/-- A comment says what the text in it has below its first line. -/
theorem says_comment {lead : List Char} (leads : isCommentLead lead = true) {rest : String}
    (all : ∀ r ∈ readBelow referencesIn rest, allowed r) :
    Says allowed [.text depth (String.ofList lead ++ rest)] (readBelow functionsIn rest) where
  references := by simpa [readCode_of_isCommentLead leads] using all
  functions := by simp [readCode_of_isCommentLead leads]

/-- Whether a text declares these functions and refers to nothing. -/
def isFixed (fns : List String) (text : List Char) : Bool :=
  ((codeLines text).all fun line => (referencesIn (symbols line)).isEmpty) &&
    ((codeLines text).flatMap fun line => functionsIn (symbols line)) == fns

theorem says_fixed (fns : List String) {chars : List Char} (fixed : isFixed fns chars = true) :
    Says allowed [.text depth (String.ofList chars)] fns := by
  simp only [isFixed, Bool.and_eq_true, List.all_eq_true, List.isEmpty_iff, beq_iff_eq] at fixed
  constructor
  · have silent : readCode referencesIn (String.ofList chars) = [] := by
      rw [readCode, String.toList_ofList]
      exact List.flatMap_eq_nil_iff.2 fixed.1
    simp [silent]
  · simpa [readCode] using fixed.2

theorem says_blank : Says allowed [.blank] [] where
  references := by
    have silent : readCode referencesIn "" = [] := by decide
    simp [silent]
  functions := by
    have silent : readCode functionsIn "" = [] := by decide
    simp [silent]

theorem says_nil : Says allowed [] [] :=
  ⟨List.forall_mem_nil _, rfl⟩

theorem Says.append {more : List Line} {fns' : List String} (first : Says allowed lines fns)
    (second : Says allowed more fns') : Says allowed (lines ++ more) (fns ++ fns') where
  references := by
    intro r member
    rw [contents_append, List.flatMap_append, List.mem_append] at member
    exact member.elim (first.references r) (second.references r)
  functions := by
    rw [contents_append, List.flatMap_append, first.functions, second.functions]

theorem Says.of_eq {fns' : List String} (said : Says allowed lines fns) (same : fns = fns') :
    Says allowed lines fns' :=
  same ▸ said

theorem Says.cons {line : Line} {fns' : List String} (first : Says allowed [line] fns)
    (rest : Says allowed lines fns') : Says allowed (line :: lines) (fns ++ fns') :=
  first.append rest

/-- A fixed line that says nothing. -/
theorem Says.fixed {chars : List Char} (fixed : isFixed [] chars = true)
    (rest : Says allowed lines fns) :
    Says allowed (.text depth (String.ofList chars) :: lines) fns :=
  (says_fixed [] fixed).cons rest

theorem Says.blank (rest : Says allowed lines fns) : Says allowed (.blank :: lines) fns :=
  says_blank.cons rest

theorem says_flatten_nil : Says allowed (List.flatten []) [] :=
  says_nil

theorem Says.flatten_cons {more : List (List Line)} {fns' : List String}
    (first : Says allowed lines fns)
    (rest : Says allowed more.flatten fns') : Says allowed (lines :: more).flatten (fns ++ fns') :=
  first.append rest

theorem Says.indent (said : Says allowed lines fns) : Says allowed (Line.indent lines) fns := by
  obtain ⟨references, functions⟩ := said
  constructor <;> rwa [contents_indent]

theorem Says.braced {head : String} {body : List Line} {fns' : List String}
    (first : Says allowed [.text 0 (head ++ " \x7b")] fns) (rest : Says allowed body fns') :
    Says allowed (Line.braced head body) (fns ++ fns') := by
  have last : Says allowed [.text 0 "\x7d"] [] := says_fixed [] (by decide)
  simpa [Line.braced] using (first.append rest.indent).append last

/-- A block with a fixed head. -/
theorem Says.block {head : List Char} {body : List Line} {fns' : List String} (fns : List String)
    (fixed : isFixed fns (head ++ [' ', '\x7b']) = true) (rest : Says allowed body fns') :
    Says allowed (Line.braced (String.ofList head) body) (fns ++ fns') := by
  refine .braced ?_ rest
  have shown : String.ofList head ++ " \x7b" = String.ofList (head ++ [' ', '\x7b']) := by
    rw [String.ofList_append]
  rw [shown]
  exact says_fixed fns fixed

theorem says_flatMap {α : Type} {entries : List α} {block : α → List Line} {each : α → List String}
    (said : ∀ e ∈ entries, Says allowed (block e) (each e)) :
    Says allowed (entries.flatMap block) (entries.flatMap each) := by
  induction entries with
  | nil => exact says_nil
  | cons e rest ih =>
      rw [List.forall_mem_cons] at said
      exact said.1.append (ih said.2)

/-- Lines that say nothing themselves may be many. -/
theorem says_flatMap_silent {α : Type} {entries : List α} {block : α → List Line}
    (said : ∀ e ∈ entries, Says allowed (block e) []) :
    Says allowed (entries.flatMap block) [] := by
  have all := says_flatMap said
  rwa [List.flatMap_eq_nil_iff.2 fun _ _ => rfl] at all

theorem says_map_silent {α : Type} {entries : List α} {line : α → Line}
    (said : ∀ e ∈ entries, Says allowed [line e] []) : Says allowed (entries.map line) [] := by
  rw [List.map_eq_flatMap]
  exact says_flatMap_silent said

theorem Says.readCode_references (said : Says allowed lines fns) :
    ∀ r ∈ readCode referencesIn (Line.renderAll lines), allowed r := by
  rw [readCode_renderAll rfl]
  exact said.references

theorem Says.readCode_functions (said : Says allowed lines fns) :
    readCode functionsIn (Line.renderAll lines) = fns := by
  rw [readCode_renderAll rfl]
  exact said.functions

theorem flatMap_codeOf {α : Type} (read : List Symbol → List α) (lines : List Line) :
    ((codeOf lines).flatMap fun line => read (symbols line)) =
      (contents lines).flatMap (readCode read) := by
  simp only [codeOf, contents, List.flatMap_assoc, List.flatMap_map, flatMap_codeLines_chars]

theorem referencesOf_codeOf (lines : List Line) : referencesOf ((codeOf lines).map String.ofList) =
    (contents lines).flatMap (readCode referencesIn) := by
  simp only [referencesOf, List.flatMap_map, String.toList_ofList, flatMap_codeOf]

theorem Says.not_declares (said : Says allowed lines fns) {name : String} (other : name ∉ fns) :
    ∀ line ∈ codeOf lines, (functionsIn (symbols line)).contains name = false := by
  intro line member
  rw [← said.functions, ← flatMap_codeOf] at other
  simpa using fun declared => other (List.mem_flatMap.2 ⟨line, member, declared⟩)

end Rows

section Mentions

/-! Lines with parts of which only the names matter. -/

/-- A part of a line that refers to nothing but what is allowed. -/
def Mentions (allowed : List String → Prop) (part : String) : Prop :=
  ∃ refs, (∀ r ∈ refs, allowed r) ∧ Adds part refs

variable {allowed : List String → Prop} {depth : Nat} {front back : List Char} {part : String}

theorem mentions_nothing (adds : Adds part []) : Mentions allowed part :=
  ⟨[], by simp, adds⟩

theorem mentions_of_isPart (isPart : isPart front = true) :
    Mentions allowed (String.ofList front) :=
  mentions_nothing (adds_of_isPart isPart)

theorem mentions_quoted (s : String) : Mentions allowed (Text.quoted s) :=
  mentions_nothing (adds_quoted s)

theorem Mentions.behind (mentions : Mentions allowed part) (leads : isLead [] false front = true) :
    Mentions allowed (String.ofList front ++ part) := by
  obtain ⟨refs, all, adds⟩ := mentions
  refine ⟨refs, all, fun text refs' fns follows reads => ?_⟩
  rw [String.append_assoc]
  exact (adds text refs' fns follows reads).lead leads

theorem Mentions.append {more : String} (first : Mentions allowed part)
    (second : Mentions allowed more) (isApart : isApart more.toList = true) :
    Mentions allowed (part ++ more) := by
  obtain ⟨refs, all, adds⟩ := first
  obtain ⟨refs', all', adds'⟩ := second
  refine ⟨refs ++ refs', ?_, adds.append adds' isApart⟩
  intro r member
  exact (List.mem_append.1 member).elim (all r) (all' r)

theorem Mentions.append_tail (mentions : Mentions allowed part) (ends : isTail back = true) :
    Mentions allowed (part ++ String.ofList back) := by
  obtain ⟨refs, all, adds⟩ := mentions
  exact ⟨refs, all, adds.append_tail ends⟩

theorem Mentions.around (mentions : Mentions allowed part) (leads : isLead [] false front = true)
    (ends : isTail back = true) :
    Mentions allowed (String.ofList front ++ part ++ String.ofList back) :=
  (mentions.behind leads).append_tail ends

theorem Mentions.toSays (mentions : Mentions allowed part) :
    Says allowed [.text depth part] [] := by
  obtain ⟨refs, all, adds⟩ := mentions
  exact says_reads adds.reads all

/-- A line with a part between two fixed ones. -/
theorem says_around (mentions : Mentions allowed part) (leads : isLead [] false front = true)
    (ends : isTail back = true) :
    Says allowed [.text depth (String.ofList front ++ part ++ String.ofList back)] [] :=
  (mentions.around leads ends).toSays

/-- A line that declares functions, with a part between two fixed ones. -/
theorem says_head (mentions : Mentions allowed part) (leads : isLead fns false front = true)
    (opens : opensCode front = true) (ends : isTail back = true) :
    Says allowed [.text depth (String.ofList front ++ part ++ String.ofList back)] fns := by
  obtain ⟨refs, all, adds⟩ := mentions
  refine says_function (adds.reads_around leads ends) ?_ all
  simp only [String.toList_append, String.toList_ofList, List.append_assoc]
  exact opensCode_append opens _

/-- A block whose head ends with a part. -/
theorem Says.blockOf {body : List Line} {fns' : List String} (fns : List String)
    (mentions : Mentions allowed part) (leads : isLead fns false front = true)
    (opens : opensCode front = true) (rest : Says allowed body fns') :
    Says allowed (Line.braced (String.ofList front ++ part) body) (fns ++ fns') :=
  have head : Says allowed [.text 0 (String.ofList front ++ part ++ " \x7b")] fns :=
    says_head mentions leads opens (by decide)
  head.braced rest

/-- A block whose head has a part between two fixed ones. -/
theorem Says.blockAround {body : List Line} {fns' : List String} (fns : List String)
    (mentions : Mentions allowed part) (leads : isLead fns false front = true)
    (opens : opensCode front = true) (ends : isTail (back ++ [' ', '\x7b']) = true)
    (rest : Says allowed body fns') :
    Says allowed (Line.braced (String.ofList front ++ part ++ String.ofList back) body)
      (fns ++ fns') := by
  refine .braced ?_ rest
  have shown : String.ofList front ++ part ++ String.ofList back ++ " \x7b" =
      String.ofList front ++ part ++ String.ofList (back ++ [' ', '\x7b']) := by
    rw [String.append_assoc, String.ofList_append]
  rw [shown]
  exact says_head mentions leads opens ends

/-- A function whose parameters stand on lines of their own. -/
theorem Says.functionBlock {head result : String} {parameters body : List Line} {fns' : List String}
    (first : Says allowed [.text 0 (head ++ "(")] fns) (taken : Says allowed parameters [])
    (given : Mentions allowed result) (rest : Says allowed body fns') :
    Says allowed (Line.function head parameters result body) (fns ++ fns') := by
  have opens : Says allowed [.text 0 (") -> " ++ result ++ " \x7b")] [] :=
    says_around given (by decide) (by decide)
  simpa [Line.function] using (first.append taken.indent).append (opens.braced rest)

/-- A part after a label. -/
theorem Adds.reads_label {name : String} {refs : List (List String)} (adds : Adds part refs)
    (isName : isWord name = true) (ends : isTail back = true) :
    Reads (name ++ ": " ++ part ++ String.ofList back) refs [] := by
  have reads := (adds.append_tail ends).reads.label isName
  rwa [← String.append_assoc] at reads

theorem Adds.readCode_label {name : String} {refs : List (List String)} (adds : Adds part refs)
    (isName : isWord name = true) (ends : isTail back = true) :
    readCode referencesIn (name ++ ": " ++ part ++ String.ofList back) = refs := by
  have reads := adds.reads_label isName ends
  refine (reads.readCode_eq ?_ _).trans reads.references
  simp only [String.toList_append, List.append_assoc]
  exact opensCode_append (opensCode_of_isWord isName) _

theorem says_label {name : String} (isName : isWord name = true) (mentions : Mentions allowed part)
    (ends : isTail back = true) :
    Says allowed [.text depth (name ++ ": " ++ part ++ String.ofList back)] [] := by
  obtain ⟨refs, all, adds⟩ := mentions
  exact says_reads (adds.reads_label isName ends) all

/-- A comment with a text between two fixed parts of it. -/
theorem says_remark (leads : isCommentLead front = true) (remark ending : String)
    (all : ∀ r ∈ readBelow referencesIn (remark ++ ending), allowed r) :
    Says allowed [.text depth (String.ofList front ++ remark ++ ending)]
      (readBelow functionsIn (remark ++ ending)) := by
  rw [String.append_assoc]
  exact says_comment leads all

end Mentions

section Blocks

/-! Blocks of a source. What is in a block stands deeper than what opens and closes it. -/

/-- Whether a line stands deeper than the given depth; a blank line stands anywhere. -/
def Line.isDeeper (depth : Nat) : Line → Bool
  | .blank => true
  | .text other _ => depth < other

theorem Line.chars_text (depth : Nat) (content : String) :
    (Line.text depth content).chars = List.replicate (4 * depth) ' ' ++ content.toList := by
  rw [Line.chars, Line.margin, String.toList_ofList]

theorem Line.chars_eq_content (content : String) :
    (Line.text 0 content).chars = content.toList := by
  rw [Line.chars_text]
  rfl

theorem newline_not_mem_chars {line : Line} (oneLine : '\n' ∉ line.content.toList) :
    '\n' ∉ line.chars := by
  cases line with
  | blank => simp [Line.chars]
  | text depth content =>
      rw [Line.chars_text, List.mem_append, not_or]
      exact ⟨by simp, oneLine⟩

/-- A line of code that does not break is there as it is. -/
theorem codeLines_chars {content : String} (oneLine : '\n' ∉ content.toList)
    (opens : opensCode content.toList = true) (depth : Nat) :
    codeLines (Line.text depth content).chars = [(Line.text depth content).chars] := by
  have whole : '\n' ∉ (Line.text depth content).content.toList := oneLine
  rw [codeLines_of_oneLine (newline_not_mem_chars whole), Line.chars_text,
    isComment_replicate_space, isComment_of_opensCode opens]
  rfl

theorem closing_chars {content : String} (opens : opensCode content.toList = true) (depth : Nat) :
    closing (Line.text depth content).chars = (Line.text depth "\x7d").chars := by
  obtain ⟨c, rest, chars, notBlank, -⟩ := exists_of_opensCode opens
  have notSpace : (c == ' ') = false := by
    rw [beq_eq_false_iff_ne]
    rintro rfl
    exact absurd notBlank (by decide)
  rw [closing, Line.chars_text, Line.chars_text, chars, List.takeWhile_append_of_pos (by simp),
    List.takeWhile_cons_of_neg (by simp [notSpace]), List.append_nil]
  rfl

/-- A line that stands deeper closes nothing. -/
theorem chars_ne_of_isDeeper {line : Line} {depth : Nat} (deeper : line.isDeeper depth = true) :
    line.chars ≠ (Line.text depth "\x7d").chars := by
  intro same
  rw [Line.chars_text] at same
  cases line with
  | blank => simp [Line.chars] at same
  | text other content =>
      have below : depth < other := by simpa [Line.isDeeper] using deeper
      have space : (List.replicate (4 * other) ' ' ++ content.toList)[4 * depth]? = some ' ' := by
        rw [List.getElem?_append_left (by simpa using below), List.getElem?_replicate,
          if_pos (by omega)]
      rw [Line.chars_text] at same
      rw [same] at space
      simp at space

/-- What stands in a block is found in the text, before what stands in the blocks that come
    later. -/
theorem exists_blocks_renderAll {opens : List Char → Bool} {depth : Nat} {head : String}
    {body : List Line} (opened : opens (Line.text depth head).chars = true)
    (oneLine : '\n' ∉ head.toList) (begins : opensCode head.toList = true)
    (deeper : ∀ line ∈ body, line.isDeeper depth = true ∧ '\n' ∉ line.content.toList)
    (front back : List Line) :
    ∃ more, blocks opens (codeLines (Line.renderAll
      (front ++ .text depth head :: (body ++ .text depth "\x7d" :: back))).toList) =
        more ++ codeOf body ::
          blocks opens (codeOf body ++ codeOf (.text depth "\x7d" :: back) ++ [[]]) := by
  have first : codeLines (Line.text depth head).chars = [(Line.text depth head).chars] :=
    codeLines_chars oneLine begins depth
  have last : codeLines (Line.text depth "\x7d").chars = [(Line.text depth "\x7d").chars] :=
    codeLines_chars (by decide) (by decide) depth
  have closes := closing_chars begins depth
  have unclosed : closing (Line.text depth head).chars ∉ codeOf body := by
    intro member
    obtain ⟨line, inBody, inLine⟩ := List.mem_flatMap.1 member
    obtain ⟨isDeeper, whole⟩ := deeper line inBody
    rw [codeLines_of_oneLine (newline_not_mem_chars whole)] at inLine
    split at inLine
    · exact absurd inLine (List.not_mem_nil)
    · rw [closes, List.mem_singleton] at inLine
      exact chars_ne_of_isDeeper isDeeper inLine.symm
  obtain ⟨more, same⟩ := exists_blocks_eq opened unclosed (codeOf front) (codeOf back ++ [[]])
  refine ⟨more, ?_⟩
  rw [codeLines_renderAll]
  simpa [codeOf, first, last, closes] using same

/-- A block among lines, before lines that declare these functions. -/
def BlockIn (allowed : List String → Prop) (lines : List Line) (depth : Nat) (head : String)
    (body : List Line) (fns : List String) : Prop :=
  ∃ front back, Says allowed back fns ∧ lines = front ++ .text depth (head ++ " \x7b") ::
    (Line.indent^[depth + 1] body ++ .text depth "\x7d" :: back)

section Nesting

variable {allowed : List String → Prop} {lines more body : List Line} {depth : Nat} {head : String}
  {fns fns' : List String}

theorem blockIn_braced (head : String) (body : List Line) :
    BlockIn allowed (Line.braced head body) 0 head body [] :=
  ⟨[], [], says_nil, by simp [Line.braced]⟩

theorem BlockIn.before (block : BlockIn allowed lines depth head body fns)
    (rest : Says allowed more fns') :
    BlockIn allowed (lines ++ more) depth head body (fns ++ fns') := by
  obtain ⟨front, back, said, rfl⟩ := block
  exact ⟨front, back ++ more, said.append rest, by simp⟩

theorem BlockIn.after (block : BlockIn allowed lines depth head body fns) (front : List Line) :
    BlockIn allowed (front ++ lines) depth head body fns := by
  obtain ⟨before, back, said, rfl⟩ := block
  exact ⟨front ++ before, back, said, by simp⟩

theorem BlockIn.within (block : BlockIn allowed lines depth head body fns) (outer : String) :
    BlockIn allowed (Line.braced outer lines) (depth + 1) head body fns := by
  obtain ⟨front, back, said, rfl⟩ := block
  refine ⟨.text 0 (outer ++ " \x7b") :: Line.indent front,
    Line.indent back ++ [.text 0 "\x7d"], ?_, ?_⟩
  · have last : Says allowed [.text 0 "\x7d"] [] := says_fixed [] (by decide)
    exact .of_eq (said.indent.append last) (List.append_nil _)
  · rw [Function.iterate_succ_apply' Line.indent (depth + 1)]
    simp [Line.braced, Line.indent, Line.deeper]

theorem BlockIn.flatten_cons {rest : List (List Line)}
    (block : BlockIn allowed lines depth head body fns) (said : Says allowed rest.flatten fns') :
    BlockIn allowed (lines :: rest).flatten depth head body (fns ++ fns') :=
  block.before said

theorem BlockIn.flatten_tail {rest : List (List Line)}
    (block : BlockIn allowed rest.flatten depth head body fns) (first : List Line) :
    BlockIn allowed (first :: rest).flatten depth head body fns :=
  block.after first

theorem contents_iterate_indent (n : Nat) (lines : List Line) :
    contents (Line.indent^[n] lines) = contents lines := by
  induction n with
  | zero => rfl
  | succ n ih => rw [Function.iterate_succ_apply', contents_indent, ih]

theorem isDeeper_of_mem_indent {line : Line} (member : line ∈ Line.indent^[depth + 1] lines) :
    line.isDeeper depth = true := by
  induction depth generalizing line with
  | zero =>
      obtain ⟨outer, -, rfl⟩ := List.mem_map.1 member
      cases outer <;> simp [Line.deeper, Line.isDeeper]
  | succ depth ih =>
      rw [Function.iterate_succ_apply'] at member
      obtain ⟨outer, inLines, rfl⟩ := List.mem_map.1 member
      have above := ih inLines
      cases outer with
      | blank => rfl
      | text n content => simpa [Line.deeper, Line.isDeeper] using above

theorem newline_not_mem_indent (whole : ∀ content ∈ contents lines, '\n' ∉ content.toList)
    {n : Nat} :
    ∀ line ∈ Line.indent^[n] lines, '\n' ∉ line.content.toList := by
  intro line member
  rw [← contents_iterate_indent n] at whole
  exact whole _ (List.mem_map_of_mem member)

/-- What stands in a block among lines stands among the blocks of their text. -/
theorem BlockIn.exists_blocks (opens : List Char → Bool)
    (block : BlockIn allowed lines depth head body fns)
    (opened : opens (Line.text depth (head ++ " \x7b")).chars = true)
    (oneLine : '\n' ∉ (head ++ " \x7b").toList) (begins : opensCode (head ++ " \x7b").toList = true)
    (whole : ∀ content ∈ contents body, '\n' ∉ content.toList) :
    ∃ more back, Says allowed back fns ∧ blocks opens (codeLines (Line.renderAll lines).toList) =
      more ++ codeOf (Line.indent^[depth + 1] body) ::
        blocks opens (codeOf (Line.indent^[depth + 1] body) ++
          codeOf (.text depth "\x7d" :: back) ++ [[]]) := by
  obtain ⟨front, back, said, rfl⟩ := block
  obtain ⟨more, same⟩ := exists_blocks_renderAll opened oneLine begins
    (fun line member => ⟨isDeeper_of_mem_indent member, newline_not_mem_indent whole line member⟩)
    front back
  exact ⟨more, back, said, same⟩

end Nesting

/-- Whether a line of code declares the function of a name. -/
def opensFunction (name : String) (head : List Char) : Bool :=
  (functionsIn (symbols head)).contains name && !head.contains '\n' && opensCode head

/-- What stands in a function of a text that no later one has the name of. -/
theorem BlockIn.functionBody?_eq_some {allowed : List String → Prop}
    {lines body : List Line} {depth : Nat}
    {head : List Char} {fns fns' : List String} {name : String}
    (block : BlockIn allowed lines depth (String.ofList head) body fns)
    (opens : opensFunction name (head ++ [' ', '\x7b']) = true) (inside : Says allowed body fns')
    (whole : ∀ content ∈ contents body, '\n' ∉ content.toList) (never : name ∉ fns' ++ fns) :
    functionBody? name (Line.renderAll lines) =
      some ((codeOf (Line.indent^[depth + 1] body)).map String.ofList) := by
  simp only [opensFunction, Bool.and_eq_true, Bool.not_eq_true', List.contains_eq_mem,
    decide_eq_false_iff_not] at opens
  obtain ⟨⟨declared, oneLine⟩, begins⟩ := opens
  have shown : (String.ofList head ++ " \x7b").toList = head ++ [' ', '\x7b'] := by
    rw [String.toList_append, String.toList_ofList]
    rfl
  rw [← shown] at declared oneLine begins
  have opened :
      (functionsIn (symbols (Line.text depth (String.ofList head ++ " \x7b")).chars)).contains
      name = true := by
    rw [Line.chars_text, symbols_replicate_space]
    simpa using declared
  obtain ⟨more, back, said, same⟩ := block.exists_blocks
    (fun line => (functionsIn (symbols line)).contains name) opened oneLine begins whole
  have last : Says allowed [.text depth "\x7d"] [] := says_fixed [] (by decide)
  have indented : Says allowed (Line.indent^[depth + 1] body) fns' := by
    obtain ⟨references, functions⟩ := inside
    constructor <;> rwa [contents_iterate_indent]
  have later : ∀ line ∈ codeOf (Line.indent^[depth + 1] body) ++
      codeOf (.text depth "\x7d" :: back) ++ [[]],
      (functionsIn (symbols line)).contains name = false := by
    intro line member
    rw [← codeOf_append, List.mem_append, List.mem_singleton] at member
    rcases member with later | rfl
    · exact (indented.append (last.cons said)).not_declares never line later
    · rfl
  rw [functionBody?, same, blocks_eq_nil later, List.getLast?_concat]
  rfl

/-- Whether a text begins code and does not break its line. -/
def isWhole (chars : List Char) : Bool :=
  opensCode chars && !chars.contains '\n'

/-- Fixed lines of code are there as they are, after their margins. -/
theorem codeOf_fixed {chars : List Char} (whole : isWhole chars = true) {depth : Nat}
    {rest : List Line} {others : List String} (later : (codeOf rest).map String.ofList = others) :
    (codeOf (.text depth (String.ofList chars) :: rest)).map String.ofList =
      String.ofList (List.replicate (4 * depth) ' ' ++ chars) :: others := by
  simp only [isWhole, Bool.and_eq_true, Bool.not_eq_true', List.contains_eq_mem,
    decide_eq_false_iff_not] at whole
  have oneLine : '\n' ∉ (String.ofList chars).toList := by simpa using whole.2
  have line := codeLines_chars oneLine (by simpa using whole.1) depth
  rw [codeOf, List.flatMap_cons, line, List.map_append, ← later]
  simp [Line.chars_text, codeOf]

end Blocks

end Flowsmith.Source
