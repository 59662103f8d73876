import Flowsmith.Proofs.LoweredReading
import Flowsmith.Proofs.Sheets

/-!
The container as it is read: the ids that it lists, and the branches by which it makes entry points,
each with the types that it names. Both are read off the symbols of its lines of code.
-/

namespace Flowsmith

open Source

namespace Source

/-- The texts between quotes in a row of symbols. -/
def quotes : List Symbol → List String
  | [] => []
  | .quote text :: rest => text :: quotes rest
  | _ :: rest => quotes rest

/-- Whether a symbol is no text between quotes. -/
def Symbol.isCode : Symbol → Bool
  | .quote _ => false
  | _ => true

/-- What a row has after each text between quotes: the qualified names up to the next one. -/
def branches : List Symbol → List (String × List (List String))
  | [] => []
  | .quote text :: rest => (text, referencesIn (rest.takeWhile Symbol.isCode)) :: branches rest
  | _ :: rest => branches rest

theorem quotes_append (front back : List Symbol) :
    quotes (front ++ back) = quotes front ++ quotes back := by
  induction front with
  | nil => rfl
  | cons s rest ih => cases s <;> simp [quotes, ih]

theorem branches_append_code {front : List Symbol} (code : ∀ s ∈ front, s.isCode = true)
    (back : List Symbol) : branches (front ++ back) = branches back := by
  induction front with
  | nil => rfl
  | cons s rest ih =>
      rw [List.forall_mem_cons] at code
      cases s with
      | quote text => exact absurd code.1 (by simp [Symbol.isCode])
      | word text => exact ih code.2
      | mark c => exact ih code.2

end Source

namespace Container

/-- The ids that a container lists, as they are written. -/
def listedIds (text : String) : List String :=
  quotes (((readCode id text).dropWhile (· != .word "PROCESS_IDS")).takeWhile (· != .mark ';'))

/-- The ids by which a container makes entry points, as they are written, each with the types that
    it names. -/
def arms (text : String) : List (String × List (List String)) :=
  branches ((readCode id text).dropWhile (· != .word "match"))

section Ids

/-! The list of ids. -/

/-- The symbols of ids in a list. -/
def idSymbols (ids : List String) : List Symbol :=
  Token.streamSymbols (separated [mark ','] (ids.map fun id => [.literal id]))

theorem idSymbols_cons_cons (id next : String) (others : List String) :
    idSymbols (id :: next :: others) =
      .quote (Text.literal id) :: .mark ',' :: idSymbols (next :: others) := rfl

theorem quotes_idSymbols (ids : List String) : quotes (idSymbols ids) = ids.map Text.literal := by
  induction ids with
  | nil => rfl
  | cons id rest ih =>
      cases rest with
      | nil => rfl
      | cons next others =>
          rw [idSymbols_cons_cons]
          simpa [quotes] using ih

/-- Between ids there are commas. -/
theorem mem_idSymbols {ids : List String} {s : Symbol} (member : s ∈ idSymbols ids) :
    s = .mark ',' ∨ ∃ text, s = .quote text := by
  induction ids with
  | nil => exact absurd member (List.not_mem_nil)
  | cons id rest ih =>
      cases rest with
      | nil =>
          change s ∈ [Symbol.quote (Text.literal id)] at member
          exact .inr ⟨_, List.mem_singleton.1 member⟩
      | cons next others =>
          rw [idSymbols_cons_cons, List.mem_cons, List.mem_cons] at member
          rcases member with rfl | rfl | later
          · exact .inr ⟨_, rfl⟩
          · exact .inl rfl
          · exact ih later

/-- What stands between the name of the list and its first id. -/
def listHead : List Symbol :=
  [.mark ':', .mark '&', .mark '[', .mark '&', .word "str", .mark ']', .mark '=',
    .mark '&', .mark '[']

/-- What stands before the name of the list. -/
def listLead : List Symbol :=
  Token.streamSymbols (doc "Ids of every generated process." ++ words ["pub", "const"])

theorem streamSymbols_idTokens (entries : List ContainerEntry) :
    Token.streamSymbols (idTokens entries) = listLead ++ .word "PROCESS_IDS" :: (listHead ++
      idSymbols (entries.map ContainerEntry.processId) ++ [.mark ']', .mark ';']) := by
  simp [idTokens, listLead, listHead, idSymbols, words, mark, Token.symbols, Token.left,
    Token.right, List.map_map, Function.comp_def]

/-- The symbols of the list are the same whatever the ids, but for commas and quoted texts. -/
theorem mem_streamSymbols_idTokens {entries : List ContainerEntry} {s : Symbol}
    (member : s ∈ Token.streamSymbols (idTokens entries)) :
    s ∈ listLead ++ .word "PROCESS_IDS" :: listHead ++ [.mark ']', .mark ';'] ∨
      s = .mark ',' ∨ ∃ text, s = .quote text := by
  rw [streamSymbols_idTokens, List.mem_append, List.mem_cons, List.mem_append,
    List.mem_append] at member
  rcases member with inLead | rfl | (inHead | inIds) | inTail
  · exact .inl (by simp [inLead])
  · exact .inl (by simp)
  · exact .inl (by simp [inHead])
  · exact .inr (mem_idSymbols inIds)
  · exact .inl (List.mem_append_right _ inTail)

end Ids

end Container

namespace ContainerEntry

/-- What the branch of a process names: the constructor of its type, or the type that is to be
    handed in. -/
def named (injected : Bool) (segments : List String) : List String :=
  if injected then segments else segments ++ ["new"]

/-- What stands between the id of a process and what its branch names. -/
def branchLead (injected : Bool) : List Symbol :=
  .mark '=' :: .mark '>' :: .word "Some" :: .mark '(' :: .word "Box" :: .mark ':' :: .mark ':' ::
    .word "new" :: .mark '(' ::
  if injected then
    [.word "procflow_runtime", .mark ':', .mark ':', .word "container", .mark ':', .mark ':',
      .word "resolve", .mark ':', .mark ':', .mark '<']
  else []

/-- What stands after it. -/
def branchTail (injected : Bool) : List Symbol :=
  (if injected then [.mark '>'] else []) ++ [.mark '(', .mark ')', .mark ')', .mark ')', .mark ',']

theorem streamSymbols_path (first : String) (rest : List String) :
    Token.streamSymbols (Source.path (first :: rest)) = pathSymbols (first :: rest) := by
  induction rest generalizing first with
  | nil => rfl
  | cons next others ih =>
      have shown : Source.path (first :: next :: others) =
          .word first :: (marks ':' ':' ++ Source.path (next :: others)) := rfl
      rw [shown, Token.streamSymbols_cons, Token.streamSymbols_append, ih]
      rfl

theorem pathSymbols_append_item (first : String) (rest : List String) (item : String) :
    pathSymbols (first :: rest ++ [item]) =
      pathSymbols (first :: rest) ++ [.mark ':', .mark ':', .word item] := by
  simp [pathSymbols, qualifierSymbols]

theorem streamSymbols_branch (injected : Bool) (processId first : String) (rest : List String) :
    Token.streamSymbols (branch injected ⟨processId, Source.path (first :: rest)⟩) =
      .quote (Text.literal processId) :: (branchLead injected ++
        pathSymbols (named injected (first :: rest)) ++ branchTail injected) := by
  have box : Token.streamSymbols (Source.path ["Box", "new"]) =
      [.word "Box", .mark ':', .mark ':', .word "new"] := rfl
  have resolve : Token.streamSymbols (Source.path ["procflow_runtime", "container", "resolve"]) =
      [.word "procflow_runtime", .mark ':', .mark ':', .word "container", .mark ':', .mark ':',
        .word "resolve"] := rfl
  cases injected with
  | false =>
      rw [named, if_neg (by decide), pathSymbols_append_item]
      simp [branch, constructor, arguments, separated, marks, mark, Token.symbols, Token.left,
        Token.right, box, streamSymbols_path, branchLead, branchTail]
  | true =>
      simp [named, branch, constructor, arguments, separated, marks, mark, Token.symbols,
        Token.left, Token.right, box, resolve, streamSymbols_path, branchLead, branchTail]

theorem exists_named {segments : List String} (qualified : IsQualified segments) (injected : Bool) :
    ∃ more, more ≠ [] ∧ named injected segments = "crate" :: more := by
  obtain ⟨rooted, notAlone, -, -⟩ := qualified
  cases segments with
  | nil => exact absurd rooted (by simp)
  | cons first rest =>
      obtain rfl : first = "crate" := by simpa using rooted
      cases injected with
      | true => exact ⟨rest, notAlone, rfl⟩
      | false => exact ⟨rest ++ ["new"], by simp, rfl⟩

/-- A branch names one type. -/
theorem referencesIn_branch (injected : Bool) {segments : List String}
    (qualified : IsQualified segments) {rest : List Symbol}
    (unjoined : rest.head? ≠ some (.mark ':')) :
    referencesIn (branchLead injected ++ pathSymbols (named injected segments) ++
      branchTail injected ++ rest) = named injected segments :: referencesIn rest := by
  obtain ⟨more, notEmpty, isNamed⟩ := exists_named qualified injected
  have lead : colonsAfter 0 (branchLead injected) ≠ 2 ∧
      referencesIn (branchLead injected) = [] := by
    cases injected <;> decide
  have tail : colonsAfter 0 (branchTail injected) ≠ 2 ∧ referencesIn (branchTail injected) = [] ∧
      (branchTail injected ++ rest).head? ≠ some (.mark ':') := by
    cases injected <;> simp [branchTail] <;> decide
  rw [isNamed, List.append_assoc, List.append_assoc,
    referencesIn_append lead.1 (by simp [pathSymbols]), lead.2,
    referencesIn_path more notEmpty tail.2.2, referencesIn_append tail.1 unjoined, tail.2.1]
  rfl

end ContainerEntry

namespace Container

section Arms

/-! The branches. -/

open ContainerEntry

/-- What stands after the last branch. -/
def armsTail : List Symbol :=
  [.word "_", .mark '=', .mark '>', .word "None", .mark ',', .mark '\x7d', .mark '\x7d']

/-- The symbols of branches. -/
def armSymbols (injected : Bool) (named : List (String × List String)) : List Symbol :=
  named.flatMap fun e => .quote (Text.literal e.1) :: (branchLead injected ++
    pathSymbols (ContainerEntry.named injected e.2) ++ branchTail injected)

theorem armSymbols_cons (injected : Bool) (e : String × List String)
    (rest : List (String × List String)) :
    armSymbols injected (e :: rest) ++ armsTail = .quote (Text.literal e.1) ::
      ((branchLead injected ++ pathSymbols (ContainerEntry.named injected e.2) ++
        branchTail injected) ++ (armSymbols injected rest ++ armsTail)) := by
  simp [armSymbols]

theorem isCode_of_mem_pathSymbols {segments : List String} {s : Symbol}
    (member : s ∈ pathSymbols segments) :
    s.isCode = true := by
  cases segments with
  | nil => exact absurd member (List.not_mem_nil)
  | cons first rest =>
      simp only [pathSymbols, qualifierSymbols, List.mem_cons, List.mem_flatMap, List.not_mem_nil,
        or_false] at member
      rcases member with rfl | ⟨segment, -, rfl | rfl | rfl⟩ <;> rfl

theorem isCode_of_mem_branch {injected : Bool} {segments : List String} {s : Symbol}
    (member : s ∈ branchLead injected ++ pathSymbols segments ++ branchTail injected) :
    s.isCode = true := by
  have fixed : ∀ s ∈ branchLead injected ++ branchTail injected, s.isCode = true := by
    cases injected <;> decide
  simp only [List.mem_append] at member fixed
  rcases member with (inLead | inPath) | inTail
  · exact fixed s (.inl inLead)
  · exact isCode_of_mem_pathSymbols inPath
  · exact fixed s (.inr inTail)

/-- Each branch is read with the type that it names. -/
theorem branches_armSymbols (injected : Bool) {entries : List (String × List String)}
    (qualified : ∀ e ∈ entries, IsQualified e.2) :
    branches (armSymbols injected entries ++ armsTail) =
        entries.map (fun e => (Text.literal e.1, [ContainerEntry.named injected e.2])) ∧
      ((armSymbols injected entries ++ armsTail).takeWhile Symbol.isCode).head? ≠ some (.mark ':') ∧
      referencesIn ((armSymbols injected entries ++ armsTail).takeWhile Symbol.isCode) = [] := by
  induction entries with
  | nil =>
      exact ⟨rfl, (by decide : (armsTail.takeWhile Symbol.isCode).head? ≠ some (.mark ':')), rfl⟩
  | cons e rest ih =>
      rw [List.forall_mem_cons] at qualified
      obtain ⟨later, unjoined, silent⟩ := ih qualified.2
      rw [armSymbols_cons, branches, List.takeWhile_append_of_pos (fun s => isCode_of_mem_branch),
        referencesIn_branch injected qualified.1 unjoined, silent,
        branches_append_code (fun s => isCode_of_mem_branch), later]
      refine ⟨rfl, ?_, ?_⟩
      · rw [List.takeWhile_cons_of_neg (by simp [Symbol.isCode])]
        simp
      · rw [List.takeWhile_cons_of_neg (by simp [Symbol.isCode])]
        rfl

theorem referencesIn_quote (text : String) {rest : List Symbol}
    (unjoined : rest.head? ≠ some (.mark ':')) :
    referencesIn (.quote text :: rest) = referencesIn rest := by
  have silent : referencesIn [.quote text] = [] := rfl
  rw [← List.singleton_append, referencesIn_append (by simp [colonsAfter]) unjoined, silent]
  rfl

/-- Branches name nothing else. -/
theorem referencesIn_armSymbols (injected : Bool) {entries : List (String × List String)}
    (qualified : ∀ e ∈ entries, IsQualified e.2) :
    (armSymbols injected entries ++ armsTail).head? ≠ some (.mark ':') ∧
      referencesIn (armSymbols injected entries ++ armsTail) =
        entries.map fun e => ContainerEntry.named injected e.2 := by
  induction entries with
  | nil => exact ⟨(by decide : armsTail.head? ≠ some (.mark ':')), rfl⟩
  | cons e rest ih =>
      rw [List.forall_mem_cons] at qualified
      obtain ⟨unjoined, later⟩ := ih qualified.2
      have begins : (branchLead injected ++ pathSymbols (ContainerEntry.named injected e.2) ++
          branchTail injected ++ (armSymbols injected rest ++ armsTail)).head? ≠
          some (.mark ':') := by
        simp [branchLead]
      rw [armSymbols_cons, referencesIn_quote _ begins,
        referencesIn_branch injected qualified.1 unjoined, later]
      exact ⟨by simp, rfl⟩

/-- An entry whose type is named in full. -/
def entryOf (e : String × List String) : ContainerEntry :=
  ⟨e.1, Source.path e.2⟩

/-- What stands before the branches, from the word that begins them. -/
def armsHead : List Symbol :=
  [.word "match", .word "id", .mark '\x7b']

/-- What stands before that. -/
def lookupLead : List Symbol :=
  Token.streamSymbols (doc "Create the entry point of a process by id." ++
    words ["pub", "fn", "create_process"] ++
    [.group .round [.word "id", mark ':', mark '&', .word "str"]] ++ marks '-' '>' ++
    [.word "Option", mark '<', .word "Box", mark '<', .word "dyn"] ++
    Source.path ["procflow_runtime", "AnyProcess"] ++ marks '>' '>') ++ [.mark '\x7b']

theorem streamSymbols_flatMap_branch (injected : Bool) {entries : List (String × List String)}
    (qualified : ∀ e ∈ entries, IsQualified e.2) :
    Token.streamSymbols ((entries.map entryOf).flatMap (branch injected)) =
      armSymbols injected entries := by
  rw [List.flatMap_map, Token.streamSymbols_flatMap]
  refine List.flatMap_congr fun e member => ?_
  obtain ⟨processId, segments⟩ := e
  cases segments with
  | nil => exact absurd (qualified _ member).rooted (by simp)
  | cons first others => exact streamSymbols_branch injected processId first others

theorem streamSymbols_lookupTokens (injected : Bool) {entries : List (String × List String)}
    (qualified : ∀ e ∈ entries, IsQualified e.2) :
    Token.streamSymbols (lookupTokens injected (entries.map entryOf)) =
      lookupLead ++ (armsHead ++ (armSymbols injected entries ++ armsTail)) := by
  have branches := streamSymbols_flatMap_branch injected qualified
  simp [lookupTokens, lookupLead, armsHead, armsTail, marks, mark, Token.symbols, Token.left,
    Token.right, branches]

end Arms

section Text

/-! The text of the container. -/

open ContainerEntry

theorem isLexicalStream_separated {divider : List Token}
    (lexical : Token.isLexicalStream divider = true)
    {items : List (List Token)} (each : ∀ item ∈ items, Token.isLexicalStream item = true) :
    Token.isLexicalStream (separated divider items) = true := by
  induction items with
  | nil => rfl
  | cons item rest ih =>
      rw [List.forall_mem_cons] at each
      cases rest with
      | nil => simpa [separated] using each.1
      | cons next others =>
          have shown : separated divider (item :: next :: others) =
              item ++ (divider ++ separated divider (next :: others)) := rfl
          rw [shown, Token.isLexicalStream_append, Token.isLexicalStream_append, each.1, lexical,
            ih each.2]
          rfl

theorem isLexicalStream_path {segments : List String} (words : ∀ s ∈ segments, isWord s = true) :
    Token.isLexicalStream (Source.path segments) = true := by
  refine isLexicalStream_separated (by decide) ?_
  simpa [Token.isLexical] using words

theorem isLexicalStream_branch (injected : Bool) {e : String × List String}
    (words : ∀ s ∈ e.2, isWord s = true) :
    Token.isLexicalStream (branch injected (entryOf e)) = true := by
  have type := isLexicalStream_path words
  have fixed : Token.isLexicalStream (branch injected ⟨"", []⟩) = true := by
    cases injected <;> decide
  cases injected <;>
    simp [branch, constructor, arguments, separated, Token.isLexical, entryOf, type] at fixed ⊢ <;>
    exact fixed

theorem isLexicalStream_tokens (injected : Bool) {entries : List (String × List String)}
    (qualified : ∀ e ∈ entries, IsQualified e.2) :
    Token.isLexicalStream (idTokens (entries.map entryOf) ++
      lookupTokens injected (entries.map entryOf)) = true := by
  have ids : Token.isLexicalStream (separated [mark ',']
      ((entries.map entryOf).map fun e => [.literal e.processId])) = true := by
    refine isLexicalStream_separated (by decide) ?_
    rw [List.forall_mem_map]
    exact fun e _ => rfl
  have branches :
      Token.isLexicalStream ((entries.map entryOf).flatMap (branch injected)) = true := by
    refine Token.isLexicalStream_flatMap ?_
    intro e member
    obtain ⟨e, inEntries, rfl⟩ := List.mem_map.1 member
    exact isLexicalStream_branch injected (qualified e inEntries).words
  have fixed : Token.isLexicalStream (idTokens [] ++ lookupTokens injected []) = true := by
    cases injected <;> decide
  simp only [idTokens, lookupTokens, Token.isLexicalStream_append, Token.isLexicalStream_cons,
    Token.isLexical, ids, branches, Bool.true_and, List.map_nil, List.flatMap_nil] at fixed ⊢
  exact fixed

theorem renderAll_pair (first second : String) :
    Line.renderAll [.text 0 first, .text 0 second] = first ++ "\n" ++ second ++ "\n" := by
  have margin : Line.margin 0 = "" := rfl
  simp [Line.renderAll, Line.render, margin, String.append_assoc]

/-- The text of a container shows the symbols of its tokens. -/
theorem readCode_text {α : Type} {read : List Symbol → List α} (nothing : read [] = [])
    (injected : Bool) {entries : List (String × List String)}
    (qualified : ∀ e ∈ entries, IsQualified e.2) :
    readCode read (text injected (entries.map entryOf)) =
      read (Token.streamSymbols (idTokens (entries.map entryOf)) ++
        Token.streamSymbols (lookupTokens injected (entries.map entryOf))) := by
  have lexical := isLexicalStream_tokens injected qualified
  have begins : ∀ rest, (Token.streamSymbols (idTokens (entries.map entryOf) ++ rest)).head? =
      some (.mark '#') := fun rest => rfl
  have reads := reads_tokens lexical (by rw [begins]; simp)
  have opens : opensCode (Token.text (idTokens (entries.map entryOf) ++
      lookupTokens injected (entries.map entryOf))).toList = true := by
    rw [Token.text, String.toList_ofList]
    rfl
  have lines : text injected (entries.map entryOf) = Line.renderAll
      [.text 0 "// Generated by procflow-compile. Do not edit.",
        .text 0 (Token.text (idTokens (entries.map entryOf) ++
          lookupTokens injected (entries.map entryOf)))] := by
    rw [renderAll_pair]
    rfl
  have comment : readCode read
      ("// Generated by procflow-compile. Do not edit." ++ "") = [] :=
    readCode_of_isCommentLead (by decide) ""
  rw [String.append_empty] at comment
  have shown : symbols (Token.text (idTokens (entries.map entryOf) ++
      lookupTokens injected (entries.map entryOf))).toList =
        Token.streamSymbols (idTokens (entries.map entryOf) ++
          lookupTokens injected (entries.map entryOf)) := symbols_text lexical
  rw [lines, readCode_renderAll nothing, contents_cons, contents_cons, List.flatMap_cons,
    List.flatMap_cons, content_text, content_text, comment, reads.readCode_eq opens, shown,
    Token.streamSymbols_append]
  exact List.append_nil _

/-- A container lists the ids of its processes, in order. -/
theorem listedIds_text (injected : Bool) {entries : List (String × List String)}
    (qualified : ∀ e ∈ entries, IsQualified e.2) :
    listedIds (text injected (entries.map entryOf)) = entries.map fun e => Text.literal e.1 := by
  have before : ∀ s ∈ listLead, (s != .word "PROCESS_IDS") = true := by decide
  have inside : ∀ s ∈ .word "PROCESS_IDS" :: (listHead ++
      idSymbols ((entries.map entryOf).map ContainerEntry.processId) ++ [.mark ']']),
      (s != .mark ';') = true := by
    have head : ∀ s ∈ .word "PROCESS_IDS" :: listHead ++ [.mark ']'],
        (s != .mark ';') = true := by decide
    intro s member
    simp only [List.mem_cons, List.mem_append] at member head
    rcases member with rfl | (inHead | inIds) | rfl | none
    · decide
    · exact head s (.inl (.inr inHead))
    · rcases mem_idSymbols inIds with rfl | ⟨text, rfl⟩ <;> simp
    · decide
    · exact absurd none (List.not_mem_nil)
  have silent : quotes listHead = [] := by decide
  have shown : Token.streamSymbols (idTokens (entries.map entryOf)) = listLead ++
      (.word "PROCESS_IDS" :: (listHead ++
        idSymbols ((entries.map entryOf).map ContainerEntry.processId) ++ [.mark ']']) ++
          [.mark ';']) := by
    rw [streamSymbols_idTokens]
    simp
  rw [listedIds, readCode_text rfl injected qualified, id, shown, List.append_assoc,
    List.dropWhile_append_of_pos before, List.cons_append, List.cons_append,
    List.dropWhile_cons_of_neg (by simp), ← List.cons_append, ← List.cons_append,
    List.append_assoc _ [_], List.takeWhile_append_of_pos inside, List.singleton_append,
    List.takeWhile_cons_of_neg (by simp), List.append_nil]
  simp [quotes, quotes_append, silent, quotes_idSymbols, entryOf]

/-- A container makes the entry point of each of its processes by its id. -/
theorem arms_text (injected : Bool) {entries : List (String × List String)}
    (qualified : ∀ e ∈ entries, IsQualified e.2) :
    arms (text injected (entries.map entryOf)) =
      entries.map fun e => (Text.literal e.1, [ContainerEntry.named injected e.2]) := by
  have before : ∀ s ∈ Token.streamSymbols (idTokens (entries.map entryOf)) ++ lookupLead,
      (s != .word "match") = true := by
    have fixed : ∀ s ∈ listLead ++ .word "PROCESS_IDS" :: listHead ++ [.mark ']', .mark ';'],
        (s != .word "match") = true := by decide
    have lead : ∀ s ∈ lookupLead, (s != .word "match") = true := by decide
    intro s member
    rcases List.mem_append.1 member with inIds | inLead
    · rcases mem_streamSymbols_idTokens inIds with same | rfl | ⟨text, rfl⟩
      · exact fixed s same
      · decide
      · simp
    · exact lead s inLead
  have head : ∀ s ∈ armsHead, s.isCode = true := by decide
  rw [arms, readCode_text rfl injected qualified, id, streamSymbols_lookupTokens injected qualified,
    ← List.append_assoc, List.dropWhile_append_of_pos before, armsHead, List.cons_append,
    List.dropWhile_cons_of_neg (by simp), ← List.cons_append]
  exact (branches_append_code head _).trans (branches_armSymbols injected qualified).1

/-- A container names nothing but what its branches name. -/
theorem references_text (injected : Bool) {entries : List (String × List String)}
    (qualified : ∀ e ∈ entries, IsQualified e.2) :
    readCode referencesIn (text injected (entries.map entryOf)) =
      entries.map fun e => ContainerEntry.named injected e.2 := by
  have ids : .word "crate" ∉ Token.streamSymbols (idTokens (entries.map entryOf)) := by
    intro member
    rcases mem_streamSymbols_idTokens member with same | isMark | ⟨text, isQuote⟩
    · exact absurd same (by decide)
    · exact absurd isMark (by simp)
    · exact absurd isQuote (by simp)
  have head : .word "crate" ∉ lookupLead ++ armsHead := by decide
  have apart : colonsAfter 0 (Token.streamSymbols (idTokens (entries.map entryOf)) ++
      (lookupLead ++ armsHead)) ≠ 2 := by
    have ends : ∀ colons, colonsAfter colons (lookupLead ++ armsHead) = 0 := fun colons => rfl
    rw [colonsAfter_append, ends]
    decide
  obtain ⟨unjoined, named⟩ := referencesIn_armSymbols injected qualified
  rw [readCode_text rfl injected qualified, streamSymbols_lookupTokens injected qualified,
    ← List.append_assoc lookupLead, ← List.append_assoc, referencesIn_append apart unjoined, named,
    referencesIn_eq_nil (by simpa using ⟨ids, by simpa using head⟩)]
  rfl

end Text

end Container

end Flowsmith
