import Flowsmith.Proofs.Handlers
import Flowsmith.Proofs.RowReading

/-!
What the texts of a lowered process say in code. The expression that builds its definition names
nothing of the generated sources, whatever texts the definition holds; a handler declares the
function of its name.
-/

namespace Flowsmith

open Source

namespace Source

theorem isQuietStream_text (s : String) : Token.isQuietStream (text s) = true := rfl

theorem isQuietStream_flag (b : Bool) : Token.isQuietStream (flag b) = true := by
  cases b <;> decide

theorem isQuiet_arguments {args : List (List Token)}
    (each : ∀ arg ∈ args, Token.isQuietStream arg = true) : (arguments args).isQuiet = true :=
  Token.isQuietStream_separated (by decide) each

theorem isQuietStream_methodCall {name : String} (quiet : (Token.word name).isQuiet = true)
    {args : List (List Token)} (each : ∀ arg ∈ args, Token.isQuietStream arg = true) :
    Token.isQuietStream (methodCall name args) = true := by
  have dot : (mark '.').isQuiet = true := by decide
  simp [methodCall, dot, quiet, isQuiet_arguments each]

theorem isQuietStream_toList {α : Type} {f : α → List Token}
    (each : ∀ a, Token.isQuietStream (f a) = true) (o : Option α) :
    Token.isQuietStream ((o.map f).getD []) = true := by
  cases o with
  | none => rfl
  | some a => exact each a

theorem symbols_text {ts : List Token} (lexical : Token.isLexicalStream ts = true) :
    symbols (Token.text ts).toList = Token.streamSymbols ts := by
  have nothing : Token.Apart [] := by simp [Token.Apart]
  have whole := Token.symbols_streamChars_append ts lexical nothing
  rw [List.append_nil] at whole
  rw [Token.text, String.toList_ofList, whole]
  exact List.append_nil _

/-- The text of a stream is read as its symbols are. -/
theorem reads_tokens {ts : List Token} (lexical : Token.isLexicalStream ts = true)
    (unjoined : (Token.streamSymbols ts).head? ≠ some (.mark ':')) :
    Reads (Token.text ts) (referencesIn (Token.streamSymbols ts))
      (functionsIn (Token.streamSymbols ts)) where
  oneLine := by
    rw [Token.text, String.toList_ofList]
    exact Token.newline_not_mem_streamChars ts lexical
  unjoined := by rwa [symbols_text lexical]
  references := by rw [symbols_text lexical]
  functions := by rw [symbols_text lexical]

end Source

namespace Lowering

theorem isQuietStream_eventCall (e : Event) : Token.isQuietStream (eventCall e) = true := by
  cases e <;> exact isQuietStream_methodCall (by decide) (by simp [isQuietStream_text])

theorem isQuietStream_message (m : Message) :
    Token.isQuietStream (methodCall "message" [text m.name]) = true :=
  isQuietStream_methodCall (by decide) (by simp [isQuietStream_text])

theorem isQuietStream_handler (key : String) :
    Token.isQuietStream (methodCall "handler" [text key]) = true :=
  isQuietStream_methodCall (by decide) (by simp [isQuietStream_text])

theorem isQuietStream_detailCalls (n : Node) : Token.isQuietStream (detailCalls n) = true := by
  unfold detailCalls
  split
  · exact isQuietStream_toList isQuietStream_eventCall _
  · exact isQuietStream_toList isQuietStream_message _
  · exact isQuietStream_eventCall _
  · exact isQuietStream_eventCall _
  · rw [Token.isQuietStream_append, isQuietStream_eventCall, Bool.and_true]
    exact isQuietStream_methodCall (by decide) (by simp [isQuietStream_text])
  · exact isQuietStream_message _
  · exact isQuietStream_message _
  · exact isQuietStream_methodCall (by decide) (by simp [isQuietStream_text])
  · exact isQuietStream_methodCall (by decide) (by simp [isQuietStream_text, isQuietStream_flag])
  · exact isQuietStream_handler _
  · exact isQuietStream_handler _
  · rfl
  · rfl

theorem isQuietStream_nodeTokens (n : Node) : Token.isQuietStream (nodeTokens n) = true := by
  have begins : Token.isQuietStream (path ["procflow_runtime", "definition", "NodeSpec", "new"]) =
      true := by decide
  have given : (arguments [text n.id, text n.kind.typeName]).isQuiet = true :=
    isQuiet_arguments (by simp [isQuietStream_text])
  have parent : Token.isQuietStream
      ((n.parent.map fun p => methodCall "parent" [text p]).getD []) = true :=
    isQuietStream_toList
      (fun _ => isQuietStream_methodCall (by decide) (by simp [isQuietStream_text])) _
  have name : Token.isQuietStream
      ((n.name.map fun name => methodCall "name" [text name]).getD []) = true :=
    isQuietStream_toList
      (fun _ => isQuietStream_methodCall (by decide) (by simp [isQuietStream_text])) _
  simp only [nodeTokens, Token.isQuietStream_append, Token.isQuietStream_cons,
    Token.isQuietStream_nil, begins, given, parent, name, isQuietStream_detailCalls, Bool.and_true]

/-- The expression that builds a definition holds its texts as literals only. -/
theorem isQuietStream_definitionTokens (d : Definition) :
    Token.isQuietStream (definitionTokens d) = true := by
  have begins : Token.isQuietStream
      (path ["procflow_runtime", "definition", "ProcessDefinition", "builder"]) = true := by decide
  have given : (arguments [text d.id, text (d.version.getD defaultVersion)]).isQuiet = true :=
    isQuiet_arguments (by simp [isQuietStream_text])
  have dynamic : Token.isQuietStream (methodCall "dynamic" [flag d.dynamic]) = true :=
    isQuietStream_methodCall (by decide) (by simp [isQuietStream_flag])
  have nodes : Token.isQuietStream
      (d.nodes.flatMap fun n => methodCall "node" [nodeTokens n]) = true :=
    Token.isQuietStream_flatMap fun n _ =>
      isQuietStream_methodCall (by decide) (by simp [isQuietStream_nodeTokens])
  have connections : Token.isQuietStream
      (d.connections.flatMap fun c => methodCall "connect" [text c.source, text c.target]) = true :=
    Token.isQuietStream_flatMap fun c _ =>
      isQuietStream_methodCall (by decide) (by simp [isQuietStream_text])
  have build : Token.isQuietStream (methodCall "build" []) = true := by decide
  simp only [definitionTokens, Token.isQuietStream_append, Token.isQuietStream_cons,
    Token.isQuietStream_nil, begins, given, dynamic, nodes, connections, build, Bool.and_true]

theorem isQuietStream_handlerBody? {n : Node} {body : List Token}
    (made : handlerBody? n = some body) :
    Token.isQuietStream body = true := by
  have subject : Token.isQuietStream (words ["ctx"]) = true := by decide
  unfold handlerBody? at made
  split at made
  · obtain rfl := Option.some.inj made
    rw [Token.isQuietStream_append, subject, Bool.true_and]
    exact isQuietStream_methodCall (by decide) (by simp [isQuietStream_text])
  · obtain rfl := Option.some.inj made
    rw [Token.isQuietStream_append, subject, Bool.true_and]
    refine isQuietStream_methodCall (by decide) ?_
    rename_i handler parameters _
    have ampersand : (mark '&').isQuiet = true := by decide
    have pairs : Token.isQuietStream (separated [mark ',']
        (parameters.entries.map fun e => [arguments [text e.1, text e.2]])) = true := by
      refine Token.isQuietStream_separated (by decide) ?_
      simp only [List.forall_mem_map]
      intro e _
      rw [Token.isQuietStream_cons, isQuiet_arguments (by simp [isQuietStream_text])]
      rfl
    simp [isQuietStream_text, parameterTokens, ampersand, pairs]
  · exact absurd made (by simp)

/-- What follows the name of a handler. -/
def signatureTokens (body : List Token) : List Token :=
  [.group .round (words ["ctx"] ++ [mark ':', mark '&'] ++ words ["mut"] ++
    path ["procflow_runtime", "context", "NodeContext"] ++
    [mark '<', .mark '\x27' true, .word "_", mark '>'])] ++
  marks '-' '>' ++ path ["procflow_runtime", "Result"] ++
  [mark '<', .group .round [], mark '>', .group .curly body]

theorem isQuietStream_signatureTokens {body : List Token}
    (quiet : Token.isQuietStream body = true) :
    Token.isQuietStream (signatureTokens body) = true := by
  have front : Token.isQuietStream (signatureTokens []) = true := by decide
  simp only [signatureTokens, Token.isQuietStream_append, Token.isQuietStream_cons,
    Token.isQuiet_group, Bool.and_eq_true] at front ⊢
  exact ⟨front.1, front.2.1, front.2.2.1, front.2.2.2.1, quiet, rfl⟩

/-- A handler declares the function of its name and names nothing of the generated sources. -/
theorem reads_handlerTokens {key : String} (isKey : isWord key = true)
    (other : key ≠ "fn" ∧ key ≠ "crate") {body : List Token}
    (quiet : Token.isQuietStream body = true) :
    Reads (Token.text (handlerTokens key body)) [] [key] := by
  have tokens : handlerTokens key body =
      .word "pub" :: .word "fn" :: .word key :: signatureTokens body := rfl
  obtain ⟨lexical, silent, still⟩ :=
    Token.isLexicalStream_of_isQuiet _ (isQuietStream_signatureTokens quiet)
  have shown : Token.streamSymbols (handlerTokens key body) =
      .word "pub" :: .word "fn" :: .word key :: Token.streamSymbols (signatureTokens body) := by
    rw [tokens]
    rfl
  have whole : Token.isLexicalStream (handlerTokens key body) = true := by
    have fixed : (Token.word "pub").isLexical = true ∧
        (Token.word "fn").isLexical = true := by decide
    have name : (Token.word key).isLexical = true := isKey
    rw [tokens, Token.isLexicalStream_cons, Token.isLexicalStream_cons, Token.isLexicalStream_cons,
      lexical, name, fixed.1, fixed.2]
    rfl
  have reads := reads_tokens whole (by rw [shown]; simp)
  have references : referencesIn (Token.streamSymbols (handlerTokens key body)) = [] := by
    refine referencesIn_eq_nil ?_
    rw [shown]
    simpa [Ne.symm other.2] using silent
  have functions : functionsIn (Token.streamSymbols (handlerTokens key body)) = [key] := by
    rw [shown]
    have named : (key == "fn") = false := by simpa using other.1
    simp [functionsIn, functionsFrom, named, (functionsFrom_eq_nil still).1]
  rwa [references, functions] at reads

/-- The handler of a node declares the function of its name. -/
theorem reads_handler {n : Node} {source : String}
    (made : (handler? n).map (Token.text ·.source) = some source) :
    Reads source [] [handlerKey n] ∧ opensCode source.toList = true := by
  obtain ⟨h, isHandler, rfl⟩ := Option.map_eq_some_iff.1 made
  obtain ⟨body, isBody, rfl⟩ := Option.map_eq_some_iff.1 isHandler
  obtain ⟨isIdentifier, free⟩ := namesFunction_handlerKey n
  have other : handlerKey n ≠ "fn" ∧ handlerKey n ≠ "crate" := by
    constructor <;>
    · intro taken
      rw [taken] at free
      exact free (by decide)
  refine ⟨reads_handlerTokens (isWord_of_isIdentifier isIdentifier) other
    (isQuietStream_handlerBody? isBody), ?_⟩
  simp [Token.text, handlerTokens, words, Token.streamChars, chars_word, opensCode, Text.isBlank]

/-- No handler goes by the name of a constructor. -/
theorem handlerKey_ne_new (n : Node) : handlerKey n ≠ "new" := by
  intro same
  have first := congrArg (fun s => s.toList.head?) same
  unfold handlerKey at first
  split at first <;> simp at first

end Lowering

/-- The definition of a lowered process names nothing of the generated sources. -/
theorem adds_definition {d : Definition} {g : LoweredGraph} (lowered : lower d = .ok g) :
    Adds g.definition [] := by
  obtain ⟨lexical, silent, still⟩ :=
    Token.isLexicalStream_of_isQuiet _ (Lowering.isQuietStream_definitionTokens d)
  have last : colonsAfter 0 (Token.streamSymbols (Lowering.definitionTokens d)) ≠ 2 := by
    have build : ∀ colons, colonsAfter colons (Token.streamSymbols (methodCall "build" [])) = 0 :=
      fun colons => rfl
    rw [Lowering.definitionTokens, Token.streamSymbols_append, colonsAfter_append, build]
    decide
  rw [definition_of_lower lowered, ← referencesIn_eq_nil silent]
  refine adds_tokens lexical ?_ last still
  simp [Lowering.definitionTokens, path, separated, Token.symbols]

end Flowsmith
