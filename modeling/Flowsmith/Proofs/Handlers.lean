import Flowsmith.Proofs.FieldNames
import Flowsmith.Proofs.Lowerable
import Flowsmith.Proofs.LoweredText
import Mathlib.Data.Set.Function

/-!
Handlers of lowered processes. The definition calls handlers by their names, and the functions of
these names are written apart from it. Both are made for the nodes that carry a script or a work
item, and lowering refuses two nodes whose handlers would share a name, so each call finds the
function that was written for its node.
-/

namespace Flowsmith

namespace Source.Token

/-- What a method is called with where a stream begins, if that is a call of it. -/
def callHere (method : String) : List Token → List (List Token)
  | .mark '.' _ :: .word name :: .group .round args :: _ => if name = method then [args] else []
  | _ => []

mutual

/-- What a method is called with inside a token. -/
def callsInside (method : String) : Token → List (List Token)
  | .group _ body => calls method body
  | _ => []

/-- What a method is called with, wherever in a stream it is called, in the order of the calls. -/
def calls (method : String) : List Token → List (List Token)
  | [] => []
  | t :: rest => callHere method (t :: rest) ++ t.callsInside method ++ calls method rest

end

end Source.Token

namespace Lowering

open Source

section Calls

variable (method : String)

theorem calls_callTokens (call : String × List Token) (rest : List Token) :
    Token.calls method (callTokens call ++ rest) =
      (if call.1 = method then [call.2] else []) ++ Token.calls method call.2 ++
        Token.calls method rest := by
  simp [callTokens, mark, Token.calls, Token.callHere, Token.callsInside]

theorem calls_path (segments : List String) (rest : List Token) :
    Token.calls method (path segments ++ rest) = Token.calls method rest := by
  induction segments with
  | nil => rfl
  | cons segment others ih =>
      cases others with
      | nil => rfl
      | cons next others =>
          have first : path (segment :: next :: others) =
              .word segment :: (marks ':' ':' ++ path (next :: others)) := rfl
          rw [first, ← ih]
          simp [marks, Token.calls, Token.callHere, Token.callsInside]

theorem calls_text (s : String) : Token.calls method (text s) = [] := rfl

theorem calls_flag (b : Bool) : Token.calls method (flag b) = [] := rfl

/-- What there may be one of makes no call if none of it does. -/
theorem calls_toList_map {α : Type} {f : α → List Token}
    (silent : ∀ a, Token.calls method (f a) = [])
    (o : Option α) : (o.map f).toList.flatMap (Token.calls method) = [] := by
  cases o with
  | none => rfl
  | some a => simpa using silent a

/-- The calls of a chain are those by that name and those in what its methods are called with. -/
theorem calls_expression (segments : List String) (first second : String)
    (chain : List (String × List (List Token))) :
    Token.calls method (expression segments first second chain) =
      chain.flatMap fun entry => entry.2.flatMap fun body =>
        (if entry.1 = method then [body] else []) ++ Token.calls method body := by
  have callsOfAll : ∀ called : List (String × List Token),
      Token.calls method (called.flatMap callTokens) =
      called.flatMap fun call => (if call.1 = method then [call.2]
        else []) ++ Token.calls method call.2 := by
    intro called
    induction called with
    | nil => rfl
    | cons call rest ih => rw [List.flatMap_cons, calls_callTokens, ih, List.flatMap_cons]
  have none : Token.calls method (arguments [text first, text second] ::
      (callsOf chain).flatMap callTokens) =
      Token.calls method ((callsOf chain).flatMap callTokens) := rfl
  rw [expression, calls_path, none, callsOfAll, callsOf, List.flatMap_assoc]
  simp only [List.flatMap_map]

/-- A node calls the handler of its outline, and nothing else that is called a handler. -/
theorem calls_outlineTokens (o : NodeOutline) :
    Token.calls "handler" (outlineTokens o) = (o.handler.map text).toList := by
  have texts := calls_toList_map "handler" (calls_text "handler")
  have gateway :=
    calls_toList_map "handler" (fun type : GatewayType => calls_text "handler" (Keyword.text type))
  have call := calls_toList_map "handler" (f := fun c : CallOutline =>
    separated [mark ','] [text c.process, flag c.waits, flag c.independent]) fun _ => rfl
  have own : ((o.handler.map text).toList.flatMap fun body => body :: Token.calls "handler" body) =
      (o.handler.map text).toList := by
    cases o.handler <;> rfl
  rw [outlineTokens, calls_expression]
  simp [nodeChain, detailChain, texts, gateway, call, own]

theorem calls_definitionTokens (d : Definition) :
    Token.calls "handler" (definitionTokens d) =
      d.nodes.flatMap fun n => (n.outline.handler.map text).toList := by
  have connections : (d.connections.flatMap fun c =>
      Token.calls "handler" (separated [mark ','] [text c.source, text c.target])) = [] :=
    List.flatMap_eq_nil_iff.2 fun _ _ => rfl
  have nothing : Token.calls "handler" [] = [] := rfl
  rw [definitionTokens_eq, calls_expression]
  simp [definitionChain, List.flatMap_map, calls_outlineTokens, calls_flag, connections, nothing]

end Calls

section Functions

/-- The text of the function of a handler. -/
def functionText (key body : String) : String :=
  "pub fn " ++ key ++ " (ctx : & mut procflow_runtime :: context :: NodeContext < '_ >)" ++
    " -> procflow_runtime :: Result < () > \x7b " ++ body ++ " \x7d"

/-- The text that runs a script. -/
def scriptText (script : String) : String :=
  "ctx . run_script (" ++ Text.literal script ++ ")"

/-- The text that has a handler do its work, with parameters in the order of their names. -/
def workText (handler : String) (parameters : Dict String) : String :=
  "ctx . execute_work_item (" ++ Text.literal handler ++ " , & [" ++
    String.intercalate " , " (parameters.entries.map fun e =>
      "(" ++ Text.literal e.1 ++ " , " ++ Text.literal e.2 ++ ")") ++ "])"

section Characters

/-! The characters of a token, with the literal left as it is. -/

theorem chars_word (word : String) : (Token.word word).chars = word.toList := by
  rw [Token.chars]

theorem chars_mark (c : Char) (joint : Bool) : (Token.mark c joint).chars = [c] := by
  rw [Token.chars]

theorem chars_literal (value : String) :
    (Token.literal value).chars = (Text.literal value).toList := by
  rw [Token.chars]

theorem chars_group (bracket : Bracket) (body : List Token) :
    (Token.group bracket body).chars = Token.around bracket (Token.streamChars body) := by
  rw [Token.chars]

end Characters

theorem text_handlerTokens (key : String) {body : List Token}
    (notEmpty : Token.streamChars body ≠ []) :
    Token.text (handlerTokens key body) = functionText key (Token.text body) := by
  apply String.toList_inj.1
  simp [Token.text, handlerTokens, functionText, words, mark, marks, path, separated,
    Token.streamChars, chars_word, chars_mark, chars_group, Token.around, Token.isJoint, notEmpty]

/-- Groups between commas, each comma between spaces. -/
theorem streamChars_separated (groups : List Token) (free : ∀ t ∈ groups, t.isJoint = false) :
    Token.streamChars (separated [mark ','] (groups.map fun t => [t])) =
      [' ', ',', ' '].intercalate (groups.map Token.chars) := by
  induction groups with
  | nil => rfl
  | cons t rest ih =>
      cases rest with
      | nil => simp [separated, Token.streamChars]
      | cons next others =>
          rw [List.forall_mem_cons] at free
          have later := ih free.2
          have first : separated [mark ','] ((t :: next :: others).map fun t => [t]) =
              t :: mark ',' :: separated [mark ','] ((next :: others).map fun t => [t]) := rfl
          have goesOn : ∃ tail, separated [mark ','] ((next :: others).map fun t => [t]) =
              next :: tail := by
            cases others <;> exact ⟨_, rfl⟩
          obtain ⟨tail, isTail⟩ := goesOn
          rw [isTail] at later
          have comma : (Token.mark ',' false).isJoint = false := rfl
          rw [first, isTail, List.map_cons, List.map_cons, List.intercalate_cons_cons,
            ← List.map_cons, ← later]
          simp [Token.streamChars, free.1, comma, mark, chars_mark]

theorem text_scriptBody (script : String) :
    Token.text (words ["ctx"] ++ methodCall "run_script" [text script]) = scriptText script := by
  have quoted := chars_literal script
  apply String.toList_inj.1
  unfold scriptText
  generalize Text.literal script = q at quoted ⊢
  simp [Token.text, words, methodCall, mark, arguments, separated, text, Token.streamChars,
    chars_word, chars_mark, chars_group, quoted, Token.around, Token.isJoint]

/-- The characters of a parameter. -/
theorem chars_parameter (e : String × String) :
    (arguments [text e.1, text e.2]).chars =
      ("(" ++ Text.literal e.1 ++ " , " ++ Text.literal e.2 ++ ")").toList := by
  have name := chars_literal e.1
  have value := chars_literal e.2
  generalize Text.literal e.1 = p at name ⊢
  generalize Text.literal e.2 = q at value ⊢
  simp [mark, arguments, separated, text, Token.streamChars, chars_mark, chars_group, name, value,
    Token.around, Token.isJoint]

/-- The parameters of a work item are a list of pairs. -/
theorem exists_parameterTokens (parameters : Dict String) :
    ∃ list, parameterTokens parameters = [mark '&', .group .square list] ∧
      Token.streamChars list = (String.intercalate " , " (parameters.entries.map fun e =>
        "(" ++ Text.literal e.1 ++ " , " ++ Text.literal e.2 ++ ")")).toList := by
  refine ⟨_, rfl, ?_⟩
  have free : ∀ t ∈ parameters.entries.map fun e => arguments [text e.1, text e.2],
      t.isJoint = false := by
    simp only [List.forall_mem_map]
    exact fun _ _ => rfl
  have list := streamChars_separated _ free
  simp only [List.map_map, Function.comp_def, chars_parameter] at list
  rw [list, String.toList_intercalate, List.map_map]
  rfl

theorem text_workBody (handler : String) (parameters : Dict String) :
    Token.text (words ["ctx"] ++ methodCall "execute_work_item"
      [text handler, parameterTokens parameters]) =
      workText handler parameters := by
  obtain ⟨list, isList, chars⟩ := exists_parameterTokens parameters
  have quoted := chars_literal handler
  apply String.toList_inj.1
  unfold workText
  rw [isList]
  generalize Text.literal handler = q at quoted ⊢
  generalize String.intercalate " , " _ = pairs at chars ⊢
  simp [Token.text, words, methodCall, mark, arguments, separated, text, Token.streamChars,
    chars_word, chars_mark, chars_group, quoted, chars, Token.around, Token.isJoint]

/-- The handler that is made for a node, if it carries behaviour of its own. -/
def handler? (n : Node) : Option Handler :=
  (handlerBody? n).map fun body => ⟨n.id, handlerTokens (handlerKey n) body⟩

variable {n : Node}

theorem isSome_handler? : (handler? n).isSome = (handlerBody? n).isSome :=
  Option.isSome_map

/-- A handler is written as the function of its name around what it does. -/
theorem text_of_handlerBody? {rest : List Token}
    (body : handlerBody? n = some (words ["ctx"] ++ rest)) :
    (handler? n).map (Token.text ·.source) =
      some (functionText (handlerKey n) (Token.text (words ["ctx"] ++ rest))) := by
  have begins : Token.streamChars (words ["ctx"] ++ rest) ≠ [] := by
    cases rest <;> simp [words, Token.streamChars, chars_word]
  rw [handler?, body, Option.map_some, Option.map_some, text_handlerTokens _ begins]

theorem text_of_script {script : String} (kind : n.kind = .action (some script)) :
    (handler? n).map (Token.text ·.source) =
      some (functionText (handlerKey n) (scriptText script)) := by
  rw [← text_scriptBody]
  exact text_of_handlerBody? (by rw [handlerBody?, kind])

theorem text_of_workItem {handler : String} {parameters : Dict String}
    (kind : n.kind = .workItem handler parameters) : (handler? n).map (Token.text ·.source) =
      some (functionText (handlerKey n) (workText handler parameters)) := by
  rw [← text_workBody]
  exact text_of_handlerBody? (by rw [handlerBody?, kind])

end Functions

section Collecting

variable {n : Node} {found after : Dict Handler}

/-- A node adds its handler under a name that is free, or nothing if it has none. -/
theorem addHandler_cases (added : addHandler found n = .ok after) :
    (handler? n = none ∧ after = found) ∨
      ∃ h, handler? n = some h ∧ found.get? (handlerKey n) = none ∧
        after = found.insert (handlerKey n) h := by
  unfold addHandler at added
  unfold handler?
  cases body : handlerBody? n with
  | none =>
      simp only [body, Except.ok.injEq] at added
      exact .inl ⟨rfl, added.symm⟩
  | some tokens =>
      cases taken : found.get? (handlerKey n) with
      | some first => simp [body, taken] at added
      | none =>
          simp only [body, taken, Except.ok.injEq] at added
          exact .inr ⟨_, rfl, rfl, added.symm⟩

theorem get?_eq_some_of_addHandler (added : addHandler found n = .ok after) {key : String}
    {h : Handler} :
    after.get? key = some h ↔
      found.get? key = some h ∨ handler? n = some h ∧ handlerKey n = key := by
  rcases addHandler_cases added with ⟨none, rfl⟩ | ⟨own, made, free, rfl⟩
  · simp [none]
  · rw [Dict.get?_insert, made, Option.some.injEq]
    by_cases here : key = handlerKey n
    · simp [here, free]
    · simp [here, Ne.symm here]

/-- What is collected is what was there and the handlers of the nodes: none of them is lost to a
    later one. -/
theorem get?_of_foldlM_addHandler {nodes : List Node}
    (collected : nodes.foldlM addHandler found = .ok after) {key : String} {h : Handler} :
    after.get? key = some h ↔
      found.get? key = some h ∨ ∃ n ∈ nodes, handler? n = some h ∧ handlerKey n = key := by
  induction nodes generalizing found with
  | nil =>
      obtain rfl : found = after := Except.ok.inj collected
      simp
  | cons head rest ih =>
      rw [List.foldlM_cons] at collected
      obtain ⟨next, added, later⟩ := bind_eq_ok.1 collected
      rw [ih later, get?_eq_some_of_addHandler added, List.exists_mem_cons_iff, or_assoc]

end Collecting

end Lowering

/-- Whether lowering makes a handler for a node: it carries a script or a work item. -/
def Node.isHandled (n : Node) : Bool :=
  match n.kind with
  | .action (some _) => true
  | .workItem .. => true
  | _ => false

/-- The nodes that have handlers, in their order. -/
def Definition.handledNodes (d : Definition) : List Node :=
  d.nodes.filter Node.isHandled

section Handled

variable {d : Definition} {n : Node}

theorem Node.isHandled_iff : n.isHandled = true ↔ n.IsScripted ∨ n.IsWorkItem := by
  unfold isHandled IsScripted IsWorkItem
  cases n.kind with
  | action script => cases script <;> simp
  | _ => simp

theorem Node.isHandled_eq : n.isHandled = (Lowering.handlerBody? n).isSome := by
  rw [Bool.eq_iff_iff, isHandled_iff, Lowering.isSome_handlerBody?_iff]

theorem Definition.mem_handledNodes_iff : n ∈ d.handledNodes ↔ n ∈ d.nodes ∧ n.isHandled = true :=
  List.mem_filter

end Handled

/-- A word that can name a function: an identifier that is not taken by the language. -/
def Naming.NamesFunction (word : String) : Prop :=
  IsIdentifier word.toList ∧ word ∉ "_" :: "Self" :: reservedWords

section Names

/-- A text that begins as no word of the language does names a function, whatever the id is that it
    goes on with. -/
theorem Naming.namesFunction_append_sanitize {front : String} (opening : IsIdentifier front.toList)
    (free : ∀ word ∈ "_" :: "Self" :: reservedWords, ¬ front.toList <+: word.toList) (s : String) :
    NamesFunction (front ++ sanitize s) := by
  constructor
  · obtain ⟨c, rest, chars, opens, goesOn⟩ := opening
    refine ⟨c, rest ++ sanitizeChars s.toList, ?_, opens, ?_⟩
    · rw [String.toList_append, chars, sanitize, String.toList_ofList, List.cons_append]
    · intro x member
      rcases List.mem_append.1 member with inFront | inName
      · exact goesOn x inFront
      · exact isWordChar_iff.1 (isWordChar_of_mem_sanitizeChars inName)
  · intro taken
    apply free _ taken
    rw [String.toList_append]
    exact List.prefix_append _ _

/-- Handlers have names that functions can have, whatever the ids of their nodes. -/
theorem Lowering.namesFunction_handlerKey (n : Node) : Naming.NamesFunction (handlerKey n) := by
  have action : Naming.IsIdentifier "action_".toList := Validation.validSegment_iff.1 (by decide)
  have workItem : Naming.IsIdentifier "work_item_".toList :=
    Validation.validSegment_iff.1 (by decide)
  unfold handlerKey
  split
  · exact Naming.namesFunction_append_sanitize workItem (by decide) n.id
  · exact Naming.namesFunction_append_sanitize action (by decide) n.id

end Names

/-- How the handlers of a lowered process belong to its nodes. -/
structure Definition.HandledBy (d : Definition) (g : LoweredGraph) : Prop where
  /-- No node with a handler comes twice. -/
  distinct : d.handledNodes.Nodup
  /-- Each such node has a function of its own, and there are no others. -/
  keys : Set.BijOn Lowering.handlerKey {n | n ∈ d.handledNodes} {key | key ∈ g.handlers.keys}
  /-- The definition can be read in one way only, and it calls the handlers of the nodes in the
      order of the nodes. -/
  calls : ∃ tokens, (∀ ts, Source.Token.isPlainStream ts = true ∧
    Source.Token.text ts = g.definition ↔ ts = tokens) ∧
    Source.Token.calls "handler" tokens =
      d.handledNodes.map fun n => [.literal (Lowering.handlerKey n)]
  scripts : ∀ n ∈ d.nodes, ∀ script, n.kind = .action (some script) →
    g.handlers.get? (Lowering.handlerKey n) =
      some (Lowering.functionText (Lowering.handlerKey n) (Lowering.scriptText script))
  works : ∀ n ∈ d.nodes, ∀ handler parameters, n.kind = .workItem handler parameters →
    g.handlers.get? (Lowering.handlerKey n) =
      some (Lowering.functionText (Lowering.handlerKey n) (Lowering.workText handler parameters))

section Lowered

variable {d : Definition} {g : LoweredGraph}

theorem handlers_of_lower (lowered : lower d = .ok g) :
    ∃ found, Lowering.handlers d = .ok found ∧
      g.handlers = found.map (Source.Token.text ·.source) := by
  rw [lower] at lowered
  split at lowered
  · cases lowered
  · obtain ⟨found, collected, isGraph⟩ := bind_eq_ok.1 lowered
    exact ⟨found, collected, by rw [← Except.ok.inj isGraph]⟩

/-- The functions of a lowered process are those of its nodes. -/
theorem get?_handlers_of_lower (lowered : lower d = .ok g) {key source : String} :
    g.handlers.get? key = some source ↔
      ∃ n ∈ d.nodes, (Lowering.handler? n).map (Source.Token.text ·.source) = some source ∧
        Lowering.handlerKey n = key := by
  obtain ⟨found, collected, handlers⟩ := handlers_of_lower lowered
  have members : ∀ h, found.get? key = some h ↔
      ∃ n ∈ d.nodes, Lowering.handler? n = some h ∧ Lowering.handlerKey n = key := by
    intro h
    rw [Lowering.get?_of_foldlM_addHandler collected, Dict.get?_empty]
    simp
  simp only [handlers, Dict.get?_map, Option.map_eq_some_iff, members]
  constructor
  · rintro ⟨h, ⟨n, member, made, named⟩, isSource⟩
    exact ⟨n, member, ⟨h, made, isSource⟩, named⟩
  · rintro ⟨n, member, ⟨h, made, isSource⟩, named⟩
    exact ⟨h, ⟨n, member, made, named⟩, isSource⟩

theorem mem_keys_handlers_of_lower (lowered : lower d = .ok g) {key : String} :
    key ∈ g.handlers.keys ↔ ∃ n ∈ d.handledNodes, Lowering.handlerKey n = key := by
  rw [Dict.mem_keys_iff, Dict.contains, Option.isSome_iff_exists]
  simp only [get?_handlers_of_lower lowered, Definition.mem_handledNodes_iff, Node.isHandled_eq,
    ← Lowering.isSome_handler?, Option.isSome_iff_exists, Option.map_eq_some_iff]
  constructor
  · rintro ⟨source, n, member, ⟨h, made, -⟩, named⟩
    exact ⟨n, ⟨member, h, made⟩, named⟩
  · rintro ⟨n, ⟨member, h, made⟩, named⟩
    exact ⟨_, n, member, ⟨h, made, rfl⟩, named⟩

/-- No two nodes of a lowered process share a handler, not even two nodes that are alike. -/
theorem nodup_handlerKeys_of_lower (lowered : lower d = .ok g) :
    (d.handledNodes.map Lowering.handlerKey).Nodup := by
  obtain ⟨found, collected, -⟩ := handlers_of_lower lowered
  have apart := (Lowering.exists_foldlM_addHandler_iff.1 ⟨found, collected⟩).2
  rw [List.Nodup, List.pairwise_map, Definition.handledNodes, List.pairwise_filter]
  simp only [Node.isHandled_eq]
  exact apart

theorem calls_handlers (d : Definition) :
    Source.Token.calls "handler" (Lowering.definitionTokens d) =
      d.handledNodes.map fun n => [.literal (Lowering.handlerKey n)] := by
  have each : ∀ n : Node, (n.outline.handler.map Source.text).toList =
      if n.isHandled = true then [[.literal (Lowering.handlerKey n)]] else [] := by
    intro n
    rw [Node.isHandled_eq, Node.outline]
    cases Lowering.handlerBody? n <;> rfl
  rw [Lowering.calls_definitionTokens, Definition.handledNodes]
  simp only [each]
  induction d.nodes with
  | nil => rfl
  | cons head rest ih =>
      rw [List.flatMap_cons, ih]
      cases handled : head.isHandled <;> simp [handled]

end Lowered

/-- Definition and handlers of a lowered process match: its nodes with a script or a work item have
    a function each, the definition calls these and no others, and each does what is said of its
    node. A handler can be named after any id. -/
theorem handledBy_of_lower {d : Definition} {g : LoweredGraph} (lowered : lower d = .ok g) :
    d.HandledBy g ∧ ∀ n : Node, Naming.NamesFunction (Lowering.handlerKey n) := by
  have distinctKeys := nodup_handlerKeys_of_lower lowered
  have ofKeys : ∀ {key : String}, key ∈ g.handlers.keys ↔
      ∃ n ∈ d.handledNodes, Lowering.handlerKey n = key :=
    mem_keys_handlers_of_lower lowered
  refine ⟨⟨List.Nodup.of_map _ distinctKeys, ⟨?_, ?_, ?_⟩, ?_, ?_, ?_⟩,
    Lowering.namesFunction_handlerKey⟩
  · exact fun n handled => ofKeys.2 ⟨n, handled, rfl⟩
  · exact fun n handled m handled' same => List.inj_on_of_nodup_map distinctKeys
      handled handled' same
  · exact fun key present => ofKeys.1 present
  · refine ⟨Lowering.definitionTokens d, fun ts => ?_, calls_handlers d⟩
    rw [definition_of_lower lowered]
    have plain := Lowering.isPlainStream_definitionTokens d
    constructor
    · rintro ⟨plain', same⟩
      exact Source.Token.eq_of_text_eq plain' plain same
    · rintro rfl
      exact ⟨plain, rfl⟩
  · intro n member script kind
    exact (get?_handlers_of_lower lowered).2 ⟨n, member, Lowering.text_of_script kind, rfl⟩
  · intro n member handler parameters kind
    exact (get?_handlers_of_lower lowered).2 ⟨n, member, Lowering.text_of_workItem kind, rfl⟩

/-- A process with a script and a work item whose ids become one identifier, and an action that does
    nothing. -/
def Definition.mailed : Definition :=
  { id := "mailed"
    nodes := [
      { id := "start", kind := .start none },
      { id := "a.b", kind := .workItem "mail" (.ofList [("to", "you"), ("from", "\"me\"")]) },
      { id := "pause", kind := .action none },
      { id := "a-b", kind := .action (some "x = 1") }]
    connections := [⟨"start", "a.b"⟩, ⟨"a.b", "pause"⟩, ⟨"pause", "a-b"⟩] }

theorem handledBy_of_lower_mailed : ∃ g, lower .mailed = .ok g ∧ Definition.mailed.HandledBy g ∧
    Definition.mailed.handledNodes.map Lowering.handlerKey = ["work_item_a_b", "action_a_b"] ∧
    g.handlers.get? "work_item_a_b" = some (Lowering.functionText "work_item_a_b"
      ("ctx . execute_work_item (\"mail\" , & " ++
        "[(\"from\" , \"\\\"me\\\"\") , (\"to\" , \"you\")])")) := by
  have work : Lowering.workText "mail" (.ofList [("to", "you"), ("from", "\"me\"")]) =
      "ctx . execute_work_item (\"mail\" , & " ++
        "[(\"from\" , \"\\\"me\\\"\") , (\"to\" , \"you\")])" := by
    decide +kernel
  obtain ⟨g, lowered⟩ : ∃ g, lower .mailed = .ok g := ⟨_, rfl⟩
  have handled := (handledBy_of_lower lowered).1
  refine ⟨g, lowered, handled, by decide, ?_⟩
  rw [← work]
  exact handled.works _ (.tail _ (.head _)) _ _ rfl

end Flowsmith
