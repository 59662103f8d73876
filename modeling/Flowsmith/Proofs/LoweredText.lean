import Flowsmith.Lowering
import Flowsmith.Proofs.Results
import Flowsmith.Proofs.RoundTrip
import Flowsmith.Proofs.TokenText

/-!
The text of a lowered process tells the process as far as it is emitted. An expression is a
qualified name, two texts and calls that come in the order of their names, so its tokens tell what
each name is called with; the tokens are plain, so the text tells them.
-/

namespace Flowsmith

namespace Lowering

open Source

/-- A call, by its name and what stands between its brackets. -/
def callTokens (call : String × List Token) : List Token :=
  [mark '.', .word call.1, .group .round call.2]

/-- The calls of a chain that is given by names, each with what stands between the brackets of its
    calls. -/
def callsOf (chain : List (String × List (List Token))) : List (String × List Token) :=
  chain.flatMap fun entry => entry.2.map fun body => (entry.1, body)

/-- A chain of calls on what a function returns for two texts. -/
def expression (segments : List String) (first second : String)
    (chain : List (String × List (List Token))) : List Token :=
  path segments ++ arguments [text first, text second] :: (callsOf chain).flatMap callTokens

theorem methodCall_eq (name : String) (args : List (List Token)) :
    methodCall name args = callTokens (name, separated [mark ','] args) := rfl

section Chains

theorem eq_of_callTokens_eq : {calls calls' : List (String × List Token)} →
    calls.flatMap callTokens = calls'.flatMap callTokens → calls = calls'
  | [], [], _ => rfl
  | [], _ :: _, equal => by simp [callTokens] at equal
  | _ :: _, [], equal => by simp [callTokens] at equal
  | call :: rest, call' :: rest', equal => by
      simp only [List.flatMap_cons, callTokens, List.cons_append, List.nil_append, List.cons.injEq,
        Token.word.injEq, Token.group.injEq, true_and] at equal
      obtain ⟨name, body, others⟩ := equal
      rw [Prod.ext name body, eq_of_callTokens_eq others]

theorem mem_callsOf_iff {chain : List (String × List (List Token))} {call : String × List Token} :
    call ∈ callsOf chain ↔ ∃ entry ∈ chain, entry.1 = call.1 ∧ call.2 ∈ entry.2 := by
  simp only [callsOf, List.mem_flatMap, List.mem_map, Prod.ext_iff]
  constructor
  · rintro ⟨entry, member, body, isBody, name, rfl⟩
    exact ⟨entry, member, name, isBody⟩
  · rintro ⟨entry, member, name, isBody⟩
    exact ⟨entry, member, call.2, isBody, name, rfl⟩

/-- The calls of a name that does not come again are those that bear it. -/
theorem named_callsOf {entry : String × List (List Token)}
    {rest : List (String × List (List Token))} (fresh : entry.1 ∉ rest.map Prod.fst) :
    ((callsOf (entry :: rest)).filter (fun call => call.1 == entry.1)).map Prod.snd = entry.2 := by
  have own : (entry.2.map fun body => (entry.1, body)).filter (fun call => call.1 == entry.1) =
      entry.2.map fun body => (entry.1, body) := by
    simp [List.filter_eq_self]
  have foreign : (callsOf rest).filter (fun call => call.1 == entry.1) = [] := by
    rw [List.filter_eq_nil_iff]
    intro call member isNamed
    obtain ⟨other, isOther, named, -⟩ := mem_callsOf_iff.1 member
    refine fresh (List.mem_map.2 ⟨other, isOther, ?_⟩)
    rw [named, eq_of_beq isNamed]
  rw [callsOf, List.flatMap_cons, List.filter_append, own]
  rw [callsOf] at foreign
  rw [foreign, List.append_nil, List.map_map]
  exact List.map_id _

/-- Where names are distinct, the calls tell what each name is called with. -/
theorem eq_of_callsOf_eq {chain chain' : List (String × List (List Token))}
    (distinct : (chain.map Prod.fst).Nodup) (names : chain.map Prod.fst = chain'.map Prod.fst)
    (equal : callsOf chain = callsOf chain') : chain = chain' := by
  induction chain generalizing chain' with
  | nil => exact (List.map_eq_nil_iff.1 names.symm).symm
  | cons entry rest ih =>
      cases chain' with
      | nil => simp at names
      | cons entry' rest' =>
          simp only [List.map_cons, List.cons.injEq] at names
          obtain ⟨name, others⟩ := names
          rw [List.map_cons, List.nodup_cons] at distinct
          have sameBodies : entry.2 = entry'.2 := by
            rw [← named_callsOf distinct.1, ← named_callsOf (others ▸ name ▸ distinct.1), equal,
              name]
          have sameEntry := Prod.ext name sameBodies
          rw [sameEntry, ih distinct.2 others]
          rw [callsOf, callsOf, List.flatMap_cons, List.flatMap_cons, sameEntry] at equal
          exact List.append_cancel_left equal

/-- The tokens of an expression tell its texts and what each name is called with. -/
theorem eq_of_expression_eq {segments : List String} {first second first' second' : String}
    {chain chain' : List (String × List (List Token))}
    (distinct : (chain.map Prod.fst).Nodup) (names : chain.map Prod.fst = chain'.map Prod.fst)
    (equal : expression segments first second chain = expression segments first' second' chain') :
    first = first' ∧ second = second' ∧ chain = chain' := by
  have afterPath := List.append_cancel_left equal
  simp only [arguments, separated, text, List.intersperse, List.flatten_cons, List.flatten_nil,
    List.cons_append, List.nil_append, List.cons.injEq, Token.group.injEq, Token.literal.injEq,
    true_and, and_true] at afterPath
  obtain ⟨⟨isFirst, isSecond⟩, calls⟩ := afterPath
  exact ⟨isFirst, isSecond, eq_of_callsOf_eq distinct names (eq_of_callTokens_eq calls)⟩

/-- An expression is plain if its names are, and what they are called with. -/
theorem isPlainStream_expression {segments : List String} (first second : String)
    {chain : List (String × List (List Token))}
    (isPath : Token.isPlainStream (path segments) = true)
    (named : ∀ name ∈ chain.map Prod.fst, (Token.word name).isPlain = true)
    (bodies : ∀ entry ∈ chain, ∀ body ∈ entry.2, Token.isPlainStream body = true) :
    Token.isPlainStream (expression segments first second chain) = true := by
  have isCall : ∀ call ∈ callsOf chain, Token.isPlainStream (callTokens call) = true := by
    intro call member
    obtain ⟨entry, isEntry, name, isBody⟩ := mem_callsOf_iff.1 member
    have plainName := named call.1 (name ▸ List.mem_map_of_mem isEntry)
    have plainBody := bodies entry isEntry _ isBody
    have plainMark : (Token.mark '.' false).isPlain = true := by decide
    have plainGroup : (Token.group .round call.2).isPlain = true := by
      rw [Token.isPlain, plainBody]
      rfl
    simp only [callTokens, mark, Token.isPlainStream, plainMark, plainName, plainGroup,
      Token.isJoint, Bool.not_false, Bool.true_or, Bool.and_true]
  have isHead : Token.isPlainStream [arguments [text first, text second]] = true := rfl
  exact Token.isPlainStream_append isPath
    (Token.isPlainStream_append isHead (Token.isPlainStream_flatMap isCall))

end Chains

end Lowering

/-- The name of the message of an event. -/
def Event.message? : Event → Option String
  | .message m => some m.name
  | _ => none

/-- The name of the signal of an event. -/
def Event.signal? : Event → Option String
  | .signal name _ => some name
  | _ => none

/-- The expression of the timer of an event. -/
def Event.timer? : Event → Option String
  | .timer expression => some expression
  | _ => none

/-- The event that a kind of node waits for or raises; tasks and ends do so with their message. -/
def NodeKind.event? : NodeKind → Option Event
  | .start trigger => trigger
  | .finish message => message.map .message
  | .catchEvent event | .throwEvent event | .boundaryEvent _ event => some event
  | .sendTask m | .receiveTask m => some (.message m)
  | _ => none

/-- The node that a boundary event is attached to. -/
def NodeKind.host? : NodeKind → Option String
  | .boundaryEvent host _ => some host
  | _ => none

/-- The type of a gateway. -/
def NodeKind.gateway? : NodeKind → Option GatewayType
  | .gateway type => some type
  | _ => none

/-- What is told of a call of another process. -/
structure CallOutline where
  process : String
  waits : Bool
  independent : Bool
deriving DecidableEq

/-- The call that a node makes. -/
def NodeKind.call? : NodeKind → Option CallOutline
  | .subProcessCall process waits independent => some ⟨process, waits, independent⟩
  | _ => none

/-- What is told of a node. The kind of its event is told by which of message, signal and timer
    there is. -/
structure NodeOutline where
  id : String
  type : String
  parent : Option String
  name : Option String
  host : Option String
  message : Option String
  signal : Option String
  timer : Option String
  gateway : Option GatewayType
  call : Option CallOutline
  handler : Option String
deriving DecidableEq

/-- The outline of a node: all of it but what a message or signal carries and what a handler
    does. -/
def Node.outline (n : Node) : NodeOutline where
  id := n.id
  type := n.kind.typeName
  parent := n.parent
  name := n.name
  host := n.kind.host?
  message := n.kind.event?.bind Event.message?
  signal := n.kind.event?.bind Event.signal?
  timer := n.kind.event?.bind Event.timer?
  gateway := n.kind.gateway?
  call := n.kind.call?
  handler := (Lowering.handlerBody? n).map fun _ => Lowering.handlerKey n

namespace Lowering

open Source

/-- What the methods that belong to the kind of a node are called with. -/
def detailChain (o : NodeOutline) : List (String × List (List Token)) :=
  [("attached_to", (o.host.map text).toList), ("message", (o.message.map text).toList),
    ("signal", (o.signal.map text).toList), ("timer", (o.timer.map text).toList),
    ("gateway", (o.gateway.map fun type => text (Keyword.text type)).toList),
    ("sub_process", (o.call.map fun c =>
      separated [mark ','] [text c.process, flag c.waits, flag c.independent]).toList),
    ("handler", (o.handler.map text).toList)]

/-- What the methods of a node are called with. -/
def nodeChain (o : NodeOutline) : List (String × List (List Token)) :=
  ("parent", (o.parent.map text).toList) :: ("name", (o.name.map text).toList) :: detailChain o

/-- The methods of a node. -/
def nodeMethods : List String :=
  ["parent", "name", "attached_to", "message", "signal", "timer", "gateway",
    "sub_process", "handler"]

theorem map_fst_nodeChain (o : NodeOutline) : (nodeChain o).map Prod.fst = nodeMethods := rfl

/-- The tokens of an outline. -/
def outlineTokens (o : NodeOutline) : List Token :=
  expression ["procflow_runtime", "definition", "NodeSpec", "new"] o.id o.type (nodeChain o)

theorem detailCalls_eq (n : Node) :
    detailCalls n = (callsOf (detailChain n.outline)).flatMap callTokens := by
  obtain ⟨id, name, parent, kind⟩ := n
  cases kind with
  | start trigger => rcases trigger with _ | (_ | _ | _) <;> rfl
  | finish message => cases message <;> rfl
  | action script => cases script <;> rfl
  | catchEvent event | throwEvent event | boundaryEvent _ event => cases event <;> rfl
  | _ => rfl

theorem callsOf_cons_option (name : String) (o : Option String)
    (rest : List (String × List (List Token))) :
    (callsOf ((name, (o.map text).toList) :: rest)).flatMap callTokens =
      (o.map fun a => methodCall name [text a]).getD [] ++ (callsOf rest).flatMap callTokens := by
  cases o <;> rfl

/-- Nodes are written by their outlines. -/
theorem nodeTokens_eq (n : Node) : nodeTokens n = outlineTokens n.outline := by
  rw [nodeTokens, detailCalls_eq, outlineTokens, expression, nodeChain, callsOf_cons_option,
    callsOf_cons_option]
  simp only [List.append_assoc, List.cons_append, List.nil_append]
  rfl

theorem text_injective : Function.Injective text := by
  intro a b equal
  simpa [text] using equal

theorem flag_injective : Function.Injective flag := by
  intro a b equal
  cases a <;> cases b <;> simp_all [flag]

theorem gatewayText_injective :
    Function.Injective fun type : GatewayType => text (Keyword.text type) := by
  intro a b equal
  have word := text_injective equal
  exact Option.some.inj ((distinct_gatewayType a).symm.trans (word ▸ distinct_gatewayType b))

theorem callTokens_injective : Function.Injective fun c : CallOutline =>
    separated [mark ','] [text c.process, flag c.waits, flag c.independent] := by
  rintro ⟨process, waits, independent⟩ ⟨process', waits', independent'⟩ equal
  simp only [separated, text, flag, List.intersperse, List.flatten_cons, List.flatten_nil,
    List.cons_append, List.nil_append, List.cons.injEq, Token.literal.injEq, true_and,
    and_true] at equal
  obtain ⟨isProcess, isWaits, isIndependent⟩ := equal
  rw [isProcess, flag_injective (congrArg (fun t => [t]) isWaits),
    flag_injective (congrArg (fun t => [t]) isIndependent)]

theorem connection_injective : Function.Injective fun c : Connection =>
    separated [mark ','] [text c.source, text c.target] := by
  rintro ⟨source, target⟩ ⟨source', target'⟩ equal
  simpa [separated, text, List.intersperse] using equal

theorem toList_map_inj {α β : Type} {f : α → β} (injective : Function.Injective f) {o o' : Option α}
    (equal : (o.map f).toList = (o'.map f).toList) : o = o' := by
  cases o <;> cases o' <;> simp_all [injective.eq_iff]

/-- The tokens of an outline tell it. -/
theorem outlineTokens_injective : Function.Injective outlineTokens := by
  intro o o' equal
  have distinct : nodeMethods.Nodup := by decide
  obtain ⟨isId, isType, chains⟩ :=
    eq_of_expression_eq (map_fst_nodeChain o ▸ distinct) (map_fst_nodeChain o') equal
  simp only [nodeChain, detailChain, List.cons.injEq, Prod.mk.injEq, true_and, and_true] at chains
  obtain ⟨isParent, isName, isHost, isMessage, isSignal, isTimer, isGateway, isCall, isHandler⟩ :=
    chains
  cases o
  cases o'
  simp only [NodeOutline.mk.injEq]
  exact ⟨isId, isType, toList_map_inj text_injective isParent, toList_map_inj text_injective isName,
    toList_map_inj text_injective isHost, toList_map_inj text_injective isMessage,
    toList_map_inj text_injective isSignal, toList_map_inj text_injective isTimer,
    toList_map_inj gatewayText_injective isGateway, toList_map_inj callTokens_injective isCall,
    toList_map_inj text_injective isHandler⟩

theorem isPlainStream_flag (b : Bool) : Token.isPlainStream (flag b) = true := by
  cases b <;> decide

theorem isPlainStream_text (s : String) : Token.isPlainStream (text s) = true := rfl

theorem isPlainStream_separated : {args : List (List Token)} →
    (∀ arg ∈ args, Token.isPlainStream arg = true) → Token.isPlainStream
    (separated [mark ','] args) = true
  | [], _ => rfl
  | [arg], plain => by simpa [separated] using plain arg
  | arg :: next :: rest, plain => by
      rw [List.forall_mem_cons] at plain
      have isComma : Token.isPlainStream [mark ','] = true := by decide
      exact Token.isPlainStream_append plain.1
        (Token.isPlainStream_append isComma (isPlainStream_separated plain.2))

theorem isPlainStream_toList_map {α : Type} {f : α → List Token}
    (plain : ∀ a, Token.isPlainStream (f a) = true)
    (o : Option α) : ∀ body ∈ (o.map f).toList, Token.isPlainStream body = true := by
  cases o with
  | none => simp
  | some a => simpa using plain a

theorem isPlainStream_outlineTokens (o : NodeOutline) :
    Token.isPlainStream (outlineTokens o) = true := by
  have named : ∀ name ∈ nodeMethods, (Token.word name).isPlain = true := by decide
  refine isPlainStream_expression _ _ (by decide) (map_fst_nodeChain o ▸ named) ?_
  have isCall (c : CallOutline) : Token.isPlainStream
      (separated [mark ','] [text c.process, flag c.waits, flag c.independent]) = true :=
    isPlainStream_separated (by simp [isPlainStream_text, isPlainStream_flag])
  simp only [nodeChain, detailChain, List.forall_mem_cons]
  exact ⟨isPlainStream_toList_map isPlainStream_text _,
    isPlainStream_toList_map isPlainStream_text _,
    isPlainStream_toList_map isPlainStream_text _, isPlainStream_toList_map isPlainStream_text _,
    isPlainStream_toList_map isPlainStream_text _, isPlainStream_toList_map isPlainStream_text _,
    isPlainStream_toList_map (fun _ => isPlainStream_text _) _, isPlainStream_toList_map isCall _,
    isPlainStream_toList_map isPlainStream_text _, by simp⟩

/-- What the methods of a definition are called with. -/
def definitionChain (d : Definition) : List (String × List (List Token)) :=
  [("dynamic", [flag d.dynamic]), ("node", (d.nodes.map Node.outline).map outlineTokens),
    ("connect", d.connections.map fun c => separated [mark ','] [text c.source, text c.target]),
    ("build", [[]])]

/-- The methods of a definition. -/
def definitionMethods : List String := ["dynamic", "node", "connect", "build"]

theorem map_fst_definitionChain (d : Definition) :
    (definitionChain d).map Prod.fst = definitionMethods := rfl

theorem definitionTokens_eq (d : Definition) :
    definitionTokens d =
      expression ["procflow_runtime", "definition", "ProcessDefinition", "builder"] d.id
        (d.version.getD defaultVersion) (definitionChain d) := by
  simp [definitionTokens, expression, definitionChain, methodCall_eq, callsOf, List.flatMap_map,
    nodeTokens_eq, separated]

theorem isPlainStream_definitionTokens (d : Definition) :
    Token.isPlainStream (definitionTokens d) = true := by
  rw [definitionTokens_eq]
  have named : ∀ name ∈ definitionMethods, (Token.word name).isPlain = true := by decide
  refine isPlainStream_expression _ _ (by decide) (map_fst_definitionChain d ▸ named) ?_
  have isConnection (c : Connection) :
      Token.isPlainStream (separated [mark ','] [text c.source, text c.target]) = true :=
    isPlainStream_separated (by simp [isPlainStream_text])
  simp only [definitionChain, List.forall_mem_cons, List.forall_mem_map]
  exact ⟨⟨isPlainStream_flag _, by simp⟩, fun n _ => isPlainStream_outlineTokens n.outline,
    fun c _ => isConnection c, ⟨rfl, by simp⟩, by simp⟩

/-- The tokens of a definition tell what is emitted of it. -/
theorem definitionTokens_eq_iff {d d' : Definition} : definitionTokens d = definitionTokens d' ↔
    d.id = d'.id ∧ d.version.getD defaultVersion = d'.version.getD defaultVersion ∧
      d.dynamic = d'.dynamic ∧ d.connections = d'.connections ∧
      d.nodes.map Node.outline = d'.nodes.map Node.outline := by
  constructor
  · intro equal
    rw [definitionTokens_eq, definitionTokens_eq] at equal
    have distinct : definitionMethods.Nodup := by decide
    obtain ⟨isId, isVersion, chains⟩ :=
      eq_of_expression_eq (map_fst_definitionChain d ▸ distinct) (map_fst_definitionChain d') equal
    simp only [definitionChain, List.cons.injEq, Prod.mk.injEq, true_and, and_true] at chains
    obtain ⟨isDynamic, isNodes, isConnections⟩ := chains
    exact ⟨isId, isVersion, flag_injective isDynamic,
      List.map_injective_iff.2 connection_injective isConnections,
      List.map_injective_iff.2 outlineTokens_injective isNodes⟩
  · rintro ⟨isId, isVersion, isDynamic, isConnections, isNodes⟩
    rw [definitionTokens_eq, definitionTokens_eq, definitionChain, definitionChain, isId, isVersion,
      isDynamic, isConnections, isNodes]

end Lowering

theorem definition_of_lower {d : Definition} {g : LoweredGraph} (lowered : lower d = .ok g) :
    g.definition = Source.Token.text (Lowering.definitionTokens d) := by
  rw [lower] at lowered
  split at lowered
  · cases lowered
  · obtain ⟨handlers, -, isGraph⟩ := bind_eq_ok.1 lowered
    rw [← Except.ok.inj isGraph]

/-- The definition texts of two lowered processes are the same exactly when the processes have the
    same id, version, dynamic flag and connections, and nodes with the same outlines in the same
    order. -/
theorem definition_eq_iff_of_lower {d d' : Definition} {g g' : LoweredGraph}
    (lowered : lower d = .ok g) (lowered' : lower d' = .ok g') : g.definition = g'.definition ↔
      d.id = d'.id ∧ d.version.getD Lowering.defaultVersion =
        d'.version.getD Lowering.defaultVersion ∧
        d.dynamic = d'.dynamic ∧ d.connections = d'.connections ∧
        d.nodes.map Node.outline = d'.nodes.map Node.outline := by
  rw [definition_of_lower lowered, definition_of_lower lowered', ← Lowering.definitionTokens_eq_iff]
  constructor
  · exact Source.Token.eq_of_text_eq (Lowering.isPlainStream_definitionTokens d)
      (Lowering.isPlainStream_definitionTokens d')
  · intro equal
    rw [equal]

/-- A process with one start node of the given name. -/
def Definition.startNamed (name : String) : Definition :=
  { id := "p", nodes := [{ id := "start", name := some name, kind := .start none }] }

/-- A name that goes on with a digit after a zero character is told from one that ends there and
    from one that spells the escape out. -/
theorem definition_eq_iff_of_lower_zero : ∃ zero digit spelled : LoweredGraph,
    lower (.startNamed "\x00") = .ok zero ∧ lower (.startNamed "\x000") = .ok digit ∧
      lower (.startNamed "\\0") = .ok spelled ∧ zero.definition ≠ digit.definition ∧
      zero.definition ≠ spelled.definition := by
  have isZero : lower (.startNamed "\x00") = .ok _ := rfl
  have isDigit : lower (.startNamed "\x000") = .ok _ := rfl
  have isSpelled : lower (.startNamed "\\0") = .ok _ := rfl
  refine ⟨_, _, _, isZero, isDigit, isSpelled, ?_, ?_⟩
  · rw [Ne, definition_eq_iff_of_lower isZero isDigit]
    decide
  · rw [Ne, definition_eq_iff_of_lower isZero isSpelled]
    decide

end Flowsmith
