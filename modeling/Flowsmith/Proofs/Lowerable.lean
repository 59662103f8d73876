import Flowsmith.Proofs.Results
import Flowsmith.Proofs.WellFormed
import Mathlib.Data.List.Pairwise

/-!
Which definitions can be lowered. Validation and lowering look at a graph for themselves, one with
the ids that it has seen, the other with the last node of each id. On definitions that validation
accepts they agree: what is left to lowering is a start node, the kind of parents, the hosts of
boundary events and the names of handlers.
-/

namespace Flowsmith

/-- A node that runs a script. -/
def Node.IsScripted (n : Node) : Prop :=
  ∃ script, n.kind = .action (some script)

/-- A node that has work done by a handler. -/
def Node.IsWorkItem (n : Node) : Prop :=
  ∃ handler parameters, n.kind = .workItem handler parameters

/-- Two nodes whose handlers are named in the same way. -/
def Node.AlikeHandled (n m : Node) : Prop :=
  n.IsScripted ∧ m.IsScripted ∨ n.IsWorkItem ∧ m.IsWorkItem

/-- A well-formed definition that has a lowered form. -/
structure Definition.Lowerable (d : Definition) : Prop where
  /-- Only a placeholder may do without a start node; it may be anywhere in the graph. -/
  started : d.kind = .placeholder ∨ ∃ n ∈ d.nodes, ∃ trigger, n.kind = .start trigger
  parents : ∀ n ∈ d.nodes, ∀ parent, n.parent = some parent →
    ∃ p ∈ d.nodes, p.id = parent ∧ p.kind = .composite
  hosts : ∀ n ∈ d.nodes, ∀ host event, n.kind = .boundaryEvent host event →
    host ∈ d.nodes.map Node.id
  handlers : ∀ n ∈ d.nodes, ∀ m ∈ d.nodes, n.AlikeHandled m →
    Naming.sanitize n.id = Naming.sanitize m.id → n = m

namespace Lowering

section Structure

variable {d : Definition} {n : Node}

/-- An id refers to a node exactly when there is one that bears it. -/
theorem referent?_eq_none_iff {id : String} : referent? d id = none ↔ id ∉ d.nodes.map Node.id := by
  simp [referent?]

/-- Where ids are distinct, an id refers to the node that bears it. -/
theorem referent?_eq_some_iff {id : String} {p : Node} (distinct : (d.nodes.map Node.id).Nodup) :
    referent? d id = some p ↔ p ∈ d.nodes ∧ p.id = id := by
  constructor
  · intro found
    exact ⟨by simpa using List.mem_of_find?_eq_some found, by simpa using List.find?_some found⟩
  · rintro ⟨member, rfl⟩
    cases found : referent? d p.id with
    | none => exact absurd (List.mem_map_of_mem member) (referent?_eq_none_iff.1 found)
    | some q =>
        have inNodes : q ∈ d.nodes := by simpa using List.mem_of_find?_eq_some found
        have same : q.id = p.id := by simpa using List.find?_some found
        rw [List.inj_on_of_nodup_map distinct inNodes member same]

theorem parentFault?_eq_none_iff (distinct : (d.nodes.map Node.id).Nodup) :
    parentFault? d n = none ↔ ∀ parent, n.parent = some parent →
      ∃ p ∈ d.nodes, p.id = parent ∧ p.kind = .composite := by
  unfold parentFault?
  cases parent : n.parent with
  | none => simp
  | some id =>
      simp only [Option.some.injEq, forall_eq']
      cases found : referent? d id with
      | none =>
          have absent := referent?_eq_none_iff.1 found
          simp only [reduceCtorEq, false_iff]
          rintro ⟨p, member, rfl, -⟩
          exact absent (List.mem_map_of_mem member)
      | some q =>
          have unique : ∀ p, p ∈ d.nodes ∧ p.id = id ↔ q = p := by
            intro p
            rw [← referent?_eq_some_iff distinct, found, Option.some.injEq]
          simp only [← and_assoc, unique, exists_eq_left']
          cases q.kind <;> simp

theorem kindFault?_eq_none_iff :
    kindFault? d n = none ↔
      (∀ host event, n.kind = .boundaryEvent host event → host ∈ d.nodes.map Node.id) ∧
        ∀ child, n.called? = some child → Text.IsVisible child := by
  unfold kindFault? Node.called?
  cases n.kind with
  | boundaryEvent host event => simp [referent?_eq_none_iff]
  | subProcessCall child waits independent => simp [← Text.blank_eq_false_iff]
  | _ => simp

theorem connectionFault?_eq_none_iff {c : Connection} :
    connectionFault? d c = none ↔
      c.source ∈ d.nodes.map Node.id ∧ c.target ∈ d.nodes.map Node.id := by
  simp [connectionFault?, referent?_eq_none_iff]

theorem any_isStart_iff :
    d.nodes.any Node.isStart = true ↔ ∃ n ∈ d.nodes, ∃ trigger, n.kind = .start trigger := by
  have each : ∀ n : Node, n.isStart = true ↔ ∃ trigger, n.kind = .start trigger := by
    intro n
    unfold Node.isStart
    cases n.kind <;> simp
  simp [each]

/-- A graph has no fault exactly when no part of it has one. -/
theorem structureFault?_eq_none_iff :
    structureFault? d = none ↔
      (d.kind = .placeholder ∨ ∃ n ∈ d.nodes, ∃ trigger, n.kind = .start trigger) ∧
      (∀ n ∈ d.nodes, parentFault? d n = none ∧ kindFault? d n = none) ∧
      ∀ c ∈ d.connections, connectionFault? d c = none := by
  unfold structureFault?
  rw [← any_isStart_iff]
  by_cases missing : d.kind ≠ .placeholder ∧ ¬ d.nodes.any Node.isStart = true
  · rw [if_pos missing]
    simp only [reduceCtorEq, false_iff, not_and]
    rintro (placeholder | started)
    · exact absurd placeholder missing.1
    · exact absurd started missing.2
  · rw [if_neg missing]
    have started : d.kind = .placeholder ∨ d.nodes.any Node.isStart = true := by
      by_contra neither
      exact missing (not_or.1 neither)
    simp only [started, true_and, Option.or_eq_none_iff, List.findSome?_eq_none_iff]

end Structure

section Faults

/-- The faults that validation does not look for. -/
inductive Unvalidated : LoweringError → Prop
  | noStartNode : Unvalidated .noStartNode
  | parentNotComposite {node parent type : String} :
      Unvalidated (.parentNotComposite node parent type)
  | unknownAttachment {node host : String} : Unvalidated (.unknownAttachment node host)
  | handlerCollision {key first second : String} : Unvalidated (.handlerCollision key first second)

variable {d : Definition} {n : Node} {fault : LoweringError}

/-- Where parents are nodes, what can be wrong is their kind. -/
theorem unvalidated_of_parentFault?
    (known : ∀ parent, n.parent = some parent → parent ∈ d.nodes.map Node.id)
    (found : parentFault? d n = some fault) : Unvalidated fault := by
  unfold parentFault? at found
  cases parent : n.parent with
  | none => simp [parent] at found
  | some id =>
      simp only [parent] at found
      cases referent : referent? d id with
      | none => exact absurd (known id parent) (referent?_eq_none_iff.1 referent)
      | some p =>
          simp only [referent] at found
          split at found
          · exact absurd found (by simp)
          · cases found
            exact .parentNotComposite

/-- Where calls have names, what can be wrong is a host. -/
theorem unvalidated_of_kindFault? (named : ∀ child, n.called? = some child → Text.IsVisible child)
    (found : kindFault? d n = some fault) : Unvalidated fault := by
  unfold kindFault? at found
  split at found
  · split at found
    · cases found
      exact .unknownAttachment
    · exact absurd found (by simp)
  · rename_i kind
    have visible := Text.blank_eq_false_iff.2 (named _ (Node.called?_of_kind kind))
    simp [visible] at found
  · exact absurd found (by simp)

/-- A well-formed graph has none but the faults that validation does not look for. -/
theorem unvalidated_of_structureFault? (graph : d.IsGraph)
    (named : ∀ child ∈ d.calls, Text.IsVisible child) (found : structureFault? d = some fault) :
    Unvalidated fault := by
  unfold structureFault? at found
  split at found
  · cases found
    exact .noStartNode
  · rcases Option.or_eq_some_iff.1 found with atNode | ⟨-, atConnection⟩
    · obtain ⟨n, member, found⟩ := List.exists_of_findSome?_eq_some atNode
      rcases Option.or_eq_some_iff.1 found with atParent | ⟨-, atKind⟩
      · exact unvalidated_of_parentFault? (graph.parents n member) atParent
      · refine unvalidated_of_kindFault? (fun child calls => named child ?_) atKind
        exact List.mem_filterMap.2 ⟨n, member, calls⟩
    · obtain ⟨c, member, found⟩ := List.exists_of_findSome?_eq_some atConnection
      rw [connectionFault?_eq_none_iff.2 (graph.endpoints c member)] at found
      exact absurd found (by simp)

end Faults

section Handlers

variable {n m : Node} {found after : Dict Handler}

/-- The nodes that have handlers. -/
theorem isSome_handlerBody?_iff : (handlerBody? n).isSome = true ↔ n.IsScripted ∨ n.IsWorkItem := by
  unfold handlerBody? Node.IsScripted Node.IsWorkItem
  cases n.kind with
  | action script => cases script <;> simp
  | _ => simp

theorem handlerKey_of_isScripted (scripted : n.IsScripted) :
    handlerKey n = "action_" ++ Naming.sanitize n.id := by
  obtain ⟨script, kind⟩ := scripted
  simp [handlerKey, kind]

theorem handlerKey_of_isWorkItem (item : n.IsWorkItem) :
    handlerKey n = "work_item_" ++ Naming.sanitize n.id := by
  obtain ⟨handler, parameters, kind⟩ := item
  simp [handlerKey, kind]

/-- The handlers of a script and of a work item never share a name, whatever the ids of the
    nodes. -/
theorem handlerKey_ne (scripted : n.IsScripted) (item : m.IsWorkItem) :
    handlerKey n ≠ handlerKey m := by
  rw [handlerKey_of_isScripted scripted, handlerKey_of_isWorkItem item]
  intro same
  have heads := congrArg (fun key => key.toList.head?) same
  simp at heads

/-- Two handlers share their name when they are of one kind and the ids of their nodes become one
    identifier. -/
theorem handlerKey_eq_iff (own : (handlerBody? n).isSome = true)
    (other : (handlerBody? m).isSome = true) :
    handlerKey n = handlerKey m ↔
      n.AlikeHandled m ∧ Naming.sanitize n.id = Naming.sanitize m.id := by
  constructor
  · intro same
    rcases isSome_handlerBody?_iff.1 own with scripted | item
    · rcases isSome_handlerBody?_iff.1 other with scripted' | item'
      · rw [handlerKey_of_isScripted scripted, handlerKey_of_isScripted scripted'] at same
        exact ⟨.inl ⟨scripted, scripted'⟩, by simpa using same⟩
      · exact absurd same (handlerKey_ne scripted item')
    · rcases isSome_handlerBody?_iff.1 other with scripted' | item'
      · exact absurd same.symm (handlerKey_ne scripted' item)
      · rw [handlerKey_of_isWorkItem item, handlerKey_of_isWorkItem item'] at same
        exact ⟨.inr ⟨item, item'⟩, by simpa using same⟩
  · rintro ⟨⟨scripted, scripted'⟩ | ⟨item, item'⟩, ids⟩
    · rw [handlerKey_of_isScripted scripted, handlerKey_of_isScripted scripted', ids]
    · rw [handlerKey_of_isWorkItem item, handlerKey_of_isWorkItem item', ids]

/-- A handler is refused only for its name. -/
theorem exists_addHandler_iff :
    (∃ after, addHandler found n = .ok after) ↔
      ((handlerBody? n).isSome = true → found.get? (handlerKey n) = none) := by
  unfold addHandler
  cases handlerBody? n with
  | none => simp
  | some body => cases taken : found.get? (handlerKey n) <;> simp [taken]

/-- The names that are taken are those before and that of the node, if it has a handler. -/
theorem get?_of_addHandler (added : addHandler found n = .ok after) {key : String} :
    after.get? key = none ↔
      found.get? key = none ∧ ((handlerBody? n).isSome = true → handlerKey n ≠ key) := by
  unfold addHandler at added
  cases body : handlerBody? n with
  | none =>
      simp only [body, Except.ok.injEq] at added
      simp [added]
  | some tokens =>
      cases taken : found.get? (handlerKey n) with
      | some first => simp [body, taken] at added
      | none =>
          simp only [body, taken, Except.ok.injEq] at added
          rw [← added, Dict.get?_insert]
          by_cases own : key = handlerKey n
          · simp [own]
          · simp [own, Ne.symm own]

theorem unvalidated_of_addHandler {fault : LoweringError}
    (refused : addHandler found n = .error fault) :
    Unvalidated fault := by
  unfold addHandler at refused
  split at refused
  · exact absurd refused (by simp)
  · simp only at refused
    split at refused
    · cases refused
      exact .handlerCollision
    · exact absurd refused (by simp)

/-- Two nodes whose handlers, if both have one, have different names. -/
def ApartHandled (n m : Node) : Prop :=
  (handlerBody? n).isSome = true → (handlerBody? m).isSome = true → handlerKey n ≠ handlerKey m

instance : Std.Symm ApartHandled :=
  ⟨fun _ _ apart handled handled' same => apart handled' handled same.symm⟩

/-- All handlers are added exactly when no name is taken before and none comes twice. -/
theorem exists_foldlM_addHandler_iff {nodes : List Node} :
    (∃ after, nodes.foldlM addHandler found = .ok after) ↔
      (∀ n ∈ nodes, (handlerBody? n).isSome = true → found.get? (handlerKey n) = none) ∧
        nodes.Pairwise ApartHandled := by
  induction nodes generalizing found with
  | nil => simp [pure, Except.pure]
  | cons head rest ih =>
      have first : (∃ after, (head :: rest).foldlM addHandler found = .ok after) ↔
          ∃ next, addHandler found head = .ok next ∧
            ∃ after, rest.foldlM addHandler next = .ok after := by
        simp only [List.foldlM_cons, bind_eq_ok]
        exact exists_comm.trans (by simp)
      rw [first, List.pairwise_cons]
      constructor
      · rintro ⟨next, added, later⟩
        obtain ⟨free, apart⟩ := ih.1 later
        refine ⟨?_, ?_, apart⟩
        · intro n member handled
          rcases List.mem_cons.1 member with rfl | inRest
          · exact exists_addHandler_iff.1 ⟨next, added⟩ handled
          · exact ((get?_of_addHandler added).1 (free n inRest handled)).1
        · intro n inRest headHandled handled
          exact ((get?_of_addHandler added).1 (free n inRest handled)).2 headHandled
      · rintro ⟨free, headApart, apart⟩
        obtain ⟨next, added⟩ := exists_addHandler_iff.2 (free head List.mem_cons_self)
        refine ⟨next, added, ih.2 ⟨?_, apart⟩⟩
        intro n inRest handled
        exact (get?_of_addHandler added).2 ⟨free n (List.mem_cons_of_mem _ inRest) handled,
          fun headHandled => headApart n inRest headHandled handled⟩

theorem unvalidated_of_foldlM_addHandler {nodes : List Node} {fault : LoweringError}
    (refused : nodes.foldlM addHandler found = .error fault) : Unvalidated fault := by
  induction nodes generalizing found with
  | nil => simp [pure, Except.pure] at refused
  | cons head rest ih =>
      rw [List.foldlM_cons] at refused
      rcases bind_eq_error.1 refused with now | ⟨next, -, later⟩
      · exact unvalidated_of_addHandler now
      · exact ih later

/-- A definition whose nodes have ids of their own has handlers exactly when nodes of one kind have
    ids that become different identifiers. -/
theorem exists_handlers_iff {d : Definition} (distinct : (d.nodes.map Node.id).Nodup) :
    (∃ found, handlers d = .ok found) ↔
      ∀ n ∈ d.nodes, ∀ m ∈ d.nodes, n.AlikeHandled m →
        Naming.sanitize n.id = Naming.sanitize m.id → n = m := by
  have nodup : d.nodes.Nodup := List.Nodup.of_map _ distinct
  have handled : ∀ {n m : Node}, n.AlikeHandled m →
      (handlerBody? n).isSome = true ∧ (handlerBody? m).isSome = true := by
    intro n m alike
    rw [isSome_handlerBody?_iff, isSome_handlerBody?_iff]
    rcases alike with ⟨scripted, scripted'⟩ | ⟨item, item'⟩
    · exact ⟨.inl scripted, .inl scripted'⟩
    · exact ⟨.inr item, .inr item'⟩
  rw [handlers, exists_foldlM_addHandler_iff]
  constructor
  · rintro ⟨-, apart⟩ n member m other alike ids
    by_contra different
    obtain ⟨own, own'⟩ := handled alike
    exact apart.forall member other different own own'
      ((handlerKey_eq_iff own own').2 ⟨alike, ids⟩)
  · intro unique
    refine ⟨fun _ _ _ => Dict.get?_empty _, nodup.pairwise_of_forall_ne ?_⟩
    intro n member m other different own own' same
    obtain ⟨alike, ids⟩ := (handlerKey_eq_iff own own').1 same
    exact different (unique n member m other alike ids)

end Handlers

end Lowering

theorem exists_lower_iff {d : Definition} :
    (∃ graph, lower d = .ok graph) ↔
      Lowering.structureFault? d = none ∧ ∃ found, Lowering.handlers d = .ok found := by
  unfold lower
  cases Lowering.structureFault? d with
  | some fault => simp
  | none => cases Lowering.handlers d <;> simp [bind, Except.bind, pure, Except.pure]

/-- What is accepted by validation fails in lowering only for what validation does not look for. -/
theorem unvalidated_of_lower {d : Definition} {fault : LoweringError} (graph : d.IsGraph)
    (named : ∀ child ∈ d.calls, Text.IsVisible child) (failed : lower d = .error fault) :
    Lowering.Unvalidated fault := by
  unfold lower at failed
  split at failed
  · rename_i first found
    obtain rfl : first = fault := Except.error.inj failed
    exact Lowering.unvalidated_of_structureFault? graph named found
  · rcases bind_eq_error.1 failed with refused | ⟨found, -, never⟩
    · exact Lowering.unvalidated_of_foldlM_addHandler refused
    · exact absurd never (by simp [pure, Except.pure])

/-- Validation and lowering agree. A definition with nodes that validation accepts is not refused
    for a connection, a parent or a call that validation would have found, and it has a lowered form
    exactly when it is lowerable. -/
theorem lower_of_validate {d : Definition} (accepted : d.validate.errors = [])
    (occupied : d.nodes ≠ []) :
    (∀ source target missing, lower d ≠ .error (.unknownConnectionNode source target missing)) ∧
    (∀ node parent, lower d ≠ .error (.unknownParent node parent)) ∧
    (∀ node, lower d ≠ .error (.emptySubProcessTarget node)) ∧
    ((∃ graph, lower d = .ok graph) ↔ d.Lowerable) := by
  have wellFormed := Definition.validate_eq_nil_iff.1 accepted
  have graph := wellFormed.graph occupied
  have fails : ∀ fault, lower d = .error fault → Lowering.Unvalidated fault :=
    fun _ => unvalidated_of_lower graph wellFormed.called
  refine ⟨fun _ _ _ failed => ?_, fun _ _ failed => ?_, fun _ failed => ?_, ?_⟩
  · exact absurd (fails _ failed) (by rintro ⟨⟩)
  · exact absurd (fails _ failed) (by rintro ⟨⟩)
  · exact absurd (fails _ failed) (by rintro ⟨⟩)
  rw [exists_lower_iff, Lowering.structureFault?_eq_none_iff,
    Lowering.exists_handlers_iff graph.distinct]
  simp only [Lowering.parentFault?_eq_none_iff graph.distinct, Lowering.kindFault?_eq_none_iff,
    Lowering.connectionFault?_eq_none_iff]
  constructor
  · rintro ⟨⟨started, nodes, -⟩, handlers⟩
    exact ⟨started, fun n member => (nodes n member).1,
      fun n member => (nodes n member).2.1, handlers⟩
  · rintro ⟨started, parents, hosts, handlers⟩
    refine ⟨⟨started, fun n member => ⟨parents n member, hosts n member, ?_⟩, graph.endpoints⟩,
      handlers⟩
    intro child calls
    exact wellFormed.called child (List.mem_filterMap.2 ⟨n, member, calls⟩)

/-- A process that starts inside a composite, with a script and a work item whose ids become one
    identifier. -/
def Definition.nested : Definition :=
  { id := "nested"
    package := "p"
    nodes := [
      { id := "box", kind := .composite },
      { id := "s", parent := some "box", kind := .start none },
      { id := "a-b", parent := some "box", kind := .action (some "x") },
      { id := "a.b", kind := .workItem "mail" .empty },
      { id := "late", kind := .boundaryEvent "a.b" (.timer "PT1H") },
      { id := "call", kind := .subProcessCall "other" true false }]
    connections := [⟨"s", "a-b"⟩, ⟨"a-b", "a.b"⟩, ⟨"late", "call"⟩] }

theorem lower_of_validate_nested :
    Definition.nested.validate.errors = [] ∧ Definition.nested.nodes ≠ [] ∧
      (∃ graph, lower .nested = .ok graph) ∧ Definition.nested.Lowerable := by
  have accepted : Definition.nested.validate.errors = [] := by decide
  have occupied : Definition.nested.nodes ≠ [] := by decide
  have lowered : ∃ graph, lower .nested = .ok graph := ⟨_, rfl⟩
  exact ⟨accepted, occupied, lowered, (lower_of_validate accepted occupied).2.2.2.1 lowered⟩

end Flowsmith
