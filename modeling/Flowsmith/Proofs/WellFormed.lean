import Flowsmith.Proofs.Dictionaries
import Flowsmith.Proofs.Words
import Flowsmith.Validation.Check

/-!
Well-formed definitions, said of the definition alone. Validation goes through a definition in
phases, with lists of what it has seen on the way; each phase finds no error exactly when its part
of the definition is as it should be. What a definition that is accepted sends, awaits or raises has
a name, whatever kind of node it comes from.
-/

namespace Flowsmith

/-- A text with something in it that is not a blank. -/
def Text.IsVisible (s : String) : Prop :=
  ∃ c ∈ s.toList, isBlank c = false

theorem Text.blank_eq_false_iff {s : String} : blank s = false ↔ IsVisible s := by
  simp [blank, IsVisible, List.all_eq_false]

/-- The name of the message or signal of an event; a timer has neither. -/
def Event.name? : Event → Option String
  | .message m => some m.name
  | .signal name _ => some name
  | .timer _ => none

/-- A message or signal of that name is sent, awaited or raised by a node. -/
inductive Node.Carries (n : Node) (name : String) : Prop
  | start {event : Event} (kind : n.kind = .start (some event)) (named : event.name? = some name)
  | caught {event : Event} (kind : n.kind = .catchEvent event) (named : event.name? = some name)
  | thrown {event : Event} (kind : n.kind = .throwEvent event) (named : event.name? = some name)
  | attached {host : String} {event : Event} (kind : n.kind = .boundaryEvent host event)
      (named : event.name? = some name)
  | finish {message : Message} (kind : n.kind = .finish (some message))
      (named : message.name = name)
  | sent {message : Message} (kind : n.kind = .sendTask message) (named : message.name = name)
  | received {message : Message} (kind : n.kind = .receiveTask message)
      (named : message.name = name)

namespace Definition

/-- The nodes have ids of their own, and all else refers to them by these. -/
structure IsGraph (d : Definition) : Prop where
  distinct : (d.nodes.map Node.id).Nodup
  endpoints : ∀ c ∈ d.connections, c.source ∈ d.nodes.map Node.id ∧ c.target ∈ d.nodes.map Node.id
  parents : ∀ n ∈ d.nodes, ∀ parent, n.parent = some parent → parent ∈ d.nodes.map Node.id

/-- The empty package is the root; all others are identifiers with dots between them. -/
def HasPackage (d : Definition) : Prop :=
  d.package = "" ∨ ∀ segment ∈ d.package.toList.splitOn '.', Naming.IsIdentifier segment

/-- The variables have names of their own. -/
structure HasVariables (d : Definition) : Prop where
  named : ∀ v ∈ d.declarations, Text.IsVisible v.name
  distinct : (d.declarations.map Variable.name).Nodup

/-- A definition that can be compiled as far as its own text tells. -/
structure WellFormed (d : Definition) : Prop where
  named : Text.IsVisible d.id
  package : d.HasPackage
  /-- Without nodes, nothing is asked of the connections. -/
  graph : d.nodes ≠ [] → d.IsGraph
  declared : d.HasVariables
  carried : ∀ n ∈ d.nodes, ∀ name, n.Carries name → Text.IsVisible name
  called : ∀ child ∈ d.calls, Text.IsVisible child

end Definition

namespace Validation

section Identity

theorem isWordStart_iff {c : Char} : isWordStart c = true ↔ Naming.OpensIdentifier c := by
  simp only [isWordStart, Bool.or_eq_true, Naming.isAlpha_iff_le, beq_iff_eq,
    Naming.OpensIdentifier, or_assoc]

theorem validSegment_iff {segment : List Char} :
    validSegment segment = true ↔ Naming.IsIdentifier segment := by
  cases segment with
  | nil => simp [validSegment, Naming.IsIdentifier]
  | cons first rest =>
      simp only [validSegment, List.head?_cons, Option.any_some, List.all_cons, Bool.and_eq_true,
        List.all_eq_true, isWordStart_iff, Naming.isWordChar_iff, Naming.IsIdentifier]
      constructor
      · rintro ⟨opens, -, continues⟩
        exact ⟨first, rest, rfl, opens, continues⟩
      · rintro ⟨_, _, ⟨rfl, rfl⟩, opens, continues⟩
        exact ⟨opens, .inl opens, continues⟩

theorem checkIdentity_eq_nil_iff {d : Definition} :
    (checkIdentity d).errors = [] ↔ Text.IsVisible d.id ∧ d.HasPackage := by
  have id : (if Text.blank d.id then [ValidationError.emptyProcessId] else []) = [] ↔
      Text.IsVisible d.id := by
    rw [← Text.blank_eq_false_iff]
    cases Text.blank d.id <;> simp
  simp only [checkIdentity, List.append_eq_nil_iff, id, Definition.HasPackage]
  refine and_congr_right fun _ => ?_
  by_cases root : d.package = ""
  · simp [root]
  · rw [if_neg root]
    cases invalid : (d.package.toList.splitOn '.').find? fun s => !validSegment s with
    | none =>
        have valid := List.find?_eq_none.1 invalid
        simp only [true_iff]
        exact .inr fun segment member => validSegment_iff.1 (by simpa using valid segment member)
    | some segment =>
        have refused : ¬ validSegment segment = true := by simpa using List.find?_some invalid
        simp only [root, false_or, List.cons_ne_nil, false_iff]
        intro valid
        exact refused (validSegment_iff.2 (valid segment (List.mem_of_find?_eq_some invalid)))

end Identity

section Graph

/-- No id is repeated when none was there before and none comes twice. -/
theorem repeatedIds_eq_nil_iff {before ids : List String} :
    repeatedIds before ids = [] ↔ (∀ id ∈ ids, id ∉ before) ∧ ids.Nodup := by
  induction ids generalizing before with
  | nil => simp [repeatedIds]
  | cons id rest ih =>
      simp only [repeatedIds, List.append_eq_nil_iff, ih, List.nodup_cons, List.mem_cons,
        forall_eq_or_imp, not_or]
      constructor
      · rintro ⟨fresh, later, distinct⟩
        refine ⟨⟨by simpa using fresh, fun other member => (later other member).2⟩, ?_, distinct⟩
        intro again
        exact (later id again).1 rfl
      · rintro ⟨⟨fresh, later⟩, once, distinct⟩
        refine ⟨by simpa using fresh, ?_, distinct⟩
        intro other member
        exact ⟨fun same => once (same ▸ member), later other member⟩

theorem connectionErrors_eq_nil_iff {ids : List String} {c : Connection} :
    connectionErrors ids c = [] ↔ c.source ∈ ids ∧ c.target ∈ ids := by
  simp [connectionErrors]

theorem parentError?_eq_none_iff {ids : List String} {n : Node} :
    parentError? ids n = none ↔ ∀ parent, n.parent = some parent → parent ∈ ids := by
  simp [parentError?]

theorem checkGraph_eq_nil_iff {d : Definition} :
    (checkGraph d).errors = [] ↔ (d.nodes ≠ [] → d.IsGraph) := by
  unfold checkGraph
  by_cases empty : d.nodes = []
  · simp [empty]
  · rw [if_neg (by simpa using empty)]
    simp only [List.append_eq_nil_iff, List.map_eq_nil_iff, List.flatMap_eq_nil_iff,
      List.filterMap_eq_nil_iff, repeatedIds_eq_nil_iff, connectionErrors_eq_nil_iff,
      parentError?_eq_none_iff, List.not_mem_nil, not_false_eq_true, implies_true, true_and]
    constructor
    · rintro ⟨⟨distinct, endpoints⟩, parents⟩ -
      exact ⟨distinct, endpoints, parents⟩
    · intro graph
      obtain ⟨distinct, endpoints, parents⟩ := graph empty
      exact ⟨⟨distinct, endpoints⟩, parents⟩

end Graph

/-- The names that count as seen are those of the variables before, as far as these have one. -/
theorem variableErrors_eq_nil_iff {index : Nat} {seen : List String} {vs : List Variable} :
    variableErrors index seen vs = [] ↔
      (∀ v ∈ vs, Text.IsVisible v.name ∧ v.name ∉ seen) ∧ (vs.map Variable.name).Nodup := by
  induction vs generalizing index seen with
  | nil => simp [variableErrors]
  | cons v rest ih =>
      unfold variableErrors
      cases blank : Text.blank v.name with
      | true =>
          have notVisible : ¬ Text.IsVisible v.name := by simp [← Text.blank_eq_false_iff, blank]
          simp [notVisible]
      | false =>
          have visible := Text.blank_eq_false_iff.1 blank
          by_cases again : v.name ∈ seen
          · simp [again]
          · simp only [Bool.false_eq_true, if_false, List.contains_iff_mem, again, ih,
              List.mem_cons, forall_eq_or_imp, visible, not_false_eq_true, and_self, true_and,
              List.map_cons, List.nodup_cons, List.mem_map, not_or, not_exists, not_and]
            constructor
            · rintro ⟨later, distinct⟩
              refine ⟨fun w member => ⟨(later w member).1, (later w member).2.2⟩, ?_, distinct⟩
              exact fun w member => (later w member).2.1
            · rintro ⟨later, once, distinct⟩
              refine ⟨fun w member => ⟨(later w member).1, once w member, (later w member).2⟩,
                distinct⟩

section Triggers

theorem messageError?_eq_none_iff {node : String} {m : Message} :
    messageError? node m = none ↔ Text.IsVisible m.name := by
  rw [← Text.blank_eq_false_iff]
  simp [messageError?]

theorem eventError?_eq_none_iff {node : String} {event : Event} :
    eventError? node event = none ↔ ∀ name, event.name? = some name → Text.IsVisible name := by
  cases event with
  | message m => simp [eventError?, Event.name?, messageError?_eq_none_iff]
  | signal name dataType => simp [eventError?, Event.name?, ← Text.blank_eq_false_iff]
  | timer expression => simp [eventError?, Event.name?]

/-- A node that is accepted has a name for whatever it carries. -/
theorem isVisible_of_carries {n : Node} {name : String} (accepted : nodeError? n = none)
    (carries : n.Carries name) : Text.IsVisible name := by
  unfold nodeError? at accepted
  cases carries with
  | start kind named | caught kind named | thrown kind named | attached kind named =>
      rw [kind] at accepted
      exact eventError?_eq_none_iff.1 accepted name named
  | finish kind named | sent kind named | received kind named =>
      rw [kind] at accepted
      exact named ▸ messageError?_eq_none_iff.1 accepted

theorem isVisible_of_called? {n : Node} {child : String} (accepted : nodeError? n = none)
    (calls : n.called? = some child) : Text.IsVisible child := by
  unfold Node.called? at calls
  split at calls
  · rename_i target waits independent kind
    obtain rfl : target = child := Option.some.inj calls
    rw [← Text.blank_eq_false_iff]
    simpa [nodeError?, kind] using accepted
  · exact absurd calls (by simp)

/-- What a node carries or calls must have a name, and nothing else is asked of it. -/
theorem nodeError?_eq_none_iff {n : Node} :
    nodeError? n = none ↔ (∀ name, n.Carries name → Text.IsVisible name) ∧
      ∀ child, n.called? = some child → Text.IsVisible child := by
  constructor
  · intro accepted
    exact ⟨fun _ => isVisible_of_carries accepted, fun _ => isVisible_of_called? accepted⟩
  · rintro ⟨carried, called⟩
    unfold nodeError?
    split
    · rename_i kind
      exact eventError?_eq_none_iff.2 fun name named => carried name (.start kind named)
    · rename_i kind
      exact eventError?_eq_none_iff.2 fun name named => carried name (.caught kind named)
    · rename_i kind
      exact eventError?_eq_none_iff.2 fun name named => carried name (.thrown kind named)
    · rename_i kind
      exact eventError?_eq_none_iff.2 fun name named => carried name (.attached kind named)
    · rename_i kind
      exact messageError?_eq_none_iff.2 (carried _ (.finish kind rfl))
    · rename_i kind
      exact messageError?_eq_none_iff.2 (carried _ (.sent kind rfl))
    · rename_i kind
      exact messageError?_eq_none_iff.2 (carried _ (.received kind rfl))
    · rename_i kind
      have visible := called _ (Node.called?_of_kind kind)
      simp [Text.blank_eq_false_iff.2 visible]
    · rfl

theorem checkTriggers_eq_nil_iff {d : Definition} :
    (checkTriggers d).errors = [] ↔ (∀ n ∈ d.nodes, ∀ name, n.Carries name → Text.IsVisible name) ∧
      ∀ child ∈ d.calls, Text.IsVisible child := by
  simp only [checkTriggers, List.filterMap_eq_nil_iff, nodeError?_eq_none_iff, Definition.calls,
    List.mem_filterMap, forall_exists_index, and_imp]
  constructor
  · intro each
    exact ⟨fun n member => (each n member).1, fun child n member => (each n member).2 child⟩
  · rintro ⟨carried, called⟩ n member
    exact ⟨carried n member, fun child => called child n member⟩

end Triggers

end Validation

/-- The errors are those of the four phases, in their order. -/
theorem Definition.validate_errors (d : Definition) :
    d.validate.errors = (Validation.checkIdentity d).errors ++ (Validation.checkGraph d).errors ++
      Validation.variableErrors 0 [] d.declarations ++ (Validation.checkTriggers d).errors := rfl

/-- Validation accepts well-formed definitions and no others. -/
theorem Definition.validate_eq_nil_iff {d : Definition} :
    d.validate.errors = [] ↔ d.WellFormed := by
  simp only [validate_errors, List.append_eq_nil_iff, Validation.checkIdentity_eq_nil_iff,
    Validation.checkGraph_eq_nil_iff, Validation.variableErrors_eq_nil_iff,
    Validation.checkTriggers_eq_nil_iff, List.not_mem_nil, not_false_eq_true, and_true]
  constructor
  · rintro ⟨⟨⟨⟨named, package⟩, graph⟩, visible, distinct⟩, carried, called⟩
    exact ⟨named, package, graph, ⟨visible, distinct⟩, carried, called⟩
  · rintro ⟨named, package, graph, ⟨visible, distinct⟩, carried, called⟩
    exact ⟨⟨⟨⟨named, package⟩, graph⟩, visible, distinct⟩, carried, called⟩

namespace Trigger

variable {processId : String} {n : Node}

/-- The trigger of an event goes by the name of its message or signal, unless it is a timer. -/
theorem name?_of_ofEvent {messageKind : TriggerKind} {event : Event}
    (notTimer : (ofEvent processId n messageKind event).kind ≠ .timer) :
    event.name? = some (ofEvent processId n messageKind event).name := by
  cases event with
  | message m => rfl
  | signal name dataType => rfl
  | timer expression => exact absurd rfl notTimer

/-- The trigger of a node goes by a name that the node carries, unless it is a timer. -/
theorem carries_of_ofNode? {t : Trigger} (made : ofNode? processId n = some t)
    (notTimer : t.kind ≠ .timer) : n.Carries t.name := by
  obtain ⟨bare, ofKind, rfl⟩ := Option.map_eq_some_iff.1 made
  split at ofKind
  · rename_i event kind
    cases ofKind
    exact .start kind (name?_of_ofEvent notTimer)
  · rename_i event kind
    cases ofKind
    exact .caught kind (name?_of_ofEvent notTimer)
  · rename_i host event kind
    cases ofKind
    exact .attached kind (name?_of_ofEvent notTimer)
  · exact absurd ofKind (by simp)
  · rename_i event kind
    cases ofKind
    exact .thrown kind (name?_of_ofEvent notTimer)
  · rename_i message kind
    cases ofKind
    exact .finish kind rfl
  · rename_i message kind
    cases ofKind
    exact .sent kind rfl
  · rename_i message kind
    cases ofKind
    exact .received kind rfl
  · exact absurd ofKind (by simp)

end Trigger

/-- Validation accepts well-formed definitions and no others, and the messages and signals that an
    accepted definition is triggered by or triggers all have names. -/
theorem Definition.validate_exact (d : Definition) :
    (d.validate.errors = [] ↔ d.WellFormed) ∧
      (d.validate.errors = [] → ∀ t ∈ d.triggers, t.kind ≠ .timer → Text.IsVisible t.name) := by
  refine ⟨validate_eq_nil_iff, ?_⟩
  intro accepted t member notTimer
  obtain ⟨n, inNodes, made⟩ := List.mem_filterMap.1 member
  have wellFormed := validate_eq_nil_iff.1 accepted
  exact wellFormed.carried n inNodes t.name (Trigger.carries_of_ofNode? made notTimer)

end Flowsmith
