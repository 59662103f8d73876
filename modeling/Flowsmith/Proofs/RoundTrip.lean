import Flowsmith.Definition.Read
import Flowsmith.Definition.Write
import Flowsmith.Proofs.Dictionaries

/-!
Process definitions survive JSON: what is written of a definition is read back as that definition,
and a list of definitions as that list. A reader of a record looks at its fields by name only, so it
is enough to know what each name leads to in the object that was written.
-/

namespace Flowsmith

section Writing

/-! What the names of a written object lead to. -/

variable {α : Type} (key name : String)

@[simp] theorem Dict.get?_ofList_nil : (Dict.ofList ([] : List (String × α))).get? key = none := rfl

@[simp] theorem Dict.get?_ofList_append (front back : List (String × α)) :
    (Dict.ofList (front ++ back)).get? key =
      ((Dict.ofList back).get? key).or ((Dict.ofList front).get? key) := by
  simp only [Dict.get?_ofList, List.reverse_append, List.lookup_append]

@[simp] theorem Dict.get?_ofList_cons (value : α) (rest : List (String × α)) :
    (Dict.ofList ((name, value) :: rest)).get? key =
      ((Dict.ofList rest).get? key).or (if key = name then some value else none) := by
  rw [← List.singleton_append, Dict.get?_ofList_append]
  congr 1
  exact Dict.get?_insert .empty name value key

@[simp] theorem get?_ofList_unless (value : α) (p : Prop) [Decidable p] :
    (Dict.ofList (if p then [] else [(name, value)])).get? key =
      if key = name ∧ ¬ p then some value else none := by
  by_cases holds : p <;> simp [holds]

@[simp] theorem get?_ofList_when (value : α) (p : Prop) [Decidable p] :
    (Dict.ofList (if p then [(name, value)] else [])).get? key =
      if key = name ∧ p then some value else none := by
  by_cases holds : p <;> simp [holds]

@[simp] theorem get?_optionalField (value : Option Json) :
    (Dict.ofList (optionalField name value)).get? key = if key = name then value else none := by
  cases value <;> simp [optionalField]

@[simp] theorem get?_listField (items : List Json) :
    (Dict.ofList (listField name items)).get? key =
      if key = name ∧ items ≠ [] then some (.array items) else none := by
  cases items <;> simp [listField]

/-- A dictionary without one of its keys, by its look-ups. -/
theorem Dict.filter_entries_eq {d e : Dict α}
    (same : ∀ k, e.get? k = if k = key then none else d.get? k) :
    d.entries.filter (fun entry => entry.1 != key) = e.entries := by
  let rest : Dict α := ⟨d.entries.filter (fun entry => entry.1 != key), d.increase.filter _⟩
  have equal : rest = e := by
    refine Dict.ext_get? ?_
    intro k
    rw [same]
    refine Option.ext ?_
    intro v
    change rest.entries.lookup k = some v ↔ _
    rw [lookup_eq_some_iff_mem rest.nodup_keys, List.mem_filter,
      ← lookup_eq_some_iff_mem d.nodup_keys]
    by_cases left : k = key <;> simp [left, Dict.get?]
  exact congrArg Dict.entries equal

end Writing

namespace Json

variable {α β : Type} {name : String} {value? : String → Option Json}

/-- The fields of a record make up a value: nothing is wrong with any of them. -/
structure Fields.Reads (fields : Fields α) (value? : String → Option Json) (a : α) : Prop where
  faultless : ∀ name v, value? name = some v → fields.fault? name v = Option.none
  built : fields.build .named value? = .ok a

namespace Fields

theorem faultOf_eq_none {item : Decoder α} {a : α} {key : String} {v : Json}
    (reads : key = name → item v = .ok a) : faultOf name item key v = Option.none := by
  unfold faultOf
  by_cases asked : key = name
  · rw [if_pos asked, reads asked]
  · rw [if_neg asked]

theorem reads_required {item : Decoder α} {v : Json} {a : α} (found : value? name = some v)
    (reads : item v = .ok a) : (required name item).Reads value? a where
  faultless key w held := by
    refine faultOf_eq_none (a := a) ?_
    intro asked
    rw [asked, found] at held
    rwa [← Option.some.inj held]
  built := by simp only [required, found, reads]

theorem reads_string {s : String} (found : value? name = some (.string s)) :
    (required name decodeString).Reads value? s :=
  reads_required found rfl

/-- An optional field that was written only when it is there. -/
theorem reads_optional {item : Decoder α} {write : α → Json} {o : Option α}
    (found : value? name = o.map write) (reads : ∀ a, decodeOption item (write a) = .ok (some a)) :
    (optional name item).Reads value? o where
  faultless key w held := by
    refine faultOf_eq_none (a := o) ?_
    intro asked
    rw [asked, found] at held
    obtain ⟨a, rfl, rfl⟩ := Option.map_eq_some_iff.1 held
    exact reads a
  built := by
    cases o with
    | none => simp [optional, found]
    | some a => simp [optional, found, reads]

/-- A field that was written unless it has the value that it has when it is absent. -/
theorem reads_defaulted {item : Decoder α} {value a : α}
    (held : (∃ v, value? name = some v ∧ item v = .ok a) ∨ value? name = Option.none ∧ a = value) :
    (defaulted name value item).Reads value? a where
  faultless key w given := by
    refine faultOf_eq_none (a := a) ?_
    intro asked
    rw [asked] at given
    rcases held with ⟨v, found, reads⟩ | ⟨absent, -⟩
    · rw [found] at given
      rwa [← Option.some.inj given]
    · simp [absent] at given
  built := by
    rcases held with ⟨v, found, reads⟩ | ⟨absent, rfl⟩
    · simp only [defaulted, found, reads]
    · simp only [defaulted, absent]

theorem reads_defaulted_none {item : Decoder α} {write : α → Json} {o : Option α}
    (found : value? name = o.map write) (reads : ∀ a, decodeOption item (write a) = .ok (some a)) :
    (defaulted name Option.none (decodeOption item)).Reads value? o := by
  refine reads_defaulted ?_
  cases o with
  | none => exact .inr ⟨found, rfl⟩
  | some a => exact .inl ⟨write a, found, reads a⟩

theorem Reads.seq {f : Fields (α → β)} {x : Fields α} {g : α → β} {a : α}
    (first : f.Reads value? g) (second : x.Reads value? a) : (f <*> x).Reads value? (g a) where
  faultless key v held := by
    change ((f.fault? key v).or (x.fault? key v)) = Option.none
    rw [first.faultless key v held, second.faultless key v held]
    rfl
  built := by
    change (do
      let g ← f.build .named value?
      let a ← x.build .named value?
      return g a) = _
    rw [first.built, second.built]
    rfl

theorem reads_pure (a : α) : (pure a : Fields α).Reads value? a where
  faultless _ _ _ := rfl
  built := rfl

theorem Reads.map {x : Fields α} {a : α} (reads : x.Reads value? a) (g : α → β) :
    (g <$> x).Reads value? (g a) :=
  (reads_pure g).seq reads

/-- A record is read from the entries of a dictionary if its fields make it up. -/
theorem Reads.ofObject {fields : Fields α} {d : Dict Json} {a : α} (reads : fields.Reads d.get? a) :
    fields.ofObject d.entries = .ok a := by
  have noFault : d.entries.findSome? (fun e => fields.fault? e.1 e.2) = Option.none := by
    rw [List.findSome?_eq_none_iff]
    intro e member
    exact reads.faultless e.1 e.2 ((lookup_eq_some_iff_mem d.nodup_keys).2 member)
  unfold Fields.ofObject
  rw [noFault]
  exact reads.built

end Fields

/-- A traversal of what was written restores what it was written of. -/
theorem mapM_map_eq_ok {f : β → Except Mismatch α} {write : α → β}
    (reads : ∀ a, f (write a) = .ok a) (items : List α) : (items.map write).mapM f = .ok items := by
  induction items with
  | nil => rfl
  | cons a rest ih =>
      rw [List.map_cons, List.mapM_cons, reads, ih]
      rfl

theorem decodeList_map {item : Decoder α} {write : α → Json}
    (reads : ∀ a, item (write a) = .ok a) (items : List α) :
    decodeList item (.array (items.map write)) = .ok items :=
  mapM_map_eq_ok reads items

/-- What was written of a list field makes up the list. -/
theorem Fields.reads_list {item : Decoder α} (write : α → Json) {items : List α}
    (found : value? name =
      if items.map write ≠ [] then some (.array (items.map write)) else Option.none)
    (reads : ∀ a, item (write a) = .ok a) :
    (defaulted name [] (decodeList item)).Reads value? items := by
  refine reads_defaulted ?_
  by_cases empty : items = []
  · refine .inr ⟨?_, empty⟩
    simpa [empty] using found
  · refine .inl ⟨.array (items.map write), ?_, decodeList_map reads items⟩
    simpa [empty] using found

end Json

open Json

section Keywords

variable {α : Type} [Keyword α]

/-- A type whose words tell its values apart. -/
def Keyword.Distinct (α : Type) [Keyword α] : Prop :=
  ∀ a : α, Keyword.parse? (Keyword.text a) = some a

theorem distinct_dataType : Keyword.Distinct DataType := by
  intro a
  cases a <;> rfl

theorem distinct_gatewayType : Keyword.Distinct GatewayType := by
  intro a
  cases a <;> rfl

theorem distinct_variableTag : Keyword.Distinct VariableTag := by
  intro a
  cases a <;> rfl

theorem distinct_visibility : Keyword.Distinct Visibility := by
  intro a
  cases a <;> rfl

theorem distinct_processKind : Keyword.Distinct ProcessKind := by
  intro a
  cases a <;> rfl

theorem decodeKeyword_keywordJson (distinct : Keyword.Distinct α) (handling : Handling) (a : α) :
    decodeKeyword handling (keywordJson a) = .ok a := by
  simp only [decodeKeyword, keywordJson, decodeWord, distinct a]

end Keywords

theorem decodeOption_string (s : String) :
    decodeOption decodeString (.string s) = .ok (some s) := rfl

theorem decodeOption_keywordJson {α : Type} [Keyword α] (distinct : Keyword.Distinct α)
    (handling : Handling) (a : α) :
    decodeOption (decodeKeyword handling) (keywordJson a) = .ok (some a) := by
  change some <$> decodeKeyword handling (keywordJson a) = _
  rw [decodeKeyword_keywordJson distinct]
  rfl

namespace Message

theorem reads (m : Message) : reader.Reads (Dict.ofList m.fields).get? m := by
  have name : (Fields.required "name" decodeString).Reads (Dict.ofList m.fields).get? m.name :=
    Fields.reads_required (v := .string m.name) (by simp [fields]) rfl
  have dataType : (Fields.optional "dataType" (decodeKeyword .held)).Reads
      (Dict.ofList m.fields).get? m.dataType :=
    Fields.reads_optional (by simp [fields]) (decodeOption_keywordJson distinct_dataType .held)
  have channel : (Fields.optional "channel" decodeString).Reads
      (Dict.ofList m.fields).get? m.channel :=
    Fields.reads_optional (by simp [fields]) decodeOption_string
  have correlation : (Fields.defaulted "correlation" [] (decodeList decodeString)).Reads
      (Dict.ofList m.fields).get? m.correlation :=
    Fields.reads_list .string (by simp [fields]) (fun _ => rfl)
  exact (((name.map Message.mk).seq dataType).seq channel).seq correlation

theorem ofJson_toJson (m : Message) : ofJson m.toJson = .ok m :=
  m.reads.ofObject

end Message

namespace Event

theorem reads_signal (name : String) (dataType : Option DataType) :
    signalReader.Reads
      (Dict.ofList ([("name", .string name)] ++
        optionalField "dataType" (dataType.map keywordJson))).get?
      (.signal name dataType) := by
  refine (Fields.Reads.map ?_ Event.signal).seq ?_
  · exact Fields.reads_required (v := .string name) (by simp) rfl
  · refine Fields.reads_defaulted ?_
    cases dataType with
    | none => exact .inr ⟨by simp, rfl⟩
    | some type =>
        exact .inl ⟨keywordJson type, by simp,
          decodeOption_keywordJson distinct_dataType .held type⟩

theorem reads_timer (expression : String) :
    timerReader.Reads (Dict.ofList [("expression", .string expression)]).get?
      (.timer expression) := by
  refine Fields.Reads.map ?_ Event.timer
  exact Fields.reads_required (v := .string expression) (by simp) rfl

/-- The kind of an event is taken from its fields; the body has the others. -/
theorem ofJson_tagged {type : String} {body : List (String × Json)} (known : type ∈ typeNames)
    (noTag : (Dict.ofList body).get? "type" = none) :
    ofJson (Json.ofFields (("type", .string type) :: body)) = ofBody type (Json.ofFields body) := by
  have tag : (Dict.ofList (("type", Json.string type) :: body)).entries.lookup "type" =
      some (.string type) := by
    change (Dict.ofList (("type", Json.string type) :: body)).get? "type" = _
    simp [noTag]
  have rest : (Dict.ofList (("type", Json.string type) :: body)).entries.filter
      (fun e => e.1 != "type") = (Dict.ofList body).entries := by
    refine Dict.filter_entries_eq "type" ?_
    intro k
    by_cases asked : k = "type"
    · simp [asked, noTag]
    · simp [asked]
  simp only [Json.ofFields, ofJson, tag, rest, decodeTag, if_pos known]
  rfl

theorem ofJson_toJson (e : Event) : ofJson e.toJson = .ok e := by
  cases e with
  | message m =>
      rw [toJson, ofJson_tagged (by decide) (by simp [Message.fields])]
      change Event.message <$> Message.ofJson m.toJson = _
      rw [m.ofJson_toJson]
      rfl
  | signal name dataType =>
      rw [toJson, List.cons_append, ofJson_tagged (by decide) (by simp)]
      exact (reads_signal name dataType).ofObject
  | timer expression =>
      rw [toJson, ofJson_tagged (by decide) (by simp)]
      exact (reads_timer expression).ofObject

theorem decodeOption_toJson (e : Event) : decodeOption ofJson e.toJson = .ok (some e) := by
  have written : decodeOption ofJson e.toJson = some <$> ofJson e.toJson := by
    cases e <;> rfl
  rw [written, ofJson_toJson]
  rfl

end Event

theorem Message.decodeOption_toJson (m : Message) :
    decodeOption ofJson m.toJson = .ok (some m) := by
  change some <$> ofJson m.toJson = _
  rw [m.ofJson_toJson]
  rfl

theorem Dict.ofList_entries {α : Type} (d : Dict α) : Dict.ofList d.entries = d := by
  have reversed : (d.entries.reverse.map Prod.fst).Nodup := by
    rw [List.map_reverse]
    exact List.nodup_reverse.2 d.nodup_keys
  refine Dict.ext_get? ?_
  intro k
  refine Option.ext ?_
  intro v
  rw [Dict.get?_ofList, lookup_eq_some_iff_mem reversed, List.mem_reverse, Dict.get?,
    lookup_eq_some_iff_mem d.nodup_keys]

theorem decodeDict_entries {α : Type} {item : Decoder α} (write : α → Json)
    (reads : ∀ a, item (write a) = .ok a) (d : Dict α) :
    decodeDict item (.object (d.entries.map fun e => (e.1, write e.2))) = .ok d := by
  unfold decodeDict
  simp only
  rw [mapM_map_eq_ok]
  · exact congrArg Except.ok d.ofList_entries
  · intro e
    simp only [reads]
    rfl

/-- What was written of a dictionary, unless it is empty, makes up the dictionary. -/
theorem reads_dict {α : Type} {item : Decoder α} (write : α → Json) {value? : String → Option Json}
    {name : String} {d : Dict α}
    (found : value? name = if d.isEmpty = false then
      some (.object (d.entries.map fun e => (e.1, write e.2))) else none)
    (reads : ∀ a, item (write a) = .ok a) :
    (Fields.defaulted name Dict.empty (decodeDict item)).Reads value? d := by
  refine Fields.reads_defaulted ?_
  cases empty : d.isEmpty with
  | true =>
      refine .inr ⟨by simpa [empty] using found, ?_⟩
      rw [← d.ofList_entries, List.isEmpty_iff.1 empty]
      rfl
  | false =>
      exact .inl ⟨_, by simpa [empty] using found, decodeDict_entries write reads d⟩

/-- The names that the kind of a node has no field under. -/
def Node.ownNames : List String :=
  ["id", "name", "parent", "nodeType"]

namespace NodeKind

/-- No kind of node has a field under a name of the node itself. -/
theorem get?_fields_ownNames (kind : NodeKind) (key : String) (own : key ∈ Node.ownNames) :
    (Dict.ofList kind.fields).get? key = none := by
  simp only [Node.ownNames, List.mem_cons, List.not_mem_nil, or_false] at own
  cases kind <;> rcases own with rfl | rfl | rfl | rfl <;> simp [fields]

theorem typeName_mem (kind : NodeKind) : kind.typeName ∈ typeNames := by
  cases kind <;> simp [typeName, typeNames]

/-- The kind of a node is read from an object that has its fields, whatever else the node has. -/
theorem reads {kind : NodeKind} {value? : String → Option Json}
    (held : ∀ key, key ∉ Node.ownNames → value? key = (Dict.ofList kind.fields).get? key) :
    (reader kind.typeName).Reads value? kind := by
  cases kind with
  | start trigger =>
      refine (Fields.reads_defaulted_none ?_ Event.decodeOption_toJson).map NodeKind.start
      rw [held _ (by decide)]
      simp [fields]
  | finish message =>
      refine (Fields.reads_defaulted_none ?_ Message.decodeOption_toJson).map NodeKind.finish
      rw [held _ (by decide)]
      simp [fields]
  | action script =>
      refine (Fields.reads_defaulted_none ?_ decodeOption_string).map NodeKind.action
      rw [held _ (by decide)]
      simp [fields]
  | workItem handler parameters =>
      refine ((Fields.reads_string ?_).map NodeKind.workItem).seq
        (reads_dict .string ?_ (fun _ => rfl))
      · rw [held _ (by decide)]
        simp [fields]
      · rw [held _ (by decide)]
        simp [fields]
  | gateway type =>
      refine (Fields.reads_required ?_
        (decodeKeyword_keywordJson distinct_gatewayType .held type)).map NodeKind.gateway
      rw [held _ (by decide)]
      simp [fields]
  | catchEvent event =>
      refine (Fields.reads_required ?_ event.ofJson_toJson).map NodeKind.catchEvent
      rw [held _ (by decide)]
      simp [fields]
  | throwEvent event =>
      refine (Fields.reads_required ?_ event.ofJson_toJson).map NodeKind.throwEvent
      rw [held _ (by decide)]
      simp [fields]
  | boundaryEvent attachedTo event =>
      refine ((Fields.reads_string ?_).map NodeKind.boundaryEvent).seq
        (Fields.reads_required ?_ event.ofJson_toJson)
      · rw [held _ (by decide)]
        simp [fields]
      · rw [held _ (by decide)]
        simp [fields]
  | sendTask message =>
      refine (Fields.reads_required ?_ message.ofJson_toJson).map NodeKind.sendTask
      rw [held _ (by decide)]
      simp [fields]
  | receiveTask message =>
      refine (Fields.reads_required ?_ message.ofJson_toJson).map NodeKind.receiveTask
      rw [held _ (by decide)]
      simp [fields]
  | subProcessCall processId waitForCompletion independent =>
      refine (((Fields.reads_string ?_).map NodeKind.subProcessCall).seq
        (Fields.reads_defaulted (.inl ⟨.bool waitForCompletion, ?_, rfl⟩))).seq
          (Fields.reads_defaulted (.inl ⟨.bool independent, ?_, rfl⟩))
      · rw [held _ (by decide)]
        simp [fields]
      · rw [held _ (by decide)]
        simp [fields]
      · rw [held _ (by decide)]
        simp [fields]
  | composite => exact Fields.reads_pure _

end NodeKind

namespace Node

theorem get?_fields_kind (n : Node) {key : String} (foreign : key ∉ ownNames) :
    (Dict.ofList n.fields).get? key = (Dict.ofList n.kind.fields).get? key := by
  simp only [ownNames, List.mem_cons, List.not_mem_nil, or_false, not_or] at foreign
  obtain ⟨notId, notName, notParent, notType⟩ := foreign
  simp [fields, notId, notName, notParent, notType]

theorem reads (n : Node) :
    reader.Reads (Dict.ofList n.fields).get? (fun kind => ⟨n.id, n.name, n.parent, kind⟩) := by
  refine (((Fields.reads_string ?_).map Node.mk).seq
    (Fields.reads_optional ?_ decodeOption_string)).seq
    (Fields.reads_optional ?_ decodeOption_string)
  · simp [fields, n.kind.get?_fields_ownNames "id" (by decide)]
  · simp [fields, n.kind.get?_fields_ownNames "name" (by decide)]
  · simp [fields, n.kind.get?_fields_ownNames "parent" (by decide)]

theorem ofJson_toJson (n : Node) : ofJson n.toJson = .ok n := by
  have tag : (Dict.ofList n.fields).entries.lookup "nodeType" = some (.string n.kind.typeName) := by
    change (Dict.ofList n.fields).get? "nodeType" = _
    simp [fields, n.kind.get?_fields_ownNames "nodeType" (by decide)]
  have kind : (NodeKind.reader n.kind.typeName).ofObject (Dict.ofList n.fields).entries =
      .ok n.kind :=
    (NodeKind.reads fun _ foreign => n.get?_fields_kind foreign).ofObject
  change ofJson (.object (Dict.ofList n.fields).entries) = _
  simp only [ofJson, n.reads.ofObject, tag, decodeTag, if_pos n.kind.typeName_mem, kind, bind,
    Except.bind, pure, Except.pure]

end Node

theorem Connection.ofJson_toJson (c : Connection) : ofJson c.toJson = .ok c := by
  refine Fields.Reads.ofObject
    (((Fields.reads_string ?_).map Connection.mk).seq (Fields.reads_string ?_))
  · simp
  · simp

theorem Variable.ofJson_toJson (v : Variable) : ofJson v.toJson = .ok v := by
  refine Fields.Reads.ofObject ((((Fields.reads_string ?_).map Variable.mk).seq
    (Fields.reads_required ?_ (decodeKeyword_keywordJson distinct_dataType .direct v.dataType))).seq
      (Fields.reads_list keywordJson ?_ (decodeKeyword_keywordJson distinct_variableTag .direct)))
  · simp
  · simp
  · simp

namespace Definition

theorem reads (d : Definition) : reader.Reads (Dict.ofList d.fields).get? d := by
  have id : (Fields.required "id" decodeString).Reads (Dict.ofList d.fields).get? d.id :=
    Fields.reads_string (by simp [fields])
  have package : (Fields.defaulted "packageName" "" decodeString).Reads
      (Dict.ofList d.fields).get? d.package :=
    Fields.reads_defaulted (.inl ⟨.string d.package, by simp [fields], rfl⟩)
  have name : (Fields.optional "name" decodeString).Reads (Dict.ofList d.fields).get? d.name :=
    Fields.reads_optional (by simp [fields]) decodeOption_string
  have version : (Fields.optional "version" decodeString).Reads
      (Dict.ofList d.fields).get? d.version :=
    Fields.reads_optional (by simp [fields]) decodeOption_string
  have visibility : (Fields.defaulted "visibility" .external (decodeKeyword .direct)).Reads
      (Dict.ofList d.fields).get? d.visibility :=
    Fields.reads_defaulted (.inl ⟨keywordJson d.visibility, by simp [fields],
      decodeKeyword_keywordJson distinct_visibility .direct d.visibility⟩)
  have kind : (Fields.defaulted "kind" .graph (decodeKeyword .direct)).Reads
      (Dict.ofList d.fields).get? d.kind :=
    Fields.reads_defaulted (.inl ⟨keywordJson d.kind, by simp [fields],
      decodeKeyword_keywordJson distinct_processKind .direct d.kind⟩)
  have nodes : (Fields.defaulted "nodes" [] (decodeList Node.ofJson)).Reads
      (Dict.ofList d.fields).get? d.nodes :=
    Fields.reads_defaulted (.inl ⟨.array (d.nodes.map Node.toJson), by simp [fields],
      decodeList_map Node.ofJson_toJson d.nodes⟩)
  have connections : (Fields.defaulted "connections" [] (decodeList Connection.ofJson)).Reads
      (Dict.ofList d.fields).get? d.connections :=
    Fields.reads_list Connection.toJson (by simp [fields]) Connection.ofJson_toJson
  have declarations : (Fields.defaulted "variables" [] (decodeList Variable.ofJson)).Reads
      (Dict.ofList d.fields).get? d.declarations :=
    Fields.reads_list Variable.toJson (by simp [fields]) Variable.ofJson_toJson
  have metadata : (Fields.defaulted "metadata" Dict.empty (decodeDict pure)).Reads
      (Dict.ofList d.fields).get? d.metadata :=
    reads_dict (fun v : Json => v) (by simp [fields]) (fun _ => rfl)
  have resource : (Fields.optional "resource" decodeString).Reads
      (Dict.ofList d.fields).get? d.resource :=
    Fields.reads_optional (by simp [fields]) decodeOption_string
  have dynamic : (Fields.defaulted "dynamic" false decodeBool).Reads
      (Dict.ofList d.fields).get? d.dynamic := by
    refine Fields.reads_defaulted ?_
    cases flag : d.dynamic with
    | false => exact .inr ⟨by simp [fields, flag], rfl⟩
    | true => exact .inl ⟨.bool true, by simp [fields, flag], rfl⟩
  exact (id.map Definition.mk).seq package |>.seq name |>.seq version |>.seq visibility |>.seq kind
    |>.seq nodes |>.seq connections |>.seq declarations |>.seq metadata |>.seq resource
    |>.seq dynamic

theorem ofJson_toJson (d : Definition) : ofJson d.toJson = .ok d :=
  d.reads.ofObject

theorem readListed_map_toJson (index : Nat) (ds : List Definition) :
    readListed index (ds.map toJson) = .ok ds := by
  induction ds generalizing index with
  | nil => rfl
  | cons d rest ih =>
      rw [List.map_cons, readListed, ofJson_toJson]
      simp only [ih]
      rfl

/-- What is written of a definition is read as the definition, and what is written of a list of
    definitions as the list. -/
theorem read_toJson : (∀ d : Definition, read d.toJson = .ok d) ∧
    (∀ d : Definition, readAll d.toJson = .ok [d]) ∧
      ∀ ds : List Definition, readAll (.array (ds.map toJson)) = .ok ds := by
  have one (d : Definition) : read d.toJson = .ok d := by
    rw [read, ofJson_toJson]
  refine ⟨one, ?_, readListed_map_toJson 0⟩
  intro d
  change (fun p => [p]) <$> read d.toJson = _
  rw [one]
  rfl

end Definition

end Flowsmith
