import Flowsmith.Page.Basic
import Flowsmith.Proofs.RowReading

/-!
What the pages say in code. Each page is read as its template is laid out: fixed lines, lines with
names, qualified names or quoted texts in them, and comments with free text, which says what it has
below its first line.
-/

namespace Flowsmith

open Source

variable {allowed : List String → Prop} {depth : Nat} {fns : List String}

/-- A field whose parts can be read. -/
structure PageField.IsReadable (allowed : List String → Prop) (f : PageField) : Prop where
  isName : isWord f.name = true
  other : f.name ≠ "fn"
  type : Mentions allowed f.type
  init : Mentions allowed (f.init.getD "None")
  attributes : ∀ a ∈ f.attributes, Mentions allowed a

/-- A type that holds collaborators whose parts can be read. -/
structure Members.IsReadable (allowed : List String → Prop) (m : Members) : Prop where
  isClass : isWord m.className = true
  other : m.className ≠ "fn"
  attributes : ∀ a ∈ m.typeAttributes, Mentions allowed a
  fields : ∀ f ∈ m.fields, f.IsReadable allowed

namespace Members

variable {m : Members}

theorem IsReadable.mentions (readable : m.IsReadable allowed) : Mentions allowed m.className :=
  mentions_nothing (adds_word readable.isClass readable.other)

theorem says_fieldLines {f : PageField} (readable : f.IsReadable allowed) :
    Says allowed (fieldLines f) [] := by
  have attributes : Says allowed (f.attributes.map (Line.text 0)) [] :=
    says_map_silent fun a member => (readable.attributes a member).toSays
  exact attributes.append (says_label readable.isName readable.type (by decide))

/-- The lines that initialize the fields. -/
def initLines (m : Members) : List Line :=
  m.fields.map fun f => .text 0 (f.name ++ ": " ++ f.init.getD "None" ++ ",")

theorem says_initLines (readable : m.IsReadable allowed) : Says allowed m.initLines [] :=
  says_map_silent fun f member =>
    says_label (readable.fields f member).isName (readable.fields f member).init (by decide)

theorem says_constructorLines (readable : m.IsReadable allowed) :
    Says allowed m.constructorLines ["new"] :=
  .of_eq (.blockOf [] readable.mentions (by decide) (by decide)
    (.flatten_cons (says_fixed [] (by decide)) (.flatten_cons (.block ["new"] (by decide)
      (.block [] (by decide) (says_initLines readable))) says_flatten_nil))) rfl

/-- A type that holds collaborators declares its constructor, unless its fields are handed in. -/
theorem says_lines (doc : Says allowed [.text 0 ("/// " ++ m.doc)] fns)
    (readable : m.IsReadable allowed) :
    Says allowed m.lines (fns ++ if m.injected then [] else ["new"]) := by
  have attributes : Says allowed (m.typeAttributes.map (Line.text 0)) [] :=
    says_map_silent fun a member => (readable.attributes a member).toSays
  have fields : Says allowed (m.fields.flatMap fieldLines) [] :=
    says_flatMap_silent fun f member => says_fieldLines (readable.fields f member)
  have made : Says allowed (if m.injected then [] else .blank :: m.constructorLines)
      (if m.injected then [] else ["new"]) := by
    split
    · exact says_nil
    · exact (says_constructorLines readable).blank
  exact .of_eq (.flatten_cons doc (.flatten_cons attributes
    (.flatten_cons (.blockOf [] readable.mentions (by decide) (by decide) fields)
    (.flatten_cons made says_flatten_nil)))) (by simp)

end Members

section Fields

/-! Fields that hold collaborators. -/

variable (injection : Injection)

/-- A field is readable under either way of injection when both its initializer and its attribute
    are. -/
theorem isReadable_annotate {f : HostField} (isName : isWord f.name = true) (other : f.name ≠ "fn")
    (type : Mentions allowed f.type) (init : Mentions allowed (Injection.initializer f))
    (injected : Mentions allowed (Injection.injectAttribute f)) :
    (injection.annotate f).toPageField.IsReadable allowed where
  isName := isName
  other := other
  type := type
  init := by
    cases injection with
    | none => exact init
    | injected =>
        change Mentions allowed "None"
        exact mentions_of_isPart (by decide)
  attributes := by
    cases injection with
    | none => exact List.forall_mem_nil _
    | injected =>
        intro a member
        obtain rfl := List.mem_singleton.1 member
        exact injected

theorem isReadable_application :
    (injection.annotate .application).toPageField.IsReadable allowed := by
  refine isReadable_annotate injection (by decide) (by decide) ?_ ?_ ?_
  · change Mentions allowed "procflow_runtime::Application"
    exact mentions_of_isPart (by decide)
  · change Mentions allowed "procflow_runtime::Application::current()"
    exact mentions_of_isPart (by decide)
  · change Mentions allowed "#[procflow_runtime::inject]"
    exact mentions_of_isPart (by decide)

theorem isReadable_emitter {payload : String} (mentions : Mentions allowed payload)
    (channel : String) :
    (injection.annotate (.emitter payload channel)).toPageField.IsReadable allowed := by
  refine isReadable_annotate injection (by decide : isWord "emitter" = true)
    (by decide : "emitter" ≠ "fn") ?_ ?_ ?_
  · change Mentions allowed ("procflow_runtime::messaging::Emitter<" ++ payload ++ ">")
    exact mentions.around (by decide) (by decide)
  · change Mentions allowed
      ("procflow_runtime::messaging::Emitter::new(" ++ Text.quoted channel ++ ")")
    exact (mentions_quoted channel).around (by decide) (by decide)
  · change Mentions allowed
      ("#[procflow_runtime::inject(channel = " ++ Text.quoted channel ++ ")]")
    exact (mentions_quoted channel).around (by decide) (by decide)

/-- Whether a field holds a process. -/
def HostField.holdsProcess (f : HostField) : Bool :=
  f.role == .processHandle || f.role == .subProcess

section Handles

variable {f : HostField} {segments : List String} (holds : f.holdsProcess = true)
  (qualified : IsQualified segments) (target : f.target = String.intercalate "::" segments)

include holds qualified target

/-- A field that holds a process has its type named in full. -/
theorem adds_type : Adds f.type [segments] := by
  have shown : f.type = "std::sync::Arc<" ++ String.intercalate "::" segments ++ ">" := by
    simp only [HostField.holdsProcess, Bool.or_eq_true, beq_iff_eq] at holds
    rw [← target]
    rcases holds with role | role <;> simp only [HostField.type, role] <;> rfl
  rw [shown]
  exact (adds_path qualified).around (by decide) (by decide)

/-- A field that holds a process is made by the constructor of the process. -/
theorem adds_initializer : Adds (Injection.initializer f) [segments ++ ["new"]] := by
  have shown : Injection.initializer f =
      "std::sync::Arc::new(" ++ (String.intercalate "::" segments ++ "::new") ++ "())" := by
    have same : "::new())" = "::new" ++ "())" := rfl
    simp only [HostField.holdsProcess, Bool.or_eq_true, beq_iff_eq] at holds
    rw [String.append_assoc, String.append_assoc, ← same, ← String.append_assoc, ← target]
    rcases holds with role | role <;> simp only [Injection.initializer, role] <;> rfl
  rw [shown]
  exact (adds_constructor qualified).around (by decide) (by decide)

theorem isReadable_handle (named : allowed segments) (made : allowed (segments ++ ["new"]))
    (isName : isWord f.name = true) (other : f.name ≠ "fn") :
    (injection.annotate f).toPageField.IsReadable allowed := by
  refine isReadable_annotate injection isName other
    ⟨_, by simpa using named, adds_type holds qualified target⟩
    ⟨_, by simpa using made, adds_initializer holds qualified target⟩ ?_
  simp only [HostField.holdsProcess, Bool.or_eq_true, beq_iff_eq] at holds
  rcases holds with role | role
  · simp only [Injection.injectAttribute, role]
    exact mentions_of_isPart (by decide)
  · simp only [Injection.injectAttribute, role]
    exact (mentions_quoted f.name).around (by decide) (by decide)

end Handles

theorem isReadable_ofFields {doc className : String} {fields : List HostField}
    (isClass : isWord className = true) (other : className ≠ "fn")
    (each : ∀ f ∈ fields, (injection.annotate f).toPageField.IsReadable allowed) :
    (Members.ofFields injection doc className fields).IsReadable allowed where
  isClass := isClass
  other := other
  attributes := by
    cases injection with
    | none => exact List.forall_mem_nil _
    | injected =>
        intro a member
        obtain rfl := List.mem_singleton.1 member
        exact mentions_of_isPart (by decide)
  fields := by
    intro f member
    obtain ⟨host, inFields, rfl⟩ := List.mem_map.1 member
    exact each host inFields

end Fields

/-- The first line of a page is a comment of one line, whatever the process. -/
theorem says_generatedFrom (processId : String) : Says allowed [generatedFrom processId] [] := by
  have oneLine : '\n' ∉ (Text.quoted processId ++ ". Do not edit.").toList := by
    rw [String.toList_append, List.mem_append, not_or]
    exact ⟨newline_not_mem_quoted processId, by decide⟩
  have nothing : ∀ r ∈ readBelow referencesIn (Text.quoted processId ++ ". Do not edit."),
      allowed r := by
    rw [readBelow_eq_nil oneLine]
    exact List.forall_mem_nil _
  refine .of_eq (says_remark (by decide) _ _ nothing) ?_
  exact readBelow_eq_nil oneLine

namespace InstancePage

variable {p : InstancePage}

theorem says_inherentLines (model : Mentions allowed p.modelPath) :
    Says allowed p.inherentLines ["new", "id", "model", "state"] := by
  have pending : Says allowed [.text 0 ("state: " ++ stateType ++ "::Pending,")] [] := by
    have shown : "state: " ++ stateType ++ "::Pending," =
        "state: procflow_runtime::instance::InstanceState::Pending," := by decide
    rw [shown]
    exact says_fixed [] (by decide)
  exact .of_eq (.flatten_cons (says_fixed [] (by decide))
    (.flatten_cons (.blockAround ["new"] model (by decide) (by decide) (by decide)
      (.block [] (by decide) (.fixed (by decide) (.fixed (by decide) pending))))
    (.flatten_cons (.blank (says_fixed [] (by decide)))
    (.flatten_cons (.block ["id"] (by decide) (says_fixed [] (by decide)))
    (.flatten_cons (.blank (says_fixed [] (by decide)))
    (.flatten_cons (.blockOf ["model"] model (by decide) (by decide) (says_fixed [] (by decide)))
    (.flatten_cons (.blank (says_fixed [] (by decide)))
    (.flatten_cons (.blockOf ["state"] (mentions_of_isPart (by decide)) (by decide) (by decide)
      (says_fixed [] (by decide))) says_flatten_nil)))))))) rfl

theorem says_instanceLines (model : Mentions allowed p.modelPath) :
    Says allowed p.instanceLines ["process_id", "id", "variables", "variables_mut", "transition"] :=
  .of_eq (.flatten_cons (.cons (says_around model (by decide) (by decide)) says_blank)
    (.flatten_cons (.block ["process_id"] (by decide) (mentions_quoted p.processId).toSays)
    (.flatten_cons says_blank
    (.flatten_cons (.block ["id"] (by decide) (says_fixed [] (by decide)))
    (.flatten_cons says_blank
    (.flatten_cons (.block ["variables"] (by decide) (says_fixed [] (by decide)))
    (.flatten_cons says_blank
    (.flatten_cons (.block ["variables_mut"] (by decide) (says_fixed [] (by decide)))
    (.flatten_cons says_blank
    (.flatten_cons (.blockAround ["transition"] (mentions_of_isPart (by decide)) (by decide)
      (by decide) (by decide) (says_fixed [] (by decide))) says_flatten_nil)))))))))) rfl

theorem says_lines (isClass : isWord p.className = true) (other : p.className ≠ "fn")
    (model : Mentions allowed p.modelPath)
    (remark : ∀ r ∈ readBelow referencesIn (p.processId ++ "`."), allowed r) :
    ∃ fns, Says allowed p.lines fns := by
  have word : Mentions allowed p.className := mentions_nothing (adds_word isClass other)
  exact ⟨_, .flatten_cons (.cons (says_generatedFrom _) (.cons (says_remark (by decide) _ _ remark)
      (.blank (.cons (says_remark (by decide) _ _ remark) (says_fixed [] (by decide))))))
    (.flatten_cons (.blockOf [] word (by decide) (by decide) (.fixed (by decide)
      (.cons (says_around model (by decide) (by decide))
        (says_around (mentions_of_isPart (by decide)) (by decide) (by decide)))))
    (.flatten_cons says_blank
    (.flatten_cons (.blockOf [] word (by decide) (by decide) (says_inherentLines model))
    (.flatten_cons says_blank
    (.flatten_cons (.blockOf [] word (by decide) (by decide) (says_instanceLines model))
      says_flatten_nil)))))⟩

end InstancePage

namespace ModelPage

variable {p : ModelPage}

theorem says_fieldLines (validation : Bool) {f : ModelPageField} (isName : isWord f.ident = true)
    (type : Mentions allowed f.type) : Says allowed (fieldLines validation f) [] := by
  have rename : Says allowed [.text 0 ("#[serde(rename = " ++ Text.quoted f.name ++ ", " ++
      "default, skip_serializing_if = \"Option::is_none\")]")] [] := by
    have joined : ", " ++ "default, skip_serializing_if = \"Option::is_none\")]" =
        ", default, skip_serializing_if = \"Option::is_none\")]" := by decide
    rw [String.append_assoc, joined]
    exact says_around (mentions_quoted f.name) (by decide) (by decide)
  have required :
      Says allowed (if validation && f.required then ["#[validate(required)]"] else []) [] := by
    split
    · exact says_fixed [] (by decide)
    · exact says_nil
  have declared :
      Says allowed [.text 0 ("pub " ++ f.ident ++ ": Option<" ++ f.type ++ ">,")] [] := by
    obtain ⟨refs, all, adds⟩ := type
    have option : ": Option<" = ": " ++ "Option<" := by decide
    have reads : Reads ("pub " ++ (f.ident ++ ": " ++ ("Option<" ++ f.type ++ ">,"))) refs [] :=
      ((adds.around (by decide) (by decide)).reads.label isName).lead (by decide)
    refine says_reads ?_ all
    simpa only [option, String.append_assoc] using reads
  exact .of_eq (.flatten_cons rename (.flatten_cons required
    (.flatten_cons declared says_flatten_nil))) rfl

theorem says_derives (openapi validation : Bool) : Says allowed
    [.text 0 ("#[derive(Debug, Clone, Default, PartialEq, Serialize, Deserialize" ++
      (if openapi then ", utoipa::ToSchema" else "") ++
      (if validation then ", validator::Validate" else "") ++ ")]")] [] := by
  have first : Mentions allowed (if openapi then ", utoipa::ToSchema" else "") := by
    cases openapi <;> exact mentions_of_isPart (by decide)
  have second : Mentions allowed (if validation then ", validator::Validate" else "") := by
    cases validation <;> exact mentions_of_isPart (by decide)
  exact (((Mentions.append (mentions_of_isPart (by decide)) first
    (by cases openapi <;> decide)).append second (by cases validation <;> decide)).append_tail
      (by decide)).toSays

/-- A comment with a title before the text in it. -/
theorem says_titled {front : List Char} (leads : isCommentLead front = true) (kind : ModelKind)
    {ending : String} (oneLine : '\n' ∉ ending.toList) (remark back : String)
    (all : ∀ r ∈ readBelow referencesIn (remark ++ back), allowed r) :
    Says allowed [.text depth (String.ofList front ++ title kind ++ ending ++ remark ++ back)]
      (readBelow functionsIn (remark ++ back)) := by
  have whole : '\n' ∉ (title kind ++ ending).toList := by
    rw [String.toList_append, List.mem_append, not_or]
    exact ⟨by cases kind <;> decide, oneLine⟩
  have comment : Says allowed
      [.text depth (String.ofList front ++ (title kind ++ ending ++ (remark ++ back)))] _ :=
    says_comment leads (by rwa [readBelow_append whole])
  rw [readBelow_append whole] at comment
  simpa only [String.append_assoc] using comment

theorem says_lines (isClass : isWord p.className = true) (other : p.className ≠ "fn")
    (fields : ∀ f ∈ p.fields, isWord f.ident = true ∧ Mentions allowed f.type)
    (remark : ∀ r ∈ readBelow referencesIn (p.processId ++ "`."), allowed r) :
    ∃ fns, Says allowed p.lines fns := by
  have word : Mentions allowed p.className := mentions_nothing (adds_word isClass other)
  have fieldLines : Says allowed (p.fields.flatMap (fieldLines p.validation)) [] :=
    says_flatMap_silent fun f member =>
      says_fieldLines p.validation (fields f member).1 (fields f member).2
  have readonly : Says allowed (if p.kind = .full then p.readonlyLines else []) [] := by
    split
    · refine .blank (.fixed (by decide) (says_around (mentions_nothing ?_) (by decide) (by decide)))
      have joined :=
        adds_join_quoted ((p.fields.filter ModelPageField.readonly).map ModelPageField.name)
      rwa [List.map_map] at joined
    · exact says_nil
  exact ⟨_, .flatten_cons (.cons (says_generatedFrom _)
      (.cons (says_titled (by decide) p.kind (by decide) _ _ remark) (.blank (.fixed (by decide)
      (.blank (.cons (says_titled (by decide) p.kind (by decide) _ _ remark)
        (says_derives p.openapi p.validation)))))))
    (.flatten_cons (.blockOf [] word (by decide) (by decide) fieldLines)
    (.flatten_cons says_blank
    (.flatten_cons (.blockOf [] word (by decide) (by decide) (.flatten_cons (.fixed (by decide)
      (says_around (mentions_quoted p.processId) (by decide) (by decide)))
        (.flatten_cons readonly says_flatten_nil))) says_flatten_nil)))⟩

end ModelPage

/-- A handler function whose parts can be read. -/
structure PageHandler.IsReadable (h : PageHandler) : Prop where
  isName : isWord h.key = true
  other : h.key ≠ "fn"
  opens : opensCode h.body.toList = true
  body : Reads h.body [] [h.key]

/-- The page of an entry point whose parts can be read. -/
structure EntryPage.IsReadable (allowed : List String → Prop) (p : EntryPage) : Prop where
  members : p.members.IsReadable allowed
  type : Mentions allowed p.instancePath
  created : Mentions allowed (p.instancePath ++ "::new")
  definition : Mentions allowed p.definition
  handlers : ∀ h ∈ p.handlers, h.IsReadable

namespace EntryPage

variable {p : EntryPage}

theorem mentions_truth (b : Bool) : Mentions allowed (truth b) := by
  cases b <;> exact mentions_of_isPart (by decide)

theorem says_accessorLines {f : PageField} (readable : f.IsReadable allowed) :
    Says allowed (accessorLines f) [f.name] := by
  have word : Mentions allowed f.name := mentions_nothing (adds_word readable.isName readable.other)
  have head : Says allowed
      [.text 0 ("pub fn " ++ f.name ++ "(&self) -> &" ++ f.type ++ " \x7b")] [f.name] := by
    obtain ⟨refs, all, adds⟩ := readable.type
    have rest : Reads ("(&self) -> &" ++ f.type ++ " \x7b") refs [] :=
      (adds.around (by decide) (by decide)).reads
    have apart : Token.Apart ("(&self) -> &" ++ f.type ++ " \x7b").toList := by
      intro c isHead
      obtain rfl : '(' = c := by simpa using isHead
      decide
    have reads : Reads ("pub fn " ++ f.name ++ ("(&self) -> &" ++ f.type ++ " \x7b"))
        refs [f.name] :=
      rest.function (by decide) readable.isName readable.other apart
    rw [← String.append_assoc, ← String.append_assoc] at reads
    refine says_function reads ?_ all
    · simp only [String.toList_append, List.append_assoc]
      exact opensCode_append (by decide) _
  exact .of_eq (.flatten_cons (.blank (says_fixed [] (by decide)))
    (.flatten_cons (.braced head (word.behind (by decide)).toSays) says_flatten_nil)) rfl

theorem says_inherentLines (readable : p.IsReadable allowed) :
    Says allowed p.inherentLines ("build_definition" ::
      (p.members.fields.filter PageField.isSubProcess).map PageField.name) := by
  have accessors : Says allowed
      ((p.members.fields.filter PageField.isSubProcess).flatMap accessorLines)
      ((p.members.fields.filter PageField.isSubProcess).map PageField.name) := by
    rw [List.map_eq_flatMap]
    exact says_flatMap fun f member =>
      says_accessorLines (readable.members.fields f (List.mem_filter.1 member).1)
  exact .of_eq (.blockOf [] readable.members.mentions (by decide) (by decide)
    (.flatten_cons (.fixed (by decide)
      (.cons (says_around (mentions_quoted _) (by decide) (by decide)) (.fixed (by decide)
      (.cons (says_around (mentions_quoted _) (by decide) (by decide)) (.fixed (by decide)
      (.cons (says_around (mentions_truth _) (by decide) (by decide)) (.fixed (by decide)
      (.cons (says_around (mentions_truth _) (by decide) (by decide))
        (.blank (says_fixed [] (by decide)))))))))))
    (.flatten_cons (.block ["build_definition"] (by decide) readable.definition.toSays)
    (.flatten_cons accessors says_flatten_nil)))) (by simp)

theorem says_match {h : PageHandler} (readable : h.IsReadable) :
    Says allowed [.text depth
      (Text.quoted h.key ++ " => Some(handlers::" ++ h.key ++ "),")] [] := by
  have shown : symbols " => Some(handlers::".toList =
      [.mark '=', .mark '>', .word "Some", .mark '(', .word "handlers", .mark ':', .mark ':'] := by
    decide
  have silent : referencesIn (symbols " => Some(handlers::".toList ++ [.word h.key]) = [] := by
    rw [shown]
    simp [referencesIn, namesFrom, ended, isRooted]
  have named : Adds (" => Some(handlers::" ++ h.key) [] := by
    rw [← silent]
    refine adds_of_row ?_ (fun rest follows => ?_) ?_ ?_ ?_ ?_
    · rw [String.toList_append, List.mem_append, not_or]
      exact ⟨by decide, newline_not_mem_word readable.isName⟩
    · rw [String.toList_append, List.append_assoc, symbols_append (by decide),
        symbols_word readable.isName follows, List.append_assoc]
      rfl
    · rw [shown]
      simp
    · rw [shown]
      simp [colonsAfter]
    · rw [shown]
      simp [functionsIn, functionsFrom]
    · rw [shown]
      simpa [declaresAfter] using readable.other
  have apart : isApart (" => Some(handlers::" ++ h.key).toList = true := by
    simp [isApart, Naming.isWordChar]
  have whole : Adds (Text.quoted h.key ++ (" => Some(handlers::" ++ h.key) ++ "),") [] :=
    ((adds_quoted h.key).append named apart).append_tail (by decide)
  rw [← String.append_assoc] at whole
  exact (mentions_nothing whole).toSays

theorem says_processLines (readable : p.IsReadable allowed) : Says allowed p.processLines
    ["id", "definition", "create_instance", "handler"] := by
  have create : Says allowed [.text 0 (p.instancePath ++ "::new(id, model)")] [] := by
    have split : "::new(id, model)" = "::new" ++ "(id, model)" := by decide
    rw [split, ← String.append_assoc]
    exact (readable.created.append_tail (by decide)).toSays
  have cases : Says allowed (p.handlers.map fun h =>
      Line.text 0 s!"{Text.quoted h.key} => Some(handlers::{h.key}),") [] :=
    says_map_silent fun h member => says_match (readable.handlers h member)
  have head : Says allowed [.text 0 ("fn create_instance" ++ "(")] ["create_instance"] := by
    have shown : "fn create_instance" ++ "(" = "fn create_instance(" := by decide
    rw [shown]
    exact says_fixed ["create_instance"] (by decide)
  exact .of_eq (.blockOf [] readable.members.mentions (by decide) (by decide)
    (.flatten_cons (.cons (says_around readable.type (by decide) (by decide)) says_blank)
    (.flatten_cons (.block ["id"] (by decide) (says_fixed [] (by decide)))
    (.flatten_cons says_blank
    (.flatten_cons (.block ["definition"] (by decide) (says_fixed [] (by decide)))
    (.flatten_cons says_blank
    (.flatten_cons (.functionBlock head (.fixed (by decide) (.fixed (by decide)
      (says_fixed [] (by decide)))) (mentions_of_isPart (by decide)) create)
    (.flatten_cons says_blank
    (.flatten_cons (.block ["handler"] (by decide) (.block [] (by decide)
      (.flatten_cons cases (.flatten_cons (says_fixed [] (by decide)) says_flatten_nil))))
      says_flatten_nil))))))))) rfl

/-- The functions that the page of an entry point declares after its type. -/
def laterFunctions (p : EntryPage) : List String :=
  "build_definition" :: (p.members.fields.filter PageField.isSubProcess).map PageField.name ++
    ["id", "definition", "create_instance", "handler"] ++ p.handlers.map PageHandler.key

/-- The lines of the page after its type. -/
def laterLines (p : EntryPage) : List Line :=
  List.flatten [[.blank], p.inherentLines, [.blank], p.processLines, [.blank, "/// Node handlers."],
    Line.braced "pub mod handlers" (p.handlers.map fun h => h.body)]

theorem says_laterLines (readable : p.IsReadable allowed) :
    Says allowed p.laterLines p.laterFunctions := by
  have handlers : Says allowed (p.handlers.map fun h => Line.text 0 h.body)
      (p.handlers.map PageHandler.key) := by
    rw [List.map_eq_flatMap, List.map_eq_flatMap]
    exact says_flatMap fun h member => says_function (readable.handlers h member).body
      (readable.handlers h member).opens (List.forall_mem_nil _)
  exact .of_eq (.flatten_cons says_blank (.flatten_cons (says_inherentLines readable)
    (.flatten_cons says_blank (.flatten_cons (says_processLines readable)
    (.flatten_cons (.blank (says_fixed [] (by decide)))
    (.flatten_cons (.block [] (by decide) handlers) says_flatten_nil))))))
      (by simp [laterFunctions])

theorem lines_eq (p : EntryPage) : p.lines =
    [generatedFrom p.processId, .text 0 ("//! Entry point of process `" ++ p.processId ++ "`."),
      .blank] ++ p.members.lines ++ p.laterLines := by
  simp only [lines, laterLines, List.flatten_cons, List.append_assoc]
  rfl

theorem says_lines (readable : p.IsReadable allowed)
    (doc : Says allowed [.text 0 ("/// " ++ p.members.doc)] fns)
    (remark : ∀ r ∈ readBelow referencesIn (p.processId ++ "`."), allowed r) :
    ∃ fns, Says allowed p.lines fns := by
  rw [lines_eq]
  exact ⟨_,
    ((says_generatedFrom _).cons ((says_remark (by decide) _ _ remark).cons says_blank)).append
    (Members.says_lines doc readable.members) |>.append (says_laterLines readable)⟩

end EntryPage

/-- The page of a REST resource whose parts can be read. -/
structure RestPage.IsReadable (allowed : List String → Prop) (p : RestPage) : Prop where
  members : p.members.IsReadable allowed
  input : Mentions allowed p.inputModelPath
  output : Mentions allowed p.outputModelPath
  signals : ∀ e ∈ p.startSignals ++ p.instanceSignals,
    isWord e.method = true ∧ Mentions allowed e.payload
  startRemarks : ∀ e ∈ p.startSignals, ∀ r ∈ readBelow referencesIn (e.name ++ "`."), allowed r
  instanceRemarks : ∀ e ∈ p.instanceSignals,
    ∀ r ∈ readBelow referencesIn (e.name ++ "` to one instance."), allowed r

namespace RestPage

variable {p : RestPage}

theorem handler_append (p : RestPage) (name rest : String) :
    p.handler (name ++ rest) = p.handler name ++ rest := by
  simp only [handler, String.append_assoc]

theorem says_handler {name rest : String} {refs : List (List String)} (isName : isWord name = true)
    (other : name ≠ "fn") (apart : isApart rest.toList = true) (reads : Reads rest refs [])
    (all : ∀ r ∈ refs, allowed r) : Says allowed [.text depth (p.handler name ++ rest)] [name] := by
  have nothing : Token.Apart [] := fun _ isHead => absurd isHead (by simp)
  have follows : Token.Apart rest.toList := by
    simpa using apart_append apart nothing
  unfold handler
  cases p.reactive with
  | false =>
      have lead : "pub " ++ (if false = true then "async " else "") ++ "fn " =
          "pub fn " := by decide
      rw [lead]
      refine says_function (reads.function (by decide) isName other follows) ?_ all
      simp only [String.toList_append, List.append_assoc]
      exact opensCode_append (by decide) _
  | true =>
      have lead : "pub " ++ (if true = true then "async " else "") ++ "fn " = "pub async fn " := by
        decide
      rw [lead]
      refine says_function (reads.function (by decide) isName other follows) ?_ all
      simp only [String.toList_append, List.append_assoc]
      exact opensCode_append (by decide) _

theorem mentions_awaiting (p : RestPage) : Mentions allowed p.awaiting := by
  unfold awaiting
  cases p.reactive <;> exact mentions_of_isPart (by decide)

theorem isApart_awaiting (p : RestPage) : isApart p.awaiting.toList = true := by
  unfold awaiting
  cases p.reactive <;> decide

theorem says_transaction (p : RestPage) : Says allowed p.transaction [] := by
  unfold transaction
  split
  · exact says_fixed [] (by decide)
  · exact says_nil

theorem says_routed {verb : List Char}
    (leads : isLead [] false ("#[rest::".toList ++ verb ++ ['(']) = true)
    (path : String) : Says allowed [routed (String.ofList verb) path] [] := by
  have shown : "#[rest::" ++ String.ofList verb ++ "(" =
      String.ofList ("#[rest::".toList ++ verb ++ ['(']) := by
    rw [String.ofList_append, String.ofList_append, String.ofList_toList]
  change Says allowed
    [.text 0 ("#[rest::" ++ String.ofList verb ++ "(" ++ Text.quoted path ++ ")]")] []
  rw [shown]
  exact says_around (mentions_quoted path) leads (by decide)

/-- Whether a text is the name of a handler with the beginning of its signature. -/
def isSignature (name : String) (front : List Char) : Bool :=
  isWord name && name != "fn" && (name.toList ++ ['(']).isPrefixOf front &&
    isLead [] false (front.drop name.toList.length)

/-- A handler whose head ends with the type of what it returns. -/
theorem says_returning (name : String) {type : String} {front back : List Char}
    (signs : isSignature name front = true) (mentions : Mentions allowed type)
    (ends : isTail (back ++ [' ', '\x7b']) = true) {body : List Line}
    (rest : Says allowed body []) :
    Says allowed (Line.braced (p.handler (String.ofList front ++ type ++ String.ofList back)) body)
      [name] := by
  simp only [isSignature, Bool.and_eq_true, bne_iff_ne, List.isPrefixOf_iff_prefix] at signs
  obtain ⟨⟨⟨isName, other⟩, more, rfl⟩, leads⟩ := signs
  obtain ⟨lead, isLead⟩ : ∃ lead, '(' :: more = lead := ⟨_, rfl⟩
  rw [List.append_assoc, List.singleton_append, List.drop_left, isLead] at leads
  obtain ⟨refs, all, adds⟩ := mentions
  have tail : Reads (String.ofList lead ++ type ++ String.ofList (back ++ [' ', '\x7b'])) refs [] :=
    (adds.around leads ends).reads
  have shown : p.handler (String.ofList (name.toList ++ ['('] ++ more) ++ type ++
      String.ofList back) ++ " \x7b" = p.handler name ++
        (String.ofList lead ++ type ++ String.ofList (back ++ [' ', '\x7b'])) := by
    rw [List.append_assoc, List.singleton_append, isLead, String.ofList_append,
      String.ofList_toList, handler_append, handler_append, handler_append, String.ofList_append]
    simp only [String.append_assoc]
  have head : Says allowed [.text 0 (p.handler (String.ofList (name.toList ++ ['('] ++ more) ++
      type ++ String.ofList back) ++ " \x7b")] [name] := by
    rw [shown]
    refine says_handler isName other ?_ tail all
    simp [← isLead, isApart, Naming.isWordChar]
  exact head.braced rest

theorem says_signature {name : String} (isName : isWord name = true) (other : name ≠ "fn") :
    Says allowed [.text depth (p.handler name ++ "(")] [name] :=
  says_handler isName other (by decide) (adds_of_isPart (by decide)).reads
    (List.forall_mem_nil _)

theorem mentions_createdType (readable : p.IsReadable allowed) : Mentions allowed p.createdType :=
  readable.output.around (by decide) (by decide)

theorem says_createLines (readable : p.IsReadable allowed) :
    Says allowed p.createLines ["create"] :=
  .of_eq (.flatten_cons (.blank (says_fixed [] (by decide))) (.flatten_cons p.says_transaction
    (.flatten_cons (says_routed (by decide) _) (.flatten_cons (.functionBlock
      (says_signature (by decide) (by decide)) (.fixed (by decide)
        (says_around readable.input (by decide) (by decide))) (mentions_createdType readable)
      (.cons (says_around p.mentions_awaiting (by decide) (by decide)) (says_fixed [] (by decide))))
    says_flatten_nil)))) rfl

theorem says_instanceLines (readable : p.IsReadable allowed) :
    Says allowed p.instanceLines ["list", "get", "abort"] := by
  have awaited {front : List Char} (leads : isLead [] false front = true) :
      Says allowed [.text 0 (String.ofList front ++ p.awaiting)] [] :=
    (p.mentions_awaiting.behind leads).toSays
  exact .of_eq (.flatten_cons (.blank (.fixed (by decide) (says_routed (by decide) _)))
    (.flatten_cons (says_returning "list" (by decide) readable.output (by decide)
      (awaited (by decide)))
    (.flatten_cons (.blank (.fixed (by decide) (says_routed (by decide) _)))
    (.flatten_cons (says_returning "get" (by decide) readable.output (by decide)
      (awaited (by decide)))
    (.flatten_cons (.blank (says_fixed [] (by decide))) (.flatten_cons p.says_transaction
    (.flatten_cons (says_routed (by decide) _)
    (.flatten_cons (says_returning "abort" (by decide) readable.output (by decide)
      (awaited (by decide))) says_flatten_nil)))))))) rfl

/-- The comment of a signal spills what its name has below the first line. -/
theorem says_startSignalLines (readable : p.IsReadable allowed) {e : SignalEndpoint}
    (member : e ∈ p.startSignals) : Says allowed (p.startSignalLines e)
      (readBelow functionsIn (e.name ++ "`.") ++ ["start_" ++ e.method]) := by
  obtain ⟨isName, payload⟩ := readable.signals e (List.mem_append_left _ member)
  have sent : Says allowed [.text 0 (".start_with_signal(" ++ Text.quoted e.name ++ ", payload)" ++
      p.awaiting ++ "?;")] [] :=
    ((((mentions_quoted e.name).around (by decide) (by decide)).append p.mentions_awaiting
      p.isApart_awaiting).append_tail (by decide)).toSays
  have isMethod : isWord ("start_" ++ e.method) = true := isWord_append (by decide) isName
  have other : "start_" ++ e.method ≠ "fn" := fun same => by
    simpa using congrArg (fun s => s.toList.head?) same
  exact .of_eq
    (.flatten_cons (.blank (says_remark (by decide) e.name "`." (readable.startRemarks e member)))
      (.flatten_cons p.says_transaction (.flatten_cons (says_routed (by decide) _)
      (.flatten_cons (.functionBlock (says_signature isMethod other)
        (.fixed (by decide) (says_around payload (by decide) (by decide)))
        (mentions_createdType readable)
        (.flatten_cons (says_fixed [] (by decide))
          (.flatten_cons (.indent (.fixed (by decide) sent))
            (.flatten_cons (says_fixed [] (by decide)) says_flatten_nil)))) says_flatten_nil))))
    (by simp)

theorem says_instanceSignalLines (readable : p.IsReadable allowed) {e : SignalEndpoint}
    (member : e ∈ p.instanceSignals) : Says allowed (p.instanceSignalLines e)
      (readBelow functionsIn (e.name ++ "` to one instance.") ++ ["signal_" ++ e.method]) := by
  obtain ⟨isName, payload⟩ := readable.signals e (List.mem_append_right _ member)
  have sent : Says allowed [.text 0 (".signal(&id, " ++ Text.quoted e.name ++ ", payload)" ++
      p.awaiting)] [] :=
    (((mentions_quoted e.name).around (by decide) (by decide)).append p.mentions_awaiting
      p.isApart_awaiting).toSays
  have isMethod : isWord ("signal_" ++ e.method) = true := isWord_append (by decide) isName
  have other : "signal_" ++ e.method ≠ "fn" := fun same => by
    simpa using congrArg (fun s => s.toList.head?) same
  exact .of_eq (.flatten_cons
      (.blank (says_remark (by decide) e.name "` to one instance."
        (readable.instanceRemarks e member)))
    (.flatten_cons p.says_transaction (.flatten_cons (says_routed (by decide) _)
    (.flatten_cons (.functionBlock (says_signature isMethod other)
      (.fixed (by decide) (.fixed (by decide) (says_around payload (by decide) (by decide))))
      (readable.output.around (by decide) (by decide))
      (.flatten_cons (says_fixed [] (by decide)) (.flatten_cons (.indent (.fixed (by decide) sent))
        says_flatten_nil))) says_flatten_nil)))) (by simp)

/-- The functions that a page declares for its endpoints, with what the comments of the signals
    spill. -/
def endpointFunctions (p : RestPage) : List String :=
  (if p.startable then ["create"] else []) ++ ["list", "get", "abort"] ++
    p.startSignals.flatMap (fun e =>
      readBelow functionsIn (e.name ++ "`.") ++ ["start_" ++ e.method]) ++
    p.instanceSignals.flatMap fun e =>
      readBelow functionsIn (e.name ++ "` to one instance.") ++ ["signal_" ++ e.method]

theorem says_lines (readable : p.IsReadable allowed)
    (doc : Says allowed [.text 0 ("/// " ++ p.members.doc)] fns)
    (remark : ∀ r ∈ readBelow referencesIn (p.processId ++ "`."), allowed r) :
    Says allowed p.lines (readBelow functionsIn (p.processId ++ "`.") ++ fns ++
      (if p.members.injected then [] else ["new"]) ++ p.endpointFunctions) := by
  have create : Says allowed (if p.startable then p.createLines else [])
      (if p.startable then ["create"] else []) := by
    split
    · exact says_createLines readable
    · exact says_nil
  exact .of_eq (.flatten_cons (.cons (says_generatedFrom _) (.cons
      (says_remark (by decide) p.processId "`." remark) (.blank (.fixed (by decide) says_blank))))
    (.flatten_cons (Members.says_lines doc readable.members) (.flatten_cons says_blank
    (.flatten_cons (.blockOf [] readable.members.mentions (by decide) (by decide)
      (.flatten_cons (.fixed (by decide) (says_around (mentions_quoted _) (by decide) (by decide)))
      (.flatten_cons create (.flatten_cons (says_instanceLines readable)
      (.flatten_cons (says_flatMap fun _ => says_startSignalLines readable)
      (.flatten_cons (says_flatMap fun _ => says_instanceSignalLines readable)
        says_flatten_nil)))))) says_flatten_nil)))) (by simp [endpointFunctions])

end RestPage

/-- The comment of a type. -/
theorem says_doc {front : List Char} (oneLine : front.contains '\n' = false) {remark : String}
    (all : ∀ r ∈ readBelow referencesIn remark, allowed r) :
    Says allowed [.text depth ("/// " ++ (String.ofList front ++ remark))]
      (readBelow functionsIn remark) := by
  have whole : '\n' ∉ (String.ofList front).toList := by
    simpa using oneLine
  rw [← readBelow_append whole] at all ⊢
  exact says_comment (by decide) all

theorem says_quotingDoc {front : List Char} (oneLine : front.contains '\n' = false)
    (remark ending : String) (all : ∀ r ∈ readBelow referencesIn (remark ++ ending), allowed r) :
    Says allowed [.text depth ("/// " ++ (String.ofList front ++ remark ++ ending))]
      (readBelow functionsIn (remark ++ ending)) := by
  rw [String.append_assoc]
  exact says_doc oneLine all

/-- What the comments of a page say of the messages that it serves. -/
def messageRemark (trigger processId : String) : String :=
  trigger ++ "` messages for process `" ++ processId ++ "`."

theorem says_messageRemark {front : List Char} (leads : isCommentLead front = true)
    {trigger processId : String}
    (all : ∀ r ∈ readBelow referencesIn (messageRemark trigger processId), allowed r) :
    Says allowed [.text depth (String.ofList front ++ trigger ++ "` messages for process `" ++
      processId ++ "`.")] (readBelow functionsIn (messageRemark trigger processId)) := by
  have comment :
      Says allowed [.text depth (String.ofList front ++ messageRemark trigger processId)] _ :=
    says_comment leads all
  simpa only [messageRemark, String.append_assoc] using comment

theorem says_messageDoc {front : List Char} (oneLine : front.contains '\n' = false)
    {trigger processId : String}
    (all : ∀ r ∈ readBelow referencesIn (messageRemark trigger processId), allowed r) :
    Says allowed [.text depth ("/// " ++ (String.ofList front ++ trigger ++
      "` messages for process `" ++ processId ++ "`."))]
      (readBelow functionsIn (messageRemark trigger processId)) := by
  have doc : Says allowed
      [.text depth ("/// " ++ (String.ofList front ++ messageRemark trigger processId))] _ :=
    says_doc oneLine all
  simpa only [messageRemark, String.append_assoc] using doc

/-- The parts of the page of a consumer or producer that can be read. -/
structure IsReadableMessaging (allowed : List String → Prop) (members : Members)
    (trigger processId payload : String) : Prop where
  members : members.IsReadable allowed
  payload : Mentions allowed payload
  remark : ∀ r ∈ readBelow referencesIn (messageRemark trigger processId), allowed r

namespace ConsumerPage

variable {p : ConsumerPage}

theorem says_deliveryLines (start : Bool) : Says allowed (deliveryLines start) [] := by
  cases start
  · exact .fixed (by decide) (.indent (.fixed (by decide) (says_fixed [] (by decide))))
  · exact .fixed (by decide)
      (.indent (.fixed (by decide) (.fixed (by decide) (says_fixed [] (by decide)))))

theorem says_lines
    (readable : IsReadableMessaging allowed p.members p.trigger p.processId p.payload)
    (doc : Says allowed [.text 0 ("/// " ++ p.members.doc)] fns) :
    ∃ fns, Says allowed p.lines fns := by
  obtain ⟨members, payload, remark⟩ := readable
  have keys : Says allowed [.text 0 ("pub const CORRELATION: &'static [&'static str] = &[" ++
      String.join (p.correlation.map fun k => Text.quoted k ++ ", ") ++ "];")] [] :=
    says_around (mentions_nothing (adds_join_quoted p.correlation)) (by decide) (by decide)
  exact ⟨_,
    .flatten_cons (.cons (says_generatedFrom _) (.cons (says_messageRemark (by decide) remark)
      (.blank (.fixed (by decide) says_blank))))
    (.flatten_cons (Members.says_lines doc members) (.flatten_cons says_blank
    (.flatten_cons (.blockOf [] members.mentions (by decide) (by decide) (.fixed (by decide)
      (.cons (says_around (mentions_quoted _) (by decide) (by decide)) (.fixed (by decide)
      (.cons (says_around (mentions_quoted _) (by decide) (by decide))
        (.fixed (by decide) keys))))))
    (.flatten_cons says_blank
    (.flatten_cons (.blockOf [] members.mentions (by decide) (by decide)
      (.flatten_cons (.cons (says_around payload (by decide) (by decide)) says_blank)
      (.flatten_cons (.block ["channel"] (by decide) (says_fixed [] (by decide)))
      (.flatten_cons says_blank
      (.flatten_cons (.block ["consume"] (by decide) (says_deliveryLines p.start))
        says_flatten_nil))))) says_flatten_nil)))))⟩

end ConsumerPage

namespace ProducerPage

variable {p : ProducerPage}

theorem says_lines
    (readable : IsReadableMessaging allowed p.members p.trigger p.processId p.payload)
    (doc : Says allowed [.text 0 ("/// " ++ p.members.doc)] fns) :
    ∃ fns, Says allowed p.lines fns := by
  obtain ⟨members, payload, remark⟩ := readable
  exact ⟨_,
    .flatten_cons (.cons (says_generatedFrom _) (.cons (says_messageRemark (by decide) remark)
      (.blank (.fixed (by decide) says_blank))))
    (.flatten_cons (Members.says_lines doc members) (.flatten_cons says_blank
    (.flatten_cons (.blockOf [] members.mentions (by decide) (by decide) (.fixed (by decide)
      (.cons (says_around (mentions_quoted _) (by decide) (by decide)) (.fixed (by decide)
      (says_around (mentions_quoted _) (by decide) (by decide))))))
    (.flatten_cons says_blank
    (.flatten_cons (.blockOf [] members.mentions (by decide) (by decide)
      (.flatten_cons (.cons (says_around payload (by decide) (by decide)) says_blank)
      (.flatten_cons (.block ["channel"] (by decide) (says_fixed [] (by decide)))
      (.flatten_cons says_blank
      (.flatten_cons (.block ["produce"] (by decide) (.fixed (by decide)
        (.indent (says_fixed [] (by decide))))) says_flatten_nil))))) says_flatten_nil)))))⟩

end ProducerPage

end Flowsmith
