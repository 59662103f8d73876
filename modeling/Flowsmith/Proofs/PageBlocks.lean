import Mathlib.Data.List.Basic
import Flowsmith.Proofs.PageReading

/-!
Blocks of the pages: the fields of a type that holds collaborators, what its constructor initializes
them with, and the functions by which consumers and producers are bound to their channels.
-/

namespace Flowsmith

open Source

variable {allowed : List String → Prop}

namespace Source

/-- A line of a source that begins code and does not break is a line of code of its text. -/
theorem mem_codeLines_renderAll {lines : List Line} {depth : Nat} {content : String}
    (member : .text depth content ∈ lines) (oneLine : '\n' ∉ content.toList)
    (begins : opensCode content.toList = true) :
    (Line.text depth content).chars ∈ codeLines (Line.renderAll lines).toList := by
  rw [codeLines_renderAll]
  refine List.mem_append_left _ (List.mem_flatMap.2 ⟨_, member, ?_⟩)
  rw [codeLines_chars oneLine begins]
  exact List.mem_singleton_self _

/-- What is read off a line is read off the text. -/
theorem mem_readCode_of_line {α : Type} {read : List Symbol → List α} (nothing : read [] = [])
    {lines : List Line} {line : Line} (member : line ∈ lines) {r : α}
    (shown : r ∈ readCode read line.content) : r ∈ readCode read (Line.renderAll lines) := by
  rw [readCode_renderAll nothing]
  exact List.mem_flatMap.2 ⟨_, List.mem_map_of_mem member, shown⟩

/-- A type that a line names between two fixed parts is read off the text. -/
theorem mem_references_around {lines : List Line} {front back : List Char} {segments : List String}
    {depth : Nat} (qualified : IsQualified segments)
    (member : .text depth (String.ofList front ++ String.intercalate "::" segments ++
      String.ofList back) ∈ lines)
    (leads : isLead [] false front = true) (begins : opensCode front = true)
    (ends : isTail back = true) : segments ∈ readCode referencesIn (Line.renderAll lines) := by
  have reads := (adds_path qualified).reads_around leads ends
  refine mem_readCode_of_line rfl member ?_
  rw [content_text, reads.readCode_eq, reads.references]
  · exact List.mem_singleton_self _
  · simp only [String.toList_append, String.toList_ofList, List.append_assoc]
    exact opensCode_append begins _

theorem Mentions.oneLine {part : String} (mentions : Mentions allowed part) :
    '\n' ∉ part.toList := by
  obtain ⟨refs, -, adds⟩ := mentions
  exact adds.reads.oneLine

theorem mem_braced {line : Line} {body : List Line} (member : line ∈ body) (head : String) :
    line.deeper ∈ Line.braced head body :=
  List.mem_append_left _ (List.mem_append_right _ (List.mem_map_of_mem member))

/-- A line with a part between two fixed ones is a line of code of the text, after its margin. -/
theorem mem_codeLines_around {lines : List Line} {margin front back : List Char} {part : String}
    {depth : Nat} (mentions : Mentions (fun _ => True) part)
    (member : .text depth (String.ofList front ++ part ++ String.ofList back) ∈ lines)
    (leads : isLead [] false front = true) (begins : opensCode front = true)
    (ends : isTail back = true) (isMargin : margin = List.replicate (4 * depth) ' ' ++ front) :
    (String.ofList margin ++ part ++ String.ofList back).toList ∈
      codeLines (Line.renderAll lines).toList := by
  have chars : (Line.text depth (String.ofList front ++ part ++ String.ofList back)).chars =
      (String.ofList margin ++ part ++ String.ofList back).toList := by
    simp [Line.chars_text, isMargin]
  rw [← chars]
  refine mem_codeLines_renderAll member (mentions.around leads ends).oneLine ?_
  simp only [String.toList_append, String.toList_ofList, List.append_assoc]
  exact opensCode_append begins _

end Source

namespace Members

variable {m : Members}

theorem blockIn_new (explicit : m.injected = false) :
    BlockIn allowed m.lines 1 "pub fn new() -> Self" (Line.braced "Self" m.initLines) [] := by
  have made : BlockIn allowed (if m.injected then [] else .blank :: m.constructorLines) 1
      "pub fn new() -> Self" (Line.braced "Self" m.initLines) [] := by
    have inside : BlockIn allowed m.constructorLines 1 "pub fn new() -> Self"
        (Line.braced "Self" m.initLines) [] :=
      .within (.flatten_tail (.flatten_cons (blockIn_braced _ _) says_flatten_nil) _) _
    rw [explicit]
    exact inside.after [.blank]
  exact .flatten_tail (.flatten_tail (.flatten_tail (.flatten_cons made says_flatten_nil) _) _) _

theorem blockIn_struct (readable : m.IsReadable allowed) :
    BlockIn allowed m.lines 0 ("pub struct " ++ m.className) (m.fields.flatMap fieldLines)
      (if m.injected then [] else ["new"]) := by
  have made : Says allowed (if m.injected then [] else .blank :: m.constructorLines)
      (if m.injected then [] else ["new"]) := by
    split
    · exact says_nil
    · exact (says_constructorLines readable).blank
  have declared : BlockIn allowed (Line.braced ("pub struct " ++ m.className)
      (m.fields.flatMap fieldLines)) 0 _ _ [] := blockIn_braced _ _
  have block := declared.flatten_cons (.flatten_cons made says_flatten_nil)
  rw [List.nil_append, List.append_nil] at block
  exact .flatten_tail (.flatten_tail block _) _

/-- What the fields are initialized with can be read off the lines of the constructor. -/
theorem references_initLines (readable : m.IsReadable allowed) (r : List String) :
    r ∈ (contents m.initLines).flatMap (readCode referencesIn) ↔
      ∃ f ∈ m.fields, ∃ refs, Adds (f.init.getD "None") refs ∧ r ∈ refs := by
  have line : ∀ f ∈ m.fields, ∀ refs, Adds (f.init.getD "None") refs →
      readCode referencesIn (f.name ++ ": " ++ f.init.getD "None" ++ ",") = refs :=
    fun f member _ adds => adds.readCode_label (readable.fields f member).isName (by decide)
  simp only [initLines, contents, List.map_map, List.flatMap_map, List.mem_flatMap]
  constructor
  · rintro ⟨f, member, inLine⟩
    obtain ⟨refs, -, adds⟩ := (readable.fields f member).init
    exact ⟨f, member, refs, adds, line f member refs adds ▸ inLine⟩
  · rintro ⟨f, member, refs, adds, inRefs⟩
    exact ⟨f, member, (line f member refs adds).symm ▸ inRefs⟩

/-- The types of the fields can be read off the lines of the declaration. -/
theorem references_fieldLines {f : PageField} (member : f ∈ m.fields)
    (isName : isWord f.name = true) {refs : List (List String)} (adds : Adds f.type refs) :
    refs ⊆ (contents (m.fields.flatMap fieldLines)).flatMap (readCode referencesIn) := by
  intro r inRefs
  have line : .text 0 (f.name ++ ": " ++ f.type ++ ",") ∈ m.fields.flatMap fieldLines :=
    List.mem_flatMap.2 ⟨f, member, List.mem_append_right _ (.head _)⟩
  refine List.mem_flatMap.2 ⟨_, List.mem_map_of_mem line, ?_⟩
  have read : readCode referencesIn (f.name ++ ": " ++ f.type ++ ",") = refs :=
    adds.readCode_label isName (by decide)
  exact read ▸ inRefs

theorem newline_not_mem_initLines (readable : m.IsReadable allowed) :
    ∀ content ∈ contents m.initLines, '\n' ∉ content.toList := by
  simp only [initLines, contents, List.map_map, List.forall_mem_map]
  intro f member
  obtain ⟨refs, -, adds⟩ := (readable.fields f member).init
  exact (adds.reads_label (readable.fields f member).isName (by decide)).oneLine

theorem newline_not_mem_fieldLines (readable : m.IsReadable allowed) :
    ∀ content ∈ contents (m.fields.flatMap fieldLines), '\n' ∉ content.toList := by
  simp only [contents, List.forall_mem_map, List.forall_mem_flatMap]
  intro f member line inField
  rcases List.mem_append.1 inField with inAttributes | isField
  · obtain ⟨a, isAttribute, rfl⟩ := List.mem_map.1 inAttributes
    exact ((readable.fields f member).attributes a isAttribute).oneLine
  · obtain rfl := List.mem_singleton.1 isField
    obtain ⟨refs, -, adds⟩ := (readable.fields f member).type
    exact (adds.reads_label (readable.fields f member).isName (by decide)).oneLine

end Members

namespace EntryPage

variable {p : EntryPage}

/-- What the constructor of an entry point initializes its fields with. -/
theorem references_new (readable : p.IsReadable allowed) (explicit : p.members.injected = false)
    (later : "new" ∉ p.laterFunctions) :
    ∃ body, functionBody? "new" (Page.entry p).text = some body ∧ ∀ r, r ∈ referencesOf body ↔
      ∃ f ∈ p.members.fields, ∃ refs, Adds (f.init.getD "None") refs ∧ r ∈ refs := by
  have block : BlockIn allowed p.lines 1 "pub fn new() -> Self"
      (Line.braced "Self" p.members.initLines) p.laterFunctions := by
    rw [p.lines_eq, List.append_assoc]
    exact ((Members.blockIn_new explicit).before (says_laterLines readable)).after _
  have inside : Says allowed (Line.braced "Self" p.members.initLines) [] :=
    .block [] (by decide) (Members.says_initLines readable.members)
  have whole : ∀ content ∈ contents (Line.braced "Self" p.members.initLines),
      '\n' ∉ content.toList := by
    simpa [or_imp, forall_and] using Members.newline_not_mem_initLines readable.members
  refine ⟨_, block.functionBody?_eq_some (by decide) inside whole (by simpa using later), ?_⟩
  intro r
  have first : readCode referencesIn "Self \x7b" = [] := by decide
  have last : readCode referencesIn "\x7d" = [] := by decide
  rw [referencesOf_codeOf, contents_iterate_indent, ← Members.references_initLines readable.members]
  simp [first, last]

/-- The types that an entry point is declared with. -/
theorem exists_structBody (readable : p.IsReadable allowed) :
    ∃ body ∈ structBodies p.members.className (Page.entry p).text,
      ∀ f ∈ p.members.fields, ∀ refs, Adds f.type refs → refs ⊆ referencesOf body := by
  have block : BlockIn allowed p.lines 0 ("pub struct " ++ p.members.className)
      (p.members.fields.flatMap Members.fieldLines)
      ((if p.members.injected then [] else ["new"]) ++ p.laterFunctions) := by
    rw [p.lines_eq, List.append_assoc]
    exact ((Members.blockIn_struct readable.members).before (says_laterLines readable)).after _
  have head : Mentions allowed ("pub struct " ++ p.members.className ++ " \x7b") :=
    readable.members.mentions.around (by decide) (by decide)
  have begins : opensCode ("pub struct " ++ p.members.className ++ " \x7b").toList = true := by
    simp only [String.toList_append, List.append_assoc]
    exact opensCode_append (by decide) _
  obtain ⟨more, back, -, same⟩ := block.exists_blocks
    (· == ("pub struct " ++ p.members.className ++ " \x7b").toList)
    (by rw [Line.chars_eq_content]; exact BEq.rfl) head.oneLine begins
    (Members.newline_not_mem_fieldLines readable.members)
  have found : (codeOf (Line.indent^[0 + 1] (p.members.fields.flatMap Members.fieldLines))).map
      String.ofList ∈ structBodies p.members.className (Page.entry p).text := by
    rw [structBodies, Page.text, Page.lines, same]
    exact List.mem_map_of_mem (List.mem_append_right _ (.head _))
  refine ⟨_, found, fun f member refs adds => ?_⟩
  rw [referencesOf_codeOf, contents_iterate_indent]
  exact Members.references_fieldLines member (readable.members.fields f member).isName adds

/-- The entry point names the type of its instances. -/
theorem mem_references_instance {segments : List String} (qualified : IsQualified segments)
    (isPath : p.instancePath = String.intercalate "::" segments) :
    segments ∈ readCode referencesIn (Page.entry p).text := by
  have member : .text 1 ("type Instance = " ++ p.instancePath ++ ";") ∈ p.lines :=
    List.mem_flatten.2 ⟨_, .tail _ (.tail _ (.tail _ (.tail _ (.tail _ (.head _))))),
      mem_braced (.head _) _⟩
  rw [isPath] at member
  exact mem_references_around qualified member (by decide) (by decide) (by decide)

/-- What breaks out of the documentation of the entry point is code of its text. -/
theorem mem_references_doc {r : List String} (spilled : r ∈ readBelow referencesIn p.members.doc) :
    r ∈ readCode referencesIn (Page.entry p).text := by
  have member : .text 0 ("/// " ++ p.members.doc) ∈ p.lines :=
    List.mem_flatten.2 ⟨_, .tail _ (.head _), List.mem_flatten.2 ⟨_, .head _, .head _⟩⟩
  refine mem_readCode_of_line rfl member ?_
  have comment : readCode referencesIn ("/// " ++ p.members.doc) =
      readBelow referencesIn p.members.doc := readCode_of_isCommentLead (by decide) _
  rwa [content_text, comment]

end EntryPage

/-- The wrapper of an instance names the type of its data. -/
theorem InstancePage.mem_references_model {p : InstancePage} {segments : List String}
    (qualified : IsQualified segments) (isPath : p.modelPath = String.intercalate "::" segments) :
    segments ∈ readCode referencesIn (Page.runningInstance p).text := by
  have member : .text 1 ("model: " ++ p.modelPath ++ ",") ∈ p.lines :=
    List.mem_flatten.2 ⟨_, .tail _ (.head _), mem_braced (.tail _ (.head _)) _⟩
  rw [isPath] at member
  exact mem_references_around qualified member (by decide) (by decide) (by decide)

namespace ConsumerPage

variable (p : ConsumerPage)

theorem blockIn_consume : BlockIn allowed p.lines 1
    "fn consume(&self, message: Message<Self::Payload>) -> procflow_runtime::Result<()>"
    (deliveryLines p.start) [] :=
  .flatten_tail (.flatten_tail (.flatten_tail (.flatten_tail (.flatten_tail (.flatten_cons
    (.within (.flatten_tail (.flatten_tail (.flatten_tail (.flatten_cons (blockIn_braced _ _)
      says_flatten_nil) _) _) _) _) says_flatten_nil) _) _) _) _) _

theorem blockIn_channel : BlockIn allowed p.lines 1 "fn channel(&self) -> &'static str"
    ["Self::CHANNEL"] ["consume"] :=
  .flatten_tail (.flatten_tail (.flatten_tail (.flatten_tail (.flatten_tail (.flatten_cons
    (.within (.flatten_tail (.flatten_cons (blockIn_braced _ _) (.flatten_cons says_blank
      (.flatten_cons (.block ["consume"] (by decide) (says_deliveryLines p.start))
        says_flatten_nil))) _) _) says_flatten_nil) _) _) _) _) _

theorem functionBody?_channel : functionBody? "channel" (Page.consumer p).text =
    some ["        Self::CHANNEL"] := by
  have block : BlockIn (fun _ => True) p.lines 1 _ _ _ := p.blockIn_channel
  exact (block.functionBody?_eq_some (by decide) (says_fixed [] (by decide)) (by simp)
    (by decide)).trans (congrArg some (codeOf_fixed (by decide) rfl))

/-- What a consumer does with a message. -/
theorem functionBody?_consume : functionBody? "consume" (Page.consumer p).text =
    some ("        self.application" :: "            .instances(self.process.as_ref())" ::
      if p.start then
        ["            .start_with_message(Self::TRIGGER, message)", "            .map(|_| ())"]
      else ["            .deliver_correlated(Self::TRIGGER, Self::CORRELATION, message)"]) := by
  have block : BlockIn (fun _ => True) p.lines 1 _ _ _ := p.blockIn_consume
  refine (block.functionBody?_eq_some (by decide) (says_deliveryLines p.start) ?_ (by simp)).trans
    (congrArg some ?_)
  · cases p.start <;> simp [deliveryLines]
  · cases p.start
    · exact codeOf_fixed (by decide) (codeOf_fixed (by decide) (codeOf_fixed (by decide) rfl))
    · exact codeOf_fixed (by decide)
        (codeOf_fixed (by decide) (codeOf_fixed (by decide) (codeOf_fixed (by decide) rfl)))

theorem mem_codeLines_trigger :
    s!"    pub const TRIGGER: &'static str = {Text.quoted p.trigger};".toList ∈
      codeLines (Page.consumer p).text.toList := by
  have member :
      .text 1 ("pub const TRIGGER: &'static str = " ++ Text.quoted p.trigger ++ ";") ∈ p.lines :=
    List.mem_flatten.2 ⟨_, .tail _ (.tail _ (.tail _ (.head _))),
      mem_braced (.tail _ (.head _)) _⟩
  exact mem_codeLines_around (mentions_quoted p.trigger) member (by decide)
    (by decide) (by decide) (by decide)

theorem mem_codeLines_channel :
    s!"    pub const CHANNEL: &'static str = {Text.quoted p.channel};".toList ∈
      codeLines (Page.consumer p).text.toList := by
  have member :
      .text 1 ("pub const CHANNEL: &'static str = " ++ Text.quoted p.channel ++ ";") ∈ p.lines :=
    List.mem_flatten.2 ⟨_, .tail _ (.tail _ (.tail _ (.head _))),
      mem_braced (.tail _ (.tail _ (.tail _ (.head _)))) _⟩
  exact mem_codeLines_around (mentions_quoted p.channel) member (by decide)
    (by decide) (by decide) (by decide)

end ConsumerPage

namespace ProducerPage

variable (p : ProducerPage)

theorem blockIn_produce : BlockIn allowed p.lines 1
    "fn produce(&self, instance_id: &str, payload: Self::Payload) -> procflow_runtime::Result<()>"
    ("self.emitter" :: Line.indent [".send(Message::new(instance_id, Self::TRIGGER, payload))"])
    [] :=
  .flatten_tail (.flatten_tail (.flatten_tail (.flatten_tail (.flatten_tail (.flatten_cons
    (.within (.flatten_tail (.flatten_tail (.flatten_tail (.flatten_cons (blockIn_braced _ _)
      says_flatten_nil) _) _) _) _) says_flatten_nil) _) _) _) _) _

theorem says_sending : Says allowed
    ("self.emitter" :: Line.indent [".send(Message::new(instance_id, Self::TRIGGER, payload))"])
    [] :=
  .fixed (by decide) (.indent (says_fixed [] (by decide)))

theorem blockIn_channel : BlockIn allowed p.lines 1 "fn channel(&self) -> &'static str"
    ["Self::CHANNEL"] ["produce"] :=
  .flatten_tail (.flatten_tail (.flatten_tail (.flatten_tail (.flatten_tail (.flatten_cons
    (.within (.flatten_tail (.flatten_cons (blockIn_braced _ _) (.flatten_cons says_blank
      (.flatten_cons (.block ["produce"] (by decide) says_sending) says_flatten_nil))) _) _)
      says_flatten_nil) _) _) _) _) _

theorem functionBody?_channel : functionBody? "channel" (Page.producer p).text =
    some ["        Self::CHANNEL"] := by
  have block : BlockIn (fun _ => True) p.lines 1 _ _ _ := p.blockIn_channel
  exact (block.functionBody?_eq_some (by decide) (says_fixed [] (by decide)) (by simp)
    (by decide)).trans (congrArg some (codeOf_fixed (by decide) rfl))

/-- A producer sends messages. -/
theorem functionBody?_produce : functionBody? "produce" (Page.producer p).text =
    some ["        self.emitter",
      "            .send(Message::new(instance_id, Self::TRIGGER, payload))"] := by
  have block : BlockIn (fun _ => True) p.lines 1 _ _ _ := p.blockIn_produce
  exact (block.functionBody?_eq_some (by decide) says_sending (by simp) (by simp)).trans
    (congrArg some (codeOf_fixed (by decide) (codeOf_fixed (by decide) rfl)))

theorem mem_codeLines_trigger :
    s!"    pub const TRIGGER: &'static str = {Text.quoted p.trigger};".toList ∈
      codeLines (Page.producer p).text.toList := by
  have member :
      .text 1 ("pub const TRIGGER: &'static str = " ++ Text.quoted p.trigger ++ ";") ∈ p.lines :=
    List.mem_flatten.2 ⟨_, .tail _ (.tail _ (.tail _ (.head _))),
      mem_braced (.tail _ (.head _)) _⟩
  exact mem_codeLines_around (mentions_quoted p.trigger) member (by decide)
    (by decide) (by decide) (by decide)

theorem mem_codeLines_channel :
    s!"    pub const CHANNEL: &'static str = {Text.quoted p.channel};".toList ∈
      codeLines (Page.producer p).text.toList := by
  have member :
      .text 1 ("pub const CHANNEL: &'static str = " ++ Text.quoted p.channel ++ ";") ∈ p.lines :=
    List.mem_flatten.2 ⟨_, .tail _ (.tail _ (.tail _ (.head _))),
      mem_braced (.tail _ (.tail _ (.tail _ (.head _)))) _⟩
  exact mem_codeLines_around (mentions_quoted p.channel) member (by decide)
    (by decide) (by decide) (by decide)

end ProducerPage

end Flowsmith
