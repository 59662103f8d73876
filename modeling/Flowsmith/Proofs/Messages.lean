import Flowsmith.Proofs.CalledProcesses
import Flowsmith.Proofs.Channels
import Flowsmith.Proofs.IndexText
import Flowsmith.Proofs.PageBlocks

/-!
Messages of compiled processes. The index lists the channel of every message trigger, but of several
triggers of one kind and name only the first has a consumer or producer made. That one is in the
set, or its loss is on record: another artifact has its place, or its page did not render.
-/

namespace Flowsmith

/-- The triggers of a definition, settled as its kind asks for. -/
def Messaging.settled (m : Messaging) (d : Definition) : List Trigger :=
  match d.kind with
  | .workflow => (Channel.normalizeByProperties m.properties d.triggers).triggers
  | .graph | .placeholder => (Channel.normalize m.allBindings d.triggers).triggers

/-- A page that serves the messages of a trigger of a process: it goes by the name of the trigger
    and is bound to its channel. A consumer starts processes exactly when its trigger does. -/
inductive Page.Serves (processId : String) (t : Trigger) : Page → Prop
  | consumer {page : ConsumerPage} (kind : t.kind = .consume) (owner : page.processId = processId)
      (trigger : page.trigger = t.name) (channel : t.channel = some page.channel)
      (start : page.start = t.start) : Serves processId t (.consumer page)
  | producer {page : ProducerPage} (kind : t.kind = .produce) (owner : page.processId = processId)
      (trigger : page.trigger = t.name) (channel : t.channel = some page.channel) :
      Serves processId t (.producer page)

/-- The function that handles the messages of a trigger. -/
def Trigger.handler (t : Trigger) : String :=
  if t.kind = .consume then "consume" else "produce"

/-- What that function does. A message starts a process, is delivered to one, or is sent by one. -/
def Trigger.handling (t : Trigger) : List String :=
  if t.kind = .consume then
    "        self.application" :: "            .instances(self.process.as_ref())" ::
      if t.start then
        ["            .start_with_message(Self::TRIGGER, message)", "            .map(|_| ())"]
      else ["            .deliver_correlated(Self::TRIGGER, Self::CORRELATION, message)"]
  else
    ["        self.emitter", "            .send(Message::new(instance_id, Self::TRIGGER, payload))"]

/-- A text that serves the messages of a trigger: it goes by the name of the trigger, is bound to
    its channel, and handles messages as the trigger asks for. -/
structure Trigger.ServedBy (t : Trigger) (text : String) : Prop where
  name : s!"    pub const TRIGGER: &'static str = {Text.quoted t.name};".toList ∈
    Source.codeLines text.toList
  channel : ∃ channel, t.channel = some channel ∧
    s!"    pub const CHANNEL: &'static str = {Text.quoted channel};".toList ∈
      Source.codeLines text.toList
  bound : Source.functionBody? "channel" text = some ["        Self::CHANNEL"]
  handled : Source.functionBody? t.handler text = some t.handling

/-- What a page that serves a trigger says is what its text says. -/
theorem Page.Serves.servedBy {processId : String} {t : Trigger} {page : Page}
    (serves : page.Serves processId t) : t.ServedBy page.text := by
  cases serves with
  | @consumer p kind _ trigger channel start =>
      have handler : t.handler = "consume" := by rw [Trigger.handler, if_pos kind]
      have handling := p.functionBody?_consume
      refine ⟨trigger ▸ p.mem_codeLines_trigger, ⟨_, channel, p.mem_codeLines_channel⟩,
        p.functionBody?_channel, ?_⟩
      rw [handler, handling, Trigger.handling, if_pos kind, start]
  | @producer p kind _ trigger channel =>
      have other : t.kind ≠ .consume := by simp [kind]
      have handler : t.handler = "produce" := by rw [Trigger.handler, if_neg other]
      refine ⟨trigger ▸ p.mem_codeLines_trigger, ⟨_, channel, p.mem_codeLines_channel⟩,
        p.functionBody?_channel, ?_⟩
      rw [handler, p.functionBody?_produce, Trigger.handling, if_neg other]

/-- The type that serves the messages of a trigger. -/
def Names.messageClass (n : Names) (t : Trigger) : String :=
  if t.kind = .consume then n.consumerClass t.name else n.producerClass t.name

/-- What the artifact of that type is. -/
def Trigger.category (t : Trigger) : Category :=
  if t.kind = .consume then .messageConsumer else .messageProducer

/-- The file of that type. -/
def Definition.messagePath (d : Definition) (t : Trigger) : Path :=
  (Names.ofId d.id d.package).classPath ((Names.ofId d.id d.package).messageClass t)

/-- What became of the messages of a trigger. -/
inductive Output.Delivers (engine : Engine) (output : Output) (d : Definition) (t : Trigger) : Prop
  | served {page : Page} {text : String} (serves : page.Serves d.id t)
      (rendered : engine page = .ok text) (reads : engine = .builtin → t.ServedBy text)
      (held : output.artifacts.get? (d.messagePath t) =
        some { path := d.messagePath t, content := .text text, category := t.category })
  | dropped {kept : Artifact} (held : output.artifacts.get? (d.messagePath t) = some kept)
      (noted : ⟨d.messagePath t, kept.category, t.category⟩ ∈ output.artifacts.dropped)
  | unrendered {e : TemplateError} (noted : ErrorRecord.ofDefinition d
      (.templating ((Names.ofId d.id d.package).messageClass t) e) ∈ output.errors)

/-- Whether two triggers are of one kind and go by one name. -/
def Trigger.isNamesake (t s : Trigger) : Bool :=
  s.kind == t.kind && s.name == t.name

/-- The messages of a compiled process. -/
structure Output.HandlesMessages (engine : Engine) (messaging : Messaging) (output : Output)
    (d : Definition) : Prop where
  /-- The index, as it is read, has one entry for the process, and in it one for each message
      trigger. -/
  listed : ∃ value entries entry, output.artifacts.IndexReads value ∧
    value.field? "processes" = some (.array entries) ∧ entry ∈ entries ∧
    d.ListedBy ((messaging.settled d).filter fun t => t.kind.isMessage) entry ∧
    ∀ other ∈ entries, other.field? "id" = some (.string d.id) → other = entry
  /-- The first trigger of each kind and name is accounted for. -/
  delivered : ∀ t ∈ messaging.settled d, t.kind.isMessage = true →
    ∃ first, (messaging.settled d).find? t.isNamesake = some first ∧ output.Delivers engine d first

section Settling

variable {bindings : List Binding} {properties : Dict String} {t : Trigger}

theorem Trigger.resolution_ofEvent (processId : String) (n : Node)
    (kind : TriggerKind) (e : Event) : (ofEvent processId n kind e).resolution = .pending := by
  cases e <;> rfl

/-- A definition declares triggers that are yet to be settled. -/
theorem Trigger.resolution_of_mem {d : Definition} (member : t ∈ d.triggers) :
    t.resolution = .pending := by
  obtain ⟨n, -, found⟩ := List.mem_filterMap.1 member
  obtain ⟨raw, isSome, rfl⟩ := Option.map_eq_some_iff.1 found
  change raw.resolution = .pending
  split at isSome <;> cases isSome <;> simp [resolution_ofEvent, ofMessage]

theorem Channel.settle_of_pending (message : t.kind.isMessage = true)
    (pending : t.resolution = .pending) :
    ∃ channel resolution, (settle bindings t).1 = t.settle channel resolution := by
  rcases settle_cases bindings t with
    ⟨done, -⟩ | ⟨d, -, ⟨-, result⟩ | ⟨-, b, -, result⟩ | ⟨-, -, result⟩⟩
  · rcases done with other | resolved
    · rw [message] at other
      exact Bool.noConfusion other
    · exact absurd pending resolved
  all_goals
    rw [result]
    exact ⟨_, _, rfl⟩

theorem Channel.settleByProperty_of_pending (message : t.kind.isMessage = true)
    (pending : t.resolution = .pending) :
    ∃ channel resolution, (settleByProperty properties t).1 = t.settle channel resolution := by
  have property : ∃ name, t.connectorProperty? = some name := by
    cases kind : t.kind <;>
      simp [kind, TriggerKind.isMessage, Trigger.connectorProperty?, Direction.ofKind?] at message ⊢
  obtain ⟨name, isSome⟩ := property
  have unresolved : t.isResolved = false := by simp [Trigger.isResolved, pending]
  by_cases configured : properties.contains name = true
  · exact ⟨t.name, .explicit, by simp [settleByProperty, isSome, unresolved, configured]⟩
  · exact ⟨t.declaredChannel, .unconfigured,
      by simp [settleByProperty, isSome, unresolved, configured]⟩

theorem Channel.kind_settle : (settle bindings t).1.kind = t.kind := by
  obtain ⟨channel, resolution, same⟩ := (settles_settle bindings t).frame
  rw [same]

theorem Channel.kind_settleByProperty : (settleByProperty properties t).1.kind = t.kind := by
  unfold settleByProperty
  split
  · rfl
  · split
    · rfl
    · split <;> rfl

/-- A message trigger that is settled has a channel. -/
theorem Messaging.exists_channel_of_mem_settled {m : Messaging} {d : Definition}
    (member : t ∈ m.settled d) (message : t.kind.isMessage = true) :
    ∃ channel, t.channel = some channel := by
  unfold settled at member
  split at member
  · simp only [Channel.normalizeByProperties, List.map_map, List.mem_map] at member
    obtain ⟨raw, inTriggers, rfl⟩ := member
    rw [Function.comp_apply, Channel.kind_settleByProperty] at message
    obtain ⟨channel, resolution, same⟩ :=
      Channel.settleByProperty_of_pending message (Trigger.resolution_of_mem inTriggers)
    exact ⟨channel, by rw [Function.comp_apply, same]; rfl⟩
  all_goals
    simp only [Channel.normalize, List.map_map, List.mem_map] at member
    obtain ⟨raw, inTriggers, rfl⟩ := member
    rw [Function.comp_apply, Channel.kind_settle] at message
    obtain ⟨channel, resolution, same⟩ :=
      Channel.settle_of_pending message (Trigger.resolution_of_mem inTriggers)
    exact ⟨channel, by rw [Function.comp_apply, same]; rfl⟩

end Settling

/-- The triggers of a lowered process are those of its definition. -/
theorem Executable.triggers_ofDefinition {lower : Lower} {d : Definition} {e : Executable}
    (ok : ofDefinition lower d = .ok e) : e.triggers = d.triggers := by
  obtain ⟨graph, called, -, -, rfl⟩ := ofDefinition_eq_ok ok
  rfl

theorem Batch.triggers_of_mem_lowered {tools : Toolchain} {config : Config}
    {b : Batch} {l : Lowered} (member : l ∈ (b.lowered tools config).1) :
    (l.toUnit config.messaging).triggers = config.messaging.settled l.source.definition := by
  obtain ⟨c, -, m, -, lowered⟩ := mem_lowered.1 member
  obtain ⟨source, -, executable⟩ := Lowered.ofModelled_eq_ok lowered
  have triggers := Executable.triggers_ofDefinition executable
  rw [← source] at triggers
  unfold Lowered.toUnit Lowered.resolved Messaging.settled
  rw [triggers]
  cases l.source.definition.kind <;> rfl

section Namesakes

/-- The first trigger of a name is kept, unless the name was there before. -/
theorem mem_distinctByName {name : String} {first : Trigger} {before : List String}
    {triggers : List Trigger} (found : triggers.find? (fun s => s.name == name) = some first)
    (fresh : name ∉ before) : first ∈ distinctByName before triggers := by
  induction triggers generalizing before with
  | nil => exact absurd found (by simp)
  | cons head rest ih =>
      unfold distinctByName
      rw [List.find?_cons] at found
      by_cases here : head.name = name
      · obtain rfl : head = first := by simpa [here] using found
        have isFresh : before.contains head.name = false := by simpa [here] using fresh
        rw [isFresh]
        exact List.mem_cons_self
      · rw [beq_eq_false_iff_ne.2 here] at found
        split
        · exact ih found fresh
        · refine List.mem_cons_of_mem _ (ih found ?_)
          simp [fresh, Ne.symm here]

theorem ProcessUnit.mem_distinctTriggers {u : ProcessUnit} {t first : Trigger}
    (found : u.triggers.find? t.isNamesake = some first) : first ∈ u.distinctTriggers t.kind := by
  refine mem_distinctByName ?_ (List.not_mem_nil (a := t.name))
  rw [List.find?_filter, ← found]
  congr 1
  funext s
  simp [Trigger.isNamesake, beq_eq_decide]

end Namesakes

namespace Progress

variable {press : Press}

/-- What became of the pages of a process beyond its core: each is in the set, or noted as dropped,
    or has a record of its failure. -/
structure Answers (press : Press) (p : Progress) (u : ProcessUnit) : Prop where
  rendered : ∀ a, .ok a ∈ press.optionalArtifacts u → p.artifacts.Reports a
  failed : ∀ failure, .error failure ∈ press.optionalArtifacts u →
    ErrorRecord.ofDefinition u.definition failure ∈ p.errors

theorem Answers.step {p q : Progress} {u v : ProcessUnit} (answers : p.Answers press v)
    (addition : Addition press p u q) : q.Answers press v := by
  have errors : p.errors ⊆ q.errors := by
    cases addition <;> exact List.subset_append_left _ _
  refine ⟨?_, fun failure member => errors (answers.failed failure member)⟩
  intro a member
  have reports := answers.rendered a member
  cases addition with
  | unmade cause => exact reports
  | collided made member met => exact reports
  | accepted made free => exact reports.registerAll _

theorem answers_run (units : List ProcessUnit) :
    ∀ u ∈ (units.foldl (add press) {}).compiled, (units.foldl (add press) {}).Answers press u := by
  refine fold_induction (motive := fun _ p => ∀ u ∈ p.compiled, p.Answers press u) units
    (fun _ member => absurd member (List.not_mem_nil)) ?_
  intro done p u q _ held addition v compiled
  cases addition with
  | unmade cause => exact (held v compiled).step (.unmade cause)
  | collided made member met => exact (held v compiled).step (.collided made member met)
  | accepted made free =>
      rcases List.mem_append.1 compiled with before | now
      · exact (held v before).step (.accepted made free)
      · obtain rfl := List.mem_singleton.1 now
        constructor
        · intro a member
          exact ArtifactSet.reports_registerAll _ (List.mem_append_right _ (mem_successes.2 member))
        · intro failure member
          exact List.mem_append_right _ (List.mem_map_of_mem (mem_failures.2 member))

/-- What became of a registration among the sources is not changed by what comes after them. -/
theorem reports_allArtifacts {p : Progress} {a : Artifact} (reports : p.artifacts.Reports a)
    (injection : Injection) (channel : List ChannelWarning)
    (validation : List (String × ValidationWarning)) :
    (p.allArtifacts injection channel validation).Reports a := by
  have withContainer := reports.registerAll [p.container injection]
  have withIndex := withContainer.registerAll [(p.index injection channel validation).artifact]
  exact withIndex.registerAll p.copies

end Progress

namespace Press

variable {press : Press} {u : ProcessUnit} {t : Trigger}

theorem serves_consumerPage (kind : t.kind = .consume) {channel : String}
    (bound : t.channel = some channel) :
    (Page.consumer (press.consumerPage u t)).Serves u.definition.id t := by
  refine .consumer kind rfl rfl ?_ rfl
  simp [consumerPage, Trigger.declaredChannel, bound]

theorem serves_producerPage (kind : t.kind = .produce) {channel : String}
    (bound : t.channel = some channel) :
    (Page.producer (press.producerPage u t)).Serves u.definition.id t := by
  refine .producer kind rfl rfl ?_
  simp [producerPage, Trigger.declaredChannel, bound]

/-- For each trigger that is kept there is a page that serves it, and something comes of that
    page. -/
theorem exists_serving (press : Press) (member : t ∈ u.distinctTriggers t.kind)
    (message : t.kind.isMessage = true) {channel : String} (bound : t.channel = some channel) :
    ∃ page : Page, page.Serves u.definition.id t ∧
      press.artifact u.names (u.names.messageClass t) t.category page ∈
        press.optionalArtifacts u := by
  unfold Names.messageClass Trigger.category
  cases kind : t.kind with
  | consume =>
      rw [kind] at member
      exact ⟨_, serves_consumerPage kind bound,
        mem_optionalArtifacts.2 (.inr (.inl ⟨t, member, rfl⟩))⟩
  | produce =>
      rw [kind] at member
      exact ⟨_, serves_producerPage kind bound,
        mem_optionalArtifacts.2 (.inr (.inr ⟨t, member, rfl⟩))⟩
  | signal =>
      rw [kind] at message
      exact Bool.noConfusion message
  | timer =>
      rw [kind] at message
      exact Bool.noConfusion message

end Press

theorem ProcessUnit.classPath_messageClass (u : ProcessUnit) (t : Trigger) :
    u.names.classPath (u.names.messageClass t) = u.definition.messagePath t := rfl

/-- What came of a page that serves a trigger is what became of the messages of the trigger. -/
theorem Output.delivers_of_answers {press : Press} {p : Progress} {u : ProcessUnit} {t : Trigger}
    {page : Page} {output : Output} {injection : Injection} {channel : List ChannelWarning}
    {validation : List (String × ValidationWarning)} (answers : p.Answers press u)
    (serves : page.Serves u.definition.id t)
    (tried : press.artifact u.names (u.names.messageClass t) t.category page ∈
      press.optionalArtifacts u)
    (artifacts : output.artifacts = p.allArtifacts injection channel validation)
    (errors : p.errors ⊆ output.errors) : output.Delivers press.engine u.definition t := by
  cases result : press.artifact u.names (u.names.messageClass t) t.category page with
  | ok a =>
      rw [result] at tried
      have reports :=
        Progress.reports_allArtifacts (answers.rendered a tried) injection channel validation
      rw [← artifacts] at reports
      obtain ⟨text, rendered, isPage⟩ := Press.artifact_eq_ok.1 result
      rw [isPage, u.classPath_messageClass] at reports
      simp only [ArtifactSet.Reports] at reports
      rcases reports with held | ⟨kept, held, noted⟩
      · refine .served serves rendered (fun builtin => ?_) held
        rw [builtin] at rendered
        exact Except.ok.inj rendered ▸ serves.servedBy
      · exact .dropped held noted
  | error failure =>
      rw [result] at tried
      obtain ⟨e, -, rfl⟩ := Press.artifact_eq_error.1 result
      exact .unrendered (errors (answers.failed _ tried))

theorem Batch.handlesMessages {tools : Toolchain} {config : Config} {b : Batch} {c : Collected}
    (distinct : (b.members.map Collected.id).Nodup) (member : c ∈ b.members)
    (listed : c.id ∈ (b.compile tools config).compiled) :
    (b.compile tools config).HandlesMessages tools.engine config.messaging c.definition := by
  obtain ⟨l, lowered, rfl, compiled⟩ := exists_compiled_of_mem_members distinct member listed
  have triggers := triggers_of_mem_lowered lowered
  constructor
  · refine ⟨_, _, _, indexReads_compile, field?_processes_index,
      List.mem_map_of_mem compiled, ?_, ?_⟩
    · rw [← triggers]
      exact (l.toUnit config.messaging).listedBy_indexEntry
    · intro other inEntries sameId
      obtain ⟨v, isCompiled, rfl⟩ := List.mem_map.1 inEntries
      have isOwner : v.definition.id = l.source.id := Json.string.inj (Option.some.inj sameId)
      rw [eq_of_compiled distinct isCompiled compiled isOwner]
  · intro t inSettled message
    have namesake : t.isNamesake t = true := by simp [Trigger.isNamesake]
    obtain ⟨first, found⟩ := Option.isSome_iff_exists.1
      (List.find?_isSome.2 ⟨t, inSettled, namesake⟩)
    have sameKind : first.kind = t.kind := by
      have met := List.find?_some found
      simp only [Trigger.isNamesake, Bool.and_eq_true, beq_iff_eq] at met
      exact met.1
    obtain ⟨channel, bound⟩ := Messaging.exists_channel_of_mem_settled
      (List.mem_of_find?_eq_some found) (sameKind ▸ message)
    -- No trigger of the kind has the name before the first one, so that one is kept and a page is
    -- made for it.
    have kept : first ∈ (l.toUnit config.messaging).distinctTriggers first.kind := by
      rw [sameKind]
      exact ProcessUnit.mem_distinctTriggers (by rw [triggers]; exact found)
    obtain ⟨page, serves, tried⟩ := Press.exists_serving
      (.ofLowered tools config (b.lowered tools config).1) kept (sameKind ▸ message) bound
    refine ⟨first, found, Output.delivers_of_answers
      (Progress.answers_run _ _ compiled) serves tried
      rfl ?_⟩
    exact List.subset_append_right _ _

/-- A process that messages start and that awaits more of them, under one name. -/
def Definition.listening (id message : String) : Definition :=
  { id
    package := "p"
    nodes := [{ id := "start", kind := .start (some (.message { name := message })) },
      { id := "receive", kind := .receiveTask { name := message } }] }

/-- What comes of such a process. -/
def listeningOutcome : Output :=
  (Batch.ofGathered false (Gathered.ofInput [.json] [.listening "a" "m"] [])).compile
    (.ofConfig .lenient) .lenient

private theorem compile_listening :
    compile (.ofConfig .lenient) .lenient [.listening "a" "m"] [] = .ok listeningOutcome :=
  compile_of_nodup rfl (by decide)

private theorem listeningOutcome_facts : listeningOutcome.compiled = ["a"] ∧
    listeningOutcome.artifacts.dropped = [] ∧ listeningOutcome.errors = [] ∧
      (listeningOutcome.artifacts.artifacts.filter (·.category = .messageConsumer)).length = 1 := by
  decide +kernel

/-- A set of artifacts holds a text that serves the trigger. -/
def ArtifactSet.Serves (set : ArtifactSet) (t : Trigger) : Prop :=
  ∃ a ∈ set.artifacts, a.category = t.category ∧ ∃ text, a.content = .text text ∧ t.ServedBy text

/-- Two consuming triggers are served by one artifact only if they agree on whether they start
    processes. -/
theorem ArtifactSet.Serves.handling_eq {set : ArtifactSet} {t s : Trigger}
    (single : (set.artifacts.filter (·.category = .messageConsumer)).length = 1)
    (consumes : t.kind = .consume) (consumes' : s.kind = .consume)
    (first : set.Serves t) (second : set.Serves s) : t.handling = s.handling := by
  obtain ⟨only, isOnly⟩ := List.length_eq_one_iff.1 single
  have served : ∀ {r : Trigger}, r.kind = .consume → set.Serves r →
      ∃ text, only.content = .text text ∧
        Source.functionBody? "consume" text = some r.handling := by
    rintro r consumes ⟨a, member, category, text, content, served⟩
    have isConsumer : a.category = .messageConsumer := by
      rw [category, Trigger.category, if_pos consumes]
    have among : a ∈ set.artifacts.filter (·.category = .messageConsumer) :=
      List.mem_filter.2 ⟨member, decide_eq_true isConsumer⟩
    have handler : r.handler = "consume" := by rw [Trigger.handler, if_pos consumes]
    rw [isOnly, List.mem_singleton] at among
    exact ⟨text, among ▸ content, handler ▸ served.handled⟩
  obtain ⟨text, content, handled⟩ := served consumes first
  obtain ⟨text', content', handled'⟩ := served consumes' second
  rw [content, Content.text.injEq] at content'
  rw [content', handled', Option.some.injEq] at handled
  exact handled.symm

end Flowsmith
