import Flowsmith.Validation.Check
import Mathlib.Logic.Relation

/-!
Reachability in the graph of a process. A search follows each connection at most once, so it comes
to an end; what it has met by then is what connections lead to from the start nodes. So the warnings
about nodes that no start node leads to are exact.
-/

namespace Flowsmith

namespace Definition

/-- A connection leads from one id to another. -/
def Connects (d : Definition) (source target : String) : Prop :=
  ⟨source, target⟩ ∈ d.connections

/-- Connections lead to an id from some start node, wherever that stands. -/
def Reaches (d : Definition) (id : String) : Prop :=
  ∃ n ∈ d.nodes, (∃ trigger, n.kind = .start trigger) ∧ Relation.ReflTransGen d.Connects n.id id

/-- A node that stands in no composite, is attached to no other node, and that no start node leads
    to. -/
structure Stranded (d : Definition) (n : Node) : Prop where
  topLevel : n.parent = none
  unattached : ∀ host event, n.kind ≠ .boundaryEvent host event
  unreached : ¬ d.Reaches n.id

end Definition

theorem Node.isStart_iff {n : Node} : n.isStart = true ↔ ∃ trigger, n.kind = .start trigger := by
  unfold isStart
  cases n.kind <;> simp

namespace Reach

theorem mem_successors {connections : List Connection} {source target : String} :
    target ∈ successors connections source ↔ ⟨source, target⟩ ∈ connections := by
  simp only [successors, List.mem_map, List.mem_filter, beq_iff_eq]
  constructor
  · rintro ⟨c, ⟨member, rfl⟩, rfl⟩
    exact member
  · intro member
    exact ⟨_, ⟨member, rfl⟩, rfl⟩

theorem mem_starts {d : Definition} {id : String} :
    id ∈ starts d ↔ ∃ n ∈ d.nodes, (∃ trigger, n.kind = .start trigger) ∧ n.id = id := by
  simp only [starts, List.mem_map, List.mem_filter, Node.isStart_iff, and_assoc]

namespace Search

/-- What a look at a pending id does, by whether it was met before. -/
inductive Look (connections : List Connection) : Search → Search → Prop
  | again {id : String} {pending reached : List String} (met : id ∈ reached) :
      Look connections ⟨id :: pending, reached⟩ ⟨pending, reached⟩
  | first {id : String} {pending fresh reached : List String} (unmet : id ∉ reached)
      (isFresh : ∀ next, next ∈ fresh ↔ ⟨id, next⟩ ∈ connections ∧ next ∉ id :: reached) :
      Look connections ⟨id :: pending, reached⟩ ⟨fresh ++ pending, id :: reached⟩

theorem look_of_next? {connections : List Connection} {s t : Search}
    (next : s.next? connections = some t) : Look connections s t := by
  obtain ⟨pending, reached⟩ := s
  cases pending with
  | nil => exact absurd next (by simp [next?])
  | cons id pending =>
      rw [next?] at next
      split at next
      · rename_i met
        obtain rfl := Option.some.inj next
        exact .again (List.contains_iff_mem.1 met)
      · rename_i unmet
        obtain rfl := Option.some.inj next
        refine .first (fun met => unmet (List.contains_iff_mem.2 met)) fun next => ?_
        rw [List.mem_reverse, List.mem_filter, mem_successors, Bool.not_eq_true',
          ← Bool.not_eq_true, List.contains_iff_mem]

theorem next?_eq_none_iff {connections : List Connection} {s : Search} :
    s.next? connections = none ↔ s.pending = [] := by
  obtain ⟨pending, reached⟩ := s
  cases pending with
  | nil => simp [next?]
  | cons id pending =>
      rw [next?]
      split <;> simp

/-- An id that has been met or will be looked at. -/
def Knows (s : Search) (id : String) : Prop :=
  id ∈ s.reached ∨ id ∈ s.pending

/-- No id is forgotten. -/
theorem Look.knows {connections : List Connection} {s t : Search}
    (look : Look connections s t) {id : String} (known : s.Knows id) : t.Knows id := by
  cases look with
  | again met =>
      rcases known with inReached | inPending
      · exact .inl inReached
      · rcases List.mem_cons.1 inPending with rfl | later
        · exact .inl met
        · exact .inr later
  | first unmet isFresh =>
      rcases known with inReached | inPending
      · exact .inl (List.mem_cons_of_mem _ inReached)
      · rcases List.mem_cons.1 inPending with rfl | later
        · exact .inl List.mem_cons_self
        · exact .inr (List.mem_append_right _ later)

/-- What holds at every point of the search from the start nodes: it knows nothing but what can be
    reached, it knows the start nodes, and it knows what connections lead to from an id that has
    been met. -/
structure Sound (d : Definition) (s : Search) : Prop where
  distinct : s.reached.Nodup
  reaches : ∀ id, s.Knows id → d.Reaches id
  begun : ∀ id ∈ starts d, s.Knows id
  followed : ∀ source ∈ s.reached, ∀ target, d.Connects source target → s.Knows target

theorem sound_ofDefinition (d : Definition) : Sound d (.ofDefinition d) := by
  refine ⟨List.nodup_nil, ?_, fun id isStart => .inr (List.mem_reverse.2 isStart), ?_⟩
  · rintro id (inReached | inPending)
    · exact absurd inReached List.not_mem_nil
    · obtain ⟨n, member, isStart, rfl⟩ := mem_starts.1 (List.mem_reverse.1 inPending)
      exact ⟨n, member, isStart, .refl⟩
  · intro source inReached
    exact absurd inReached List.not_mem_nil

/-- What a look adds to what is known is where connections lead from an id that was pending. -/
theorem Look.exists_connects {connections : List Connection} {s t : Search}
    (look : Look connections s t) {id : String} (known : t.Knows id) :
    s.Knows id ∨ ∃ source, s.Knows source ∧ ⟨source, id⟩ ∈ connections := by
  cases look with
  | again met => exact .inl (known.imp_right (List.mem_cons_of_mem _))
  | first unmet isFresh =>
      rcases known with inReached | inPending
      · rcases List.mem_cons.1 inReached with rfl | earlier
        · exact .inl (.inr List.mem_cons_self)
        · exact .inl (.inl earlier)
      · rcases List.mem_append.1 inPending with inFresh | later
        · exact .inr ⟨_, .inr List.mem_cons_self, ((isFresh id).1 inFresh).1⟩
        · exact .inl (.inr (List.mem_cons_of_mem _ later))

/-- The connections of an id that was just met lead to ids that were met before or that are pending
    now. -/
theorem Look.followed {connections : List Connection} {s t : Search} (look : Look connections s t)
    {source : String} (inReached : source ∈ t.reached) :
    source ∈ s.reached ∨ ∀ target, ⟨source, target⟩ ∈ connections → t.Knows target := by
  cases look with
  | again met => exact .inl inReached
  | first unmet isFresh =>
      rcases List.mem_cons.1 inReached with rfl | earlier
      · right
        intro target connects
        refine (Classical.em _).imp_right fun unknown => ?_
        exact List.mem_append_left _ ((isFresh target).2 ⟨connects, unknown⟩)
      · exact .inl earlier

theorem Sound.look {d : Definition} {s t : Search} (sound : s.Sound d)
    (look : Look d.connections s t) :
    t.Sound d := by
  refine ⟨?_, ?_, fun id isStart => look.knows (sound.begun id isStart), ?_⟩
  · cases look with
    | again met => exact sound.distinct
    | first unmet isFresh => exact List.nodup_cons.2 ⟨unmet, sound.distinct⟩
  · intro id known
    rcases look.exists_connects known with before | ⟨source, before, connects⟩
    · exact sound.reaches id before
    · obtain ⟨n, member, isStart, path⟩ := sound.reaches source before
      exact ⟨n, member, isStart, path.tail connects⟩
  · intro source inReached target connects
    rcases look.followed inReached with earlier | now
    · exact look.knows (sound.followed source earlier target connects)
    · exact now target connects

/-- With nothing pending, what has been met is what can be reached. -/
theorem Sound.mem_reached_iff {d : Definition} {s : Search} (sound : s.Sound d)
    (done : s.pending = []) (id : String) : id ∈ s.reached ↔ d.Reaches id := by
  have met : ∀ id, s.Knows id → id ∈ s.reached := by
    rintro id (inReached | inPending)
    · exact inReached
    · rw [done] at inPending
      exact absurd inPending List.not_mem_nil
  constructor
  · exact fun inReached => sound.reaches id (.inl inReached)
  · rintro ⟨n, member, isStart, path⟩
    induction path with
    | refl => exact met _ (sound.begun _ (mem_starts.2 ⟨n, member, isStart, rfl⟩))
    | tail _ connects inReached => exact met _ (sound.followed _ inReached _ connects)

/-- The search after a number of looks, if there are so many. -/
def after (connections : List Connection) : Nat → Search → Option Search
  | 0, s => some s
  | looks + 1, s => (s.next? connections).bind (after connections looks)

theorem Sound.after {d : Definition} {s last : Search} {looks : Nat} (sound : s.Sound d)
    (run : s.after d.connections looks = some last) : last.Sound d := by
  induction looks generalizing s with
  | zero =>
      obtain rfl := Option.some.inj run
      exact sound
  | succ looks ih =>
      obtain ⟨t, next, rest⟩ := Option.bind_eq_some_iff.1 run
      exact ih (sound.look (look_of_next? next)) rest

/-- A search ends within the number of looks that remain, and gives what has been met by then. -/
theorem exists_after (connections : List Connection) (s : Search) :
    ∃ looks last, looks ≤ s.remaining connections ∧ s.after connections looks = some last ∧
      last.pending = [] ∧ last.reached = explore connections s := by
  fun_induction explore connections s with
  | case1 s stop =>
      exact ⟨0, s, Nat.zero_le _, rfl, next?_eq_none_iff.1 stop, rfl⟩
  | case2 s t next ih =>
      obtain ⟨looks, last, within, run, done, result⟩ := ih
      have fewer := remaining_of_next? next
      refine ⟨looks + 1, last, by omega, ?_, done, result⟩
      rw [Search.after, next]
      exact run

theorem remaining_ofDefinition (d : Definition) :
    (ofDefinition d).remaining d.connections = (starts d).length + d.connections.length := by
  simp [remaining, ofDefinition]

end Search

theorem exists_search (d : Definition) :
    ∃ looks last, looks ≤ (starts d).length + d.connections.length ∧
      (Search.ofDefinition d).after d.connections looks = some last ∧
      last.pending = [] ∧ last.reached = reachable d := by
  rw [← Search.remaining_ofDefinition]
  exact Search.exists_after d.connections (.ofDefinition d)

theorem mem_reachable_iff {d : Definition} {id : String} : id ∈ reachable d ↔ d.Reaches id := by
  obtain ⟨looks, last, -, run, done, result⟩ := exists_search d
  rw [← result]
  exact ((Search.sound_ofDefinition d).after run).mem_reached_iff done id

theorem nodup_reachable (d : Definition) : (reachable d).Nodup := by
  obtain ⟨looks, last, -, run, -, result⟩ := exists_search d
  rw [← result]
  exact ((Search.sound_ofDefinition d).after run).distinct

end Reach

namespace Validation

theorem isBoundary_eq_false_iff {n : Node} :
    isBoundary n = false ↔ ∀ host event, n.kind ≠ .boundaryEvent host event := by
  unfold isBoundary
  cases n.kind <;> simp

/-- A node is reported exactly when it is stranded. -/
theorem isReported_iff {d : Definition} {n : Node} :
    (n.isTopLevel && !(Reach.reachable d).contains n.id && !isBoundary n) = true ↔
      d.Stranded n := by
  simp only [Bool.and_eq_true, Bool.not_eq_true', ← Bool.not_eq_true, List.contains_iff_mem,
    Reach.mem_reachable_iff, Node.isTopLevel, Option.isNone_iff_eq_none]
  rw [Bool.not_eq_true, isBoundary_eq_false_iff]
  constructor
  · rintro ⟨⟨topLevel, unreached⟩, unattached⟩
    exact ⟨topLevel, unattached, unreached⟩
  · rintro ⟨topLevel, unattached, unreached⟩
    exact ⟨⟨topLevel, unreached⟩, unattached⟩

end Validation

instance (d : Definition) : DecidablePred d.Stranded :=
  fun _ => decidable_of_iff _ Validation.isReported_iff

/-- The node that a warning reports as unreachable. -/
def ValidationWarning.unreachable? : ValidationWarning → Option String
  | .unreachableNode node => some node
  | _ => none

namespace Validation

theorem unreachable_eq (d : Definition) :
    unreachable d = (d.nodes.filter fun n => d.Stranded n).map fun n => .unreachableNode n.id := by
  have reported :
      (fun n : Node => n.isTopLevel && !(Reach.reachable d).contains n.id && !isBoundary n) =
        fun n => decide (d.Stranded n) := by
    funext n
    rw [Bool.eq_iff_iff, isReported_iff, decide_eq_true_iff]
  simp only [unreachable, reported]

theorem unreachable?_checkTriggers (d : Definition) :
    (checkTriggers d).warnings.filterMap ValidationWarning.unreachable? = [] := by
  rw [List.filterMap_eq_nil_iff]
  intro w member
  obtain ⟨n, -, warned⟩ := List.mem_filterMap.1 member
  unfold nodeWarning? at warned
  split at warned
  · split at warned
    · obtain rfl := Option.some.inj warned
      rfl
    · exact absurd warned (by simp)
  · exact absurd warned (by simp)

theorem unreachable?_checkGraph (d : Definition) :
    (checkGraph d).warnings.filterMap ValidationWarning.unreachable? =
      if d.connections = [] then [] else (d.nodes.filter fun n => d.Stranded n).map Node.id := by
  unfold checkGraph
  by_cases noNodes : d.nodes = []
  · simp only [noNodes, List.isEmpty_nil, if_true, List.filter_nil, List.map_nil, ite_self]
    split <;> rfl
  · rw [if_neg (by simpa using noNodes)]
    by_cases noConnections : d.connections = []
    · simp [noConnections]
    · simp only [List.isEmpty_iff, noConnections, if_false, unreachable_eq, List.filterMap_map]
      exact congrFun List.filterMap_eq_map' _

end Validation

/-- The search from the start nodes ends after at most one look for each start node and each
    connection, and has met exactly what can be reached by then. So the nodes that are reported as
    unreachable are, in their order, those that are stranded; without any connections none is. -/
theorem Definition.unreachable_exact (d : Definition) :
    (∃ looks last, looks ≤ (Reach.starts d).length + d.connections.length ∧
      (Reach.Search.ofDefinition d).after d.connections looks = some last ∧
      last.pending = [] ∧ last.reached = Reach.reachable d) ∧
    (Reach.reachable d).Nodup ∧
    (∀ id, id ∈ Reach.reachable d ↔ d.Reaches id) ∧
    d.validate.warnings.filterMap ValidationWarning.unreachable? =
      if d.connections = [] then [] else (d.nodes.filter fun n => d.Stranded n).map Node.id := by
  refine ⟨Reach.exists_search d, Reach.nodup_reachable d, fun _ => Reach.mem_reachable_iff, ?_⟩
  have phases : d.validate.warnings =
      (Validation.checkGraph d).warnings ++ (Validation.checkTriggers d).warnings := by
    change [] ++ (Validation.checkGraph d).warnings ++ [] ++ _ = _
    simp
  rw [phases, List.filterMap_append, Validation.unreachable?_checkTriggers, List.append_nil,
    Validation.unreachable?_checkGraph]

end Flowsmith
