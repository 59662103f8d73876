import Flowsmith.Proofs.Sheets
import Mathlib.Data.Set.Function

/-!
Called processes. Each process that a definition calls gets a field, named for it, and is noted with
the first node that calls it. The names of fields do not tell all processes apart. A process that
comes to the field of one called before it is refused, so what is let through has a field for each
called process and no field twice.
-/

namespace Flowsmith

/-- Some node calls a process when a search for one that does finds it. -/
theorem isSome_find?_called_iff (nodes : List Node) (child : String) :
    (nodes.find? fun n => n.called? == some child).isSome = true ↔
      child ∈ nodes.filterMap Node.called? := by
  simp [List.find?_isSome]

namespace SubProcesses

/-- What is found of some nodes: each process that they call has a field of its own, and the first
    node that calls it. -/
structure Records (nodes : List Node) (found : SubProcesses) : Prop where
  fields : ∀ child, found.fields.get? child =
    if child ∈ nodes.filterMap Node.called? then some (Naming.subProcessField child) else none
  callers : ∀ child, found.callers.get? child =
    (nodes.find? fun n => n.called? == some child).map Node.id
  distinct : Set.InjOn Naming.subProcessField {child | child ∈ nodes.filterMap Node.called?}

/-- After some nodes, a node calls a process, `second`, that none of them calls and that comes to
    the field of one that they do call, `first`. -/
structure Clash (before : List Node) (n : Node) (first second : String) : Prop where
  calls : n.called? = some second
  fresh : second ∉ before.filterMap Node.called?
  taken : first ∈ before.filterMap Node.called?
  shared : Naming.subProcessField first = Naming.subProcessField second

variable {before rest : List Node} {n : Node} {found : SubProcesses}

theorem records_nil : Records [] empty where
  fields _ := rfl
  callers _ := rfl
  distinct := by simp

theorem Records.contains_iff (records : Records before found) (child : String) :
    found.fields.contains child = true ↔ child ∈ before.filterMap Node.called? := by
  rw [Dict.contains, records.fields]
  split <;> simp [*]

/-- The entries are the called processes with their fields. -/
theorem Records.mem_entries_iff (records : Records before found) (child field : String) :
    (child, field) ∈ found.fields.entries ↔
      child ∈ before.filterMap Node.called? ∧ field = Naming.subProcessField child := by
  rw [← lookup_eq_some_iff_mem found.fields.nodup_keys]
  change found.fields.get? child = some field ↔ _
  rw [records.fields]
  split <;> simp [*, eq_comm]

/-- A node that calls no process, or one that was called before, changes nothing. -/
theorem Records.keep (records : Records before found)
    (known : ∀ child, n.called? = some child → child ∈ before.filterMap Node.called?) :
    Records (before ++ [n]) found := by
  have same : ∀ child, child ∈ (before ++ [n]).filterMap Node.called? ↔
      child ∈ before.filterMap Node.called? := by
    intro child
    rw [List.filterMap_append, List.mem_append, or_iff_left_iff_imp]
    intro here
    exact known child (by simpa using here)
  refine ⟨?_, ?_, ?_⟩
  · intro child
    rw [records.fields, if_congr (same child) rfl rfl]
  · intro child
    rw [records.callers, List.find?_append]
    by_cases called : n.called? = some child
    · rw [Option.or_of_isSome ((isSome_find?_called_iff before child).2 (known child called))]
    · simp [called]
  · simpa only [same] using records.distinct

/-- A node that calls a process for the first time gives it a field and is noted as its caller,
    where the field is free. -/
theorem Records.insert (records : Records before found) {child : String}
    (calls : n.called? = some child) (fresh : child ∉ before.filterMap Node.called?)
    (free : ∀ other ∈ before.filterMap Node.called?,
      Naming.subProcessField other ≠ Naming.subProcessField child) :
    Records (before ++ [n])
      ⟨found.fields.insert child (Naming.subProcessField child),
        found.callers.insert child n.id⟩ := by
  have called : (before ++ [n]).filterMap Node.called? =
      before.filterMap Node.called? ++ [child] := by
    simp [calls]
  refine ⟨?_, ?_, ?_⟩
  · intro other
    simp only [Dict.get?_insert, records.fields, called, List.mem_append, List.mem_singleton]
    by_cases asked : other = child <;> simp [asked]
  · intro other
    simp only [Dict.get?_insert, records.callers, List.find?_append]
    by_cases asked : other = child
    · subst asked
      have earlier := mt (isSome_find?_called_iff before other).1 fresh
      rw [Option.not_isSome_iff_eq_none] at earlier
      simp [earlier, calls]
    · simp [asked, calls, Ne.symm asked]
  · intro a inA b inB same
    simp only [called, Set.mem_ofPred_eq, List.mem_append, List.mem_singleton] at inA inB
    rcases inA with inA | rfl <;> rcases inB with inB | rfl
    · exact records.distinct inA inB same
    · exact absurd same (free a inA)
    · exact absurd same.symm (free b inB)
    · rfl

/-- A node is taken account of, or it calls a process whose field is taken, and that is the
    error. -/
theorem Records.add (records : Records before found) (n : Node) :
    (∃ after, found.add n = .ok after ∧ Records (before ++ [n]) after) ∨
      ∃ first second, Clash before n first second ∧
        found.add n =
          .error (.subProcessFieldCollision (Naming.subProcessField second) first second) := by
  unfold SubProcesses.add
  split
  · rename_i child _ _ kind
    have calls := Node.called?_of_kind kind
    split
    · rename_i there
      refine .inl ⟨found, rfl, records.keep ?_⟩
      intro other asked
      rw [calls] at asked
      exact Option.some.inj asked ▸ (records.contains_iff child).1 there
    · rename_i absent
      have fresh := mt (records.contains_iff child).2 absent
      simp only
      split
      · rename_i first field owner
        obtain ⟨taken, own⟩ :=
          (records.mem_entries_iff first field).1 (List.mem_of_find?_eq_some owner)
        have shared : field = Naming.subProcessField child := by simpa using List.find?_some owner
        exact .inr ⟨first, child, ⟨calls, fresh, taken, own.symm.trans shared⟩, rfl⟩
      · rename_i free
        refine .inl ⟨_, rfl, records.insert calls fresh ?_⟩
        intro other member same
        rw [List.find?_eq_none] at free
        exact free (other, _) ((records.mem_entries_iff other _).2 ⟨member, rfl⟩)
          (by simpa using same)
  · rename_i notCall
    refine .inl ⟨found, rfl, records.keep ?_⟩
    intro child asked
    rw [Node.called?_eq_none notCall] at asked
    exact absurd asked (by simp)

/-- The nodes are taken account of one after the other, up to the first that calls a process whose
    field is taken. -/
theorem Records.run (records : Records before found) :
    (∃ after, rest.foldlM SubProcesses.add found = .ok after ∧ Records (before ++ rest) after) ∨
      ∃ front n back first second, rest = front ++ n :: back ∧
        Set.InjOn Naming.subProcessField
          {child | child ∈ (before ++ front).filterMap Node.called?} ∧
        Clash (before ++ front) n first second ∧
        rest.foldlM SubProcesses.add found =
          .error (.subProcessFieldCollision (Naming.subProcessField second) first second) := by
  induction rest generalizing before found with
  | nil => exact .inl ⟨found, rfl, by rwa [List.append_nil]⟩
  | cons n rest ih =>
      rw [List.foldlM_cons]
      rcases records.add n with ⟨after, added, records'⟩ | ⟨first, second, clash, failed⟩
      · rw [added]
        rcases ih records' with
          ⟨last, done, whole⟩ | ⟨front, m, back, first, second, rfl, distinct, clash, failed⟩
        · exact .inl ⟨last, done, by simpa using whole⟩
        · refine .inr ⟨n :: front, m, back, first, second, rfl, ?_, ?_, failed⟩
          · simpa using distinct
          · simpa using clash
      · rw [failed]
        exact .inr ⟨[], n, rest, first, second, rfl, by simpa using records.distinct,
          by simpa using clash, rfl⟩

/-- Where called processes clash, names of fields are not injective. -/
theorem Clash.not_injOn {first second : String} (clash : Clash before n first second)
    (back : List Node) :
    ¬ Set.InjOn Naming.subProcessField
      {child | child ∈ (before ++ n :: back).filterMap Node.called?} := by
  intro distinct
  have called : (before ++ n :: back).filterMap Node.called? =
      before.filterMap Node.called? ++ second :: back.filterMap Node.called? := by
    rw [List.filterMap_append, List.filterMap_cons_some clash.calls]
  rw [called] at distinct
  have same : first = second :=
    distinct (List.mem_append_left _ clash.taken)
      (List.mem_append_right _ List.mem_cons_self) clash.shared
  exact clash.fresh (same ▸ clash.taken)

/-- No two called processes share a field. -/
theorem Records.nodup_values (records : Records before found) : found.fields.values.Nodup := by
  refine (List.nodup_map_iff_inj_on (List.Nodup.of_map _ found.fields.nodup_keys)).2 ?_
  rintro ⟨child, field⟩ member ⟨child', field'⟩ member' (rfl : field = field')
  obtain ⟨called, own⟩ := (records.mem_entries_iff child field).1 member
  obtain ⟨called', own'⟩ := (records.mem_entries_iff child' field).1 member'
  rw [records.distinct called called' (own.symm.trans own')]

/-- A process that is called has the first node that calls it as its caller. -/
theorem Records.exists_first (records : Records before found) {child : String}
    (called : child ∈ before.filterMap Node.called?) :
    ∃ front n back, before = front ++ n :: back ∧ n.called? = some child ∧
      child ∉ front.filterMap Node.called? ∧ found.callers.get? child = some n.id := by
  obtain ⟨n, first⟩ := Option.isSome_iff_exists.1 ((isSome_find?_called_iff before child).2 called)
  obtain ⟨calls, front, back, split, others⟩ := List.find?_eq_some_iff_append.1 first
  refine ⟨front, n, back, split, by simpa using calls,
    ?_, by rw [records.callers, first, Option.map_some]⟩
  intro earlier
  obtain ⟨m, member, calls⟩ := List.mem_filterMap.1 earlier
  simpa [calls] using others m member

/-- What comes of the nodes of a definition. -/
theorem ofDefinition_cases (d : Definition) :
    (∃ found, ofDefinition d = .ok found ∧ Records d.nodes found) ∨
      ∃ front n back first second, d.nodes = front ++ n :: back ∧
        Set.InjOn Naming.subProcessField {child | child ∈ front.filterMap Node.called?} ∧
        Clash front n first second ∧
        ofDefinition d =
          .error (.subProcessFieldCollision (Naming.subProcessField second) first second) :=
  records_nil.run

theorem records_ofDefinition {d : Definition} (ok : ofDefinition d = .ok found) :
    Records d.nodes found := by
  rcases ofDefinition_cases d with ⟨after, done, records⟩ | ⟨_, _, _, _, _, -, -, -, failed⟩
  · rw [ok] at done
    exact Except.ok.inj done ▸ records
  · rw [ok] at failed
    exact absurd failed (by simp)

/-- The processes that have fields are those that are called. -/
theorem fields_ofDefinition {d : Definition} (ok : ofDefinition d = .ok found) (child : String) :
    (found.fields.get? child).isSome = true ↔ child ∈ d.calls :=
  (records_ofDefinition ok).contains_iff child

end SubProcesses

/-- What a process is lowered to: its graph and the processes that it calls, with the rest of its
    definition. -/
theorem Executable.ofDefinition_eq_ok {lower : Lower} {d : Definition} {e : Executable}
    (ok : ofDefinition lower d = .ok e) :
    ∃ graph called, lower d = .ok graph ∧ SubProcesses.ofDefinition d = .ok called ∧
      e = {
        processId := d.id
        package := d.package
        className := (Names.ofId d.id d.package).processClass
        triggers := d.triggers
        subProcesses := called
        handlers := graph.handlers
        definition := graph.definition
        startable := d.isStartable
        dynamic := d.dynamic } := by
  unfold ofDefinition at ok
  cases lowered : lower d with
  | error cause => simp [lowered, bind, Except.bind] at ok
  | ok graph =>
      cases found : SubProcesses.ofDefinition d with
      | error cause => simp [lowered, found, bind, Except.bind] at ok
      | ok called =>
          simp only [lowered, found, bind, Except.bind, pure, Except.pure, Except.ok.injEq] at ok
          exact ⟨graph, called, rfl, rfl, ok.symm⟩

/-- A lowered process has fields for those that its definition calls. -/
theorem Executable.fields_ofDefinition {lower : Lower} {d : Definition} {e : Executable}
    (ok : ofDefinition lower d = .ok e) (child : String) :
    (e.subProcesses.fields.get? child).isSome = true ↔ child ∈ d.calls := by
  obtain ⟨graph, called, -, found, rfl⟩ := ofDefinition_eq_ok ok
  exact SubProcesses.fields_ofDefinition found child

/-- The field of a called process is never that of the application. -/
theorem Naming.subProcessField_ne_application (child : String) :
    subProcessField child ≠ "application" := by
  intro equal
  have last := congrArg (fun field => field.toList.getLast?) equal
  simp [subProcessField] at last

namespace Press

variable {press : Press} {u : ProcessUnit} {called : List HostField}

/-- The entry point holds the application and the called processes, under the names of their
    fields. -/
theorem names_entryPage (fields : press.calledFields u = .ok called) :
    (press.entryPage u (.application :: called)).members.fields.map PageField.name =
      "application" :: u.executable.subProcesses.fields.values := by
  have names : called.map HostField.name = u.executable.subProcesses.fields.values := by
    refine map_of_mapM ?_ fields
    intro entry f made
    obtain ⟨_, -, rfl⟩ := subProcessField_eq_ok made
    rfl
  simp only [entryPage, Members.ofFields, List.map_map, List.map_cons]
  rw [← names]
  rfl

end Press

namespace SubProcesses

/-- What is found of a definition. -/
structure Extracts (d : Definition) (found : SubProcesses) : Prop where
  /-- The processes with fields are those that are called. -/
  fields : ∀ child, child ∈ found.fields.keys ↔ child ∈ d.calls
  /-- The processes with callers are those that are called. -/
  callers : ∀ child, child ∈ found.callers.keys ↔ child ∈ d.calls
  /-- A field is named for its process. -/
  field : ∀ child ∈ d.calls, found.fields.get? child = some (Naming.subProcessField child)
  /-- A caller is the first node that calls the process. -/
  first : ∀ child ∈ d.calls, ∃ front n back, d.nodes = front ++ n :: back ∧ n.called? = some child ∧
    child ∉ front.filterMap Node.called? ∧ found.callers.get? child = some n.id
  /-- The entry point has a field for the application and one for each called process, all of
      different names. -/
  members : ∀ (press : Press) (u : ProcessUnit) (called : List HostField),
    u.executable.subProcesses = found → press.calledFields u = .ok called →
      press.entryArtifact u = press.artifact u.names u.names.processClass .process
        (.entry (press.entryPage u (.application :: called))) ∧
      (press.entryPage u (.application :: called)).members.fields.map PageField.name =
        "application" :: found.fields.values ∧
      ("application" :: found.fields.values).Nodup

theorem Records.extracts {d : Definition} {found : SubProcesses} (records : Records d.nodes found) :
    Extracts d found where
  fields child := Dict.mem_keys_iff.trans (records.contains_iff child)
  callers child := by
    rw [Dict.mem_keys_iff, Dict.contains, records.callers, Option.isSome_map,
      isSome_find?_called_iff]
    rfl
  field child called := (records.fields child).trans (if_pos called)
  first _ called := records.exists_first called
  members press u called same fields := by
    subst same
    refine ⟨?_, Press.names_entryPage fields, List.nodup_cons.2 ⟨?_, records.nodup_values⟩⟩
    · change press.calledFields u >>= _ = _
      rw [fields]
      rfl
    · intro member
      obtain ⟨⟨child, field⟩, inEntries, rfl⟩ := List.mem_map.1 member
      exact Naming.subProcessField_ne_application child
        ((records.mem_entries_iff _ _).1 inEntries).2.symm

/-- Called processes are found exactly when no two of them come to one field, and what is found is
    what the definition calls. Otherwise the error names the first called process, in the order of
    nodes, that comes to a field of another one, and this other one. -/
theorem ofDefinition_exact (d : Definition) :
    ((∃ found, ofDefinition d = .ok found) ↔
      Set.InjOn Naming.subProcessField {child | child ∈ d.calls}) ∧
    (∀ found, ofDefinition d = .ok found → Extracts d found) ∧
    ∀ e, ofDefinition d = .error e → ∃ front n back first second, d.nodes = front ++ n :: back ∧
      Set.InjOn Naming.subProcessField {child | child ∈ front.filterMap Node.called?} ∧
      Clash front n first second ∧
      e = .subProcessFieldCollision (Naming.subProcessField second) first second := by
  refine ⟨⟨?_, ?_⟩, ?_, ?_⟩
  · rintro ⟨found, ok⟩
    exact (records_ofDefinition ok).distinct
  · intro distinct
    rcases ofDefinition_cases d with
      ⟨found, ok, -⟩ | ⟨front, n, back, first, second, split, -, clash, -⟩
    · exact ⟨found, ok⟩
    · rw [Definition.calls, split] at distinct
      exact absurd distinct (clash.not_injOn back)
  · intro found ok
    exact (records_ofDefinition ok).extracts
  · intro e failed
    rcases ofDefinition_cases d with
      ⟨found, ok, -⟩ | ⟨front, n, back, first, second, split, distinct, clash, error⟩
    · rw [failed] at ok
      exact absurd ok (by simp)
    · rw [failed] at error
      exact ⟨front, n, back, first, second, split, distinct, clash, Except.error.inj error⟩

end SubProcesses

end Flowsmith
