import Flowsmith.Definition.Basic

/-!
Reachability in the graph of a process: which nodes a token can come to from some start node. A
search looks at one pending id after the other. Connections may lead back or lead to an id several
times, so an id may be pending more than once; it is followed only when it is met for the first
time.
-/

namespace Flowsmith.Reach

/-- The ids that connections lead to from an id. -/
def successors (connections : List Connection) (id : String) : List String :=
  (connections.filter (fun c => c.source == id)).map Connection.target

/-- A search: the ids that are still to be looked at, the next one first, and those that have been
    met. -/
structure Search where
  pending : List String
  reached : List String
deriving DecidableEq, Repr

namespace Search

/-- Look at the next pending id, if there is one. When it is met for the first time, what
    connections lead to from it becomes pending, unless it has been met before. -/
def next? (connections : List Connection) : Search → Option Search
  | ⟨[], _⟩ => none
  | ⟨id :: pending, reached⟩ =>
      if reached.contains id then some ⟨pending, reached⟩
      else
        let fresh := (successors connections id).filter fun next => !(id :: reached).contains next
        some ⟨fresh.reverse ++ pending, id :: reached⟩

/-- How many ids a search can still look at: those that are pending, and one for each connection
    that has not been followed yet. -/
def remaining (connections : List Connection) (s : Search) : Nat :=
  s.pending.length + (connections.filter fun c => !s.reached.contains c.source).length

/-- The connections from an id that is met for the first time are followed now, and never again. -/
theorem length_unfollowed (connections : List Connection) {id : String} {reached : List String}
    (first : reached.contains id = false) :
    (connections.filter fun c => !reached.contains c.source).length =
      (successors connections id).length +
        (connections.filter fun c => !(id :: reached).contains c.source).length := by
  induction connections with
  | nil => rfl
  | cons c rest ih =>
      simp only [successors, List.length_map, List.contains_cons, List.filter_cons] at ih ⊢
      by_cases here : c.source = id
      · subst here
        simp only [first, beq_self_eq_true, Bool.true_or, Bool.not_true, Bool.not_false, if_true,
          Bool.false_eq_true, if_false, List.length_cons, ih]
        omega
      · simp only [beq_eq_false_iff_ne.2 here, Bool.false_or, Bool.false_eq_true, if_false]
        split
        · simp only [List.length_cons, ih]
          omega
        · exact ih

/-- Each look at an id leaves fewer to come. -/
theorem remaining_of_next? {connections : List Connection} {s t : Search}
    (next : s.next? connections = some t) : t.remaining connections < s.remaining connections := by
  obtain ⟨pending, reached⟩ := s
  cases pending with
  | nil => exact absurd next (by simp [next?])
  | cons id pending =>
      rw [next?] at next
      split at next
      · obtain rfl := Option.some.inj next
        simp only [remaining, List.length_cons]
        omega
      · rename_i first
        obtain rfl := Option.some.inj next
        have followed := length_unfollowed connections (Bool.eq_false_iff.2 first)
        have fresh := List.length_filter_le (fun next => !(id :: reached).contains next)
          (successors connections id)
        simp only [remaining, List.length_append, List.length_reverse, List.length_cons, followed]
        omega

end Search

/-- Search until nothing is pending. -/
def explore (connections : List Connection) (s : Search) : List String :=
  match _next : s.next? connections with
  | none => s.reached
  | some t => explore connections t
termination_by s.remaining connections
decreasing_by exact Search.remaining_of_next? _next

/-- The ids of the start nodes. -/
def starts (d : Definition) : List String :=
  (d.nodes.filter Node.isStart).map Node.id

/-- The search from the start nodes. -/
def Search.ofDefinition (d : Definition) : Search :=
  ⟨(starts d).reverse, []⟩

/-- The ids that can be reached from some start node. -/
def reachable (d : Definition) : List String :=
  explore d.connections (.ofDefinition d)

end Flowsmith.Reach
