import Flowsmith.Proofs.PathOrder
import Flowsmith.Proofs.Registration
import Mathlib.Data.List.Induction

/-!
Sets of artifacts as histories of registrations. Whatever is registered and in whatever order, a set
is determined by the list of calls: the first call for a place is kept, the later ones are noted,
and what is kept is listed in the order of paths.
-/

namespace Flowsmith.ArtifactSet

section Order

variable {a : Artifact} {as : List Artifact}

theorem pairwise_insertByPath (free : ∀ b ∈ as, b.path.same a.path = false)
    (ordered : as.Pairwise fun b c => b.path.Precedes c.path) :
    (insertByPath a as).Pairwise fun b c => b.path.Precedes c.path := by
  induction as with
  | nil => simp [insertByPath]
  | cons head rest ih =>
      obtain ⟨below, orderedRest⟩ := List.pairwise_cons.1 ordered
      have freeRest : ∀ b ∈ rest, b.path.same a.path = false :=
        fun b member => free b (List.mem_cons_of_mem _ member)
      unfold insertByPath
      split
      · rename_i before
        have first : a.path.Precedes head.path := Path.compare_eq_lt_iff.1 before
        refine List.pairwise_cons.2 ⟨?_, ordered⟩
        intro b member
        rcases List.mem_cons.1 member with rfl | inRest
        · exact first
        · exact first.trans (below b inRest)
      · rename_i notBefore
        -- The place of the head is another one, so the head comes first.
        have first : head.path.Precedes a.path :=
          Path.precedes_of_not_precedes (mt Path.compare_eq_lt_iff.2 notBefore)
            (free head List.mem_cons_self)
        refine List.pairwise_cons.2 ⟨?_, ih freeRest orderedRest⟩
        intro b member
        rcases mem_insertByPath.1 member with rfl | inRest
        · exact first
        · exact below b inRest

theorem length_insertByPath (a : Artifact) (as : List Artifact) :
    (insertByPath a as).length = as.length + 1 := by
  induction as with
  | nil => rfl
  | cons head rest ih =>
      unfold insertByPath
      split
      · rfl
      · simp [ih]

/-- In the order of paths no place comes twice. -/
theorem apart_of_ordered (ordered : as.Pairwise fun b c => b.path.Precedes c.path) :
    as.Pairwise fun b c => b.path.same c.path = false :=
  ordered.imp Path.Precedes.not_same

end Order

section Outcome

variable (s : ArtifactSet) (a : Artifact)

theorem enter_of_taken {s : ArtifactSet} {a kept : Artifact} (taken : s.get? a.path = some kept) :
    s.enter a =
      (.duplicate, { s with dropped := s.dropped ++ [⟨a.path, kept.category, a.category⟩] }) := by
  simp [enter, taken]

theorem enter_of_free {s : ArtifactSet} {a : Artifact} (free : s.get? a.path = none) :
    s.enter a = (.added, { s with artifacts := insertByPath a s.artifacts }) := by
  simp [enter, free]

/-- A registration adds its artifact or a note, and never both. -/
theorem length_register :
    (s.register a).artifacts.length + (s.register a).dropped.length =
      s.artifacts.length + s.dropped.length + 1 := by
  unfold register
  cases found : s.get? a.path with
  | some kept =>
      simp only [enter_of_taken found, List.length_append, List.length_singleton]
      omega
  | none =>
      simp only [enter_of_free found, length_insertByPath]
      omega

/-- A registration says that it added its artifact exactly when the artifacts are not what they
    were. -/
theorem enter_eq_added_iff : (s.enter a).1 = .added ↔ (s.register a).artifacts ≠ s.artifacts := by
  unfold register
  cases found : s.get? a.path with
  | some kept => simp [enter_of_taken found]
  | none =>
      have longer : insertByPath a s.artifacts ≠ s.artifacts := by
        intro unchanged
        have length := length_insertByPath a s.artifacts
        rw [unchanged] at length
        omega
      simp [enter_of_free found, longer]

theorem pairwise_register {s : ArtifactSet}
    (ordered : s.artifacts.Pairwise fun b c => b.path.Precedes c.path) (a : Artifact) :
    (s.register a).artifacts.Pairwise fun b c => b.path.Precedes c.path := by
  unfold register
  cases found : s.get? a.path with
  | some kept =>
      rw [enter_of_taken found]
      exact ordered
  | none =>
      rw [enter_of_free found]
      exact pairwise_insertByPath (free_of_get? found) ordered

theorem registerAll_append (as bs : List Artifact) :
    s.registerAll (as ++ bs) = (s.registerAll as).registerAll bs := by
  unfold registerAll
  rw [List.foldl_append]

end Outcome

/-- The calls of a list that come too late for their places, each with what the first call there
    was. -/
def late (calls : List Artifact) : List Dropped :=
  calls.zipIdx.filterMap fun (a, i) =>
    ((calls.take i).find? fun b => b.path.same a.path).map fun kept =>
      ⟨a.path, kept.category, a.category⟩

theorem late_concat (calls : List Artifact) (a : Artifact) :
    late (calls ++ [a]) = late calls ++
      ((calls.find? fun b => b.path.same a.path).map fun kept =>
        (⟨a.path, kept.category, a.category⟩ : Dropped)).toList := by
  unfold late
  rw [List.zipIdx_append, List.filterMap_append]
  congr 1
  · -- What comes before a call does not depend on what comes after it.
    refine List.filterMap_congr ?_
    rintro ⟨b, i⟩ member
    have inRange : i < calls.length := by
      have position := List.snd_lt_of_mem_zipIdx member
      omega
    simp only
    rw [List.take_append_of_le_length (Nat.le_of_lt inRange)]
  · cases found : calls.find? (fun b => b.path.same a.path) <;> simp [found]

/-- What a history of registrations, from the empty set on, comes to. -/
structure FirstWins (calls : List Artifact) (s : ArtifactSet) : Prop where
  /-- Asked for a path, the set answers with the first call for that place. -/
  answers : ∀ p, s.get? p = calls.find? fun a => a.path.same p
  /-- The artifacts are in strictly increasing order of their paths. -/
  ordered : s.artifacts.Pairwise fun a b => a.path.Precedes b.path
  /-- The artifacts are those calls that were the first for their places. -/
  listed : ∀ a, a ∈ s.artifacts ↔ calls.find? (fun b => b.path.same a.path) = some a
  /-- The other calls are noted, in their order. -/
  noted : s.dropped = late calls
  /-- No call is lost. -/
  counted : s.artifacts.length + s.dropped.length = calls.length

theorem firstWins_nil : FirstWins [] {} where
  answers _ := rfl
  ordered := .nil
  listed a := by simp
  noted := rfl
  counted := rfl

theorem FirstWins.register {calls : List Artifact} {s : ArtifactSet} (wins : FirstWins calls s)
    (a : Artifact) : FirstWins (calls ++ [a]) (s.register a) := by
  have answers : ∀ p, (s.register a).get? p = (calls ++ [a]).find? fun b => b.path.same p := by
    intro p
    rw [get?_register, wins.answers, List.find?_append, List.find?_singleton]
  have ordered := pairwise_register wins.ordered a
  constructor
  · exact answers
  · exact ordered
  · intro b
    have found := find?_eq_some_iff_of_pairwise (p := b.path) (a := b) (apart_of_ordered ordered)
    rw [← answers, get?, found]
    simp
  · rw [dropped_register, wins.noted, wins.answers, late_concat]
  · rw [length_register, wins.counted, List.length_append, List.length_singleton]

theorem firstWins_run (calls : List Artifact) : FirstWins calls (registerAll {} calls) := by
  induction calls using List.reverseRecOn with
  | nil => exact firstWins_nil
  | append_singleton before a ih =>
      rw [registerAll_append]
      exact ih.register a

/-- The first registration for a place wins. Places are compared by the components of paths, so that
    the spellings of a path with doubled slashes, with slashes at its end or with steps to the place
    itself are one place. Each call says that it added its artifact exactly when it changed what the
    set holds. -/
theorem firstWins_registerAll (calls : List Artifact) :
    FirstWins calls (registerAll {} calls) ∧
    (∀ i a, calls[i]? = some a →
      (((registerAll {} (calls.take i)).enter a).1 = .added ↔
        (registerAll {} (calls.take (i + 1))).artifacts ≠
        (registerAll {} (calls.take i)).artifacts)) ∧
    ∀ front back : String,
      Path.same ⟨front ++ "//" ++ back⟩ ⟨front ++ "/" ++ back⟩ = true ∧
      Path.same ⟨front ++ "/./" ++ back⟩ ⟨front ++ "/" ++ back⟩ = true ∧
      Path.same ⟨front ++ "/" ++ back ++ "/"⟩ ⟨front ++ "/" ++ back⟩ = true := by
  refine ⟨firstWins_run calls, ?_, ?_⟩
  · intro i a call
    have next : registerAll {} (calls.take (i + 1)) =
        (registerAll {} (calls.take i)).register a := by
      rw [List.take_add_one, call, registerAll_append]
      rfl
    rw [next]
    exact enter_eq_added_iff _ a
  · intro front back
    exact ⟨Path.same_doubled_slash front back, Path.same_current_step front back,
      Path.same_trailing_slash front back⟩

end Flowsmith.ArtifactSet
