import Flowsmith.Artifact
import Flowsmith.Proofs.Paths
import Mathlib.Data.List.Forall2

/-!
Look-up in sets of artifacts. A set answers for each path with the first artifact that was
registered there; what is registered later changes no answer that was given.
-/

namespace Flowsmith.ArtifactSet

theorem mem_insertByPath {a b : Artifact} {as : List Artifact} :
    b ∈ insertByPath a as ↔ b = a ∨ b ∈ as := by
  induction as with
  | nil => simp [insertByPath]
  | cons head rest ih =>
      unfold insertByPath
      split
      · simp
      · simp only [List.mem_cons, ih]
        grind

/-- Searching for a path meets an inserted artifact only where it belongs, if its place was free. -/
theorem find?_insertByPath {a : Artifact} {as : List Artifact} (p : Path)
    (free : ∀ b ∈ as, b.path.same a.path = false) :
    (insertByPath a as).find? (fun b => b.path.same p) =
      if a.path.same p then some a else as.find? fun b => b.path.same p := by
  induction as with
  | nil => cases met : a.path.same p <;> simp [insertByPath, met]
  | cons head rest ih =>
      have freeRest : ∀ b ∈ rest, b.path.same a.path = false :=
        fun b member => free b (List.mem_cons_of_mem _ member)
      unfold insertByPath
      split
      · cases met : a.path.same p <;> simp [met]
      · rw [List.find?_cons, List.find?_cons, ih freeRest]
        cases met : head.path.same p with
        | false => simp
        | true =>
            -- The head is at the place that is asked for, so the inserted artifact is not.
            have apart : a.path.same p = false := by
              rw [Bool.eq_false_iff]
              intro alsoMet
              have clash := Path.same_trans met (Path.same_symm alsoMet)
              rw [free head List.mem_cons_self] at clash
              exact Bool.noConfusion clash
            simp [apart]

theorem get?_congr (s : ArtifactSet) {p q : Path} (equal : p.same q = true) :
    s.get? p = s.get? q := by
  unfold get?
  congr 1
  funext a
  exact Path.same_congr_right equal a.path

theorem free_of_get? {s : ArtifactSet} {p : Path} (none : s.get? p = none) :
    ∀ b ∈ s.artifacts, b.path.same p = false := by
  intro b member
  simpa using List.find?_eq_none.1 none b member

/-- After a registration a set answers as before, and with the new artifact where it had no
    answer. -/
theorem get?_register (s : ArtifactSet) (a : Artifact) (p : Path) :
    (s.register a).get? p = (s.get? p).or (if a.path.same p then some a else none) := by
  unfold register enter
  cases taken : s.get? a.path with
  | some existing =>
      simp only
      cases met : a.path.same p with
      | false =>
          change s.get? p = _
          simp
      | true =>
          change s.get? p = _
          rw [← s.get?_congr met, taken]
          rfl
  | none =>
      have found := find?_insertByPath p (free_of_get? taken)
      simp only
      change (insertByPath a s.artifacts).find? _ = _
      rw [found]
      cases met : a.path.same p with
      | false =>
          change s.get? p = _
          simp
      | true =>
          rw [← s.get?_congr met, taken]
          rfl

/-- A list of registrations answers for each path with the first artifact of it that is there. -/
theorem get?_registerAll (s : ArtifactSet) (as : List Artifact) (p : Path) :
    (s.registerAll as).get? p = (s.get? p).or (as.find? fun a => a.path.same p) := by
  unfold registerAll
  induction as generalizing s with
  | nil => simp
  | cons head rest ih =>
      rw [List.foldl_cons, ih, get?_register, Option.or_assoc, List.find?_cons]
      cases head.path.same p <;> rfl

/-- What a set answers is not changed by registrations. -/
theorem get?_registerAll_of_get? {s : ArtifactSet} {p : Path} {a : Artifact}
    (held : s.get? p = some a) (as : List Artifact) : (s.registerAll as).get? p = some a := by
  rw [get?_registerAll, held]
  rfl

theorem get?_register_of_get? {s : ArtifactSet} {p : Path} {a : Artifact}
    (held : s.get? p = some a) (b : Artifact) : (s.register b).get? p = some a := by
  rw [get?_register, held]
  rfl

/-- Among artifacts at places apart from one another, what is at a path is what is found there. -/
theorem find?_eq_some_iff_of_pairwise {as : List Artifact} {p : Path} {a : Artifact}
    (apart : as.Pairwise fun a b => a.path.same b.path = false) :
    as.find? (fun b => b.path.same p) = some a ↔ a ∈ as ∧ a.path.same p = true := by
  constructor
  · intro found
    exact ⟨List.mem_of_find?_eq_some found, by simpa using List.find?_some found⟩
  · rintro ⟨member, atPath⟩
    induction as with
    | nil => exact absurd member (List.not_mem_nil)
    | cons head tail ih =>
        obtain ⟨headApart, tailApart⟩ := List.pairwise_cons.1 apart
        rcases List.mem_cons.1 member with rfl | inTail
        · rw [List.find?_cons, atPath]
        · have notHead : head.path.same p = false := by
            rw [Bool.eq_false_iff]
            intro met
            have clash := Path.same_trans met (Path.same_symm atPath)
            rw [headApart a inTail] at clash
            exact Bool.noConfusion clash
          rw [List.find?_cons, notHead]
          exact ih tailApart inTail

/-- Where nothing was, artifacts at places apart from one another are all found. -/
theorem get?_registerAll_of_pairwise {s : ArtifactSet} {as : List Artifact} (rest : List Artifact)
    (free : ∀ a ∈ as, s.get? a.path = none)
    (apart : as.Pairwise fun a b => a.path.same b.path = false) :
    ∀ a ∈ as, (s.registerAll (as ++ rest)).get? a.path = some a := by
  intro a member
  have first : as.find? (fun b => b.path.same a.path) = some a :=
    (find?_eq_some_iff_of_pairwise apart).2 ⟨member, Path.same_self _⟩
  rw [get?_registerAll, free a member, List.find?_append, first]
  rfl

/-- A set holds nothing but what was there and what was registered. -/
theorem mem_register {s : ArtifactSet} {a b : Artifact} (member : b ∈ (s.register a).artifacts) :
    b ∈ s.artifacts ∨ b = a := by
  unfold register enter at member
  split at member
  · exact .inl member
  · exact (mem_insertByPath.1 member).symm

theorem mem_registerAll {s : ArtifactSet} {as : List Artifact} {b : Artifact}
    (member : b ∈ (s.registerAll as).artifacts) : b ∈ s.artifacts ∨ b ∈ as := by
  unfold registerAll at member
  induction as generalizing s with
  | nil => exact .inl member
  | cons head rest ih =>
      rcases ih member with inSet | inRest
      · rcases mem_register inSet with inSet | rfl
        · exact .inl inSet
        · exact .inr List.mem_cons_self
      · exact .inr (List.mem_cons_of_mem _ inRest)

theorem contains_eq_false_iff {s : ArtifactSet} {p : Path} :
    s.contains p = false ↔ s.get? p = none := by
  simp [contains]

theorem mem_of_get? {s : ArtifactSet} {p : Path} {a : Artifact} (held : s.get? p = some a) :
    a ∈ s.artifacts :=
  List.mem_of_find?_eq_some held

/-- A registration notes that it was dropped exactly when its place is taken. -/
theorem dropped_register (s : ArtifactSet) (a : Artifact) :
    (s.register a).dropped = s.dropped ++
      ((s.get? a.path).map fun kept => (⟨a.path, kept.category, a.category⟩ : Dropped)).toList := by
  unfold register enter
  cases s.get? a.path <;> simp

theorem dropped_prefix_registerAll (s : ArtifactSet) (as : List Artifact) :
    s.dropped <+: (s.registerAll as).dropped := by
  unfold registerAll
  induction as generalizing s with
  | nil => exact List.prefix_rfl
  | cons head rest ih =>
      have first : s.dropped <+: (s.register head).dropped := by
        rw [dropped_register]
        exact List.prefix_append _ _
      exact first.trans (ih (s.register head))

/-- The notes of a list of registrations are about the artifacts of that list. -/
theorem mem_dropped_registerAll {s : ArtifactSet} {as : List Artifact} {d : Dropped}
    (member : d ∈ (s.registerAll as).dropped) :
    d ∈ s.dropped ∨ ∃ a ∈ as, d.path = a.path ∧ d.dropped = a.category := by
  unfold registerAll at member
  induction as generalizing s with
  | nil => exact .inl member
  | cons head rest ih =>
      rcases ih member with noted | ⟨a, inRest, about⟩
      · rw [dropped_register, List.mem_append] at noted
        rcases noted with before | now
        · exact .inl before
        · obtain ⟨kept, -, rfl⟩ := Option.map_eq_some_iff.1 (Option.mem_toList.1 now)
          exact .inr ⟨head, List.mem_cons_self, rfl, rfl⟩
      · exact .inr ⟨a, List.mem_cons_of_mem _ inRest, about⟩

/-- What became of a registration: the set holds the artifact, or holds another one at its place and
    notes that this one was dropped. -/
def Reports (s : ArtifactSet) (a : Artifact) : Prop :=
  s.get? a.path = some a ∨
    ∃ kept, s.get? a.path = some kept ∧ ⟨a.path, kept.category, a.category⟩ ∈ s.dropped

theorem reports_register (s : ArtifactSet) (a : Artifact) : (s.register a).Reports a := by
  cases taken : s.get? a.path with
  | none =>
      left
      simp [get?_register, taken]
  | some kept =>
      right
      refine ⟨kept, get?_register_of_get? taken a, ?_⟩
      simp [dropped_register, taken]

/-- What is registered later leaves a report as it is. -/
theorem Reports.registerAll {s : ArtifactSet} {a : Artifact} (reports : s.Reports a)
    (as : List Artifact) : (s.registerAll as).Reports a := by
  rcases reports with held | ⟨kept, held, noted⟩
  · exact .inl (get?_registerAll_of_get? held as)
  · exact .inr ⟨kept, get?_registerAll_of_get? held as,
      (dropped_prefix_registerAll s as).subset noted⟩

/-- No registration is lost without a note. -/
theorem reports_registerAll (s : ArtifactSet) {as : List Artifact} {a : Artifact}
    (member : a ∈ as) : (s.registerAll as).Reports a := by
  induction as generalizing s with
  | nil => exact absurd member (List.not_mem_nil)
  | cons head rest ih =>
      rcases List.mem_cons.1 member with rfl | inRest
      · exact (reports_register s a).registerAll rest
      · exact ih (s.register head) inRest

/-- A list of registrations drops nothing exactly when its places are free and apart from one
    another. -/
theorem dropped_registerAll_eq_iff (s : ArtifactSet) (as : List Artifact) :
    (s.registerAll as).dropped = s.dropped ↔
      (∀ a ∈ as, s.get? a.path = none) ∧ as.Pairwise fun a b => a.path.same b.path = false := by
  induction as generalizing s with
  | nil => simp [registerAll]
  | cons head rest ih =>
      change ((s.register head).registerAll rest).dropped = s.dropped ↔ _
      cases taken : s.get? head.path with
      | some kept =>
          -- The note about the head stays, so there is one more at the end than at the beginning.
          have noted := (dropped_prefix_registerAll (s.register head) rest).length_le
          rw [dropped_register, taken] at noted
          constructor
          · intro same
            rw [same] at noted
            simp only [Option.map_some, Option.toList_some, List.length_append,
              List.length_singleton] at noted
            omega
          · rintro ⟨free, -⟩
            rw [free head List.mem_cons_self] at taken
            exact absurd taken (by simp)
      | none =>
          have unchanged : (s.register head).dropped = s.dropped := by
            simp [dropped_register, taken]
          rw [← unchanged, ih, List.pairwise_cons]
          simp only [get?_register, Option.or_eq_none_iff, List.mem_cons, forall_eq_or_imp, taken,
            true_and, ite_eq_right_iff, reduceCtorEq, imp_false, Bool.not_eq_true]
          constructor
          · rintro ⟨free, apart⟩
            exact ⟨fun a member => (free a member).1, fun a member => (free a member).2, apart⟩
          · rintro ⟨free, headApart, apart⟩
            exact ⟨fun a member => ⟨free a member, headApart a member⟩, apart⟩

/-- Searching related lists for what agrees on related artifacts finds related ones. -/
theorem rel_find? {rel : Artifact → Artifact → Prop} {p q : Artifact → Bool}
    (agree : ∀ {a b}, rel a b → q b = p a) {as bs : List Artifact}
    (related : List.Forall₂ rel as bs) :
    Option.Rel rel (as.find? p) (bs.find? q) := by
  induction related with
  | nil => exact .none
  | cons head _ ih =>
      rw [List.find?_cons, List.find?_cons, agree head]
      split
      · exact .some head
      · exact ih

/-- Two sets whose artifacts are related one by one, and that have dropped the same. -/
structure Related (rel : Artifact → Artifact → Prop) (s t : ArtifactSet) : Prop where
  artifacts : List.Forall₂ rel s.artifacts t.artifacts
  dropped : t.dropped = s.dropped

namespace Related

variable {rel : Artifact → Artifact → Prop} {s t : ArtifactSet} {a b : Artifact}
  (keeps : ∀ {a b}, rel a b → b.path = a.path ∧ b.category = a.category)

include keeps

/-- Related sets answer with related artifacts. -/
theorem get? (related : s.Related rel t) (path : Path) :
    Option.Rel rel (s.get? path) (t.get? path) := by
  refine rel_find? ?_ related.artifacts
  intro a b head
  rw [(keeps head).1]

theorem contains (related : s.Related rel t) (head : rel a b) :
    t.contains b.path = s.contains a.path := by
  have found := related.get? keeps a.path
  rw [ArtifactSet.contains, ArtifactSet.contains, (keeps head).1]
  generalize s.get? a.path = first at found ⊢
  generalize t.get? a.path = second at found ⊢
  cases found <;> rfl

theorem insertByPath (head : rel a b) {as bs : List Artifact} (related : List.Forall₂ rel as bs) :
    List.Forall₂ rel (insertByPath a as) (insertByPath b bs) := by
  induction related with
  | nil => exact .cons head .nil
  | cons first rest ih =>
      rw [ArtifactSet.insertByPath, ArtifactSet.insertByPath, (keeps head).1, (keeps first).1]
      split
      · exact .cons head (.cons first rest)
      · exact .cons first ih

/-- Sets stay related when related artifacts are registered in them. -/
theorem register (related : s.Related rel t) (head : rel a b) :
    (s.register a).Related rel (t.register b) := by
  have found := related.get? keeps a.path
  unfold ArtifactSet.register ArtifactSet.enter
  rw [(keeps head).1, (keeps head).2]
  cases inFirst : s.get? a.path with
  | none =>
      rw [inFirst] at found
      cases inSecond : t.get? a.path with
      | none => exact ⟨insertByPath keeps head related.artifacts, related.dropped⟩
      | some held =>
          rw [inSecond] at found
          cases found
  | some held =>
      rw [inFirst] at found
      cases inSecond : t.get? a.path with
      | none =>
          rw [inSecond] at found
          cases found
      | some held' =>
          rw [inSecond] at found
          cases found with
          | some heldToo =>
              refine ⟨related.artifacts, ?_⟩
              simp only [related.dropped, (keeps heldToo).2]

theorem registerAll (related : s.Related rel t) {as bs : List Artifact}
    (all : List.Forall₂ rel as bs) : (s.registerAll as).Related rel (t.registerAll bs) := by
  unfold ArtifactSet.registerAll
  induction all generalizing s t with
  | nil => exact related
  | cons head _ ih => exact ih (related.register keeps head)

end Related

end Flowsmith.ArtifactSet
