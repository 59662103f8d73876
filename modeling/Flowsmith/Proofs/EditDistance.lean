import Flowsmith.Text.Similar
import Mathlib.Order.Bounds.Defs

/-!
Suggestions are the nearest names. The distance of two texts is the least number of edits that turn
the one into the other, where an edit may happen anywhere, and edits may follow each other in any
order. The candidate that is suggested is the first one at the least distance, if that is near
enough.
-/

namespace Flowsmith.Text

/-- A single character is inserted, deleted, or replaced. -/
inductive Edit : List Char → List Char → Prop
  | insertion (front back : List Char) (c : Char) : Edit (front ++ back) (front ++ c :: back)
  | deletion (front back : List Char) (c : Char) : Edit (front ++ c :: back) (front ++ back)
  | substitution (front back : List Char) (c d : Char) :
      Edit (front ++ c :: back) (front ++ d :: back)

/-- The first text becomes the second by so many edits. -/
inductive Edits : Nat → List Char → List Char → Prop
  | refl (text : List Char) : Edits 0 text text
  | step {n : Nat} {source between target : List Char} (edit : Edit source between)
      (rest : Edits n between target) : Edits (n + 1) source target

section Scripts

variable {n : Nat} {source target : List Char}

theorem Edit.cons (c : Char) (edit : Edit source target) : Edit (c :: source) (c :: target) := by
  cases edit with
  | insertion front back d => exact .insertion (c :: front) back d
  | deletion front back d => exact .deletion (c :: front) back d
  | substitution front back d e => exact .substitution (c :: front) back d e

theorem Edit.reverse (edit : Edit source target) : Edit source.reverse target.reverse := by
  cases edit with
  | insertion front back c => simpa using Edit.insertion back.reverse front.reverse c
  | deletion front back c => simpa using Edit.deletion back.reverse front.reverse c
  | substitution front back c d => simpa using Edit.substitution back.reverse front.reverse c d

theorem Edits.cons (c : Char) (edits : Edits n source target) :
    Edits n (c :: source) (c :: target) := by
  induction edits with
  | refl text => exact .refl (c :: text)
  | step edit _ ih => exact .step (edit.cons c) ih

theorem Edits.reverse (edits : Edits n source target) : Edits n source.reverse target.reverse := by
  induction edits with
  | refl text => exact .refl text.reverse
  | step edit _ ih => exact .step edit.reverse ih

/-- The first character of the source is deleted before all else. -/
theorem Edits.delete (c : Char) (edits : Edits n source target) :
    Edits (n + 1) (c :: source) target :=
  .step (.deletion [] source c) edits

/-- The first character of the target is inserted before all else. -/
theorem Edits.insert (d : Char) (edits : Edits n source target) :
    Edits (n + 1) source (d :: target) :=
  .step (.insertion [] source d) (edits.cons d)

/-- The first character of the source takes the form that it has in the target. -/
theorem Edits.replace (c d : Char) (edits : Edits n source target) :
    Edits (n + if c = d then 0 else 1) (c :: source) (d :: target) := by
  by_cases same : c = d
  · subst same
    simpa using edits.cons c
  · rw [if_neg same]
    exact .step (.substitution [] source c d) (edits.cons d)

/-- Of two numbers of edits, the less suffices. -/
theorem Edits.min {m : Nat} (edits : Edits m source target) (edits' : Edits n source target) :
    Edits (min m n) source target := by
  rcases Nat.le_total m n with less | less
  · rwa [Nat.min_eq_left less]
  · rwa [Nat.min_eq_right less]

end Scripts

/-- As many edits as the gap says suffice. -/
theorem edits_gap (source target : List Char) : Edits (gap source target) source target := by
  fun_induction gap source target with
  | case1 target =>
      induction target with
      | nil => exact .refl []
      | cons d rest ih => exact ih.insert d
  | case2 c source =>
      have emptied (text : List Char) : Edits text.length text [] := by
        induction text with
        | nil => exact .refl []
        | cons c rest ih => exact ih.delete c
      exact emptied (c :: source)
  | case3 c source d target deleted inserted replaced =>
      exact (deleted.delete c).min ((inserted.insert d).min (replaced.replace c d))

section Optimality

/-! One edit of the source changes the distance to any target by one at most. So a target at
distance zero is not reached by fewer edits than the distance is at the beginning. -/

variable (c d : Char) (source target : List Char)

theorem gap_cons_left_le : gap (c :: source) target ≤ gap source target + 1 := by
  cases target with
  | nil => simp
  | cons d target =>
      rw [gap_cons_cons]
      omega

theorem gap_cons_right_le : gap source (d :: target) ≤ gap source target + 1 := by
  cases source with
  | nil => simp
  | cons c source =>
      rw [gap_cons_cons]
      omega

theorem gap_le_cons_left : gap source target ≤ gap (c :: source) target + 1 := by
  induction target with
  | nil =>
      simp only [gap_nil_right, List.length_cons]
      omega
  | cons d target ih =>
      have right := gap_cons_right_le d source target
      rw [gap_cons_cons]
      omega

theorem gap_replaced_le : gap (c :: source) target ≤ gap (d :: source) target + 1 := by
  induction target with
  | nil => simp
  | cons e target ih =>
      rw [gap_cons_cons, gap_cons_cons]
      split <;> split <;> omega

variable {source target}

/-- What comes before the edit makes no difference. -/
theorem gap_cons_cons_le {edited : List Char}
    (near : ∀ target, gap source target ≤ gap edited target + 1) (target : List Char) :
    gap (c :: source) target ≤ gap (c :: edited) target + 1 := by
  induction target with
  | nil =>
      have lengths := near []
      simp only [gap_nil_right, List.length_cons] at lengths ⊢
      omega
  | cons d target ih =>
      have whole := near (d :: target)
      have rest := near target
      rw [gap_cons_cons, gap_cons_cons]
      omega

theorem gap_le_of_edit {edited : List Char} (edit : Edit source edited) (target : List Char) :
    gap source target ≤ gap edited target + 1 := by
  cases edit with
  | insertion front back c =>
      induction front generalizing target with
      | nil => exact gap_le_cons_left c back target
      | cons e front ih => exact gap_cons_cons_le e ih target
  | deletion front back c =>
      induction front generalizing target with
      | nil => exact gap_cons_left_le c back target
      | cons e front ih => exact gap_cons_cons_le e ih target
  | substitution front back c d =>
      induction front generalizing target with
      | nil => exact gap_replaced_le c d back target
      | cons e front ih => exact gap_cons_cons_le e ih target

theorem gap_self (text : List Char) : gap text text = 0 := by
  induction text with
  | nil => simp
  | cons c rest ih =>
      rw [gap_cons_cons, ih]
      simp

/-- Fewer edits do not suffice. -/
theorem gap_le_of_edits {n : Nat} (edits : Edits n source target) : gap source target ≤ n := by
  induction edits with
  | refl text => exact Nat.le_of_eq (gap_self text)
  | @step n source between target edit _ ih =>
      have near := gap_le_of_edit edit target
      omega

end Optimality

theorem distance_eq (a b : String) : distance a b = gap a.toList.reverse b.toList.reverse := by
  simp only [distance, distance?_eq, Option.get_some]

/-- Texts are read from their ends, but edits are the same in both directions. -/
theorem isLeast_distance (a b : String) :
    IsLeast {n | Edits n a.toList b.toList} (distance a b) := by
  rw [distance_eq]
  constructor
  · have edits := (edits_gap a.toList.reverse b.toList.reverse).reverse
    rwa [List.reverse_reverse, List.reverse_reverse] at edits
  · intro n edits
    exact gap_le_of_edits edits.reverse

section Nearest

variable {f : String → Nat} {names : List String} {name : String}

/-- The first name of a list at which a number is least. -/
def FirstLeast (f : String → Nat) (names : List String) (name : String) : Prop :=
  ∃ before after, names = before ++ name :: after ∧ (∀ c ∈ before, f name < f c) ∧
    ∀ c ∈ after, f name ≤ f c

theorem FirstLeast.le (first : FirstLeast f names name) {c : String} (member : c ∈ names) :
    f name ≤ f c := by
  obtain ⟨before, after, rfl, farther, notNearer⟩ := first
  rcases List.mem_append.1 member with inBefore | inRest
  · exact Nat.le_of_lt (farther c inBefore)
  · rcases List.mem_cons.1 inRest with rfl | inAfter
    · exact Nat.le_refl _
    · exact notNearer c inAfter

/-- There is no other one. -/
theorem FirstLeast.unique {other : String} (first : FirstLeast f names name)
    (first' : FirstLeast f names other) : name = other := by
  have least (c : String) (member : c ∈ names) := first.le member
  have least' (c : String) (member : c ∈ names) := first'.le member
  obtain ⟨before, after, rfl, farther, -⟩ := first
  obtain ⟨before', after', same, farther', -⟩ := first'
  have notBefore : other ∉ before := by
    intro member
    exact absurd (farther other member) (Nat.not_lt.2 (least' name (by simp)))
  have notBefore' : name ∉ before' := by
    intro member
    exact absurd (farther' name member) (Nat.not_lt.2 (least other (by simp [same])))
  rcases List.append_eq_append_iff.1 same with ⟨between, rfl, rest⟩ | ⟨between, rfl, rest⟩
  · cases between with
    | nil => exact (List.cons.inj rest).1
    | cons c between =>
        rw [(List.cons.inj rest).1] at notBefore'
        exact absurd (by simp) notBefore'
  · cases between with
    | nil => exact (List.cons.inj rest).1.symm
    | cons c between =>
        rw [(List.cons.inj rest).1] at notBefore
        exact absurd (by simp) notBefore

/-- The search keeps the first name at which the number is least so far. -/
theorem firstLeast_nearestFrom (f : String → Nat) (best : String) (rest : List String) :
    FirstLeast f (best :: rest) (nearestFrom f best rest) := by
  induction rest generalizing best with
  | nil => exact ⟨[], [], rfl, by simp, by simp⟩
  | cons c rest ih =>
      rw [nearestFrom]
      split
      · rename_i nearer
        have least := (ih c).le List.mem_cons_self
        obtain ⟨before, after, names, farther, notNearer⟩ := ih c
        refine ⟨best :: before, after, ?_, ?_, notNearer⟩
        · rw [names, List.cons_append]
        · intro other member
          rcases List.mem_cons.1 member with rfl | inBefore
          · omega
          · exact farther other inBefore
      · rename_i notNearer'
        obtain ⟨before, after, names, farther, notNearer⟩ := ih best
        cases before with
        | nil =>
            obtain ⟨isBest, rfl⟩ := List.cons.inj names
            rw [← isBest] at notNearer ⊢
            refine ⟨[], c :: rest, rfl, by simp, ?_⟩
            intro other member
            rcases List.mem_cons.1 member with rfl | inRest
            · omega
            · exact notNearer other inRest
        | cons head before =>
            obtain ⟨rfl, others⟩ := List.cons.inj names
            have less := farther best List.mem_cons_self
            refine ⟨best :: c :: before, after, congrArg (best :: c :: ·) others, ?_, notNearer⟩
            intro other member
            rcases List.mem_cons.1 member with rfl | member
            · exact less
            · rcases List.mem_cons.1 member with rfl | inBefore
              · omega
              · exact farther other (List.mem_cons_of_mem _ inBefore)

/-- What is too far away can be left out of the search. -/
theorem firstLeast_of_filter {limit : Nat}
    (first : FirstLeast f (names.filter fun c => f c ≤ limit) name) :
    FirstLeast f names name ∧ f name ≤ limit := by
  obtain ⟨before, after, kept, farther, notNearer⟩ := first
  have near : f name ≤ limit := by
    have member : name ∈ names.filter fun c => f c ≤ limit := by simp [kept]
    simpa using (List.mem_filter.1 member).2
  obtain ⟨front, back, rfl, keptBefore, keptRest⟩ := List.filter_eq_append_iff.1 kept
  obtain ⟨skipped, behind, rfl, tooFar, -, keptAfter⟩ := List.filter_eq_cons_iff.1 keptRest
  refine ⟨⟨front ++ skipped, behind, by simp, ?_, ?_⟩, near⟩
  · intro c member
    rcases List.mem_append.1 member with inFront | inSkipped
    · by_cases close : f c ≤ limit
      · exact farther c (keptBefore ▸ List.mem_filter.2 ⟨inFront, by simpa using close⟩)
      · omega
    · have far : ¬ f c ≤ limit := by simpa using tooFar c inSkipped
      omega
  · intro c member
    by_cases close : f c ≤ limit
    · exact notNearer c (keptAfter ▸ List.mem_filter.2 ⟨member, by simpa using close⟩)
    · omega

end Nearest

/-- How far a candidate is from a target: both are compared in small letters. -/
def remoteness (target candidate : String) : Nat :=
  distance (lowercase target) (lowercase candidate)

section Suggestions

variable {target : String} {candidates : List String}

/-- The candidates that are near enough. -/
def near (target : String) (candidates : List String) : List String :=
  candidates.filter fun c => remoteness target c ≤ suggestionLimit target

theorem mem_near {c : String} :
    c ∈ near target candidates ↔ c ∈ candidates ∧ remoteness target c ≤ suggestionLimit target := by
  simp [near]

theorem similar?_eq (target : String) (candidates : List String) :
    similar? target candidates =
      match near target candidates with
      | [] => none
      | c :: rest => some (nearestFrom (remoteness target) c rest) := rfl

theorem similar?_eq_none_iff :
    similar? target candidates = none ↔
      ∀ c ∈ candidates, suggestionLimit target < remoteness target c := by
  have nothing : similar? target candidates = none ↔ near target candidates = [] := by
    rw [similar?_eq]
    cases near target candidates <;> simp
  rw [nothing, List.eq_nil_iff_forall_not_mem]
  simp only [mem_near, not_and, Nat.not_le]

theorem firstLeast_of_similar? {name : String} (found : similar? target candidates = some name) :
    FirstLeast (remoteness target) candidates name ∧
      remoteness target name ≤ suggestionLimit target := by
  rw [similar?_eq] at found
  cases kept : near target candidates with
  | nil => simp [kept] at found
  | cons c rest =>
      rw [kept] at found
      apply firstLeast_of_filter
      have nearest := firstLeast_nearestFrom (remoteness target) c rest
      rwa [Option.some.inj found, ← kept] at nearest

end Suggestions

/-- The distance of two texts is always found, and is the least number of edits that turn the one
    into the other. A suggestion is the first candidate at the least distance, in small letters, if
    that is at most half the bytes of the target and two. There is none exactly when all candidates
    are farther away. -/
theorem similar?_exact (target : String) (candidates : List String) :
    (∀ a b, distance? a b = some (distance a b) ∧
      IsLeast {n | Edits n a.toList b.toList} (distance a b)) ∧
    (∀ name, similar? target candidates = some name ↔
      FirstLeast (fun c => distance (lowercase target) (lowercase c)) candidates name ∧
        distance (lowercase target) (lowercase name) ≤ target.utf8ByteSize / 2 + 2) ∧
    (similar? target candidates = none ↔
      ∀ c ∈ candidates, target.utf8ByteSize / 2 + 2 <
        distance (lowercase target) (lowercase c)) := by
  refine ⟨?_, ?_, similar?_eq_none_iff⟩
  · intro a b
    exact ⟨by simp [distance], isLeast_distance a b⟩
  · intro name
    refine ⟨firstLeast_of_similar?, ?_⟩
    rintro ⟨first, near⟩
    cases found : similar? target candidates with
    | none =>
        obtain ⟨before, after, rfl, -⟩ := first
        exact absurd (similar?_eq_none_iff.1 found name (by simp)) (Nat.not_lt.2 near)
    | some other =>
        rw [(firstLeast_of_similar? found).1.unique first]

end Flowsmith.Text
