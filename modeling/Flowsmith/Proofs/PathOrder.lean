import Flowsmith.Proofs.Paths
import Mathlib.Data.List.Lex
import Mathlib.Data.String.Basic

/-!
The order of paths is the lexicographic order of their components, a strict total order of places.
It is not the order of texts: `a-b` comes before `a/b` as a text and after it as a path.
-/

namespace Flowsmith.Path

/-- The kinds of components in their order. -/
def Component.rank : Component → Nat
  | .root => 0
  | .current => 1
  | .parent => 2
  | .name _ => 3

/-- Components are ordered by their kinds, and names among themselves by their texts. -/
def Component.Precedes (a b : Component) : Prop :=
  a.rank < b.rank ∨ a.rank = b.rank ∧ a.text < b.text

/-- Which of two paths comes first, component by component. -/
def Precedes (p q : Path) : Prop :=
  List.Lex Component.Precedes p.components q.components

namespace Component

theorem compare_eq_lt_iff {a b : Component} : a.compare b = .lt ↔ a.Precedes b := by
  unfold Precedes
  cases a <;> cases b <;> simp [compare, rank, text, compareOfLessAndEq_eq_lt]

theorem compare_eq_eq_iff {a b : Component} : a.compare b = .eq ↔ a = b := by
  cases a <;> cases b <;> simp [compare, compareOfLessAndEq_eq_eq le_refl not_le]

/-- Two components of one kind are told apart by their texts. -/
theorem eq_of_rank_of_text {a b : Component} (kind : a.rank = b.rank) (same : a.text = b.text) :
    a = b := by
  cases a <;> cases b <;> simp_all [rank, text]

instance : IsStrictTotalOrder Component Precedes where
  irrefl a before := by
    rcases before with kind | ⟨-, text⟩
    · omega
    · exact lt_irrefl _ text
  trans a b c first second := by
    rcases first with kind | ⟨kind, text⟩ <;> rcases second with kind' | ⟨kind', text'⟩
    · exact .inl (by omega)
    · exact .inl (by omega)
    · exact .inl (by omega)
    · exact .inr ⟨by omega, text.trans text'⟩
  trichotomous a b notBefore notAfter := by
    simp only [Precedes, not_or, not_and, not_lt] at notBefore notAfter
    have kind : a.rank = b.rank := by omega
    exact eq_of_rank_of_text kind (le_antisymm (notAfter.2 kind.symm) (notBefore.2 kind))

end Component

theorem compareSteps_eq_lt_iff {as bs : List Component} :
    compareSteps as bs = .lt ↔ List.Lex Component.Precedes as bs := by
  induction as generalizing bs with
  | nil => cases bs <;> simp [compareSteps]
  | cons a as ih =>
      cases bs with
      | nil => simp [compareSteps]
      | cons b bs =>
          rw [compareSteps, Ordering.then_eq_lt, Component.compare_eq_lt_iff,
            Component.compare_eq_eq_iff, ih, List.cons_lex_cons_iff]

theorem compare_eq_lt_iff {p q : Path} : p.compare q = .lt ↔ p.Precedes q :=
  compareSteps_eq_lt_iff

instance : IsStrictTotalOrder (List Component) (List.Lex Component.Precedes) :=
  { isStrictWeakOrder_of_isOrderConnected with }

theorem Precedes.trans {p q r : Path} (first : p.Precedes q) (second : q.Precedes r) :
    p.Precedes r :=
  IsTrans.trans (r := List.Lex Component.Precedes) _ _ _ first second

theorem Precedes.not_same {p q : Path} (before : p.Precedes q) : p.same q = false := by
  rw [Bool.eq_false_iff]
  intro equal
  unfold Precedes at before
  rw [same_iff.1 equal] at before
  exact irrefl_of (List.Lex Component.Precedes) _ before

/-- Of two places one comes first. -/
theorem precedes_of_not_precedes {p q : Path} (notBefore : ¬ p.Precedes q)
    (apart : q.same p = false) : q.Precedes p := by
  rw [Bool.eq_false_iff, Ne, same_iff] at apart
  rcases trichotomous_of (List.Lex Component.Precedes) q.components p.components with
    before | equal | after
  · exact before
  · exact absurd equal apart
  · exact absurd after notBefore

end Flowsmith.Path
