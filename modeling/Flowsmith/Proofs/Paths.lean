import Flowsmith.Path

/-!
Places of joined paths. Joining a file name onto a path adds one component to it, whatever the path
looks like: empty, ended by a slash, absolute. So two files of one directory share a place only when
they share their name.
-/

namespace Flowsmith.Path

/-- A piece of path that is a name: it has no slash and is no step of its own. -/
def IsFileName (piece : String) : Prop :=
  '/' ∉ piece.toList ∧ piece.toList ≠ [] ∧ piece.toList ≠ ['.'] ∧ piece.toList ≠ ['.', '.']

instance (piece : String) : Decidable (IsFileName piece) :=
  inferInstanceAs (Decidable (_ ∧ _ ∧ _ ∧ _))

/-- The steps of the pieces between slashes; `absolute` says whether a slash comes first. -/
def stepsOfPieces (absolute : Bool) : List (List Char) → List Component
  | [] => []
  | first :: rest =>
      if first = [] then
        if absolute then .root :: rest.filterMap stepOf else rest.filterMap stepOf
      else if first = ['.'] then .current :: rest.filterMap stepOf
      else (stepOf first).toList ++ rest.filterMap stepOf

theorem components_eq_stepsOfPieces (p : Path) :
    p.components = stepsOfPieces p.isAbsolute (p.text.toList.splitOn '/') := by
  unfold components isAbsolute
  cases p.text.toList.splitOn '/' with
  | nil => rfl
  | cons first rest => simp [stepsOfPieces]

theorem stepsOfPieces_append {absolute : Bool} {pieces : List (List Char)} (notEmpty : pieces ≠ [])
    (more : List (List Char)) :
    stepsOfPieces absolute (pieces ++ more) =
      stepsOfPieces absolute pieces ++ more.filterMap stepOf := by
  cases pieces with
  | nil => exact absurd rfl notEmpty
  | cons first rest =>
      simp only [List.cons_append, stepsOfPieces, List.filterMap_append]
      split
      · split <;> simp
      · split <;> simp

theorem stepOf_fileName {piece : String} (file : IsFileName piece) :
    stepOf piece.toList = some (.name piece) := by
  obtain ⟨-, notEmpty, notDot, notDots⟩ := file
  simp [stepOf, notEmpty, notDot, notDots]

/-- A slash parts the steps before it from the steps after it; with nothing before it, it is the
    root. -/
theorem components_of_slash {p : Path} {front back : List Char}
    (text : p.text.toList = front ++ '/' :: back) :
    p.components = stepsOfPieces (front.head?.all fun c => c = '/') (front.splitOn '/') ++
      (back.splitOn '/').filterMap stepOf := by
  have start : p.isAbsolute = front.head?.all fun c => c = '/' := by
    unfold isAbsolute
    rw [text]
    cases front with
    | nil => simp
    | cons c cs => simp
  rw [components_eq_stepsOfPieces, start, text, List.splitOn_append_cons_self,
    stepsOfPieces_append (List.splitOn_ne_nil '/' front)]

/-- An absolute path begins at the root. -/
theorem root_mem_components {p : Path} (absolute : p.isAbsolute = true) : .root ∈ p.components := by
  unfold isAbsolute at absolute
  obtain ⟨rest, text⟩ := List.head?_eq_some_iff.1 (of_decide_eq_true absolute)
  have slash : p.text.toList = [] ++ '/' :: rest := text
  simp [components_of_slash slash, stepsOfPieces]

/-- A path that begins neither at the root nor at the place itself: what it is joined to is not
    looked at. -/
def IsInner (p : Path) : Prop :=
  .root ∉ p.components ∧ .current ∉ p.components

/-- The steps of an inner path are those of its pieces, the first one like the others. -/
theorem IsInner.components_eq {p : Path} (inner : p.IsInner) :
    p.components = (p.text.toList.splitOn '/').filterMap stepOf := by
  have relative : p.isAbsolute = false := by
    rw [Bool.eq_false_iff]
    intro absolute
    exact inner.1 (root_mem_components absolute)
  have notCurrent := inner.2
  rw [components_eq_stepsOfPieces, relative] at notCurrent ⊢
  cases pieces : p.text.toList.splitOn '/' with
  | nil => exact absurd pieces (List.splitOn_ne_nil '/' _)
  | cons first rest =>
      by_cases empty : first = []
      · simp [stepsOfPieces, empty, stepOf]
      · by_cases dot : first = ['.']
        · rw [pieces] at notCurrent
          exact absurd (by simp [stepsOfPieces, dot]) notCurrent
        · cases step : stepOf first <;> simp [stepsOfPieces, empty, dot, step]

/-- The steps of an inner path come after those of the path that it is joined to. -/
theorem components_join_text (p : Path) {q : Path} (inner : q.IsInner) :
    (p.join q.text).components = p.components ++ q.components := by
  have relative : q.text.toList.head? ≠ some '/' := by
    intro slash
    exact inner.1 (root_mem_components (by simp [isAbsolute, slash]))
  unfold join
  rw [if_neg relative]
  split
  · rename_i edge
    rcases edge with empty | slash
    · have nowhere : p.components = [] := by
        simp [components_eq_stepsOfPieces, empty, stepsOfPieces, isAbsolute]
      rw [nowhere, empty, String.empty_append, List.nil_append]
    · obtain ⟨front, ended⟩ := List.getLast?_eq_some_iff.1 slash
      have joined : (p.text ++ q.text).toList = front ++ '/' :: q.text.toList := by simp [ended]
      rw [components_of_slash joined, components_of_slash ended, inner.components_eq]
      simp [stepOf]
  · rename_i between
    have joined : (p.text ++ "/" ++ q.text).toList = p.text.toList ++ '/' :: q.text.toList := by
      simp
    have start : (p.text.toList.head?.all fun c => c = '/') = p.isAbsolute := by
      cases text : p.text.toList with
      | nil => exact absurd (.inl (String.toList_eq_nil_iff.1 text)) between
      | cons c cs => simp [isAbsolute, text]
    rw [components_of_slash joined, start, ← components_eq_stepsOfPieces, inner.components_eq]

theorem components_fileName {piece : String} (file : IsFileName piece) :
    components ⟨piece⟩ = [.name piece] := by
  have pieces : piece.toList.splitOn '/' = [piece.toList] := List.splitOn_eq_singleton file.1
  rw [components_eq_stepsOfPieces]
  simp [pieces, stepsOfPieces, stepOf_fileName file, file.2.1, file.2.2.1]

/-- Joining a file name adds its component at the end. -/
theorem components_join {p : Path} {piece : String} (file : IsFileName piece) :
    (p.join piece).components = p.components ++ [.name piece] := by
  have inner : IsInner ⟨piece⟩ := by simp [IsInner, components_fileName file]
  rw [p.components_join_text inner, components_fileName file]

/-- The path of some names has them as its steps. -/
theorem components_ofPieces {pieces : List String} (names : ∀ piece ∈ pieces, IsFileName piece) :
    (ofPieces pieces).components = pieces.map .name := by
  have joined (p : Path) : (pieces.foldl Path.join p).components =
      p.components ++ pieces.map .name := by
    induction pieces generalizing p with
    | nil => simp
    | cons piece rest ih =>
        rw [List.forall_mem_cons] at names
        rw [List.foldl_cons, ih names.2, components_join names.1, List.append_assoc]
        rfl
  have nowhere : empty.components = [] := by decide
  rw [ofPieces, joined, nowhere, List.nil_append]

theorem same_iff {p q : Path} : p.same q = true ↔ p.components = q.components := by
  simp [same]

@[simp] theorem same_self (p : Path) : p.same p = true :=
  same_iff.2 rfl

theorem same_symm {p q : Path} (equal : p.same q = true) : q.same p = true :=
  same_iff.2 (same_iff.1 equal).symm

theorem same_trans {p q r : Path} (first : p.same q = true) (second : q.same r = true) :
    p.same r = true :=
  same_iff.2 ((same_iff.1 first).trans (same_iff.1 second))

/-- The place that a path is compared with may be replaced by another path to it. -/
theorem same_congr_right {p q : Path} (equal : p.same q = true) (r : Path) :
    r.same p = r.same q := by
  unfold same
  rw [same_iff.1 equal]

/-- Two files of one directory share a place only when they share their name. -/
theorem same_join_iff {p : Path} {first second : String} (file : IsFileName first)
    (file' : IsFileName second) :
    (p.join first).same (p.join second) = true ↔ first = second := by
  rw [same_iff, components_join file, components_join file']
  simp

section Spellings

/-! Doubled slashes, slashes at the end and steps to the place itself are not seen, wherever they
stand behind a slash. -/

/-- What stands for nothing between two slashes can be left out, with one of them. -/
theorem same_of_idle {p q : Path} {idle : List Char} (front back : List Char)
    (nothing : (idle.splitOn '/').filterMap stepOf = [])
    (longer : p.text.toList = front ++ '/' :: (idle ++ '/' :: back))
    (shorter : q.text.toList = front ++ '/' :: back) : p.same q = true := by
  rw [same_iff, components_of_slash longer, components_of_slash shorter,
    List.splitOn_append_cons_self, List.filterMap_append, nothing, List.nil_append]

variable (front back : String)

theorem same_doubled_slash : same ⟨front ++ "//" ++ back⟩ ⟨front ++ "/" ++ back⟩ = true := by
  have nothing : (([] : List Char).splitOn '/').filterMap stepOf = [] := by decide
  exact same_of_idle front.toList back.toList nothing (by simp) (by simp)

theorem same_current_step : same ⟨front ++ "/./" ++ back⟩ ⟨front ++ "/" ++ back⟩ = true := by
  have nothing : (['.'].splitOn '/').filterMap stepOf = [] := by decide
  exact same_of_idle front.toList back.toList nothing (by simp) (by simp)

theorem same_trailing_slash : same ⟨front ++ "/" ++ back ++ "/"⟩ ⟨front ++ "/" ++ back⟩ = true := by
  have ended : (front ++ "/" ++ back ++ "/").toList =
      front.toList ++ '/' :: (back.toList ++ ['/']) := by
    simp
  have unended : (front ++ "/" ++ back).toList = front.toList ++ '/' :: back.toList := by simp
  rw [same_iff, components_of_slash ended, components_of_slash unended,
    List.splitOn_append_cons_self]
  simp [stepOf]

end Spellings

end Flowsmith.Path
