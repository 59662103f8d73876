/-!
Edit distance: the least number of single-character insertions, deletions and substitutions that
turn one text into another. It is the last entry of a table that has a row for each beginning of the
one text, and in the row an entry for each beginning of the other. Two rows of the table are kept:
the last one that is complete, and the one that is being filled.
-/

namespace Flowsmith.Text

/-- Replace an entry of a row, if the row has it. -/
def setAt? (row : Array Nat) (i value : Nat) : Option (Array Nat) :=
  if inside : i < row.size then some (row.set i value) else none

/-- Two rows of the table. The one that is being filled was the row before the last, and what it
    held then is in it until it is filled. -/
structure Rows where
  above : Array Nat
  here : Array Nat

namespace Rows

/-- The rows to begin with: the distances from the empty text, and a row with nothing in it. -/
def start (width : Nat) : Rows :=
  ⟨Array.range (width + 1), Array.replicate (width + 1) 0⟩

/-- Fill the entry behind the `j`th one from the three entries around it. -/
def fill? (c : Char) (target : Array Char) (rows : Rows) (j : Nat) : Option Rows := do
  let d ← target[j]?
  let upper ← rows.above[j + 1]?
  let left ← rows.here[j]?
  let diagonal ← rows.above[j]?
  let here ← setAt? rows.here (j + 1)
    (min (upper + 1) (min (left + 1) (diagonal + if c = d then 0 else 1)))
  return ⟨rows.above, here⟩

/-- Fill the row of a character of the source that `i` others precede. Then the rows change their
    roles. -/
def next? (target : Array Char) (rows : Rows) (i : Nat) (c : Char) : Option Rows := do
  let here ← setAt? rows.here 0 (i + 1)
  let filled ← (List.range target.size).foldlM (fill? c target) ⟨rows.above, here⟩
  return ⟨filled.here, filled.above⟩

/-- Fill the rows of all characters of the source that `i` others precede. -/
def run? (target : Array Char) (rows : Rows) (i : Nat) : List Char → Option Rows
  | [] => some rows
  | c :: source => do
      let filled ← rows.next? target i c
      filled.run? target (i + 1) source

end Rows

/-- The edit distance of two texts, as long as the rows have all entries that are asked for. -/
def distance? (a b : String) : Option Nat :=
  let source := a.toList
  let target := b.toList.toArray
  if source.isEmpty then some target.size
  else if target.isEmpty then some source.length
  else do
    let rows ← (Rows.start target.size).run? target 0 source
    rows.above[target.size]?

section Entries

/-! The rows hold the distances between beginnings, so that no entry that is asked for is
missing. -/

/-- The distance by what becomes of the first characters: that of the source is deleted, that of the
    target is inserted, or the one takes the place of the other. -/
def gap : List Char → List Char → Nat
  | [], target => target.length
  | c :: source, [] => (c :: source).length
  | c :: source, d :: target =>
      min (gap source (d :: target) + 1)
        (min (gap (c :: source) target + 1) (gap source target + if c = d then 0 else 1))
termination_by source target => source.length + target.length

@[simp] theorem gap_nil_left (target : List Char) : gap [] target = target.length := by
  rw [gap]

@[simp] theorem gap_nil_right (source : List Char) : gap source [] = source.length := by
  cases source <;> simp [gap]

theorem gap_cons_cons (c d : Char) (source target : List Char) :
    gap (c :: source) (d :: target) =
      min (gap source (d :: target) + 1)
        (min (gap (c :: source) target + 1) (gap source target + if c = d then 0 else 1)) := by
  rw [gap]

/-- A row for a beginning of the source, of which so many entries are filled. Beginnings are read
    backwards: what is new in them comes first. -/
structure IsRow (before : List Char) (target : Array Char) (filled : Nat) (row : Array Nat) :
    Prop where
  size : row.size = target.size + 1
  entries : ∀ j < filled, row[j]? = some (gap before (target.toList.take j).reverse)

variable {before : List Char} {target : Array Char}

theorem setAt?_of_lt {row : Array Nat} {i : Nat} (inside : i < row.size) (value : Nat) :
    setAt? row i value = some (row.set i value) := by
  simp [setAt?, inside]

/-- One more entry is filled. -/
theorem IsRow.set {row : Array Nat} {filled : Nat} (isRow : IsRow before target filled row)
    (inside : filled < row.size) :
    IsRow before target (filled + 1)
      (row.set filled (gap before (target.toList.take filled).reverse)) := by
  constructor
  · rw [Array.size_set, isRow.size]
  · intro j below
    rw [Array.getElem?_set]
    by_cases last : filled = j
    · rw [if_pos last, last]
    · rw [if_neg last]
      exact isRow.entries j (by omega)

/-- The distances from the empty text. -/
theorem isRow_range (target : Array Char) :
    IsRow [] target (target.size + 1) (Array.range (target.size + 1)) := by
  constructor
  · exact Array.size_range
  · intro j below
    have fits : j ≤ target.toList.length := by simpa using Nat.le_of_lt_succ below
    rw [Array.getElem?_range, if_pos below, gap_nil_left, List.length_reverse,
      List.length_take_of_le fits]

/-- Rows of which the one above is complete, and the one below it, for one character more, is filled
    so far. -/
structure Rows.Filled (before : List Char) (c : Char) (target : Array Char) (filled : Nat)
    (rows : Rows) :
    Prop where
  above : IsRow before target (target.size + 1) rows.above
  here : IsRow (c :: before) target filled rows.here

theorem Rows.Filled.exists_fill? {c : Char} {rows : Rows} {j : Nat}
    (soFar : rows.Filled before c target (j + 1)) (inside : j < target.size) :
    ∃ further, rows.fill? c target j = some further ∧ further.Filled before c target (j + 2) := by
  obtain ⟨above, here⟩ := soFar
  have next : j + 1 < rows.here.size := by
    rw [here.size]
    omega
  -- The entry is the distance of the two beginnings, by what becomes of their last characters.
  have longer : (target.toList.take (j + 1)).reverse =
      target[j] :: (target.toList.take j).reverse := by
    rw [List.take_add_one]
    simp [inside]
  have entry := gap_cons_cons c target[j] before (target.toList.take j).reverse
  rw [← longer] at entry
  refine ⟨⟨rows.above, rows.here.set (j + 1) _⟩, ?_, above, here.set next⟩
  simp only [Rows.fill?, Array.getElem?_eq_getElem inside, above.entries (j + 1) (by omega),
    above.entries j (by omega), here.entries j (by omega), Option.bind_eq_bind, Option.bind_some,
    ← entry, setAt?_of_lt next]
  rfl

/-- A row is filled from left to right. -/
theorem Rows.Filled.exists_foldlM {c : Char} {rows : Rows} (first : rows.Filled before c target 1)
    {n : Nat} (inside : n ≤ target.size) :
    ∃ further, (List.range n).foldlM (fill? c target) rows = some further ∧
      further.Filled before c target (n + 1) := by
  induction n with
  | zero => exact ⟨rows, rfl, first⟩
  | succ n ih =>
      obtain ⟨soFar, run, filled⟩ := ih (by omega)
      obtain ⟨further, step, filled'⟩ := filled.exists_fill? (by omega)
      refine ⟨further, ?_, filled'⟩
      rw [List.range_succ, List.foldlM_append, run]
      simpa using step

/-- Rows of which the one above is complete, and the one below it has room for the next. -/
structure Rows.Ready (before : List Char) (target : Array Char) (rows : Rows) : Prop where
  above : IsRow before target (target.size + 1) rows.above
  room : rows.here.size = target.size + 1

theorem Rows.Ready.exists_next? {rows : Rows} (ready : rows.Ready before target) (c : Char) :
    ∃ further, rows.next? target before.length c = some further ∧
      further.Ready (c :: before) target := by
  obtain ⟨above, room⟩ := ready
  have inside : 0 < rows.here.size := by
    rw [room]
    omega
  have untouched : IsRow (c :: before) target 0 rows.here := ⟨room, by simp⟩
  have first : Filled before c target 1 ⟨rows.above, rows.here.set 0 (before.length + 1)⟩ := by
    refine ⟨above, ?_⟩
    simpa using untouched.set inside
  obtain ⟨filled, run, whole⟩ := first.exists_foldlM (Nat.le_refl _)
  refine ⟨⟨filled.here, filled.above⟩, ?_, whole.here, whole.above.size⟩
  simp [next?, setAt?_of_lt inside, run]

theorem Rows.Ready.exists_run? {rows : Rows} (ready : rows.Ready before target)
    (source : List Char) :
    ∃ further, rows.run? target before.length source = some further ∧
      further.Ready (source.reverse ++ before) target := by
  induction source generalizing before rows with
  | nil => exact ⟨rows, rfl, ready⟩
  | cons c rest ih =>
      obtain ⟨filled, step, ready'⟩ := ready.exists_next? c
      obtain ⟨further, run, ready''⟩ := ih ready'
      refine ⟨further, ?_, by simpa using ready''⟩
      rw [run?, step]
      exact run

theorem Rows.ready_start (target : Array Char) : (start target.size).Ready [] target :=
  ⟨isRow_range target, Array.size_replicate⟩

/-- Every entry that is asked for is there, and the last one is the distance, read from the ends. -/
theorem distance?_eq (a b : String) :
    distance? a b = some (gap a.toList.reverse b.toList.reverse) := by
  unfold distance?
  simp only
  split
  · rename_i empty
    simp [List.isEmpty_iff.1 empty]
  · split
    · rename_i empty
      have nothing : b.toList = [] := by simpa using empty
      simp [nothing]
    · obtain ⟨rows, run, ready⟩ := (Rows.ready_start b.toList.toArray).exists_run? a.toList
      have last := ready.above.entries b.toList.toArray.size (by omega)
      rw [List.length_nil] at run
      simp only [run, Option.bind_eq_bind, Option.bind_some, last]
      simp

end Entries

/-- The edit distance of two texts. -/
def distance (a b : String) : Nat :=
  (distance? a b).get (by rw [distance?_eq]; rfl)

end Flowsmith.Text
