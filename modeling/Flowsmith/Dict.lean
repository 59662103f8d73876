/-!
Dictionaries with text keys. The entries are kept in increasing order of their keys, so a key occurs
once and two dictionaries with the same look-ups are equal.
-/

namespace Flowsmith

variable {α β : Type}

/-- Put a value at its place in an ordered list of entries, replacing the one that the key had. -/
def insertEntry (key : String) (value : α) : List (String × α) → List (String × α)
  | [] => [(key, value)]
  | (k, v) :: rest =>
      if key < k then (key, value) :: (k, v) :: rest
      else if key = k then (key, value) :: rest
      else (k, v) :: insertEntry key value rest

/-- The keys of an entry list increase strictly. -/
def KeysIncrease (entries : List (String × α)) : Prop :=
  entries.Pairwise (fun a b => a.1 < b.1)

private theorem string_lt_of_not_lt_of_ne {a b : String} (notLess : ¬ a < b) (differ : a ≠ b) :
    b < a := by
  by_cases h : b < a
  · exact h
  · exact absurd (String.le_antisymm (String.not_lt.1 h) (String.not_lt.1 notLess)) differ

private theorem mem_insertEntry {key : String} {value : α} {entries : List (String × α)}
    {e : String × α} (member : e ∈ insertEntry key value entries) :
    e = (key, value) ∨ e ∈ entries := by
  induction entries with
  | nil => simpa [insertEntry] using member
  | cons head rest ih =>
      obtain ⟨k, v⟩ := head
      unfold insertEntry at member
      split at member
      · rcases List.mem_cons.1 member with h | h
        · exact .inl h
        · exact .inr h
      · split at member
        · rcases List.mem_cons.1 member with h | h
          · exact .inl h
          · exact .inr (List.mem_cons_of_mem _ h)
        · rcases List.mem_cons.1 member with h | h
          · exact .inr (h ▸ List.mem_cons_self)
          · rcases ih h with h | h
            · exact .inl h
            · exact .inr (List.mem_cons_of_mem _ h)

/-- Insertion keeps the keys increasing. -/
theorem keysIncrease_insertEntry {key : String} {value : α} {entries : List (String × α)}
    (increase : KeysIncrease entries) : KeysIncrease (insertEntry key value entries) := by
  induction entries with
  | nil => simp [insertEntry, KeysIncrease]
  | cons head rest ih =>
      obtain ⟨k, v⟩ := head
      obtain ⟨below, restIncrease⟩ := List.pairwise_cons.1 increase
      unfold insertEntry
      split
      · rename_i less
        refine List.pairwise_cons.2 ⟨fun e member => ?_, increase⟩
        rcases List.mem_cons.1 member with h | h
        · exact h ▸ less
        · exact String.lt_trans less (below e h)
      · rename_i notLess
        split
        · rename_i equal
          exact List.pairwise_cons.2 ⟨fun e member => equal ▸ below e member, restIncrease⟩
        · rename_i differ
          refine List.pairwise_cons.2 ⟨fun e member => ?_, ih restIncrease⟩
          rcases mem_insertEntry member with h | h
          · exact h ▸ string_lt_of_not_lt_of_ne notLess differ
          · exact below e h

/-- A dictionary: entries in increasing order of their keys. -/
structure Dict (α : Type) where
  entries : List (String × α) := []
  increase : KeysIncrease entries := by exact List.Pairwise.nil
deriving DecidableEq

namespace Dict

/-- The dictionary with no entries. -/
def empty : Dict α := {}

instance : Inhabited (Dict α) := ⟨empty⟩

/-- Set the value of a key. -/
def insert (d : Dict α) (key : String) (value : α) : Dict α :=
  ⟨insertEntry key value d.entries, keysIncrease_insertEntry d.increase⟩

/-- The dictionary of a list of entries; the last entry of a key wins. -/
def ofList (entries : List (String × α)) : Dict α :=
  entries.foldl (fun d e => d.insert e.1 e.2) empty

/-- The value of a key. -/
def get? (d : Dict α) (key : String) : Option α :=
  d.entries.lookup key

/-- Whether a key has a value. -/
def contains (d : Dict α) (key : String) : Bool :=
  (d.get? key).isSome

/-- Change every value, keeping its key. -/
def map (f : α → β) (d : Dict α) : Dict β :=
  ⟨d.entries.map (fun e => (e.1, f e.2)), by
    have increase := d.increase
    simp only [KeysIncrease, List.pairwise_map] at increase ⊢
    exact increase⟩

/-- The keys, in increasing order. -/
def keys (d : Dict α) : List String :=
  d.entries.map Prod.fst

/-- The values, in the order of their keys. -/
def values (d : Dict α) : List α :=
  d.entries.map Prod.snd

/-- Whether there is no entry. -/
def isEmpty (d : Dict α) : Bool :=
  d.entries.isEmpty

end Dict

end Flowsmith
