import Flowsmith.Proofs.Connectors
import Mathlib.Data.List.Basic

/-!
The bindings of a configuration. Channels are told apart by name and direction. The declared
bindings stay where they are, repeated ones too; what properties ask for comes after them, each
channel once; and a default property marks the first binding of the channel that it names, wherever
that one is from.
-/

namespace Flowsmith

namespace Binding

/-- What channels are told apart by. -/
def key (b : Binding) : String × Direction :=
  (b.name, b.direction)

theorem isFor_iff {name : String} {d : Direction} {b : Binding} :
    b.isFor name d = true ↔ b.key = (name, d) := by
  simp [isFor, key]

@[simp] theorem key_asDefault (b : Binding) : b.asDefault.key = b.key := by
  simp [key]

/-- A binding is told by its channel and the defaults that it claims. -/
theorem eq_of_key_eq {b c : Binding} (keys : b.key = c.key)
    (claims : ∀ d, b.isDefaultFor d = true ↔ c.isDefaultFor d = true) : b = c := by
  have input := Bool.eq_iff_iff.2 (claims .input)
  have output := Bool.eq_iff_iff.2 (claims .output)
  obtain ⟨name, direction, defaultInput, defaultOutput⟩ := b
  obtain ⟨name', direction', defaultInput', defaultOutput'⟩ := c
  simp only [key, Prod.mk.injEq] at keys
  simp only [isDefaultFor] at input output
  rw [keys.1, keys.2, input, output]

end Binding

theorem Channel.mem_keys_iff {bindings : List Binding} {name : String} {d : Direction} :
    (name, d) ∈ bindings.map Binding.key ↔ IsBound bindings name d := by
  simp [IsBound, Binding.key]

namespace Messaging

open Channel

/-- The binding at a position is the first one of the channel that the default property of its
    direction names. -/
structure NamesFirst (m : Messaging) (bindings : List Binding) (i : Nat) (b : Binding) : Prop where
  found : bindings[i]? = some b
  named : m.properties.get? b.direction.defaultProperty = some b.name
  first : ¬ IsBound (bindings.take i) b.name b.direction

/-- What the bindings of a configuration are. -/
structure Collects (m : Messaging) (bindings : List Binding) : Prop where
  /-- The declared bindings come first. One that a default property names first becomes the default
      of its direction; nothing else of them changes. -/
  declared : ∀ i b, m.bindings[i]? = some b →
    (m.NamesFirst m.bindings i b → bindings[i]? = some b.asDefault) ∧
    (¬ m.NamesFirst m.bindings i b → bindings[i]? = some b)
  /-- No channel that comes after them is among them, and none comes twice. -/
  once : ∀ i b, m.bindings.length ≤ i → bindings[i]? = some b →
    bindings.countP (Binding.isFor b.name b.direction) = 1
  bound : ∀ name d, IsBound bindings name d ↔
    IsBound m.bindings name d ∨
      (name ≠ "" ∧ m.properties.contains (d.propertyRoot ++ "." ++ name ++ ".connector") = true) ∨
      m.properties.get? (d.propertyRoot ++ ".default") = some name
  /-- Defaults are claimed by declaration, or by the default property of the direction. -/
  claimed : ∀ i b, bindings[i]? = some b → ∀ d,
    (b.isDefaultFor d = true ↔
      (∃ c, m.bindings[i]? = some c ∧ c.isDefaultFor d = true) ∨
        (b.direction = d ∧ m.NamesFirst bindings i b))

section Keys

/-! How channels are added, seen on what they are told apart by. -/

variable {keys old new : List (String × Direction)} {key : String × Direction}

/-- Add a channel at the end, unless it is there already. -/
def enlist (keys : List (String × Direction)) (key : String × Direction) :
    List (String × Direction) :=
  if key ∈ keys then keys else keys ++ [key]

/-- Channels that have been added to others: all of them new, and none twice. -/
def Grows (old new : List (String × Direction)) : Prop :=
  ∃ added, new = old ++ added ∧ added.Nodup ∧ ∀ key ∈ added, key ∉ old

theorem prefix_enlist (keys : List (String × Direction)) (key : String × Direction) :
    keys <+: enlist keys key := by
  unfold enlist
  split
  · exact List.prefix_rfl
  · exact List.prefix_append keys [key]

theorem mem_enlist (keys : List (String × Direction)) (key : String × Direction) :
    key ∈ enlist keys key := by
  unfold enlist
  split
  case isTrue there => exact there
  case isFalse => simp

/-- The channel that is added is where it was, or at the end. -/
theorem idxOf_enlist (keys : List (String × Direction)) (key : String × Direction) :
    (enlist keys key).idxOf key = keys.idxOf key := by
  unfold enlist
  split
  case isTrue => rfl
  case isFalse new => simp [List.idxOf_append_of_notMem new, List.idxOf_of_notMem new]

theorem grows_refl (keys : List (String × Direction)) : Grows keys keys :=
  ⟨[], by simp⟩

theorem Grows.enlist (grows : Grows old new) (key : String × Direction) :
    Grows old (enlist new key) := by
  obtain ⟨added, rfl, distinct, fresh⟩ := grows
  unfold Messaging.enlist
  split
  case isTrue => exact ⟨added, rfl, distinct, fresh⟩
  case isFalse absent =>
      simp only [List.mem_append, not_or] at absent
      refine ⟨added ++ [key], by rw [List.append_assoc], ?_, ?_⟩
      · rw [← List.concat_eq_append]
        exact distinct.concat absent.2
      · intro k member
        rcases List.mem_append.1 member with before | last
        · exact fresh k before
        · rw [List.mem_singleton.1 last]
          exact absent.1

/-- What has been added is there once. -/
theorem Grows.count_eq_one (grows : Grows old new) {i : Nat} (later : old.length ≤ i)
    (found : new[i]? = some key) :
    new.count key = 1 := by
  obtain ⟨added, rfl, distinct, fresh⟩ := grows
  rw [List.getElem?_append_right later] at found
  have member := List.mem_of_getElem? found
  rw [List.count_append, List.count_eq_zero_of_not_mem (fresh key member),
    List.count_eq_one_of_mem distinct member]

/-- Where a list has a key for the first time. -/
theorem eq_idxOf_iff {i : Nat} {k : String × Direction} (found : keys[i]? = some k) :
    i = keys.idxOf key ↔ k = key ∧ key ∉ keys.take i := by
  induction keys generalizing i with
  | nil => simp at found
  | cons head rest ih =>
      by_cases here : head = key
      · cases i with
        | zero => simpa [here, eq_comm] using found
        | succ i => simp [here]
      · rw [List.idxOf_cons_ne rest here]
        cases i with
        | zero =>
            obtain rfl : head = k := by simpa using found
            simp [here]
        | succ i => simpa [Ne.symm here] using ih (by simpa using found)

end Keys

section Adding

variable {bindings : List Binding} {d : Direction} {i : Nat}

theorem keys_addConnector (bindings : List Binding) (property : String) :
    (addConnector bindings property).map Binding.key =
      match connector? property with
      | none => bindings.map Binding.key
      | some key => enlist (bindings.map Binding.key) key := by
  unfold addConnector
  cases connector? property with
  | none => rfl
  | some key =>
      obtain ⟨name, d⟩ := key
      simp only [enlist]
      by_cases bound : IsBound bindings name d
      · rw [if_pos (any_isFor_iff.2 bound), if_pos (mem_keys_iff.2 bound)]
      · rw [if_neg (mt any_isFor_iff.1 bound), if_neg (mt mem_keys_iff.1 bound), List.map_append]
        rfl

theorem keys_claimDefault (name : String) (d : Direction) (bindings : List Binding) :
    (claimDefault name d bindings).map Binding.key =
      enlist (bindings.map Binding.key) (name, d) := by
  induction bindings with
  | nil => simp [claimDefault, enlist, Binding.key]
  | cons b rest ih =>
      unfold claimDefault
      by_cases same : b.isFor name d = true
      · have isKey := Binding.isFor_iff.1 same
        simp [same, isKey, enlist]
      · have notKey : ¬ b.key = (name, d) := fun isKey => same (Binding.isFor_iff.2 isKey)
        rw [if_neg same, List.map_cons, List.map_cons, ih]
        unfold enlist
        by_cases there : (name, d) ∈ rest.map Binding.key
        · rw [if_pos there, if_pos (List.mem_cons_of_mem _ there)]
        · have absent : (name, d) ∉ b.key :: rest.map Binding.key := by
            rw [List.mem_cons, not_or]
            exact ⟨Ne.symm notKey, there⟩
          rw [if_neg there, if_neg absent, List.cons_append]

theorem keys_addDefault (properties : Dict String) (bindings : List Binding) (d : Direction) :
    (addDefault properties bindings d).map Binding.key =
      match properties.get? d.defaultProperty with
      | none => bindings.map Binding.key
      | some name => enlist (bindings.map Binding.key) (name, d) := by
  unfold addDefault
  cases properties.get? d.defaultProperty with
  | none => rfl
  | some name => exact keys_claimDefault name d bindings

/-- The binding at a position claims a default. -/
def ClaimsAt (bindings : List Binding) (i : Nat) (d : Direction) : Prop :=
  ∃ b, bindings[i]? = some b ∧ b.isDefaultFor d = true

@[simp] theorem claimsAt_zero (b : Binding) (rest : List Binding) (d : Direction) :
    ClaimsAt (b :: rest) 0 d ↔ b.isDefaultFor d = true := by
  simp [ClaimsAt]

@[simp] theorem claimsAt_succ (b : Binding) (rest : List Binding) (i : Nat) (d : Direction) :
    ClaimsAt (b :: rest) (i + 1) d ↔ ClaimsAt rest i d := by
  simp [ClaimsAt]

theorem not_claimsAt_nil (i : Nat) (d : Direction) : ¬ ClaimsAt [] i d := by
  simp [ClaimsAt]

theorem claimsAt_addConnector (bindings : List Binding) (property : String) (i : Nat)
    (d : Direction) :
    ClaimsAt (addConnector bindings property) i d ↔ ClaimsAt bindings i d := by
  unfold addConnector
  split
  · rfl
  · split
    · rfl
    · -- The binding that is added claims nothing.
      induction bindings generalizing i with
      | nil => cases i <;> simp [ClaimsAt]
      | cons b rest ih => cases i <;> simp_all

/-- A default is claimed for the first binding of the channel, or for the new one at the end. -/
theorem claimsAt_claimDefault (name : String) (direction : Direction)
    (bindings : List Binding) (i : Nat) (d : Direction) :
    ClaimsAt (claimDefault name direction bindings) i d ↔
      ClaimsAt bindings i d ∨
        (direction = d ∧ i = (bindings.map Binding.key).idxOf (name, direction)) := by
  induction bindings generalizing i with
  | nil => cases i <;> simp [claimDefault, not_claimsAt_nil, Binding.isDefaultFor_asDefault_iff]
  | cons b rest ih =>
      unfold claimDefault
      rw [List.map_cons]
      by_cases same : b.isFor name direction = true
      · have isKey := Binding.isFor_iff.1 same
        have own : b.direction = direction := congrArg Prod.snd isKey
        rw [if_pos same, List.idxOf_cons_eq _ isKey]
        cases i <;> simp [Binding.isDefaultFor_asDefault_iff, own]
      · have notKey : ¬ b.key = (name, direction) := fun isKey => same (Binding.isFor_iff.2 isKey)
        rw [if_neg same, List.idxOf_cons_ne _ notKey]
        cases i <;> simp [ih]

theorem claimsAt_addDefault (properties : Dict String) (bindings : List Binding)
    (direction : Direction) (i : Nat) (d : Direction) :
    ClaimsAt (addDefault properties bindings direction) i d ↔
      ClaimsAt bindings i d ∨
        (direction = d ∧ ∃ name, properties.get? d.defaultProperty = some name ∧
          i = ((addDefault properties bindings direction).map Binding.key).idxOf (name, d)) := by
  rw [keys_addDefault]
  unfold addDefault
  cases named : properties.get? direction.defaultProperty with
  | none =>
      have unnamed : direction = d → properties.get? d.defaultProperty = none :=
        fun same => same ▸ named
      simp +contextual [unnamed]
  | some name =>
      simp only
      rw [claimsAt_claimDefault]
      refine or_congr_right (and_congr_right fun same => ?_)
      subst same
      simp [named, idxOf_enlist]

theorem prefix_foldl_addDefault (properties : Dict String) (directions : List Direction)
    (bindings : List Binding) :
    bindings.map Binding.key <+:
      (directions.foldl (addDefault properties) bindings).map Binding.key := by
  induction directions generalizing bindings with
  | nil => exact List.prefix_rfl
  | cons direction rest ih =>
      refine List.IsPrefix.trans ?_ (ih _)
      rw [keys_addDefault]
      split
      · exact List.prefix_rfl
      · exact prefix_enlist _ _

/-- Each default property marks the binding that is, in the end, the first of the channel that it
    names. -/
theorem claimsAt_foldl_addDefault (properties : Dict String) (directions : List Direction)
    (bindings : List Binding) (i : Nat) (d : Direction) :
    ClaimsAt (directions.foldl (addDefault properties) bindings) i d ↔
      ClaimsAt bindings i d ∨
        (d ∈ directions ∧ ∃ name, properties.get? d.defaultProperty = some name ∧
          i = ((directions.foldl (addDefault properties) bindings).map Binding.key).idxOf
            (name, d)) := by
  induction directions generalizing bindings with
  | nil => simp
  | cons direction rest ih =>
      -- What comes later is added at the end, so the channel stays where it is found now.
      have stays : ∀ name, properties.get? direction.defaultProperty = some name →
          ((addDefault properties bindings direction).map Binding.key).idxOf (name, direction) =
            ((rest.foldl (addDefault properties) (addDefault properties bindings direction)).map
              Binding.key).idxOf (name, direction) := by
        intro name named
        refine (prefix_foldl_addDefault properties rest _).idxOf_eq_of_mem ?_
        simp only [keys_addDefault, named]
        exact mem_enlist _ _
      rw [List.foldl_cons, ih, claimsAt_addDefault, List.mem_cons, or_assoc, or_and_right]
      refine or_congr_right (or_congr_left ?_)
      rw [eq_comm (a := direction)]
      refine and_congr_right fun same => exists_congr fun name => and_congr_right fun named => ?_
      subst same
      rw [stays name named]

theorem Grows.foldl {α : Type} {step : List Binding → α → List Binding}
    {old : List (String × Direction)}
    (each : ∀ bindings a, Grows old (bindings.map Binding.key) →
      Grows old ((step bindings a).map Binding.key))
    (as : List α) {bindings : List Binding} (grows : Grows old (bindings.map Binding.key)) :
    Grows old ((as.foldl step bindings).map Binding.key) := by
  induction as generalizing bindings with
  | nil => exact grows
  | cons a rest ih => exact ih (each bindings a grows)

end Adding

section All

variable (m : Messaging)

/-- The channels of all bindings are those of the declared ones and new ones after them. -/
theorem grows_allBindings : Grows (m.bindings.map Binding.key) (m.allBindings.map Binding.key) := by
  refine Grows.foldl ?_ _ (Grows.foldl ?_ _ (grows_refl _))
  · intro bindings d grows
    rw [keys_addDefault]
    split
    · exact grows
    · exact grows.enlist _
  · intro bindings property grows
    rw [keys_addConnector]
    split
    · exact grows
    · exact grows.enlist _

theorem claimsAt_allBindings (i : Nat) (d : Direction) :
    ClaimsAt m.allBindings i d ↔
      ClaimsAt m.bindings i d ∨ ∃ name, m.properties.get? d.defaultProperty = some name ∧
        i = (m.allBindings.map Binding.key).idxOf (name, d) := by
  have connected : ∀ (properties : List String) (bindings : List Binding),
      ClaimsAt (properties.foldl addConnector bindings) i d ↔ ClaimsAt bindings i d := by
    intro properties
    induction properties with
    | nil => exact fun _ => Iff.rfl
    | cons property rest ih =>
        exact fun bindings => (ih _).trans (claimsAt_addConnector bindings property i d)
  have both : d ∈ [Direction.input, Direction.output] := by cases d <;> simp
  unfold allBindings
  rw [claimsAt_foldl_addDefault, connected]
  simp only [both, true_and]

variable {m} {bindings : List Binding} {i : Nat} {b : Binding}

/-- The first binding of a named channel, by the channels before it. -/
theorem namesFirst_iff (found : bindings[i]? = some b) {d : Direction} :
    (b.direction = d ∧ m.NamesFirst bindings i b) ↔
      ∃ name, m.properties.get? d.defaultProperty = some name ∧
        i = (bindings.map Binding.key).idxOf (name, d) := by
  have place : (bindings.map Binding.key)[i]? = some b.key := by rw [List.getElem?_map, found]; rfl
  have before (name : String) :
      (name, d) ∈ (bindings.map Binding.key).take i ↔ IsBound (bindings.take i) name d := by
    rw [← List.map_take, mem_keys_iff]
  simp only [eq_idxOf_iff place, before, Binding.key, Prod.mk.injEq]
  constructor
  · rintro ⟨rfl, -, named, first⟩
    exact ⟨b.name, named, ⟨rfl, rfl⟩, first⟩
  · rintro ⟨name, named, ⟨rfl, rfl⟩, first⟩
    exact ⟨rfl, found, named, first⟩

/-- Whether a binding is named first is told by its channel and those before it. -/
theorem NamesFirst.congr {others : List Binding} {c : Binding} (key : b.key = c.key)
    (found : others[i]? = some c)
    (before : (bindings.map Binding.key).take i = (others.map Binding.key).take i)
    (first : m.NamesFirst bindings i b) : m.NamesFirst others i c := by
  simp only [Binding.key, Prod.mk.injEq] at key
  obtain ⟨-, named, isFirst⟩ := first
  rw [key.1, key.2] at named isFirst
  rw [← mem_keys_iff, List.map_take, before, ← List.map_take, mem_keys_iff] at isFirst
  exact ⟨found, named, isFirst⟩

theorem isDefaultFor_allBindings_iff (found : m.allBindings[i]? = some b) (d : Direction) :
    b.isDefaultFor d = true ↔
      ClaimsAt m.bindings i d ∨ (b.direction = d ∧ m.NamesFirst m.allBindings i b) := by
  rw [namesFirst_iff found, ← claimsAt_allBindings]
  simp [ClaimsAt, found]

/-- A declared binding is still there, with the same channel and the same channels before it. -/
theorem exists_allBindings_of_declared (declared : m.bindings[i]? = some b) :
    ∃ c, m.allBindings[i]? = some c ∧ c.key = b.key ∧
      (m.bindings.map Binding.key).take i = (m.allBindings.map Binding.key).take i := by
  obtain ⟨added, keys, -⟩ := grows_allBindings m
  have inside : i < (m.bindings.map Binding.key).length := by
    rw [List.length_map]
    exact (List.getElem?_eq_some_iff.1 declared).1
  have place : (m.allBindings.map Binding.key)[i]? = some b.key := by
    rw [keys, List.getElem?_append_left inside, List.getElem?_map, declared]
    rfl
  rw [List.getElem?_map, Option.map_eq_some_iff] at place
  obtain ⟨c, found, key⟩ := place
  refine ⟨c, found, key, ?_⟩
  rw [keys, List.take_append_of_le_length inside.le]

/-- The bindings are what the configuration says, whatever is declared and whichever names its
    properties hold. -/
theorem collects_allBindings (m : Messaging) : m.Collects m.allBindings := by
  refine {
    declared := ?_
    once := ?_
    bound := ?_
    claimed := ?_ }
  · intro i b declared
    obtain ⟨c, found, key, before⟩ := exists_allBindings_of_declared declared
    have direction : c.direction = b.direction := congrArg Prod.snd key
    have claims : ∀ d, c.isDefaultFor d = true ↔
        b.isDefaultFor d = true ∨ (b.direction = d ∧ m.NamesFirst m.bindings i b) := by
      intro d
      rw [isDefaultFor_allBindings_iff found, direction]
      refine or_congr (by simp [ClaimsAt, declared]) (and_congr_right fun _ => ?_)
      exact ⟨fun first => first.congr key declared before.symm,
        fun first => first.congr key.symm found before⟩
    constructor
    · intro first
      rw [found, Binding.eq_of_key_eq (key.trans (Binding.key_asDefault b).symm) fun d => by
        simp [claims d, Binding.isDefaultFor_asDefault_iff, first]]
    · intro notFirst
      rw [found, Binding.eq_of_key_eq key fun d => by simp [claims d, notFirst]]
  · intro i b later found
    have place : (m.allBindings.map Binding.key)[i]? = some b.key := by
      rw [List.getElem?_map, found]
      rfl
    have single := (grows_allBindings m).count_eq_one (by simpa using later) place
    rw [List.count, List.countP_map] at single
    rw [← single]
    refine List.countP_congr fun c _ => ?_
    simp [Binding.isFor_iff, Binding.key]
  · intro name d
    exact isBound_allBindings_iff m
  · intro i b found d
    exact isDefaultFor_allBindings_iff found d

end All

end Messaging

end Flowsmith
