import Flowsmith.Executable
import Mathlib.Data.List.Nodup

/-!
Look-up in dictionaries, and the processes that nodes call.
-/

namespace Flowsmith

variable {α : Type}

/-- Look-up with a condition in place of a match on truth values. -/
private theorem lookup_cons_eq (k : String) (e : String × α) (rest : List (String × α)) :
    (e :: rest).lookup k = if k = e.1 then some e.2 else rest.lookup k := by
  rw [List.lookup_cons]
  by_cases asked : k = e.1
  · simp [asked]
  · rw [beq_eq_false_iff_ne.2 asked, if_neg asked]

/-- Look-up after an insertion. Nothing is assumed of the order of the entries. -/
theorem lookup_insertEntry (key : String) (value : α) (entries : List (String × α)) (k : String) :
    (insertEntry key value entries).lookup k =
      if k = key then some value else entries.lookup k := by
  induction entries with
  | nil => rw [insertEntry, lookup_cons_eq]
  | cons head rest ih =>
      obtain ⟨first, held⟩ := head
      unfold insertEntry
      split
      · rw [lookup_cons_eq]
      · split
        · rename_i replaced
          subst replaced
          rw [lookup_cons_eq, lookup_cons_eq]
          by_cases asked : k = key <;> simp [asked]
        · rename_i differ
          rw [lookup_cons_eq, lookup_cons_eq, ih]
          by_cases here : k = first
          · have other : ¬ k = key := fun asked => differ (asked.symm.trans here)
            rw [if_pos here, if_pos here, if_neg other]
          · rw [if_neg here, if_neg here]

/-- Where no key comes twice, look-up is membership. -/
theorem lookup_eq_some_iff_mem {entries : List (String × α)}
    (distinct : (entries.map Prod.fst).Nodup) {k : String} {v : α} :
    entries.lookup k = some v ↔ (k, v) ∈ entries := by
  induction entries with
  | nil => simp
  | cons head rest ih =>
      obtain ⟨fresh, distinctRest⟩ := List.nodup_cons.1 distinct
      rw [lookup_cons_eq, List.mem_cons]
      by_cases asked : k = head.1
      · have notLater : (k, v) ∉ rest := by
          intro later
          exact fresh (asked ▸ List.mem_map_of_mem later)
        rw [if_pos asked]
        constructor
        · intro found
          left
          rw [asked, ← Option.some.inj found]
        · rintro (here | later)
          · rw [← here]
          · exact absurd later notLater
      · have notHere : (k, v) ≠ head := by
          intro here
          exact asked (by rw [← here])
        rw [if_neg asked, ih distinctRest]
        simp [notHere]

namespace Dict

@[simp] theorem get?_empty (k : String) : (empty : Dict α).get? k = none := rfl

@[simp] theorem get?_insert (d : Dict α) (key : String) (value : α) (k : String) :
    (d.insert key value).get? k = if k = key then some value else d.get? k :=
  lookup_insertEntry key value d.entries k

/-- The last entry of a key wins. -/
theorem get?_ofList (entries : List (String × α)) (k : String) :
    (ofList entries).get? k = entries.reverse.lookup k := by
  have run : ∀ d : Dict α, (entries.foldl (fun d e => d.insert e.1 e.2) d).get? k =
      (entries.reverse.lookup k).or (d.get? k) := by
    induction entries with
    | nil => intro d; rfl
    | cons head rest ih =>
        intro d
        rw [List.foldl_cons, ih, get?_insert, List.reverse_cons, List.lookup_append,
          Option.or_assoc]
        rw [lookup_cons_eq, List.lookup_nil]
        by_cases asked : k = head.1 <;> simp [asked]
  rw [ofList, run empty, get?_empty, Option.or_none]

/-- A key has a value when there is an entry of it. -/
theorem isSome_get?_iff (d : Dict α) (k : String) :
    (d.get? k).isSome = true ↔ ∃ v, (k, v) ∈ d.entries := by
  rw [get?, List.lookup_isSome_iff]
  constructor
  · rintro ⟨⟨key, value⟩, member, asked⟩
    obtain rfl : k = key := by simpa using asked
    exact ⟨value, member⟩
  · rintro ⟨value, member⟩
    exact ⟨(k, value), member, by simp⟩

theorem mem_keys_iff {d : Dict α} {key : String} : key ∈ d.keys ↔ d.contains key = true := by
  rw [contains, isSome_get?_iff, keys]
  simp

theorem get?_map {β : Type} (f : α → β) (d : Dict α) (k : String) :
    (d.map f).get? k = (d.get? k).map f := by
  simp only [get?, map]
  induction d.entries with
  | nil => rfl
  | cons head rest ih =>
      rw [List.map_cons, lookup_cons_eq, lookup_cons_eq, ih, apply_ite (Option.map f),
        Option.map_some]

theorem nodup_keys (d : Dict α) : (d.entries.map Prod.fst).Nodup := by
  refine List.pairwise_map.2 (d.increase.imp ?_)
  intro e f less equal
  rw [equal] at less
  exact String.lt_irrefl _ less

/-- Two dictionaries with the same look-ups are equal. -/
theorem ext_get? {d e : Dict α} (same : ∀ k, d.get? k = e.get? k) : d = e := by
  have members : ∀ entry, entry ∈ d.entries ↔ entry ∈ e.entries := by
    rintro ⟨k, v⟩
    rw [← lookup_eq_some_iff_mem d.nodup_keys, ← lookup_eq_some_iff_mem e.nodup_keys]
    change d.get? k = some v ↔ e.get? k = some v
    rw [same k]
  have perm : d.entries.Perm e.entries :=
    (List.perm_ext_iff_of_nodup (List.Nodup.of_map _ d.nodup_keys)
      (List.Nodup.of_map _ e.nodup_keys)).2 members
  have entries : d.entries = e.entries := by
    refine perm.eq_of_pairwise ?_ d.increase e.increase
    intro a b _ _ less more
    exact absurd more (String.lt_asymm less)
  obtain ⟨entries₁, increase₁⟩ := d
  obtain ⟨entries₂, increase₂⟩ := e
  simpa using entries

/-- Where no key comes twice, the order of the entries does not matter. -/
theorem ofList_eq_of_perm {xs ys : List (String × α)} (distinct : (xs.map Prod.fst).Nodup)
    (perm : xs.Perm ys) : ofList xs = ofList ys := by
  have distinct' : (ys.map Prod.fst).Nodup := (perm.map Prod.fst).nodup_iff.1 distinct
  have reversed (zs : List (String × α)) (nodup : (zs.map Prod.fst).Nodup) :
      (zs.reverse.map Prod.fst).Nodup := by
    rw [List.map_reverse]
    exact List.nodup_reverse.2 nodup
  refine ext_get? ?_
  intro k
  rw [get?_ofList, get?_ofList]
  refine Option.ext ?_
  intro v
  rw [lookup_eq_some_iff_mem (reversed xs distinct), lookup_eq_some_iff_mem (reversed ys distinct'),
    List.mem_reverse, List.mem_reverse]
  exact perm.mem_iff

end Dict

/-- The process that a node calls. -/
def Node.called? (n : Node) : Option String :=
  match n.kind with
  | .subProcessCall child _ _ => some child
  | _ => none

theorem Node.called?_of_kind {n : Node} {child : String} {wait independent : Bool}
    (kind : n.kind = .subProcessCall child wait independent) : n.called? = some child := by
  simp [called?, kind]

theorem Node.called?_eq_none {n : Node}
    (other : ∀ child wait independent, n.kind = .subProcessCall child wait independent → False) :
    n.called? = none := by
  unfold called?
  split
  · rename_i kind
    exact absurd kind (other _ _ _)
  · rfl

/-- The processes that a definition calls, once for each node. -/
def Definition.calls (d : Definition) : List String :=
  d.nodes.filterMap Node.called?

end Flowsmith
