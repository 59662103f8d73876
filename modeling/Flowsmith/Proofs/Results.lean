import Flowsmith.Batch.Unit

/-!
Lists of results. A list of results is split into what succeeded and what failed, each in order and
each result once; a traversal that stops at the first failure gives one value for each item when
there is none.
-/

namespace Flowsmith

variable {α β ε κ : Type}

@[simp] theorem successes_nil : successes ([] : List (Except ε α)) = [] := rfl

@[simp] theorem failures_nil : failures ([] : List (Except ε α)) = [] := rfl

@[simp] theorem successes_ok (a : α) (rest : List (Except ε α)) :
    successes (.ok a :: rest) = a :: successes rest := rfl

@[simp] theorem successes_error (e : ε) (rest : List (Except ε α)) :
    successes (.error e :: rest) = successes rest := rfl

@[simp] theorem failures_ok (a : α) (rest : List (Except ε α)) :
    failures (.ok a :: rest) = failures rest := rfl

@[simp] theorem failures_error (e : ε) (rest : List (Except ε α)) :
    failures (.error e :: rest) = e :: failures rest := rfl

theorem mem_successes {a : α} {rs : List (Except ε α)} : a ∈ successes rs ↔ .ok a ∈ rs := by
  induction rs with
  | nil => simp
  | cons head rest ih => cases head <;> simp [ih]

theorem mem_failures {e : ε} {rs : List (Except ε α)} : e ∈ failures rs ↔ .error e ∈ rs := by
  induction rs with
  | nil => simp
  | cons head rest ih => cases head <;> simp [ih]

theorem successes_map_ok (f : α → β) (xs : List α) :
    successes (xs.map fun x => (.ok (f x) : Except ε β)) = xs.map f := by
  induction xs with
  | nil => rfl
  | cons head rest ih => simp [ih]

theorem failures_map_ok (f : α → β) (xs : List α) :
    failures (xs.map fun x => (.ok (f x) : Except ε β)) = [] := by
  induction xs with
  | nil => rfl
  | cons head rest ih => simp [ih]

section Keys

/-! A step that keeps a key of its input, in its result or in its error, loses no key and repeats
none. -/

variable {f : α → Except ε β} {key : α → κ} {okKey : β → κ} {errorKey : ε → κ}

/-- The keys of results and errors are the keys of the inputs. -/
theorem perm_keys {xs : List α} (kept : ∀ x b, f x = .ok b → okKey b = key x)
    (noted : ∀ x e, f x = .error e → errorKey e = key x) :
    ((successes (xs.map f)).map okKey ++ (failures (xs.map f)).map errorKey).Perm (xs.map key) := by
  induction xs with
  | nil => exact .refl _
  | cons head rest ih =>
      cases result : f head with
      | ok b =>
          simp only [List.map_cons, result, successes_ok, failures_ok, kept head b result,
            List.cons_append]
          exact ih.cons _
      | error e =>
          simp only [List.map_cons, result, successes_error, failures_error, noted head e result]
          exact List.perm_middle.trans (ih.cons _)

/-- The keys of results come in the order of the inputs. -/
theorem sublist_keys {xs : List α} (kept : ∀ x b, f x = .ok b → okKey b = key x) :
    ((successes (xs.map f)).map okKey).Sublist (xs.map key) := by
  induction xs with
  | nil => exact .refl _
  | cons head rest ih =>
      cases result : f head with
      | ok b =>
          simp only [List.map_cons, result, successes_ok, kept head b result]
          exact ih.cons_cons _
      | error e =>
          simp only [List.map_cons, result, successes_error]
          exact ih.cons _

end Keys

section Sequence

variable {x : Except ε α} {f : α → Except ε β}

theorem bind_eq_ok {b : β} : (x >>= f) = .ok b ↔ ∃ a, x = .ok a ∧ f a = .ok b := by
  cases x <;> simp [bind, Except.bind]

theorem bind_eq_error {e : ε} :
    (x >>= f) = .error e ↔ x = .error e ∨ ∃ a, x = .ok a ∧ f a = .error e := by
  cases x <;> simp [bind, Except.bind]

end Sequence

section Traversal

variable {f : α → Except ε β} {xs : List α} {ys : List β}

theorem mapM_cons_eq_ok_iff {x : α} :
    (x :: xs).mapM f = .ok ys ↔ ∃ b bs, f x = .ok b ∧ xs.mapM f = .ok bs ∧ ys = b :: bs := by
  rw [List.mapM_cons]
  simp only [bind_eq_ok, pure, Except.pure, Except.ok.injEq, eq_comm (a := ys), exists_and_left]

/-- Each value of a traversal is the value of an item. -/
theorem exists_of_mem_mapM {b : β} (ok : xs.mapM f = .ok ys) (member : b ∈ ys) :
    ∃ x ∈ xs, f x = .ok b := by
  induction xs generalizing ys with
  | nil =>
      rw [← Except.ok.inj ok] at member
      exact absurd member (List.not_mem_nil)
  | cons head rest ih =>
      obtain ⟨c, cs, first, others, rfl⟩ := mapM_cons_eq_ok_iff.1 ok
      rcases List.mem_cons.1 member with rfl | inRest
      · exact ⟨head, List.mem_cons_self, first⟩
      · obtain ⟨x, inXs, value⟩ := ih others inRest
        exact ⟨x, List.mem_cons_of_mem _ inXs, value⟩

/-- Each item of a traversal has its value in the result. -/
theorem exists_mem_of_mapM {x : α} (ok : xs.mapM f = .ok ys) (member : x ∈ xs) :
    ∃ b ∈ ys, f x = .ok b := by
  induction xs generalizing ys with
  | nil => exact absurd member (List.not_mem_nil)
  | cons head rest ih =>
      obtain ⟨c, cs, first, others, rfl⟩ := mapM_cons_eq_ok_iff.1 ok
      rcases List.mem_cons.1 member with rfl | inRest
      · exact ⟨c, List.mem_cons_self, first⟩
      · obtain ⟨b, inBs, value⟩ := ih others inRest
        exact ⟨b, List.mem_cons_of_mem _ inBs, value⟩

/-- What each value keeps of its item, the result keeps of the items, in their order. -/
theorem map_of_mapM {key : α → κ} {okKey : β → κ} (kept : ∀ x b, f x = .ok b → okKey b = key x)
    (ok : xs.mapM f = .ok ys) : ys.map okKey = xs.map key := by
  induction xs generalizing ys with
  | nil =>
      rw [← Except.ok.inj ok]
      rfl
  | cons head rest ih =>
      obtain ⟨b, bs, first, others, rfl⟩ := mapM_cons_eq_ok_iff.1 ok
      rw [List.map_cons, List.map_cons, kept head b first, ih others]

/-- A traversal succeeds exactly when each item does. -/
theorem exists_mapM_eq_ok_iff : (∃ ys, xs.mapM f = .ok ys) ↔ ∀ x ∈ xs, ∃ b, f x = .ok b := by
  induction xs with
  | nil => exact ⟨fun _ x member => absurd member (List.not_mem_nil), fun _ => ⟨[], rfl⟩⟩
  | cons head rest ih =>
      constructor
      · rintro ⟨ys, ok⟩ x member
        obtain ⟨b, bs, first, others, -⟩ := mapM_cons_eq_ok_iff.1 ok
        rcases List.mem_cons.1 member with rfl | inRest
        · exact ⟨b, first⟩
        · exact ih.1 ⟨bs, others⟩ x inRest
      · intro all
        obtain ⟨b, first⟩ := all head List.mem_cons_self
        obtain ⟨bs, others⟩ := ih.2 fun x member => all x (List.mem_cons_of_mem _ member)
        exact ⟨b :: bs, mapM_cons_eq_ok_iff.2 ⟨b, bs, first, others, rfl⟩⟩

/-- A traversal that fails does so with the failure of an item. -/
theorem exists_of_mapM_eq_error {e : ε} (failed : xs.mapM f = .error e) :
    ∃ x ∈ xs, f x = .error e := by
  induction xs with
  | nil => simp [pure, Except.pure] at failed
  | cons head rest ih =>
      rw [List.mapM_cons] at failed
      rcases bind_eq_error.1 failed with first | ⟨b, -, later⟩
      · exact ⟨head, List.mem_cons_self, first⟩
      · rcases bind_eq_error.1 later with others | ⟨bs, -, never⟩
        · obtain ⟨x, inRest, value⟩ := ih others
          exact ⟨x, List.mem_cons_of_mem _ inRest, value⟩
        · simp [pure, Except.pure] at never

end Traversal

end Flowsmith
