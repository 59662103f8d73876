import Flowsmith.Text.Quoted

/-!
Quoted text can be read back: where the closing quote stands is never in doubt, so what is quoted at
the beginning of a text is determined by the text. The same holds of string literals, in which the
code of a NUL depends on the character after it.
-/

namespace Flowsmith.Text

private theorem digitChar_injective : ∀ i < 16, ∀ j < 16,
    Nat.digitChar i = Nat.digitChar j → i = j := by
  decide

/-- The digits of a number are hexadecimal digits. -/
theorem exists_digitChar_of_mem_hexDigits {n : Nat} {c : Char} (member : c ∈ hexDigits n) :
    ∃ i < 16, c = Nat.digitChar i := by
  unfold hexDigits at member
  induction n using Nat.strongRecOn with
  | ind n ih =>
      rw [Nat.toDigits_eq_if (by decide)] at member
      split at member
      · rename_i below
        exact ⟨n, below, List.mem_singleton.1 member⟩
      · rename_i notBelow
        rcases List.mem_append.1 member with front | last
        · exact ih (n / 16) (by omega) front
        · exact ⟨n % 16, by omega, List.mem_singleton.1 last⟩

/-- Numbers with the same hexadecimal digits are the same. -/
theorem hexDigits_injective {n m : Nat} (equal : hexDigits n = hexDigits m) : n = m := by
  unfold hexDigits at equal
  induction n using Nat.strongRecOn generalizing m with
  | ind n ih =>
      rw [Nat.toDigits_eq_if (by decide), Nat.toDigits_eq_if (n := m) (by decide)] at equal
      split at equal
      · rename_i below
        split at equal
        · rename_i below'
          exact digitChar_injective n below m below' (List.singleton_inj.1 equal)
        · have length := congrArg List.length equal
          have front := Nat.length_toDigits_pos (b := 16) (n := m / 16)
          simp only [List.length_append, List.length_singleton] at length
          omega
      · split at equal
        · have length := congrArg List.length equal
          have front := Nat.length_toDigits_pos (b := 16) (n := n / 16)
          simp only [List.length_append, List.length_singleton] at length
          omega
        · obtain ⟨front, last⟩ := List.append_inj' equal rfl
          have quotient := ih (n / 16) (by omega) front
          have remainder := digitChar_injective (n % 16) (by omega) (m % 16) (by omega)
            (List.singleton_inj.1 last)
          omega

/-- The letters that stand for a character after a backslash. -/
def shortEscapes : List (Char × Char) :=
  [('0', '\x00'), ('t', '\t'), ('r', '\r'), ('n', '\n'), ('"', '"'), ('\\', '\\')]

/-- A character inside quotes stands for itself, for a short escape, or for its code point. -/
theorem escapeChar_cases (c : Char) :
    (escapeChar c = [c] ∧ c ≠ '\\' ∧ c ≠ '"') ∨
      (∃ key, (key, c) ∈ shortEscapes ∧ escapeChar c = ['\\', key]) ∨
      escapeChar c = codePointEscape c := by
  unfold escapeChar
  split
  · rename_i nul
    exact .inr (.inl ⟨'0', by rw [nul]; decide, rfl⟩)
  · split
    · rename_i tab
      exact .inr (.inl ⟨'t', by rw [tab]; decide, rfl⟩)
    · split
      · rename_i carriage
        exact .inr (.inl ⟨'r', by rw [carriage]; decide, rfl⟩)
      · split
        · rename_i newline
          exact .inr (.inl ⟨'n', by rw [newline]; decide, rfl⟩)
        · split
          · rename_i quote
            exact .inr (.inl ⟨'"', by rw [quote]; decide, rfl⟩)
          · rename_i notQuote
            split
            · rename_i backslash
              exact .inr (.inl ⟨'\\', by rw [backslash]; decide, rfl⟩)
            · rename_i notBackslash
              split
              · exact .inr (.inr rfl)
              · exact .inl ⟨rfl, notBackslash, notQuote⟩

private theorem shortEscapes_keys :
    (∀ e ∈ shortEscapes, e.1 ≠ 'u') ∧
      ∀ e ∈ shortEscapes, ∀ f ∈ shortEscapes, e.1 = f.1 → e.2 = f.2 := by
  decide

/-- What comes before the first mark is determined when it does not have the mark. -/
private theorem append_mark_inj {mark : Char} {first second front back : List Char}
    (noMark : mark ∉ first) (noMark' : mark ∉ second)
    (equal : first ++ mark :: front = second ++ mark :: back) : first = second ∧ front = back := by
  induction first generalizing second with
  | nil =>
      cases second with
      | nil => exact ⟨rfl, by simpa using equal⟩
      | cons c rest =>
          have head : mark = c := by simpa using congrArg List.head? equal
          exact absurd (head ▸ List.mem_cons_self) noMark'
  | cons c rest ih =>
      cases second with
      | nil =>
          have head : c = mark := by simpa using congrArg List.head? equal
          exact absurd (head ▸ List.mem_cons_self) noMark
      | cons d rest' =>
          simp only [List.cons_append, List.cons.injEq] at equal
          simp only [List.mem_cons, not_or] at noMark noMark'
          obtain ⟨sameRest, sameBack⟩ := ih noMark.2 noMark'.2 equal.2
          exact ⟨by rw [equal.1, sameRest], sameBack⟩

private theorem brace_not_mem_hexDigits (n : Nat) : '\x7d' ∉ hexDigits n := by
  intro member
  obtain ⟨i, below, equal⟩ := exists_digitChar_of_mem_hexDigits member
  have none : ∀ i < 16, '\x7d' ≠ Nat.digitChar i := by decide
  exact none i below equal

/-- The code of a character is followed by nothing that could belong to it. -/
theorem escapeChar_append_inj {c d : Char} {x y : List Char}
    (equal : escapeChar c ++ x = escapeChar d ++ y) : c = d ∧ x = y := by
  -- Only escapes begin with a backslash, and the character after it tells the two forms apart.
  rcases escapeChar_cases c with ⟨code, notBackslash, -⟩ | ⟨key, listed, code⟩ | code <;>
    rcases escapeChar_cases d with ⟨code', notBackslash', -⟩ | ⟨key', listed', code'⟩ | code' <;>
    rw [code, code'] at equal
  · simpa using equal
  · exact absurd (by simpa using congrArg List.head? equal) notBackslash
  · exact absurd (by simpa [codePointEscape] using congrArg List.head? equal) notBackslash
  · exact absurd (by simpa using (congrArg List.head? equal).symm) notBackslash'
  · simp only [List.cons_append, List.nil_append, List.cons.injEq, true_and] at equal
    exact ⟨shortEscapes_keys.2 _ listed _ listed' equal.1, equal.2⟩
  · simp only [codePointEscape, List.cons_append, List.nil_append, List.cons.injEq,
      true_and] at equal
    exact absurd equal.1 (shortEscapes_keys.1 _ listed)
  · exact absurd (by simpa [codePointEscape] using (congrArg List.head? equal).symm) notBackslash'
  · simp only [codePointEscape, List.cons_append, List.nil_append, List.cons.injEq,
      true_and] at equal
    exact absurd equal.1.symm (shortEscapes_keys.1 _ listed')
  · simp only [codePointEscape, List.cons_append, List.nil_append, List.append_assoc,
      List.cons.injEq, true_and] at equal
    obtain ⟨digits, rest⟩ := append_mark_inj (brace_not_mem_hexDigits _)
      (brace_not_mem_hexDigits _) equal
    exact ⟨Char.toNat_inj.1 (hexDigits_injective digits), rest⟩

/-- No code of a character begins with a quote. -/
theorem head?_escapeChar_append_ne_quote (c : Char) (x : List Char) :
    (escapeChar c ++ x).head? ≠ some '"' := by
  rcases escapeChar_cases c with ⟨code, -, notQuote⟩ | ⟨key, -, code⟩ | code <;> rw [code]
  · simpa using notQuote
  · simp
  · simp [codePointEscape]

/-- Text between quotes is determined by what is written, if the code of each character is, and none
    begins with a quote. -/
theorem escaped_append_quote_inj {escape : Char → List Char}
    (inj : ∀ {c d : Char} {x y : List Char}, escape c ++ x = escape d ++ y → c = d ∧ x = y)
    (noQuote : ∀ (c : Char) (x : List Char), (escape c ++ x).head? ≠ some '"') {s t x y : List Char}
    (equal : s.flatMap escape ++ '"' :: x = t.flatMap escape ++ '"' :: y) : s = t ∧ x = y := by
  induction s generalizing t with
  | nil =>
      cases t with
      | nil => exact ⟨rfl, by simpa using equal⟩
      | cons d rest =>
          rw [List.flatMap_cons, List.append_assoc] at equal
          exact absurd (congrArg List.head? equal).symm (noQuote d _)
  | cons c rest ih =>
      cases t with
      | nil =>
          rw [List.flatMap_cons, List.append_assoc] at equal
          exact absurd (congrArg List.head? equal) (noQuote c _)
      | cons d rest' =>
          rw [List.flatMap_cons, List.flatMap_cons, List.append_assoc, List.append_assoc] at equal
          obtain ⟨sameChar, sameTail⟩ := inj equal
          obtain ⟨sameRest, sameBack⟩ := ih sameTail
          exact ⟨by rw [sameChar, sameRest], sameBack⟩

/-- What is quoted at the beginning of a text, and what follows it, are determined by the text. -/
theorem quoted_append_inj {s t : String} {x y : List Char}
    (equal : (quoted s).toList ++ x = (quoted t).toList ++ y) : s = t ∧ x = y := by
  simp only [quoted, String.toList_ofList, List.cons_append, List.append_assoc, List.cons.injEq,
    true_and, List.nil_append] at equal
  obtain ⟨sameText, sameRest⟩ :=
    escaped_append_quote_inj escapeChar_append_inj head?_escapeChar_append_ne_quote equal
  exact ⟨String.toList_inj.1 sameText, sameRest⟩

/-- A character inside a literal, by what follows it. -/
def literalChar (c : Char) (rest : List Char) : List Char :=
  if c = '\x00' && rest.head?.any isOctal then ['\\', 'x', '0', '0'] else escapeChar c

theorem literalChars_cons (c : Char) (rest : List Char) :
    literalChars (c :: rest) = literalChar c rest ++ literalChars rest := rfl

/-- No escape of a character begins as the hexadecimal one of a NUL does. -/
private theorem escapeChar_ne_hexadecimal (c : Char) (x y : List Char) :
    escapeChar c ++ x ≠ '\\' :: 'x' :: y := by
  intro equal
  rcases escapeChar_cases c with ⟨code, notBackslash, -⟩ | ⟨key, listed, code⟩ | code <;>
    rw [code] at equal
  · exact notBackslash (by simpa using congrArg List.head? equal)
  · have keys : ∀ e ∈ shortEscapes, e.1 ≠ 'x' := by decide
    simp only [List.cons_append, List.cons.injEq, true_and] at equal
    exact keys _ listed equal.1
  · simp [codePointEscape] at equal

/-- The code of a character inside a literal is followed by nothing that could belong to it. -/
theorem literalChar_append_inj {c d : Char} {rest rest' x y : List Char}
    (equal : literalChar c rest ++ x = literalChar d rest' ++ y) : c = d ∧ x = y := by
  unfold literalChar at equal
  by_cases first : (c = '\x00' && rest.head?.any isOctal) = true <;>
    by_cases second : (d = '\x00' && rest'.head?.any isOctal) = true
  · rw [if_pos first, if_pos second] at equal
    simp only [Bool.and_eq_true, decide_eq_true_eq] at first second
    exact ⟨first.1.trans second.1.symm, by simpa using equal⟩
  · rw [if_pos first, if_neg second] at equal
    exact absurd equal.symm (escapeChar_ne_hexadecimal d y _)
  · rw [if_neg first, if_pos second] at equal
    exact absurd equal (escapeChar_ne_hexadecimal c x _)
  · rw [if_neg first, if_neg second] at equal
    exact escapeChar_append_inj equal

theorem head?_literalChar_append_ne_quote (c : Char) (rest x : List Char) :
    (literalChar c rest ++ x).head? ≠ some '"' := by
  unfold literalChar
  split
  · simp
  · exact head?_escapeChar_append_ne_quote c x

private theorem literalChars_append_quote_inj {s t x y : List Char}
    (equal : literalChars s ++ '"' :: x = literalChars t ++ '"' :: y) : s = t ∧ x = y := by
  induction s generalizing t with
  | nil =>
      cases t with
      | nil => exact ⟨rfl, by simpa [literalChars] using equal⟩
      | cons d rest =>
          rw [literalChars_cons, List.append_assoc] at equal
          exact absurd (congrArg List.head? equal).symm (head?_literalChar_append_ne_quote d rest _)
  | cons c rest ih =>
      cases t with
      | nil =>
          rw [literalChars_cons, List.append_assoc] at equal
          exact absurd (congrArg List.head? equal) (head?_literalChar_append_ne_quote c rest _)
      | cons d rest' =>
          rw [literalChars_cons, literalChars_cons, List.append_assoc, List.append_assoc] at equal
          obtain ⟨sameChar, sameTail⟩ := literalChar_append_inj equal
          obtain ⟨sameRest, sameBack⟩ := ih sameTail
          exact ⟨by rw [sameChar, sameRest], sameBack⟩

/-- A literal at the beginning of a text, and what follows it, are determined by the text. -/
theorem literal_append_inj {s t : String} {x y : List Char}
    (equal : (literal s).toList ++ x = (literal t).toList ++ y) : s = t ∧ x = y := by
  simp only [literal, String.toList_ofList, List.cons_append, List.append_assoc, List.cons.injEq,
    true_and, List.nil_append] at equal
  obtain ⟨sameText, sameRest⟩ := literalChars_append_quote_inj equal
  exact ⟨String.toList_inj.1 sameText, sameRest⟩

theorem literal_injective : Function.Injective literal := by
  intro s t equal
  have whole : (literal s).toList ++ [] = (literal t).toList ++ [] := by rw [equal]
  exact (literal_append_inj whole).1

end Flowsmith.Text
