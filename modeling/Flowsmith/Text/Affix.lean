/-!
Beginnings and ends of texts.
-/

namespace Flowsmith.Text

/-- What follows `lead` at the beginning of a text. -/
def after? (lead s : String) : Option String :=
  if lead.toList.isPrefixOf s.toList then some (String.ofList (s.toList.drop lead.length)) else none

/-- What precedes `tail` at the end of a text. -/
def before? (tail s : String) : Option String :=
  if tail.toList.isSuffixOf s.toList then
    some (String.ofList (s.toList.take (s.length - tail.length)))
  else none

/-- Whether a text ends with another. -/
def endsWith (s tail : String) : Bool :=
  tail.toList.isSuffixOf s.toList

@[simp] theorem after?_append (lead rest : String) : after? lead (lead ++ rest) = some rest := by
  simp [after?, ← String.length_toList]

@[simp] theorem before?_append (rest tail : String) : before? tail (rest ++ tail) = some rest := by
  simp [before?, ← String.length_toList]

/-- A text is its beginning and what follows it. -/
theorem after?_eq_some_iff {lead s rest : String} :
    after? lead s = some rest ↔ s = lead ++ rest := by
  constructor
  · intro found
    by_cases leads : lead.toList.isPrefixOf s.toList = true
    · obtain ⟨tail, whole⟩ := List.isPrefixOf_iff_prefix.1 leads
      obtain rfl : s = lead ++ String.ofList tail := by
        rw [← String.toList_inj, String.toList_append, String.toList_ofList, whole]
      rw [after?_append] at found
      rw [Option.some.inj found]
    · simp [after?, leads] at found
  · rintro rfl
    exact after?_append lead rest

/-- A text is its end and what precedes it. -/
theorem before?_eq_some_iff {tail s rest : String} :
    before? tail s = some rest ↔ s = rest ++ tail := by
  constructor
  · intro found
    by_cases ends : tail.toList.isSuffixOf s.toList = true
    · obtain ⟨lead, whole⟩ := List.isSuffixOf_iff_suffix.1 ends
      obtain rfl : s = String.ofList lead ++ tail := by
        rw [← String.toList_inj, String.toList_append, String.toList_ofList, whole]
      rw [before?_append] at found
      rw [Option.some.inj found]
    · simp [before?, ends] at found
  · rintro rfl
    exact before?_append rest tail

end Flowsmith.Text
