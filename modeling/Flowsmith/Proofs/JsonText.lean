import Flowsmith.Json.Writer
import Flowsmith.Proofs.Quoting

/-!
The text of a value tells the value. The first character tells its kind, strings end at the first
quote that is not escaped, and after each entry of a list or an object stands a comma or the line
break before the bracket. Numbers are left out: those that are not finite are written like nothing
at all.
-/

namespace Flowsmith.Json

section Strings

/-- The letters that stand for a character after a backslash. -/
def shortEscapes : List (Char × Char) :=
  [('"', '"'), ('\\', '\\'), ('b', '\x08'), ('f', '\x0c'), ('n', '\n'), ('r', '\r'), ('t', '\t')]

/-- A control character by its code. -/
def controlEscape (c : Char) : List Char :=
  ['\\', 'u', '0', '0'] ++ (if c.toNat < 16 then ['0'] else ['1']) ++ Text.hexDigits (c.toNat % 16)

/-- A character of a string stands for itself, for a short escape, or for its code. -/
theorem escapeChar_cases (c : Char) :
    (escapeChar c = [c] ∧ c ≠ '\\' ∧ c ≠ '"') ∨
      (∃ key, (key, c) ∈ shortEscapes ∧ escapeChar c = ['\\', key]) ∨
      (c.toNat < 32 ∧ escapeChar c = controlEscape c) := by
  by_cases short : ∃ key, (key, c) ∈ shortEscapes ∧ escapeChar c = ['\\', key]
  · exact .inr (.inl short)
  · have apart : ∀ e ∈ shortEscapes, c ≠ e.2 := by
      rintro ⟨key, d⟩ listed rfl
      refine short ⟨key, listed, ?_⟩
      have codes : ∀ e ∈ shortEscapes, escapeChar e.2 = ['\\', e.1] := by decide
      exact codes _ listed
    simp only [shortEscapes, List.forall_mem_cons, List.not_mem_nil, false_implies, implies_true,
      and_true] at apart
    obtain ⟨notQuote, notBackslash, others⟩ := apart
    unfold escapeChar
    simp only [notQuote, notBackslash, others, if_false]
    split
    · rename_i control
      exact .inr (.inr ⟨control, rfl⟩)
    · exact .inl ⟨rfl, notBackslash, notQuote⟩

private theorem jsonEscapes_keys :
    (∀ e ∈ shortEscapes, e.1 ≠ 'u') ∧
      ∀ e ∈ shortEscapes, ∀ f ∈ shortEscapes, e.1 = f.1 → e.2 = f.2 := by
  decide

/-- The code of a control character tells it: one digit says whether it is in the first half,
    another where. -/
private theorem controlEscape_append_inj {c d : Char} {x y : List Char} (control : c.toNat < 32)
    (control' : d.toNat < 32) (equal : controlEscape c ++ x = controlEscape d ++ y) :
    c = d ∧ x = y := by
  have single : ∀ n < 16, (Text.hexDigits n).length = 1 := by decide
  have length : (controlEscape c).length = (controlEscape d).length := by
    simp only [controlEscape, List.length_append, single _ (Nat.mod_lt _ (by decide : 16 > 0))]
    split <;> split <;> rfl
  obtain ⟨codes, rest⟩ := List.append_inj equal length
  simp only [controlEscape, List.append_assoc, List.append_cancel_left_eq] at codes
  have halves : (c.toNat < 16 ↔ d.toNat < 16) ∧
      Text.hexDigits (c.toNat % 16) = Text.hexDigits (d.toNat % 16) := by
    by_cases first : c.toNat < 16 <;> by_cases second : d.toNat < 16 <;>
      simp [first, second] at codes ⊢ <;> exact codes
  have digits := Text.hexDigits_injective halves.2
  exact ⟨Char.toNat_inj.1 (by omega), rest⟩

/-- The code of a character is followed by nothing that could belong to it. -/
theorem escapeChar_append_inj {c d : Char} {x y : List Char}
    (equal : escapeChar c ++ x = escapeChar d ++ y) : c = d ∧ x = y := by
  rcases escapeChar_cases c with ⟨code, notBackslash, -⟩ | ⟨key, listed, code⟩ | ⟨control, code⟩ <;>
    rcases escapeChar_cases d with ⟨code', notBackslash', -⟩ | ⟨key', listed', code'⟩ |
      ⟨control', code'⟩ <;>
    rw [code, code'] at equal
  · simpa using equal
  · exact absurd (by simpa using congrArg List.head? equal) notBackslash
  · exact absurd (by simpa [controlEscape] using congrArg List.head? equal) notBackslash
  · exact absurd (by simpa using (congrArg List.head? equal).symm) notBackslash'
  · simp only [List.cons_append, List.nil_append, List.cons.injEq, true_and] at equal
    exact ⟨jsonEscapes_keys.2 _ listed _ listed' equal.1, equal.2⟩
  · simp only [controlEscape, List.cons_append, List.nil_append, List.cons.injEq, true_and] at equal
    exact absurd equal.1 (jsonEscapes_keys.1 _ listed)
  · exact absurd (by simpa [controlEscape] using (congrArg List.head? equal).symm) notBackslash'
  · simp only [controlEscape, List.cons_append, List.nil_append, List.cons.injEq, true_and] at equal
    exact absurd equal.1.symm (jsonEscapes_keys.1 _ listed')
  · exact controlEscape_append_inj control control' equal

theorem head?_escapeChar_append_ne_quote (c : Char) (x : List Char) :
    (escapeChar c ++ x).head? ≠ some '"' := by
  rcases escapeChar_cases c with ⟨code, -, notQuote⟩ | ⟨key, -, code⟩ | ⟨-, code⟩ <;> rw [code]
  · simpa using notQuote
  · simp
  · simp [controlEscape]

/-- A string at the beginning of a text, and what follows it, are determined by the text. -/
theorem quote_append_inj {s t : String} {x y : List Char}
    (equal : (quote s).toList ++ x = (quote t).toList ++ y) : s = t ∧ x = y := by
  simp only [quote, String.toList_ofList, List.cons_append, List.append_assoc, List.cons.injEq,
    true_and, List.nil_append] at equal
  obtain ⟨sameText, sameRest⟩ :=
    Text.escaped_append_quote_inj escapeChar_append_inj head?_escapeChar_append_ne_quote equal
  exact ⟨String.toList_inj.1 sameText, sameRest⟩

end Strings

section Entries

/-! Entries between brackets, whatever they are. -/

variable {α : Type} {write : α → String} {ok : α → Prop}

/-- What stands between the brackets. -/
def between (level : Nat) : List String → List Char
  | [] => []
  | first :: rest =>
      (lineBreak (level + 1)).toList ++ first.toList ++
        rest.flatMap (fun entry => ',' :: (lineBreak (level + 1)).toList ++ entry.toList) ++
        (lineBreak level).toList

theorem intercalate_cons (divider first : List Char) (rest : List (List Char)) :
    divider.intercalate (first :: rest) = first ++ rest.flatMap fun entry => divider ++ entry := by
  induction rest generalizing first with
  | nil => simp
  | cons next others ih =>
      rw [List.intercalate_cons_cons, ih, List.flatMap_cons, List.append_assoc, List.append_assoc]

theorem toList_layOut (left right : String) (level : Nat) (entries : List String) :
    (layOut left right level entries).toList =
      left.toList ++ between level entries ++ right.toList := by
  cases entries with
  | nil => simp [layOut, between]
  | cons first rest =>
      have comma : ("," ++ lineBreak (level + 1)).toList =
          ',' :: (lineBreak (level + 1)).toList := by simp
      simp only [layOut, between, String.toList_append, String.toList_intercalate, List.map_cons,
        intercalate_cons, List.flatMap_map, ← comma, List.append_assoc]

/-- What is written of an entry tells it, and what follows it. -/
def EntryTold (write : α → String) (ok : α → Prop) (a : α) : Prop :=
  ∀ (b : α) (x y : List Char), ok b → (write a).toList ++ x = (write b).toList ++ y → a = b ∧ x = y

/-- The entries after the first end where no comma comes, at a line break. -/
private theorem more_append_inj {level : Nat} {as bs : List α} {x y : List Char}
    (told : ∀ a ∈ as, EntryTold write ok a) (fine : ∀ b ∈ bs, ok b)
    (equal :
      (as.map write).flatMap (fun entry => ',' :: (lineBreak level).toList ++ entry.toList) ++
        '\n' :: x =
      (bs.map write).flatMap (fun entry => ',' :: (lineBreak level).toList ++ entry.toList) ++
        '\n' :: y) : as = bs ∧ x = y := by
  induction as generalizing bs with
  | nil =>
      cases bs with
      | nil => exact ⟨rfl, by simpa using equal⟩
      | cons b rest => simp at equal
  | cons a rest ih =>
      cases bs with
      | nil => simp at equal
      | cons b rest' =>
          rw [List.forall_mem_cons] at told fine
          simp only [List.map_cons, List.flatMap_cons, List.cons_append, List.append_assoc,
            List.cons.injEq, true_and, List.append_cancel_left_eq] at equal
          obtain ⟨same, others⟩ := told.1 b _ _ fine.1 equal
          obtain ⟨sameRest, sameBack⟩ := ih told.2 fine.2 others
          exact ⟨by rw [same, sameRest], sameBack⟩

private theorem toList_lineBreak (level : Nat) :
    (lineBreak level).toList = '\n' :: List.replicate (2 * level) ' ' := by
  simp [lineBreak]

/-- What stands between brackets tells the entries, if what is written of each tells it. -/
theorem between_append_inj {level : Nat} {right : Char} (bracket : right ≠ '\n') {as bs : List α}
    {x y : List Char} (told : ∀ a ∈ as, EntryTold write ok a) (fine : ∀ b ∈ bs, ok b)
    (equal : between level (as.map write) ++ right :: x =
      between level (bs.map write) ++ right :: y) :
    as = bs ∧ x = y := by
  cases as with
  | nil =>
      cases bs with
      | nil => exact ⟨rfl, by simpa [between] using equal⟩
      | cons b rest =>
          have heads := congrArg List.head? equal
          simp only [between, List.map_nil, List.map_cons, toList_lineBreak, List.cons_append,
            List.nil_append, List.head?_cons, Option.some.injEq] at heads
          exact absurd heads bracket
  | cons a rest =>
      cases bs with
      | nil =>
          have heads := congrArg List.head? equal
          simp only [between, List.map_nil, List.map_cons, toList_lineBreak, List.cons_append,
            List.nil_append, List.head?_cons, Option.some.injEq] at heads
          exact absurd heads.symm bracket
      | cons b rest' =>
          rw [List.forall_mem_cons] at told fine
          simp only [between, List.map_cons, List.append_assoc, List.append_cancel_left_eq] at equal
          obtain ⟨same, others⟩ := told.1 b _ _ fine.1 equal
          rw [toList_lineBreak level, List.cons_append, List.cons_append] at others
          obtain ⟨sameRest, sameBack⟩ := more_append_inj told.2 fine.2 others
          exact ⟨by rw [same, sameRest], List.tail_eq_of_cons_eq (List.append_cancel_left sameBack)⟩

end Entries

section Values

mutual

/-- Whether there is no number in a value. -/
def isNumberless : Json → Bool
  | .null => true
  | .bool _ => true
  | .number _ => false
  | .string _ => true
  | .array items => areNumberless items
  | .object fields => areNumberlessFields fields

/-- Whether there is none in items. -/
def areNumberless : List Json → Bool
  | [] => true
  | v :: rest => isNumberless v && areNumberless rest

/-- Whether there is none in fields. -/
def areNumberlessFields : List (String × Json) → Bool
  | [] => true
  | (_, v) :: rest => isNumberless v && areNumberlessFields rest

end

theorem areNumberless_iff {items : List Json} :
    areNumberless items = true ↔ ∀ v ∈ items, v.isNumberless = true := by
  induction items with
  | nil => simp [areNumberless]
  | cons v rest ih => simp [areNumberless, ih]

theorem areNumberlessFields_iff {fields : List (String × Json)} :
    areNumberlessFields fields = true ↔ ∀ f ∈ fields, f.2.isNumberless = true := by
  induction fields with
  | nil => simp [areNumberlessFields]
  | cons f rest ih => simp [areNumberlessFields, ih]

theorem prettyItems_eq (level : Nat) (items : List Json) :
    prettyItems level items = items.map (prettyAt level) := by
  induction items with
  | nil => rfl
  | cons v rest ih => rw [prettyItems, ih, List.map_cons]

/-- A field as it is written. -/
def prettyField (level : Nat) (f : String × Json) : String :=
  quote f.1 ++ ": " ++ prettyAt level f.2

theorem prettyFields_eq (level : Nat) (fields : List (String × Json)) :
    prettyFields level fields = fields.map (prettyField level) := by
  induction fields with
  | nil => rfl
  | cons f rest ih => rw [prettyFields, ih, List.map_cons, prettyField]

/-- The text of a value tells it, at every level. -/
def Told (v : Json) : Prop :=
  ∀ level, EntryTold (prettyAt level) (fun w => w.isNumberless = true) v

/-- What the text of a value begins with. -/
def opening : Json → Char
  | .null => 'n'
  | .bool b => if b then 't' else 'f'
  | .number _ => '0'
  | .string _ => '"'
  | .array _ => '['
  | .object _ => '\x7b'

theorem head?_prettyAt {v : Json} (plain : v.isNumberless = true) (level : Nat) (x : List Char) :
    ((prettyAt level v).toList ++ x).head? = some v.opening := by
  cases v with
  | null => simp [prettyAt, opening]
  | bool b => cases b <;> simp [prettyAt, opening]
  | number n => simp [isNumberless] at plain
  | string s => simp [prettyAt, opening, quote]
  | array items => simp [prettyAt, opening, toList_layOut]
  | object fields => simp [prettyAt, opening, toList_layOut]

/-- Values with the same text begin with the same character. -/
private theorem opening_eq {v w : Json} {level : Nat} {x y : List Char}
    (plain : v.isNumberless = true) (plain' : w.isNumberless = true)
    (equal : (prettyAt level v).toList ++ x = (prettyAt level w).toList ++ y) :
    v.opening = w.opening := by
  have heads := congrArg List.head? equal
  rw [head?_prettyAt plain, head?_prettyAt plain'] at heads
  exact Option.some.inj heads

private theorem told_string (s : String) : Told (.string s) := by
  intro level w x y plain equal
  have opens := opening_eq rfl plain equal
  cases w with
  | string t =>
      simp only [prettyAt] at equal
      obtain ⟨same, rest⟩ := quote_append_inj equal
      exact ⟨by rw [same], rest⟩
  | bool b => cases b <;> simp [opening] at opens
  | number n => simp [isNumberless] at plain
  | _ => simp [opening] at opens

private theorem told_null : Told .null := by
  intro level w x y plain equal
  have opens := opening_eq rfl plain equal
  cases w with
  | null => exact ⟨rfl, List.append_cancel_left equal⟩
  | bool b => cases b <;> simp [opening] at opens
  | number n => simp [isNumberless] at plain
  | _ => simp [opening] at opens

private theorem told_bool (b : Bool) : Told (.bool b) := by
  intro level w x y plain equal
  have opens := opening_eq rfl plain equal
  cases w with
  | bool b' =>
      obtain rfl : b = b' := by cases b <;> cases b' <;> simp [opening] at opens ⊢
      exact ⟨rfl, List.append_cancel_left equal⟩
  | number n => simp [isNumberless] at plain
  | _ => cases b <;> simp [opening] at opens

private theorem told_array {items : List Json} (plainItems : areNumberless items = true)
    (told : ∀ v ∈ items, Told v) : Told (.array items) := by
  intro level w x y plain equal
  have opens := opening_eq (v := .array items) plainItems plain equal
  cases w with
  | array items' =>
      simp only [prettyAt, prettyItems_eq, toList_layOut, List.append_assoc,
        List.append_cancel_left_eq] at equal
      obtain ⟨same, rest⟩ :=
        between_append_inj (by decide) (fun v member => told v member (level + 1))
        (areNumberless_iff.1 plain) equal
      exact ⟨by rw [same], rest⟩
  | bool b => cases b <;> simp [opening] at opens
  | number n => simp [isNumberless] at plain
  | _ => simp [opening] at opens

/-- A field is told if its value is. -/
private theorem told_field {f : String × Json} (told : Told f.2) (level : Nat) :
    EntryTold (prettyField level) (fun g => g.2.isNumberless = true) f := by
  intro g x y plain equal
  simp only [prettyField, String.toList_append, List.append_assoc] at equal
  obtain ⟨name, afterName⟩ := quote_append_inj equal
  obtain ⟨value, rest⟩ := told level g.2 x y plain (List.append_cancel_left afterName)
  exact ⟨Prod.ext name value, rest⟩

private theorem told_object {fields : List (String × Json)}
    (plainFields : areNumberlessFields fields = true) (told : ∀ f ∈ fields, Told f.2) :
    Told (.object fields) := by
  intro level w x y plain equal
  have opens := opening_eq (v := .object fields) plainFields plain equal
  cases w with
  | object fields' =>
      simp only [prettyAt, prettyFields_eq, toList_layOut, List.append_assoc,
        List.append_cancel_left_eq] at equal
      obtain ⟨same, rest⟩ := between_append_inj (by decide)
        (fun f member => told_field (told f member) (level + 1))
        (areNumberlessFields_iff.1 plain) equal
      exact ⟨by rw [same], rest⟩
  | bool b => cases b <;> simp [opening] at opens
  | number n => simp [isNumberless] at plain
  | _ => simp [opening] at opens

mutual

theorem told_of_isNumberless : (v : Json) → v.isNumberless = true → Told v
  | .null, _ => told_null
  | .bool b, _ => told_bool b
  | .number _, plain => absurd plain (by simp [isNumberless])
  | .string s, _ => told_string s
  | .array items, plain => told_array plain (told_items items plain)
  | .object fields, plain => told_object plain (told_fields fields plain)

theorem told_items : (items : List Json) → areNumberless items = true → ∀ v ∈ items, Told v
  | [], _ => by simp
  | v :: rest, plain => by
      rw [areNumberless, Bool.and_eq_true] at plain
      exact List.forall_mem_cons.2 ⟨told_of_isNumberless v plain.1, told_items rest plain.2⟩

theorem told_fields : (fields : List (String × Json)) → areNumberlessFields fields = true →
    ∀ f ∈ fields, Told f.2
  | [], _ => by simp
  | (_, v) :: rest, plain => by
      rw [areNumberlessFields, Bool.and_eq_true] at plain
      exact List.forall_mem_cons.2 ⟨told_of_isNumberless v plain.1, told_fields rest plain.2⟩

end

/-- Values without numbers that have the same text are the same. -/
theorem pretty_injective {v w : Json} (plain : v.isNumberless = true)
    (plain' : w.isNumberless = true) (equal : v.pretty = w.pretty) : v = w := by
  have same : (prettyAt 0 v).toList ++ [] = (prettyAt 0 w).toList ++ [] := by
    rw [show prettyAt 0 v = prettyAt 0 w from equal]
  exact (told_of_isNumberless v plain 0 w [] [] plain' same).1

/-- A text is that of a value, and of no other value without numbers. -/
def Reads (text : String) (value : Json) : Prop :=
  ∀ v : Json, v.isNumberless = true ∧ v.pretty = text ↔ v = value

theorem reads_pretty {v : Json} (plain : v.isNumberless = true) : Reads v.pretty v := by
  intro w
  constructor
  · rintro ⟨plain', same⟩
    exact pretty_injective plain' plain same
  · rintro rfl
    exact ⟨plain, rfl⟩

end Values

end Flowsmith.Json
