import Flowsmith.Naming
import Flowsmith.Proofs.Quoting
import Flowsmith.Source.Token

/-!
The text of a token stream tells the stream. Words are made of letters, digits and underscores,
marks of other characters, literals begin with a quote and groups with their bracket; so the first
character of a token tells its kind, and what comes after it tells where it ends.
-/

namespace Flowsmith.Source.Token

/-- The characters that stand for neither words nor marks: those between tokens, and those that open
    or close literals and groups. -/
def dividers : List Char :=
  [' ', '"', '(', ')', '[', ']']

/-- Whether a character is a mark. -/
def isMarkChar (c : Char) : Bool :=
  !Naming.isWordChar c && !dividers.contains c

mutual

/-- A token whose text tells it: words and marks are made of their own characters. Literals that are
    written as they are may be anything, and curly brackets stand apart from what is between them;
    both are left out. -/
def isPlain : Token → Bool
  | .word text => !text.toList.isEmpty && text.toList.all Naming.isWordChar
  | .mark c _ => isMarkChar c
  | .literal _ => true
  | .verbatim _ => false
  | .group bracket body => bracket != .curly && isPlainStream body

/-- A stream whose text tells it: a mark that is joined has another one after it. -/
def isPlainStream : List Token → Bool
  | [] => true
  | [t] => t.isPlain && !t.isJoint
  | t :: u :: rest => t.isPlain && (!t.isJoint || u matches .mark _ _) && isPlainStream (u :: rest)

end

/-- A token with a mark's joint left open. -/
def unjoined : Token → Token
  | .mark c _ => .mark c false
  | t => t

/-- Text that does not go on with a word. -/
def Apart (text : List Char) : Prop :=
  ∀ c ∈ text.head?, Naming.isWordChar c = false

/-- Text that ends a stream: there is no more of it, or a bracket is closed. -/
def Closes (text : List Char) : Prop :=
  ∀ c ∈ text.head?, c = ')' ∨ c = ']'

/-- What a token begins with. -/
inductive Opening where
  | word
  | mark
  | quote
  | bracket (b : Bracket)
deriving DecidableEq

/-- What a token begins with, by its kind. -/
def opening : Token → Opening
  | .word _ => .word
  | .mark _ _ => .mark
  | .literal _ => .quote
  | .verbatim _ => .quote
  | .group b _ => .bracket b

/-- What a character begins; spaces and closing brackets begin nothing. -/
def opening? (c : Char) : Option Opening :=
  if Naming.isWordChar c then some .word
  else if c = '"' then some .quote
  else if c = '(' then some (.bracket .round)
  else if c = '[' then some (.bracket .square)
  else if isMarkChar c then some .mark
  else none

theorem isMarkChar_eq {c : Char} (isMark : isMarkChar c = true) :
    Naming.isWordChar c = false ∧ c ∉ dividers := by
  simpa [isMarkChar] using isMark

/-- The first character of a plain token tells its kind. -/
theorem exists_chars_eq {t : Token} (plain : t.isPlain = true) :
    ∃ c rest, t.chars = c :: rest ∧ opening? c = some t.opening := by
  cases t with
  | word text =>
      simp only [isPlain, Bool.and_eq_true, Bool.not_eq_true', List.isEmpty_eq_false_iff,
        List.all_eq_true] at plain
      obtain ⟨c, rest, equal⟩ := List.exists_cons_of_ne_nil plain.1
      have isWord := plain.2 c (by rw [equal]; exact List.mem_cons_self)
      exact ⟨c, rest, by rw [chars, equal], by rw [opening?, if_pos isWord, opening]⟩
  | mark c joint =>
      simp only [isPlain] at plain
      obtain ⟨notWord, notDivider⟩ := isMarkChar_eq plain
      simp only [dividers, List.mem_cons, List.not_mem_nil, or_false, not_or] at notDivider
      exact ⟨c, [], by rw [chars], by simp [opening?, opening, notWord, notDivider, plain]⟩
  | literal value =>
      exact ⟨'"', _, by rw [chars, Text.literal, String.toList_ofList, List.cons_append], by rfl⟩
  | verbatim text => simp [isPlain] at plain
  | group bracket body =>
      cases bracket with
      | round => exact ⟨'(', _, by rw [chars, around, List.cons_append], by rfl⟩
      | square => exact ⟨'[', _, by rw [chars, around, List.cons_append], by rfl⟩
      | curly => simp [isPlain] at plain

/-- Where a word ends is told by what follows it. -/
theorem word_append_inj {a b z w : List Char} (isWord : ∀ c ∈ a, Naming.isWordChar c = true)
    (isWord' : ∀ c ∈ b, Naming.isWordChar c = true) (apart : Apart z) (apart' : Apart w)
    (equal : a ++ z = b ++ w) : a = b ∧ z = w := by
  have ends {text : List Char} (apart : Apart text) : text.takeWhile Naming.isWordChar = [] := by
    cases text with
    | nil => rfl
    | cons c rest => rw [List.takeWhile_cons, apart c rfl]; rfl
  have same : a = b := by
    have taken := congrArg (List.takeWhile Naming.isWordChar) equal
    rwa [List.takeWhile_append_of_pos isWord, List.takeWhile_append_of_pos isWord', ends apart,
      ends apart', List.append_nil, List.append_nil] at taken
  rw [same] at equal
  exact ⟨same, List.append_cancel_left equal⟩

/-- What follows a token in a stream. -/
def following (t : Token) : List Token → List Char
  | [] => []
  | u :: rest => (if t.isJoint then [] else [' ']) ++ streamChars (u :: rest)

theorem streamChars_cons (t : Token) (rest : List Token) :
    streamChars (t :: rest) = t.chars ++ following t rest := by
  cases rest with
  | nil => rw [streamChars, following, List.append_nil]
  | cons u rest => rw [streamChars, following, List.append_assoc]

theorem isPlain_of_stream {t : Token} {rest : List Token}
    (plain : isPlainStream (t :: rest) = true) :
    t.isPlain = true ∧ isPlainStream rest = true := by
  cases rest with
  | nil =>
      simp only [isPlainStream, Bool.and_eq_true] at plain
      exact ⟨plain.1, rfl⟩
  | cons u rest =>
      simp only [isPlainStream, Bool.and_eq_true] at plain
      exact ⟨plain.1.1, plain.2⟩

/-- What follows a plain token: the end of the stream, a space, or a mark that it is joined to. -/
inductive Follows (t : Token) (x : List Char) : List Token → List Char → Prop
  | done (free : t.isJoint = false) (closes : Closes x) : Follows t x [] x
  | spaced {u : Token} {rest : List Token} (free : t.isJoint = false) :
      Follows t x (u :: rest) (' ' :: (streamChars (u :: rest) ++ x))
  | joined {c : Char} {joint : Bool} {rest : List Token} (tied : t.isJoint = true)
      (isMark : isMarkChar c = true) :
      Follows t x (.mark c joint :: rest) (streamChars (.mark c joint :: rest) ++ x)

theorem head?_streamChars_mark (c : Char) (joint : Bool) (rest : List Token) (x : List Char) :
    (streamChars (.mark c joint :: rest) ++ x).head? = some c := by
  rw [streamChars_cons, chars]
  rfl

theorem follows_following {t : Token} {rest : List Token} {x : List Char}
    (plain : isPlainStream (t :: rest) = true) (closes : Closes x) :
    Follows t x rest (following t rest ++ x) := by
  cases rest with
  | nil =>
      simp only [isPlainStream, Bool.and_eq_true, Bool.not_eq_true'] at plain
      exact .done plain.2 closes
  | cons u rest =>
      have plainNext := (isPlain_of_stream (isPlain_of_stream plain).2).1
      simp only [isPlainStream, Bool.and_eq_true, Bool.or_eq_true, Bool.not_eq_true'] at plain
      cases joint : t.isJoint with
      | false =>
          have spaced : following t (u :: rest) ++ x = ' ' :: (streamChars (u :: rest) ++ x) := by
            simp [following, joint]
          rw [spaced]
          exact .spaced joint
      | true =>
          have tied : following t (u :: rest) ++ x = streamChars (u :: rest) ++ x := by
            simp [following, joint]
          rw [tied]
          cases u with
          | mark c next => exact .joined joint (by simpa only [isPlain] using plainNext)
          | _ => simp [joint] at plain

theorem apart_of_closes {x : List Char} (closes : Closes x) : Apart x := by
  intro c isHead
  rcases closes c isHead with rfl | rfl <;> decide

/-- What follows a plain token does not go on with a word. -/
theorem Follows.apart {t : Token} {x text : List Char} {rest : List Token}
    (follows : Follows t x rest text) : Apart text := by
  cases follows with
  | done free closes => exact apart_of_closes closes
  | spaced free =>
      intro c isHead
      obtain rfl : ' ' = c := Option.some.inj isHead
      decide
  | joined tied isMark =>
      intro c isHead
      rw [head?_streamChars_mark] at isHead
      rw [← Option.some.inj isHead]
      exact (isMarkChar_eq isMark).1

theorem eq_of_unjoined {t u : Token} (same : t.unjoined = u.unjoined)
    (joint : t.isJoint = u.isJoint) :
    t = u := by
  cases t <;> cases u <;> simp_all [unjoined, isJoint]

theorem not_closes_streamChars_mark {c : Char} (isMark : isMarkChar c = true) (joint : Bool)
    (rest : List Token) (x : List Char) : ¬ Closes (streamChars (.mark c joint :: rest) ++ x) := by
  intro closes
  have notDivider := (isMarkChar_eq isMark).2
  rcases closes c (head?_streamChars_mark c joint rest x) with rfl | rfl <;>
    exact notDivider (by decide)

private theorem space_ne_streamChars_mark {c : Char} (isMark : isMarkChar c = true) (joint : Bool)
    (rest : List Token) (x text : List Char) :
    ' ' :: text ≠ streamChars (.mark c joint :: rest) ++ x := by
  intro equal
  have isSpace : ' ' = c := by
    have heads := congrArg List.head? equal
    rw [head?_streamChars_mark] at heads
    exact Option.some.inj heads
  exact (isMarkChar_eq isMark).2 (isSpace ▸ by decide)

private theorem not_closes_space (text : List Char) : ¬ Closes (' ' :: text) := by
  intro closes
  rcases closes ' ' rfl with wrong | wrong <;> exact absurd wrong (by decide)

/-- What follows two tokens tells whether they are joined to the next ones, and goes on with the
    streams after them. -/
theorem Follows.inj {t u : Token} {x y text text' : List Char} {rest rest' : List Token}
    (first : Follows t x rest text) (second : Follows u y rest' text') (equal : text = text') :
    t.isJoint = u.isJoint ∧ streamChars rest ++ x = streamChars rest' ++ y := by
  cases first with
  | done free closes =>
      cases second with
      | done free' closes' => exact ⟨free.trans free'.symm, by rw [equal]⟩
      | spaced free' => exact absurd (equal ▸ closes) (not_closes_space _)
      | joined tied' isMark' =>
          exact absurd (equal ▸ closes) (not_closes_streamChars_mark isMark' _ _ _)
  | spaced free =>
      cases second with
      | done free' closes' => exact absurd (equal ▸ closes') (not_closes_space _)
      | spaced free' => exact ⟨free.trans free'.symm, List.tail_eq_of_cons_eq equal⟩
      | joined tied' isMark' => exact absurd equal (space_ne_streamChars_mark isMark' _ _ _ _)
  | joined tied isMark =>
      cases second with
      | done free' closes' =>
          exact absurd (equal ▸ closes') (not_closes_streamChars_mark isMark _ _ _)
      | spaced free' => exact absurd equal.symm (space_ne_streamChars_mark isMark _ _ _ _)
      | joined tied' isMark' => exact ⟨tied.trans tied'.symm, equal⟩

/-- A stream that is not empty does not begin like the end of one. -/
theorem not_closes_streamChars {t : Token} {rest : List Token}
    (plain : isPlainStream (t :: rest) = true) (x : List Char) :
    ¬ Closes (streamChars (t :: rest) ++ x) := by
  intro closes
  obtain ⟨c, cs, equal, opens⟩ := exists_chars_eq (isPlain_of_stream plain).1
  have closed : c = ')' ∨ c = ']' := by
    refine closes c ?_
    rw [streamChars_cons, equal]
    rfl
  have nothing : opening? c = none := by
    rcases closed with rfl | rfl <;> decide
  simp [nothing] at opens

/-- The text of a stream, up to where it ends, tells the stream and what follows it. -/
def Told (ts : List Token) : Prop :=
  ∀ (us : List Token) (x y : List Char), isPlainStream us = true → Closes x → Closes y →
    streamChars ts ++ x = streamChars us ++ y → ts = us ∧ x = y

/-- The text of a token tells the token and what follows it, if what stands in a group is told. -/
theorem chars_append_inj {t u : Token} {z w : List Char} (plain : t.isPlain = true)
    (plain' : u.isPlain = true)
    (inner : ∀ bracket body, t = .group bracket body → Told body) (apart : Apart z)
    (apart' : Apart w) (equal : t.chars ++ z = u.chars ++ w) : t.unjoined = u.unjoined ∧ z = w := by
  have opens : t.opening = u.opening := by
    obtain ⟨c, cs, first, opens⟩ := exists_chars_eq plain
    obtain ⟨d, ds, second, opens'⟩ := exists_chars_eq plain'
    rw [first, second] at equal
    rw [List.head_eq_of_cons_eq equal, opens'] at opens
    exact (Option.some.inj opens).symm
  cases t with
  | verbatim text => simp [isPlain] at plain
  | word text =>
      cases u with
      | word text' =>
          simp only [isPlain, Bool.and_eq_true, List.all_eq_true] at plain plain'
          simp only [chars] at equal
          obtain ⟨sameText, sameRest⟩ := word_append_inj plain.2 plain'.2 apart apart' equal
          exact ⟨by rw [String.toList_inj.1 sameText], sameRest⟩
      | _ => simp [opening] at opens
  | mark c joint =>
      cases u with
      | mark c' joint' =>
          simp only [chars, List.cons_append, List.nil_append, List.cons.injEq] at equal
          exact ⟨by rw [unjoined, unjoined, equal.1], equal.2⟩
      | _ => simp [opening] at opens
  | literal value =>
      cases u with
      | literal value' =>
          simp only [chars] at equal
          obtain ⟨sameValue, sameRest⟩ := Text.literal_append_inj equal
          exact ⟨by rw [sameValue], sameRest⟩
      | verbatim text => simp [isPlain] at plain'
      | _ => simp [opening] at opens
  | group bracket body =>
      cases u with
      | group bracket' body' =>
          obtain rfl : bracket = bracket' := by simpa [opening] using opens
          simp only [isPlain, Bool.and_eq_true, bne_iff_ne] at plain plain'
          have told := inner bracket body rfl
          cases bracket with
          | round =>
              simp only [chars, around, List.cons_append, List.append_assoc, List.cons.injEq,
                true_and, List.nil_append] at equal
              obtain ⟨sameBody, sameBack⟩ := told body' (')' :: z) (')' :: w) plain'.2
                (by simp [Closes]) (by simp [Closes]) equal
              exact ⟨by rw [sameBody], List.tail_eq_of_cons_eq sameBack⟩
          | square =>
              simp only [chars, around, List.cons_append, List.append_assoc, List.cons.injEq,
                true_and, List.nil_append] at equal
              obtain ⟨sameBody, sameBack⟩ := told body' (']' :: z) (']' :: w) plain'.2
                (by simp [Closes]) (by simp [Closes]) equal
              exact ⟨by rw [sameBody], List.tail_eq_of_cons_eq sameBack⟩
          | curly => exact absurd rfl plain.1
      | _ => simp [opening] at opens

theorem told_nil : Told [] := by
  intro us x y plain closes closes' equal
  cases us with
  | nil => exact ⟨rfl, by simpa only [streamChars, List.nil_append] using equal⟩
  | cons u rest =>
      simp only [streamChars, List.nil_append] at equal
      exact absurd (equal ▸ closes) (not_closes_streamChars plain y)

/-- A stream is told if what stands in its first token and what comes after it are. -/
theorem told_cons {t : Token} {rest : List Token} (plain : isPlainStream (t :: rest) = true)
    (inner : ∀ bracket body, t = .group bracket body → Told body) (others : Told rest) :
    Told (t :: rest) := by
  intro us x y plain' closes closes' equal
  cases us with
  | nil =>
      simp only [streamChars, List.nil_append] at equal
      exact absurd (equal ▸ closes') (not_closes_streamChars plain x)
  | cons u rest' =>
      obtain ⟨isPlain, -⟩ := isPlain_of_stream plain
      obtain ⟨isPlain', plainRest'⟩ := isPlain_of_stream plain'
      rw [streamChars_cons, streamChars_cons, List.append_assoc, List.append_assoc] at equal
      have follows := follows_following plain closes
      have follows' := follows_following plain' closes'
      obtain ⟨same, onward⟩ :=
        chars_append_inj isPlain isPlain' inner follows.apart follows'.apart equal
      obtain ⟨joint, streams⟩ := follows.inj follows' onward
      obtain ⟨sameRest, sameBack⟩ := others rest' x y plainRest' closes closes' streams
      exact ⟨by rw [eq_of_unjoined same joint, sameRest], sameBack⟩

theorem told_of_isPlainStream : (ts : List Token) → isPlainStream ts = true → Told ts
  | [], _ => told_nil
  | t :: rest, plain => by
      refine told_cons plain ?_ (told_of_isPlainStream rest (isPlain_of_stream plain).2)
      rintro bracket body rfl
      have isPlain := (isPlain_of_stream plain).1
      rw [Token.isPlain, Bool.and_eq_true] at isPlain
      exact told_of_isPlainStream body isPlain.2

/-- Plain streams with the same text are the same. -/
theorem eq_of_text_eq {ts us : List Token} (plain : isPlainStream ts = true)
    (plain' : isPlainStream us = true) (equal : text ts = text us) : ts = us := by
  have nothing : Closes [] := by
    intro c isHead
    exact absurd isHead (by simp)
  have sameChars : streamChars ts ++ [] = streamChars us ++ [] := by
    rw [String.ofList_injective equal]
  exact (told_of_isPlainStream ts plain us [] [] plain' nothing nothing sameChars).1

section Assembling

/-! Streams that are put together from plain ones are plain. -/

theorem isPlainStream_append {ts us : List Token} (plain : isPlainStream ts = true)
    (plain' : isPlainStream us = true) : isPlainStream (ts ++ us) = true := by
  induction ts with
  | nil => exact plain'
  | cons t rest ih =>
      have plainBoth := ih (isPlain_of_stream plain).2
      cases rest with
      | nil =>
          cases us with
          | nil => exact plain
          | cons u rest' =>
              simp only [isPlainStream, Bool.and_eq_true] at plain
              simp only [List.cons_append, List.nil_append, isPlainStream, Bool.and_eq_true,
                Bool.or_eq_true]
              exact ⟨⟨plain.1, .inl plain.2⟩, plain'⟩
      | cons next others =>
          simp only [isPlainStream, Bool.and_eq_true] at plain
          simp only [List.cons_append, isPlainStream, Bool.and_eq_true]
          exact ⟨plain.1, plainBoth⟩

theorem isPlainStream_flatMap {α : Type} {f : α → List Token} {as : List α}
    (plain : ∀ a ∈ as, isPlainStream (f a) = true) : isPlainStream (as.flatMap f) = true := by
  induction as with
  | nil => rfl
  | cons a rest ih =>
      rw [List.flatMap_cons]
      exact isPlainStream_append (plain a List.mem_cons_self)
        (ih fun b member => plain b (List.mem_cons_of_mem a member))

end Assembling

end Flowsmith.Source.Token
