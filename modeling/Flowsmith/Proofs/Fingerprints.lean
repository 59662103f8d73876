import Flowsmith.Artifact
import Mathlib.Logic.Function.Basic

/-!
What a fingerprint tells of a set. It is taken of the paths and contents one after the other, each
ended by a zero byte. A content may hold zeros of its own, and then it reads like the end of one
artifact and the beginning of the next. So the bytes tell the pieces between zeros, and the
artifacts only where these hold none.
-/

namespace Flowsmith

namespace Text

theorem utf8_injective : Function.Injective utf8 := by
  intro s t same
  have data : s.toUTF8.data = t.toUTF8.data := Array.toList_inj.1 same
  exact String.toByteArray_inj.1 (ByteArray.ext data)

theorem hexDigit_inj {m n : Nat} (small : m < 16) (small' : n < 16)
    (same : hexDigit m = hexDigit n) : m = n := by
  have table : ∀ m < 16, ∀ n < 16, hexDigit m = hexDigit n → m = n := by decide
  exact table m small n small' same

/-- Two digits tell a byte, so digits in pairs tell all bytes. -/
theorem hexOfBytes_injective : Function.Injective hexOfBytes := by
  intro bytes bytes' same
  have digits := String.ofList_injective same
  clear same
  induction bytes generalizing bytes' with
  | nil => cases bytes' <;> simp_all
  | cons b rest ih =>
      cases bytes' with
      | nil => simp at digits
      | cons b' rest' =>
          simp only [List.flatMap_cons, List.cons_append, List.nil_append,
            List.cons.injEq] at digits
          obtain ⟨high, low, others⟩ := digits
          have below := b.toNat_lt
          have below' := b'.toNat_lt
          have highs := hexDigit_inj (by omega) (by omega) high
          have lows := hexDigit_inj (by omega) (by omega) low
          have byte : b = b' := UInt8.toNat_inj.1 (by omega)
          rw [byte, ih others]

end Text

/-- Two messages that the digest does not tell apart. -/
def Digest.Collide (message message' : List UInt8) : Prop :=
  message ≠ message' ∧ sha256 message = sha256 message'

namespace ArtifactSet

/-- The path and the content of each artifact, in the order of paths. -/
def listing (s : ArtifactSet) : List (String × List UInt8) :=
  s.artifacts.map fun a => (a.path.text, a.content.bytes)

/-- The bytes of paths and contents, one after the other. -/
def fields (s : ArtifactSet) : List (List UInt8) :=
  s.artifacts.flatMap fun a => [Text.utf8 a.path.text, a.content.bytes]

/-- What is left of paths and contents when they are cut at their zeros. -/
def pieces (s : ArtifactSet) : List (List UInt8) :=
  s.fields.flatMap (List.splitOn 0)

/-- Neither a path nor a content holds a zero. -/
def ZeroFree (s : ArtifactSet) : Prop :=
  ∀ field ∈ s.fields, 0 ∉ field

instance (s : ArtifactSet) : Decidable s.ZeroFree :=
  inferInstanceAs (Decidable (∀ field ∈ s.fields, 0 ∉ field))

section Ending

/-- Fields one after the other, each ended by a zero. -/
def ended (fields : List (List UInt8)) : List UInt8 :=
  fields.flatMap (· ++ [0])

theorem fingerprintBytes_eq (s : ArtifactSet) : s.fingerprintBytes = ended s.fields := by
  simp [fingerprintBytes, ended, fields, List.flatMap_assoc]

/-- The zeros between fields and those in fields are alike. -/
theorem splitOn_ended (fields : List (List UInt8)) :
    (ended fields).splitOn 0 = fields.flatMap (List.splitOn 0) ++ [[]] := by
  induction fields with
  | nil => rfl
  | cons field rest ih =>
      have cut : (field ++ 0 :: ended rest).splitOn 0 = field.splitOn 0 ++ (ended rest).splitOn 0 :=
        List.splitOnP_append_cons field (ended rest) rfl
      rw [ended, List.flatMap_cons, List.append_assoc, List.singleton_append, ← ended, cut, ih,
        List.flatMap_cons, List.append_assoc]

theorem ended_eq_intercalate {fields : List (List UInt8)} (notEmpty : fields ≠ []) :
    ended fields = [0].intercalate fields ++ [0] := by
  induction fields with
  | nil => exact absurd rfl notEmpty
  | cons field rest ih =>
      cases rest with
      | nil => simp [ended]
      | cons next others =>
          rw [ended, List.flatMap_cons, ← ended, ih (List.cons_ne_nil _ _)]
          simp [List.intercalate]

/-- Cutting fields at their zeros changes nothing in what they come to. -/
theorem ended_flatMap_splitOn (fields : List (List UInt8)) :
    ended (fields.flatMap (List.splitOn 0)) = ended fields := by
  have each : ∀ field : List UInt8, ended (field.splitOn 0) = field ++ [0] := by
    intro field
    rw [ended_eq_intercalate (List.splitOn_ne_nil 0 field), List.intercalate_splitOn]
  unfold ended at each ⊢
  simp only [List.flatMap_assoc, each]

theorem ended_eq_iff {fields fields' : List (List UInt8)} :
    ended fields = ended fields' ↔
      fields.flatMap (List.splitOn 0) = fields'.flatMap (List.splitOn 0) := by
  constructor
  · intro same
    have cut := congrArg (List.splitOn 0) same
    rw [splitOn_ended, splitOn_ended] at cut
    exact List.append_cancel_right cut
  · intro same
    rw [← ended_flatMap_splitOn, same, ended_flatMap_splitOn]

end Ending

section Telling

variable {s t : ArtifactSet}

theorem fingerprintBytes_eq_iff :
    s.fingerprintBytes = t.fingerprintBytes ↔ s.pieces = t.pieces := by
  rw [fingerprintBytes_eq, fingerprintBytes_eq, ended_eq_iff]
  rfl

theorem pieces_of_zeroFree (free : s.ZeroFree) : s.pieces = s.fields := by
  have whole : ∀ field ∈ s.fields, field.splitOn 0 = [field] := by
    intro field member
    have noZero : ∀ piece ∈ [field], 0 ∉ piece := by simpa using free field member
    have single := List.splitOn_intercalate 0 noZero (by simp)
    simpa using single
  rw [pieces, List.flatMap_def, List.map_congr_left whole, ← List.flatMap_def,
    List.flatMap_singleton']

/-- Fields come in pairs, so they tell which is of which artifact. -/
theorem listing_eq_iff : s.listing = t.listing ↔ s.fields = t.fields := by
  unfold listing fields
  generalize s.artifacts = as
  generalize t.artifacts = bs
  induction as generalizing bs with
  | nil => cases bs <;> simp
  | cons a rest ih =>
      cases bs with
      | nil => simp
      | cons b others =>
          simp [ih others, Text.utf8_injective.eq_iff, and_assoc]

theorem fingerprint_eq_iff :
    s.fingerprint = t.fingerprint ↔
      s.fingerprintBytes = t.fingerprintBytes ∨
        Digest.Collide s.fingerprintBytes t.fingerprintBytes := by
  unfold fingerprint Digest.Collide
  rw [Text.hexOfBytes_injective.eq_iff]
  by_cases same : s.fingerprintBytes = t.fingerprintBytes <;> simp [same]

end Telling

/-- The bytes of the fingerprint tell the pieces between zeros and no more, so they tell the paths
    and contents of sets without zeros. The fingerprint tells as much as the bytes do, unless the
    digest collides on them. -/
theorem fingerprint_tells_pieces (s t : ArtifactSet) :
    (s.fingerprintBytes = t.fingerprintBytes ↔ s.pieces = t.pieces) ∧
    (s.ZeroFree → t.ZeroFree → (s.fingerprintBytes = t.fingerprintBytes ↔ s.listing = t.listing)) ∧
    (s.fingerprint = t.fingerprint ↔
      s.fingerprintBytes = t.fingerprintBytes ∨
        Digest.Collide s.fingerprintBytes t.fingerprintBytes) := by
  refine ⟨fingerprintBytes_eq_iff, fun free free' => ?_, fingerprint_eq_iff⟩
  rw [fingerprintBytes_eq_iff, pieces_of_zeroFree free, pieces_of_zeroFree free', listing_eq_iff]

/-- A file with the given bytes. -/
def raw (path : String) (bytes : List UInt8) : Artifact :=
  ⟨⟨path⟩, .binary bytes, .internalResource⟩

/-- Sets without zeros that differ in a category alone are the same to the fingerprint. -/
theorem fingerprint_tells_pieces_categories :
    let text : ArtifactSet := registerAll {} [⟨⟨"b"⟩, .text "y", .process⟩, raw "a" [120]]
    let binary : ArtifactSet := registerAll {} [raw "a" [120], raw "b" [121]]
    text ≠ binary ∧ text.ZeroFree ∧ binary.ZeroFree ∧ text.listing = binary.listing := by
  intro text binary
  have free : text.ZeroFree ∧ binary.ZeroFree := by decide
  refine ⟨by decide, free.1, free.2, ?_⟩
  exact ((fingerprint_tells_pieces text binary).2.1 free.1 free.2).1 (by decide)

/-- A content with zeros is taken for the content of one artifact and for a second artifact. -/
theorem fingerprintBytes_ambiguous :
    ¬ ∀ as bs : List Artifact,
      (registerAll {} as).fingerprintBytes = (registerAll {} bs).fingerprintBytes →
        (registerAll {} as).listing = (registerAll {} bs).listing := by
  intro told
  have same := told [raw "a" [120, 0, 98, 0, 121]] [raw "a" [120], raw "b" [121]] (by decide)
  exact absurd same (by decide)

end ArtifactSet

end Flowsmith
