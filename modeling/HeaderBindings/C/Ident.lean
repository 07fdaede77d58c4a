/-
  Identifiers of C: a letter, an underscore or a dollar sign, then any of these and digits, all of
  them ASCII.  Main statement: an identifier holds no blank (`Ident.not_isBlank`), so a name never
  breaks the line it is printed on.
-/
import HeaderBindings.Text.Blank

namespace HeaderBindings.C

def isIdentStart (c : Char) : Bool := c.isAlpha || c == '_' || c == '$'

def isIdentRest (c : Char) : Bool := c.isAlphanum || c == '_' || c == '$'

def isIdentifier : List Char → Bool
  | [] => false
  | c :: cs => isIdentStart c && cs.all isIdentRest

/-- A text that is an identifier. -/
structure Ident where
  chars : List Char
  isIdentifier_chars : isIdentifier chars = true
  deriving DecidableEq

namespace Ident

def text (i : Ident) : String := String.ofList i.chars

instance : Repr Ident := ⟨fun i _ => repr i.text⟩

/-- The identifier at the head of a text. -/
def scan? : List Char → Option Ident
  | [] => none
  | c :: cs =>
    if h : isIdentStart c = true then
      some ⟨c :: cs.takeWhile isIdentRest, by simp [isIdentifier, h]⟩
    else none

theorem isIdentRest_of_start {c : Char} (h : isIdentStart c = true) : isIdentRest c = true := by
  simp only [isIdentStart, isIdentRest, Char.isAlphanum, Bool.or_eq_true] at h ⊢
  rcases h with (h | h) | h
  · exact .inl (.inl (.inl h))
  · exact .inl (.inr h)
  · exact .inr h

/-- Every character of an identifier may stand inside one. -/
theorem isIdentRest_of_mem (i : Ident) {c : Char} (h : c ∈ i.chars) : isIdentRest c = true := by
  obtain ⟨chars, hv⟩ := i
  cases chars with
  | nil => simp at h
  | cons d ds =>
    simp only [isIdentifier, Bool.and_eq_true, List.all_eq_true] at hv
    rcases List.mem_cons.mp h with rfl | hd
    · exact isIdentRest_of_start hv.1
    · exact hv.2 _ hd

theorem not_isBlank_of_rest {c : Char} (h : isIdentRest c = true) : Text.isBlank c = false := by
  have hlt : 0x24 ≤ c.toNat ∧ c.toNat < 0x7F := by
    have hletter : c.isAlpha = (decide (c.val ≥ 'A'.val ∧ c.val ≤ 'Z'.val)
        || decide (c.val ≥ 'a'.val) && decide (c.val ≤ 'z'.val)) := rfl
    simp only [isIdentRest, Char.isAlphanum, hletter, Char.isDigit, Bool.or_eq_true,
      Bool.and_eq_true, decide_eq_true_eq, beq_iff_eq, UInt32.le_iff_toNat_le] at h
    have hc : c.val.toNat = c.toNat := rfl
    rcases h with (((h | h) | h) | rfl) | rfl
    · simp at h; omega
    · simp at h; omega
    · simp at h; omega
    · decide
    · decide
  rw [Text.isBlank, ← Bool.not_eq_true, Text.inRanges_iff]
  simp only [Text.blankRanges, List.mem_cons, List.not_mem_nil, or_false]
  rintro ⟨r, hr, hle, hge⟩
  rcases hr with rfl | rfl | rfl | rfl | rfl | rfl | rfl | rfl | rfl | rfl <;> simp at hle hge <;>
    omega

/-- An identifier holds no blank. -/
theorem not_isBlank (i : Ident) {c : Char} (h : c ∈ i.chars) : Text.isBlank c = false :=
  not_isBlank_of_rest (i.isIdentRest_of_mem h)

end Ident

end HeaderBindings.C
