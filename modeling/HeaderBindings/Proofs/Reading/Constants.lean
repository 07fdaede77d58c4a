/-
  Integer constants of C and their values.  A constant is a run of digits, perhaps behind the mark
  of a base and in front of a suffix; a leading zero makes it octal.  Its value is that of its digits
  in its base.

  Main statement (`IntegerConstant.value_text`): decimal, hexadecimal and binary constants are
  evaluated to their value, a decimal one up to 4300 digits; an octal constant is evaluated only if
  all its digits are zeros, at most as many.
-/
import HeaderBindings.C.Numeral
import Mathlib.Data.Nat.Digits.Defs

namespace HeaderBindings.C

namespace Characters

/-- What is said of the characters of a list is decided along the list; `Char` is finite, and
running through all of it would not end. -/
scoped instance (priority := 2000) decidableForallMem (cs : List Char) (P : Char → Prop)
    [DecidablePred P] : Decidable (∀ c ∈ cs, P c) := List.decidableBAll P cs

end Characters

open scoped Characters

/-! ## Digits -/

/-- The number that a digit stands for: its place among the sixteen digits, in small or in capital
letters.  Any other character has the number sixteen. -/
def digitNumber (c : Char) : Nat :=
  min ("0123456789abcdef".toList.idxOf c) ("0123456789ABCDEF".toList.idxOf c)

/-- The number that digits stand for in a base, the first of them counting most. -/
def positional (base : Nat) (digits : List Char) : Nat :=
  Nat.ofDigits base (digits.reverse.map digitNumber)

theorem mem_of_digitNumber_lt {c : Char} (h : digitNumber c < 16) :
    c ∈ "0123456789abcdefABCDEF".toList := by
  have hall : ∀ d ∈ "0123456789abcdef".toList ++ "0123456789ABCDEF".toList,
      d ∈ "0123456789abcdefABCDEF".toList := by decide
  refine hall c (List.mem_append.mpr ?_)
  exact (min_lt_iff.mp h).imp List.idxOf_lt_length_iff.mp List.idxOf_lt_length_iff.mp

theorem digitValue_of_lt {c : Char} (h : digitNumber c < 16) :
    Numeral.digitValue c = some (digitNumber c) := by
  have hall : ∀ d ∈ "0123456789abcdefABCDEF".toList,
      Numeral.digitValue d = some (digitNumber d) := by decide
  exact hall c (mem_of_digitNumber_lt h)

/-- What holds of the characters below a bound is checked at their codes. -/
theorem forall_of_codes {bound : Nat} {P : Char → Prop} (h : ∀ code < bound, P (Char.ofNat code))
    {c : Char} (hc : c.toNat < bound) : P c := by
  have hcode := h c.toNat hc
  rwa [Char.ofNat_toNat] at hcode

theorem toNat_le_of_le {c last : Char} (h : c ≤ last) : c.toNat ≤ last.toNat :=
  UInt32.le_iff_toNat_le.mp (Char.le_def.mp h)

theorem digitNumber_of_digitValue {c : Char} {d : Nat} (h : Numeral.digitValue c = some d) :
    digitNumber c = d := by
  have hascii : c.toNat < 0x80 := by
    have hlast : ∀ {last : Char}, last.toNat < 0x80 → c ≤ last → c.toNat < 0x80 :=
      fun hlast hc => lt_of_le_of_lt (toNat_le_of_le hc) hlast
    unfold Numeral.digitValue at h
    simp only [Bool.and_eq_true, decide_eq_true_eq] at h
    split at h
    · rename_i hdigit
      exact hlast (by decide) hdigit.2
    split at h
    · rename_i hsmall
      exact hlast (by decide) hsmall.2
    split at h
    · rename_i hcapital
      exact hlast (by decide) hcapital.2
    · cases h
  exact forall_of_codes (P := fun c => ∀ d ∈ Numeral.digitValue c, digitNumber c = d)
    (by decide +kernel) hascii d h

theorem positional_cons (base : Nat) (c : Char) (cs : List Char) :
    positional base (c :: cs) = digitNumber c * base ^ cs.length + positional base cs := by
  simp only [positional, List.reverse_cons, List.map_append, List.map_singleton,
    Nat.ofDigits_append, Nat.ofDigits_singleton, List.length_map, List.length_reverse]
  ring

theorem positional_zeros (base : Nat) {digits : List Char} (h : ∀ c ∈ digits, c = '0') :
    positional base digits = 0 := by
  induction digits with
  | nil => rfl
  | cons c cs ih =>
    rw [List.forall_mem_cons] at h
    have hzero : digitNumber '0' = 0 := by decide
    rw [positional_cons, h.1, hzero, ih h.2, zero_mul]

theorem digitsFrom_eq {base : Nat} (hbase : base ≤ 16) {cs : List Char}
    (h : ∀ c ∈ cs, digitNumber c < base) (n : Nat) :
    Numeral.digitsFrom base n cs = some (n * base ^ cs.length + positional base cs) := by
  induction cs generalizing n with
  | nil => simp [Numeral.digitsFrom, positional]
  | cons c cs ih =>
    rw [List.forall_mem_cons] at h
    have hvalue := digitValue_of_lt (lt_of_lt_of_le h.1 hbase)
    have hstep : Numeral.digitsFrom base n (c :: cs)
        = Numeral.digitsFrom base (base * n + digitNumber c) cs := by
      rw [Numeral.digitsFrom, hvalue]
      exact if_pos h.1
    rw [hstep, ih h.2, positional_cons, List.length_cons]
    congr 1
    ring

theorem digits_eq {base : Nat} (hbase : base ≤ 16) {cs : List Char} (hne : cs ≠ [])
    (h : ∀ c ∈ cs, digitNumber c < base) : Numeral.digits base cs = some (positional base cs) := by
  rw [Numeral.digits, if_neg (by simpa using hne), digitsFrom_eq hbase h, zero_mul, zero_add]

/-- Only digits of the base are read. -/
theorem digitNumber_lt_of_digitsFrom {base n value : Nat} {cs : List Char}
    (h : Numeral.digitsFrom base n cs = some value) : ∀ c ∈ cs, digitNumber c < base := by
  induction cs generalizing n with
  | nil => simp
  | cons c cs ih =>
    rw [Numeral.digitsFrom] at h
    obtain ⟨d, hd, h⟩ := Option.bind_eq_some_iff.mp h
    by_cases hlt : d < base
    · rw [if_pos hlt] at h
      refine List.forall_mem_cons.mpr ⟨?_, ih h⟩
      rwa [digitNumber_of_digitValue hd]
    · rw [if_neg hlt] at h
      cases h

theorem digitNumber_lt_of_digits {base value : Nat} {cs : List Char}
    (h : Numeral.digits base cs = some value) : ∀ c ∈ cs, digitNumber c < base := by
  rw [Numeral.digits] at h
  split at h
  · cases h
  · exact digitNumber_lt_of_digitsFrom h

/-! ## Numerals -/

/-- The text opens with the mark of a base. -/
def OpensMark (cs : List Char) : Prop :=
  ∃ letter ∈ ['x', 'X', 'b', 'B'], ∃ digits, cs = '0' :: letter :: digits

theorem natural_eq_decimal {cs : List Char} (h : ¬ OpensMark cs) :
    Numeral.natural cs = Numeral.decimal cs := by
  unfold Numeral.natural
  split
  · exact absurd ⟨'x', by decide, _, rfl⟩ h
  · exact absurd ⟨'X', by decide, _, rfl⟩ h
  · exact absurd ⟨'b', by decide, _, rfl⟩ h
  · exact absurd ⟨'B', by decide, _, rfl⟩ h
  · rfl

/-- What has a value holds decimal digits only, or the mark of a base and hexadecimal digits. -/
theorem natural_eq_some_cases {cs : List Char} {value : Nat}
    (h : Numeral.natural cs = some value) :
    (∀ c ∈ cs, digitNumber c < 10) ∨
    ∃ letter ∈ ['x', 'X', 'b', 'B'], ∃ digits, cs = '0' :: letter :: digits ∧
      ∀ c ∈ digits, digitNumber c < 16 := by
  have hweaken : ∀ {digits : List Char}, Numeral.digits 2 digits = some value →
      ∀ c ∈ digits, digitNumber c < 16 := fun hdigits c hc =>
    lt_trans (digitNumber_lt_of_digits hdigits c hc) (by decide)
  unfold Numeral.natural at h
  split at h
  · exact .inr ⟨'x', by decide, _, rfl, digitNumber_lt_of_digits h⟩
  · exact .inr ⟨'X', by decide, _, rfl, digitNumber_lt_of_digits h⟩
  · exact .inr ⟨'b', by decide, _, rfl, hweaken h⟩
  · exact .inr ⟨'B', by decide, _, rfl, hweaken h⟩
  · rw [Numeral.decimal] at h
    split at h
    · exact .inl (digitNumber_lt_of_digits h)
    · cases h

theorem dropSuffix_append {cs suffix : List Char}
    (hsuffix : ∀ c ∈ suffix, Numeral.isSuffixLetter c = true) :
    Numeral.dropSuffix (cs ++ suffix) = Numeral.dropSuffix cs := by
  rw [Numeral.dropSuffix, List.reverse_append,
    List.dropWhile_append_of_pos fun c hc => hsuffix c (List.mem_reverse.mp hc), Numeral.dropSuffix]

/-- A character that is no suffix letter stays, with everything before it. -/
theorem dropSuffix_append_cons {c : Char} (hc : Numeral.isSuffixLetter c = false)
    (cs ds : List Char) :
    Numeral.dropSuffix (cs ++ c :: ds) = cs ++ c :: Numeral.dropSuffix ds := by
  have hkeep : (c :: cs.reverse).dropWhile Numeral.isSuffixLetter = c :: cs.reverse :=
    List.dropWhile_cons_of_neg (by simp [hc])
  rw [Numeral.dropSuffix, Numeral.dropSuffix, List.reverse_append, List.reverse_cons,
    List.append_assoc, List.singleton_append, List.dropWhile_append, hkeep]
  split
  · rename_i hempty
    rw [List.isEmpty_iff.mp hempty]
    simp
  · simp

/-! ## Constants -/

inductive Radix where
  | decimal | octal | hexadecimal | binary
  deriving DecidableEq, Repr

namespace Radix

def base : Radix → Nat
  | decimal => 10
  | octal => 8
  | hexadecimal => 16
  | binary => 2

/-- What can stand in front of the digits. -/
def marks : Radix → List (List Char)
  | decimal | octal => [[]]
  | hexadecimal => [['0', 'x'], ['0', 'X']]
  | binary => [['0', 'b'], ['0', 'B']]

/-- A zero in front tells an octal constant from a decimal one. -/
def Leads : Radix → List Char → Prop
  | decimal, digits => digits.head? ≠ some '0'
  | octal, digits => digits.head? = some '0'
  | hexadecimal, _ | binary, _ => True

end Radix

/-- The ways to mark a constant as unsigned, or not to. -/
def unsignedMarks : List (List Char) := [[], ['u'], ['U']]

/-- The ways to mark a constant as long; the two letters of a doubled mark are alike. -/
def longMarks : List (List Char) := [[], ['l'], ['L'], ['l', 'l'], ['L', 'L']]

/-- The suffix of an integer constant has the two marks in either order. -/
def IsIntegerSuffix (suffix : List Char) : Prop :=
  ∃ unsigned ∈ unsignedMarks, ∃ long ∈ longMarks,
    suffix = unsigned ++ long ∨ suffix = long ++ unsigned

structure IntegerConstant where
  radix : Radix
  mark : List Char
  digits : List Char
  suffix : List Char
  mark_mem : mark ∈ radix.marks
  digits_ne_nil : digits ≠ []
  digitNumber_lt : ∀ c ∈ digits, digitNumber c < radix.base
  leads : radix.Leads digits
  isIntegerSuffix : IsIntegerSuffix suffix

namespace IntegerConstant

variable (k : IntegerConstant)

def chars : List Char := k.mark ++ k.digits ++ k.suffix

def text : String := String.ofList k.chars

def value : Nat := positional k.radix.base k.digits

/-- A hexadecimal or binary constant is evaluated, a decimal one if it is not too long, and an octal
one if it has only zeros and not too many. -/
def isEvaluated : Bool :=
  match k.radix with
  | .hexadecimal | .binary => true
  | .decimal => k.digits.length ≤ 4300
  | .octal => k.digits.length ≤ 4300 && k.digits.all (· == '0')

theorem base_le : k.radix.base ≤ 16 := by
  cases k.radix <;> decide

theorem isSuffixLetter_of_mem_suffix : ∀ c ∈ k.suffix, Numeral.isSuffixLetter c = true := by
  have hunsigned : ∀ unsigned ∈ unsignedMarks, ∀ c ∈ unsigned,
      Numeral.isSuffixLetter c = true := by decide
  have hlong : ∀ long ∈ longMarks, ∀ c ∈ long, Numeral.isSuffixLetter c = true := by decide
  obtain ⟨unsigned, hu, long, hl, hsuffix | hsuffix⟩ := k.isIntegerSuffix
  · rw [hsuffix]
    exact List.forall_mem_append.mpr ⟨hunsigned _ hu, hlong _ hl⟩
  · rw [hsuffix]
    exact List.forall_mem_append.mpr ⟨hlong _ hl, hunsigned _ hu⟩

theorem not_isSuffixLetter_of_mem_digits {c : Char} (hc : c ∈ k.digits) :
    Numeral.isSuffixLetter c = false := by
  have hall : ∀ d ∈ "0123456789abcdefABCDEF".toList, Numeral.isSuffixLetter d = false := by decide
  exact hall c (mem_of_digitNumber_lt (lt_of_lt_of_le (k.digitNumber_lt c hc) k.base_le))

/-- The suffix goes and nothing else. -/
theorem dropSuffix_chars : Numeral.dropSuffix k.chars = k.mark ++ k.digits := by
  obtain ⟨front, last, hdigits⟩ : ∃ front last, k.digits = front ++ [last] :=
    ⟨_, _, (List.dropLast_concat_getLast k.digits_ne_nil).symm⟩
  have hlast : Numeral.isSuffixLetter last = false :=
    k.not_isSuffixLetter_of_mem_digits (by rw [hdigits]; simp)
  rw [chars, dropSuffix_append k.isSuffixLetter_of_mem_suffix, hdigits, ← List.append_assoc,
    dropSuffix_append_cons hlast]
  rfl

theorem digits_base : Numeral.digits k.radix.base k.digits = some k.value :=
  digits_eq k.base_le k.digits_ne_nil k.digitNumber_lt

/-- The digits of a decimal or octal constant are not taken for the mark of a base. -/
theorem not_opensMark_digits (hbase : k.radix.base ≤ 10) : ¬ OpensMark k.digits := by
  rintro ⟨letter, hletter, digits, hdigits⟩
  have hall : ∀ letter ∈ ['x', 'X', 'b', 'B'], ¬ digitNumber letter < 10 := by decide
  refine hall letter hletter (lt_of_lt_of_le (k.digitNumber_lt letter ?_) hbase)
  rw [hdigits]
  simp

/-- Zeros have the value zero in every base, so that an octal constant may be read as a decimal. -/
theorem digits_ten_of_zeros (hzeros : ∀ c ∈ k.digits, c = '0') :
    Numeral.digits 10 k.digits = some k.value := by
  have hten : ∀ c ∈ k.digits, digitNumber c < 10 := by
    intro c hc
    rw [hzeros c hc]
    decide
  rw [digits_eq (by decide) k.digits_ne_nil hten, value, positional_zeros _ hzeros,
    positional_zeros _ hzeros]

theorem natural_chars :
    Numeral.natural (k.mark ++ k.digits) = if k.isEvaluated then some k.value else none := by
  have hdigits := k.digits_base
  have hmark := k.mark_mem
  have hleads := k.leads
  have hplain : k.radix.base ≤ 10 →
      Numeral.natural k.digits = Numeral.decimal k.digits := fun hbase =>
    natural_eq_decimal (k.not_opensMark_digits hbase)
  rw [isEvaluated]
  cases hradix : k.radix with
  | hexadecimal =>
    rw [hradix] at hmark hdigits
    simp only [Radix.marks, List.mem_cons, List.not_mem_nil, or_false] at hmark
    rcases hmark with hmark | hmark <;> rw [hmark] <;> exact hdigits
  | binary =>
    rw [hradix] at hmark hdigits
    simp only [Radix.marks, List.mem_cons, List.not_mem_nil, or_false] at hmark
    rcases hmark with hmark | hmark <;> rw [hmark] <;> exact hdigits
  | decimal =>
    rw [hradix] at hmark hdigits hleads hplain
    have hhead : (k.digits.head? != some '0') = true := bne_iff_ne.mpr hleads
    rw [List.mem_singleton.mp hmark, List.nil_append, hplain (by decide), Numeral.decimal, hhead,
      Bool.true_or, Bool.and_true]
    change Numeral.digits 10 k.digits = some k.value at hdigits
    rw [hdigits]
    rfl
  | octal =>
    rw [hradix] at hmark hleads hplain
    have hhead : (k.digits.head? != some '0') = false := bne_eq_false_iff_eq.mpr hleads
    rw [List.mem_singleton.mp hmark, List.nil_append, hplain (by decide), Numeral.decimal, hhead,
      Bool.false_or]
    cases hzeros : k.digits.all (· == '0') with
    | false =>
      simp only [Bool.and_false]
      rfl
    | true =>
      simp only [Bool.and_true, k.digits_ten_of_zeros (by simpa using hzeros)]
      rfl

/-- The value of an integer constant, if it is evaluated. -/
theorem value_text :
    Numeral.value k.text = if k.isEvaluated then some k.value else none := by
  rw [Numeral.value, text, String.toList_ofList, dropSuffix_chars, natural_chars]

end IntegerConstant

end HeaderBindings.C
