/-
  The literals that the scanner reads.  A token that is a constant or a string has the text of an
  integer constant, of a floating constant, or of characters in quotes.

  Each form of literal is tried on the text that is left and gives what follows it; the lemmas below
  say of each form what stands before that.  Main statement: `Scanner.next_isLiteral`.
-/
import HeaderBindings.C.Scanner
import HeaderBindings.Proofs.Reading.Constants

namespace HeaderBindings.C

open scoped Characters

namespace Literal

theorem run1_eq_some {p : Char → Bool} {cs after : List Char} (h : run1 p cs = some after) :
    ∃ run, run ≠ [] ∧ (∀ c ∈ run, p c = true) ∧ cs = run ++ after := by
  rw [run1] at h
  split at h
  · cases h
  · rename_i hempty
    obtain rfl := Option.some.inj h
    refine ⟨cs.takeWhile p, by simpa using hempty, ?_, List.takeWhile_append_dropWhile.symm⟩
    exact List.all_eq_true.mp List.all_takeWhile

/-! ## Suffixes -/

theorem isIntegerSuffix_nil : IsIntegerSuffix [] := ⟨[], by decide, [], by decide, .inl rfl⟩

theorem isIntegerSuffix_unsigned_long {a : Char} {long : List Char} (ha : a = 'u' ∨ a = 'U')
    (hlong : long ∈ longMarks) : IsIntegerSuffix (a :: long) := by
  refine ⟨[a], ?_, long, hlong, .inl rfl⟩
  rcases ha with rfl | rfl <;> decide

/-- After a long mark an unsigned one is taken if it follows. -/
theorem exists_suffix_of_long {long : List Char} (hlong : long ∈ longMarks) (c : Char)
    (rest : List Char) : ∃ suffix, IsIntegerSuffix suffix ∧
      long ++ c :: rest = suffix ++ if c = 'u' ∨ c = 'U' then rest else c :: rest := by
  by_cases hc : c = 'u' ∨ c = 'U'
  · refine ⟨long ++ [c], ⟨[c], ?_, long, hlong, .inr rfl⟩, by rw [if_pos hc]; simp⟩
    rcases hc with rfl | rfl <;> decide
  · exact ⟨long, ⟨[], by decide, long, hlong, .inl rfl⟩, by rw [if_neg hc]⟩

/-- What is skipped behind the digits is a suffix, which may be empty. -/
theorem exists_suffix (cs : List Char) :
    ∃ suffix, IsIntegerSuffix suffix ∧ cs = suffix ++ afterSuffix cs := by
  have hone : ∀ {a : Char}, a = 'l' ∨ a = 'L' → [a] ∈ longMarks := by
    rintro a (rfl | rfl) <;> decide
  have htwo : ∀ {a : Char}, a = 'l' ∨ a = 'L' → [a, a] ∈ longMarks := by
    rintro a (rfl | rfl) <;> decide
  unfold afterSuffix
  simp only [Bool.or_eq_true, Bool.and_eq_true, beq_iff_eq]
  split
  · rename_i a b c rest
    split
    · rename_i h
      obtain ⟨⟨ha, hb⟩, rfl⟩ := h
      exact ⟨[a, b, b], isIntegerSuffix_unsigned_long ha (htwo hb), rfl⟩
    split
    · rename_i h
      obtain ⟨ha, rfl⟩ := h
      exact exists_suffix_of_long (htwo ha) c rest
    split
    · rename_i h
      exact ⟨[a, b], isIntegerSuffix_unsigned_long h.1 (hone h.2), rfl⟩
    split
    · rename_i h
      exact exists_suffix_of_long (hone h) b (c :: rest)
    · exact exists_suffix_of_long (show [] ∈ longMarks by decide) a (b :: c :: rest)
  · rename_i a b
    split
    · rename_i h
      obtain ⟨ha, rfl⟩ := h
      exact ⟨[a, a], ⟨[], by decide, [a, a], htwo ha, .inl rfl⟩, rfl⟩
    split
    · rename_i h
      exact ⟨[a, b], isIntegerSuffix_unsigned_long h.1 (hone h.2), rfl⟩
    split
    · rename_i h
      exact exists_suffix_of_long (hone h) b []
    · exact exists_suffix_of_long (show [] ∈ longMarks by decide) a [b]
  · rename_i a
    split
    · rename_i h
      rcases h with h | h
      · exact ⟨[a], isIntegerSuffix_unsigned_long h (by decide), rfl⟩
      · exact ⟨[a], ⟨[], by decide, [a], hone h, .inl rfl⟩, rfl⟩
    · exact ⟨[], isIntegerSuffix_nil, rfl⟩
  · exact ⟨[], isIntegerSuffix_nil, rfl⟩

/-! ## Digits -/

theorem toNat_lt_of_isDigit {c : Char} (h : c.isDigit = true) : c.toNat < 0x80 :=
  lt_of_le_of_lt (Char.isDigit_iff_toNat.mp h).2 (by decide)

theorem digitNumber_lt_of_isDigit {c : Char} (h : c.isDigit = true) : digitNumber c < 10 :=
  forall_of_codes (P := fun c => c.isDigit = true → digitNumber c < 10) (by decide +kernel)
    (toNat_lt_of_isDigit h) h

theorem digitNumber_lt_of_isHexDigit {c : Char} (h : isHexDigit c = true) :
    digitNumber c < 16 := by
  have hascii : c.toNat < 0x80 := by
    simp only [isHexDigit, Bool.or_eq_true, Bool.and_eq_true, decide_eq_true_eq] at h
    rcases h with (h | h) | h
    · exact toNat_lt_of_isDigit h
    · exact lt_of_le_of_lt (toNat_le_of_le h.2) (by decide)
    · exact lt_of_le_of_lt (toNat_le_of_le h.2) (by decide)
  exact forall_of_codes (P := fun c => isHexDigit c = true → digitNumber c < 16)
    (by decide +kernel) hascii h

theorem digitNumber_lt_of_isOctalDigit {c : Char} (h : isOctalDigit c = true) :
    digitNumber c < 8 := by
  have hascii : c.toNat < 0x80 := by
    simp only [isOctalDigit, Bool.and_eq_true, decide_eq_true_eq] at h
    exact lt_of_le_of_lt (toNat_le_of_le h.2) (by decide)
  exact forall_of_codes (P := fun c => isOctalDigit c = true → digitNumber c < 8)
    (by decide +kernel) hascii h

/-! ## Integer constants -/

/-- A mark and digits, with the suffix that follows them, are a constant. -/
theorem exists_integerConstant (radix : Radix) (mark digits rest : List Char)
    (hmark : mark ∈ radix.marks) (hne : digits ≠ [])
    (hdigits : ∀ c ∈ digits, digitNumber c < radix.base) (hleads : radix.Leads digits) :
    ∃ k : IntegerConstant, mark ++ digits ++ rest = k.chars ++ afterSuffix rest := by
  obtain ⟨suffix, hsuffix, hrest⟩ := exists_suffix rest
  refine ⟨⟨radix, mark, digits, suffix, hmark, hne, hdigits, hleads, hsuffix⟩, ?_⟩
  rw [IntegerConstant.chars, List.append_assoc _ suffix, ← hrest]

theorem afterBase_eq_some {small large : Char} {cs after : List Char}
    (h : afterBase small large cs = some after) :
    ∃ letter ∈ [small, large], cs = '0' :: letter :: after := by
  unfold afterBase at h
  split at h
  · rename_i c cs
    split at h
    · rename_i hletter
      obtain rfl := Option.some.inj h
      refine ⟨c, ?_, rfl⟩
      simpa using hletter
    · cases h
  · cases h

/-- Behind the mark of a base its digits are read, and the suffix after them. -/
theorem exists_integerConstant_of_mark {small large : Char} {isDigit : Char → Bool} (radix : Radix)
    (hmarks : ∀ letter ∈ [small, large], ['0', letter] ∈ radix.marks)
    (hdigits : ∀ c, isDigit c = true → digitNumber c < radix.base)
    (hleads : ∀ digits, radix.Leads digits) {cs after : List Char}
    (h : ((afterBase small large cs).bind fun digits => (run1 isDigit digits).map afterSuffix)
      = some after) :
    ∃ k : IntegerConstant, cs = k.chars ++ after := by
  obtain ⟨digits, hbase, hread⟩ := Option.bind_eq_some_iff.mp h
  obtain ⟨letter, hletter, hcs⟩ := afterBase_eq_some hbase
  obtain ⟨rest, hrun, rfl⟩ := Option.map_eq_some_iff.mp hread
  obtain ⟨run, hne, hall, rfl⟩ := run1_eq_some hrun
  rw [hcs]
  exact exists_integerConstant radix ['0', letter] run rest (hmarks letter hletter) hne
    (fun c hc => hdigits c (hall c hc)) (hleads run)

theorem hexadecimal_eq_some {cs after : List Char} (h : hexadecimal cs = some after) :
    ∃ k : IntegerConstant, cs = k.chars ++ after :=
  exists_integerConstant_of_mark .hexadecimal (by decide) (fun _ => digitNumber_lt_of_isHexDigit)
    (fun _ => trivial) h

theorem binary_eq_some {cs after : List Char} (h : binary cs = some after) :
    ∃ k : IntegerConstant, cs = k.chars ++ after := by
  refine exists_integerConstant_of_mark .binary (by decide) ?_ (fun _ => trivial) h
  intro c hbit
  rw [Bool.or_eq_true, beq_iff_eq, beq_iff_eq] at hbit
  rcases hbit with rfl | rfl <;> decide

theorem octal_eq_some {cs after : List Char} (h : octal cs = some after) :
    ∃ k : IntegerConstant, cs = k.chars ++ after := by
  unfold octal at h
  split at h
  · rename_i cs
    obtain rfl := Option.some.inj h
    have hdigits : ∀ c ∈ '0' :: cs.takeWhile isOctalDigit, digitNumber c < Radix.octal.base := by
      refine List.forall_mem_cons.mpr ⟨by decide, fun c hc => ?_⟩
      exact digitNumber_lt_of_isOctalDigit (List.all_eq_true.mp List.all_takeWhile c hc)
    have hk := exists_integerConstant .octal [] ('0' :: cs.takeWhile isOctalDigit)
      (cs.dropWhile isOctalDigit) (by decide) (List.cons_ne_nil _ _) hdigits rfl
    rwa [List.nil_append, List.cons_append, List.takeWhile_append_dropWhile] at hk
  · cases h

theorem decimal_eq_some {cs after : List Char} (h : decimal cs = some after) :
    ∃ k : IntegerConstant, cs = k.chars ++ after := by
  unfold decimal at h
  split at h
  · rename_i cs
    obtain rfl := Option.some.inj h
    exact exists_integerConstant .octal [] ['0'] cs (by decide) (by decide) (by decide) rfl
  · rename_i hzero
    obtain ⟨rest, hrun, rfl⟩ := Option.map_eq_some_iff.mp h
    obtain ⟨run, hne, hall, rfl⟩ := run1_eq_some hrun
    refine exists_integerConstant .decimal [] run rest (by decide) hne
      (fun c hc => digitNumber_lt_of_isDigit (hall c hc)) ?_
    intro hhead
    obtain ⟨digits, rfl⟩ := List.head?_eq_some_iff.mp hhead
    exact hzero _ rfl

/-! ## Floating constants -/

theorem run1_suffix {p : Char → Bool} {cs after : List Char} (h : run1 p cs = some after) :
    after <:+ cs := by
  obtain ⟨run, -, -, rfl⟩ := run1_eq_some h
  exact List.suffix_append run after

theorem exponent_eq_some {small large : Char} {cs after : List Char}
    (h : exponent small large cs = some after) :
    ∃ c ∈ [small, large], ∃ more, cs = c :: more ∧ after <:+ more := by
  unfold exponent at h
  split at h
  · rename_i c more
    split at h
    · rename_i hletter
      refine ⟨c, by simpa using hletter, more, rfl, ?_⟩
      split at h
      · exact (run1_suffix h).trans (List.suffix_cons _ _)
      · exact (run1_suffix h).trans (List.suffix_cons _ _)
      · exact run1_suffix h
    · cases h
  · cases h

theorem afterFloatSuffix_suffix (cs : List Char) : afterFloatSuffix cs <:+ cs := by
  unfold afterFloatSuffix
  split
  · split
    · exact List.suffix_cons _ _
    · exact List.suffix_refl _
  · exact List.suffix_refl _

theorem afterExponent_suffix (cs : List Char) :
    afterFloatSuffix ((exponent 'e' 'E' cs).getD cs) <:+ cs := by
  refine (afterFloatSuffix_suffix _).trans ?_
  cases h : exponent 'e' 'E' cs with
  | none => exact List.suffix_refl cs
  | some after =>
    obtain ⟨c, -, more, rfl, hafter⟩ := exponent_eq_some h
    exact hafter.trans (List.suffix_cons c more)

/-- Digits up to a point or an exponent, or behind the mark of the hexadecimal base up to a binary
exponent. -/
def IsFloating (cs : List Char) : Prop :=
  (∃ whole c more, cs = whole ++ c :: more ∧ (∀ d ∈ whole, d.isDigit = true) ∧
    c ∈ ['.', 'e', 'E']) ∨
  (∃ letter ∈ ['x', 'X'], ∃ whole c more, cs = '0' :: letter :: whole ++ c :: more ∧
    c ∈ ['p', 'P'])

theorem float_eq_some {cs after : List Char} (h : float cs = some after) :
    ∃ text, IsFloating text ∧ cs = text ++ after := by
  have hwhole : ∀ d ∈ cs.takeWhile Char.isDigit, d.isDigit = true :=
    List.all_eq_true.mp List.all_takeWhile
  -- the digits in front, and the character that ends them
  have htext : ∀ c ∈ ['.', 'e', 'E'], ∀ rest, cs.dropWhile Char.isDigit = c :: rest →
      after <:+ rest → ∃ text, IsFloating text ∧ cs = text ++ after := by
    rintro c hc rest hdrop ⟨more, rfl⟩
    refine ⟨cs.takeWhile Char.isDigit ++ c :: more, .inl ⟨_, c, more, rfl, hwhole, hc⟩, ?_⟩
    rw [List.append_assoc, List.cons_append, ← hdrop, List.takeWhile_append_dropWhile]
  unfold float at h
  simp only at h
  split at h
  · rename_i rest hdrop
    refine htext '.' (by decide) rest hdrop ?_
    split at h
    · rename_i fraction hrun
      obtain rfl := Option.some.inj h
      exact (afterExponent_suffix fraction).trans (run1_suffix hrun)
    · split at h
      · cases h
      · obtain rfl := Option.some.inj h
        exact afterExponent_suffix rest
  · split at h
    · cases h
    · obtain ⟨rest, hexponent, rfl⟩ := Option.map_eq_some_iff.mp h
      obtain ⟨c, hc, more, hdrop, hrest⟩ := exponent_eq_some hexponent
      have hc' : c ∈ ['.', 'e', 'E'] := List.mem_cons_of_mem _ hc
      exact htext c hc' more hdrop ((afterFloatSuffix_suffix rest).trans hrest)

theorem hexFloat_eq_some {cs after : List Char} (h : hexFloat cs = some after) :
    ∃ text, IsFloating text ∧ cs = text ++ after := by
  obtain ⟨digits, hbase, hfloat⟩ := Option.bind_eq_some_iff.mp h
  obtain ⟨letter, hletter, rfl⟩ := afterBase_eq_some hbase
  simp only at hfloat
  obtain ⟨rest, hrest, hexponent⟩ : ∃ rest, rest <:+ digits ∧
      (exponent 'p' 'P' rest).map afterFloatSuffix = some after := by
    have hdrop : digits.dropWhile isHexDigit <:+ digits := List.dropWhile_suffix _
    split at hfloat
    · rename_i rest hpoint
      rw [hpoint] at hdrop
      have hafterPoint := (List.suffix_cons '.' rest).trans hdrop
      split at hfloat
      · obtain ⟨fraction, hrun, hfloat⟩ := Option.bind_eq_some_iff.mp hfloat
        exact ⟨fraction, (run1_suffix hrun).trans hafterPoint, hfloat⟩
      · exact ⟨_, (List.dropWhile_suffix _).trans hafterPoint, hfloat⟩
    · split at hfloat
      · cases hfloat
      · exact ⟨_, hdrop, hfloat⟩
  obtain ⟨last, hlast, rfl⟩ := Option.map_eq_some_iff.mp hexponent
  obtain ⟨c, hc, more, rfl, hmore⟩ := exponent_eq_some hlast
  obtain ⟨whole, rfl⟩ := hrest
  obtain ⟨between, rfl⟩ := (afterFloatSuffix_suffix last).trans hmore
  refine ⟨'0' :: letter :: whole ++ c :: between,
    .inr ⟨letter, hletter, whole, c, between, rfl, hc⟩, ?_⟩
  simp

/-! ## Characters and strings -/

theorem unit_suffix {cs after : List Char} (h : unit cs = some after) : after <:+ cs := by
  unfold unit at h
  split at h
  · obtain rfl := Option.some.inj h
    exact (List.dropWhile_suffix _).trans ((List.suffix_cons _ _).trans (List.suffix_cons _ _))
  · split at h
    · obtain rfl := Option.some.inj h
      exact (List.dropWhile_suffix _).trans ((List.suffix_cons _ _).trans (List.suffix_cons _ _))
    · split at h
      · obtain rfl := Option.some.inj h
        exact (List.suffix_cons _ _).trans (List.suffix_cons _ _)
      · cases h
  · split at h
    · cases h
    · obtain rfl := Option.some.inj h
      exact List.suffix_cons _ _
  · cases h

theorem units_suffix (fuel : Nat) (cs : List Char) : (units fuel cs).2 <:+ cs := by
  induction fuel generalizing cs with
  | zero => exact List.suffix_refl cs
  | succ fuel ih =>
    rw [units]
    split
    · exact List.suffix_refl cs
    · rename_i rest hunit
      exact (ih rest).trans (unit_suffix hunit)

theorem stringBody_suffix {bad count : Nat} {cs after : List Char}
    (h : stringBody bad cs = some (count, after)) : after <:+ cs := by
  fun_induction stringBody bad cs with
  | case1 => cases h
  | case2 bad rest =>
    obtain ⟨-, rfl⟩ := Prod.mk.inj (Option.some.inj h)
    exact List.suffix_cons _ _
  | case3 bad c cs ih =>
    exact (ih h).trans ((List.suffix_cons _ _).trans (List.suffix_cons _ _))
  | case4 => cases h
  | case5 bad c cs hquote hescape hplain ih => exact (ih h).trans (List.suffix_cons c cs)

theorem string_eq_some {cs after : List Char} (h : string cs = some after) :
    ∃ more, cs = '"' :: more ∧ after <:+ more := by
  unfold string at h
  split at h
  · rename_i more
    split at h
    · rename_i rest hbody
      obtain rfl := Option.some.inj h
      exact ⟨more, rfl, stringBody_suffix hbody⟩
    · cases h
  · cases h

theorem singleCharacter_eq_some {cs after : List Char} (h : singleCharacter cs = some after) :
    ∃ more, cs = '\'' :: more ∧ after <:+ more := by
  unfold singleCharacter at h
  split at h
  · rename_i more
    split at h
    · rename_i rest hunit
      obtain rfl := Option.some.inj h
      exact ⟨more, rfl, (List.suffix_cons _ _).trans (unit_suffix hunit)⟩
    · cases h
  · cases h

/-- A constant in quotes ends before the end of the text. -/
theorem characterConstant_suffix {cs after : List Char}
    (h : characterConstant cs = .single after ∨ characterConstant cs = .several after) :
    after <:+ cs := by
  have hunits := units_suffix cs.length cs
  have helim : ∀ invalid : Option (List Char),
      ¬ (invalid.elim QuoteOutcome.noConstant .invalid = .single after ∨
        invalid.elim QuoteOutcome.noConstant .invalid = .several after) := by
    intro invalid
    cases invalid <;> simp
  unfold characterConstant at h
  simp only at h
  split at h
  · rename_i rest hrest
    rw [hrest] at hunits
    have hafter : rest = after := by
      split at h
      · simpa using h
      split at h
      · simpa using h
      · exact absurd h (helim _)
    rw [← hafter]
    exact (List.suffix_cons _ _).trans hunits
  · simp at h
  · simp at h
  · exact absurd h (helim _)

/-- The letters that can stand in front of a quote. -/
def widths : List (List Char) := [[], ['L'], ['u'], ['U'], ['u', '8']]

/-- A character constant or a string, with its opening quote. -/
def IsQuoted (cs : List Char) : Prop :=
  ∃ width ∈ widths, ∃ quote ∈ ['\'', '"'], ∃ more, cs = width ++ quote :: more

theorem afterWidth_eq_some {cs after : List Char} (h : Scanner.afterWidth cs = some after) :
    ∃ width ∈ widths, cs = width ++ after := by
  unfold Scanner.afterWidth at h
  split at h
  · obtain rfl := Option.some.inj h
    exact ⟨['u', '8'], by decide, rfl⟩
  · rename_i c cs hutf
    split at h
    · rename_i hletter
      obtain rfl := Option.some.inj h
      simp only [Bool.or_eq_true, beq_iff_eq] at hletter
      refine ⟨[c], ?_, rfl⟩
      rcases hletter with (rfl | rfl) | rfl <;> decide
    · cases h
  · cases h

/-- What is read from an opening quote on, behind the letters of its width, is quoted. -/
theorem exists_isQuoted {width : List Char} (hwidth : width ∈ widths) {quote : Char}
    (hquote : quote ∈ ['\'', '"']) {more after : List Char} (hafter : after <:+ more) :
    ∃ text, IsQuoted text ∧ width ++ quote :: more = text ++ after := by
  obtain ⟨body, rfl⟩ := hafter
  exact ⟨width ++ quote :: body, ⟨width, hwidth, quote, hquote, body, rfl⟩, by simp⟩

/-- An integer constant, a floating constant, or a constant or string in quotes. -/
def IsLiteral (cs : List Char) : Prop :=
  (∃ k : IntegerConstant, cs = k.chars) ∨ IsFloating cs ∨ IsQuoted cs

end Literal

/-! ## Tokens -/

/-- The text of a constant or a string. -/
def Token.literal? : Token → Option String
  | constant text | characters text | string text | wideString text => some text
  | _ => none

namespace Scanner

open Literal

theorem upTo_eq {s : Scanner} {text after : List Char} (h : s.rest = text ++ after) :
    s.upTo after = text := by
  rw [upTo, h, List.length_append, Nat.add_sub_cancel_right, List.take_left]

theorem isLiteral_of_ok {s : Scanner} {t : Token} {n : Nat} {text : String} {after : List Char}
    {make : String → Token} (hmake : ∀ text, (make text).literal? = some text)
    (hread : ∃ chars, IsLiteral chars ∧ s.rest = chars ++ after)
    (h : Except.ok (make (String.ofList (s.upTo after)), (s.upTo after).length)
      = (Except.ok (t, n) : Except Fault (Token × Nat)))
    (ht : t.literal? = some text) : IsLiteral text.toList := by
  obtain ⟨chars, hchars, hrest⟩ := hread
  obtain ⟨rfl, -⟩ := Prod.mk.inj (Except.ok.inj h)
  rw [hmake, upTo_eq hrest, Option.some.injEq] at ht
  rwa [← ht, String.toList_ofList]

theorem numeral?_eq_some {cs after : List Char} (h : numeral? cs = some after) :
    ∃ text, IsLiteral text ∧ cs = text ++ after := by
  have hinteger : (∃ k : IntegerConstant, cs = k.chars ++ after) →
      ∃ text, IsLiteral text ∧ cs = text ++ after := fun ⟨k, hk⟩ => ⟨_, .inl ⟨k, rfl⟩, hk⟩
  have hfloating : (∃ text, IsFloating text ∧ cs = text ++ after) →
      ∃ text, IsLiteral text ∧ cs = text ++ after := fun ⟨text, htext, hcs⟩ =>
    ⟨text, .inr (.inl htext), hcs⟩
  simp only [numeral?, Option.orElse_eq_or, Option.or_eq_some_iff] at h
  rcases h with h | ⟨-, h | ⟨-, h | ⟨-, h⟩⟩⟩
  · exact hfloating (float_eq_some h)
  · exact hfloating (hexFloat_eq_some h)
  · exact hinteger (hexadecimal_eq_some h)
  · exact hinteger (binary_eq_some h)

/-- What is not read as a numeral of the forms above is an octal or a decimal constant. -/
theorem octal_or_decimal_eq_some {cs after : List Char}
    (h : ((octal cs).orElse fun _ => decimal cs) = some after) :
    ∃ text, IsLiteral text ∧ cs = text ++ after := by
  rw [Option.orElse_eq_or, Option.or_eq_some_iff] at h
  obtain ⟨k, hk⟩ : ∃ k : IntegerConstant, cs = k.chars ++ after := by
    rcases h with h | ⟨-, h⟩
    · exact octal_eq_some h
    · exact decimal_eq_some h
  exact ⟨k.chars, .inl ⟨k, rfl⟩, hk⟩

/-- No word of the language and no operator is a literal. -/
theorem literal?_nameToken (s : Scanner) (name : Ident) : (s.nameToken name).literal? = none := by
  have hwords : ∀ t ∈ Token.words, t.literal? = none := by decide
  rw [nameToken]
  cases hword : Token.word? name.text with
  | some t => exact hwords t (List.mem_of_find?_eq_some hword)
  | none =>
    rw [Option.getD_none]
    split <;> rfl

theorem literal?_of_mem_operators : ∀ operator ∈ operators, operator.2.literal? = none := by
  decide

theorem token_isLiteral {s : Scanner} {t : Token} {n : Nat} (h : s.token = .ok (t, n))
    {text : String} (ht : t.literal? = some text) : IsLiteral text.toList := by
  have hquoted : ∀ width ∈ widths, ∀ quote ∈ ['\'', '"'], ∀ {more after : List Char},
      after <:+ more → s.rest = width ++ quote :: more →
      ∃ chars, IsLiteral chars ∧ s.rest = chars ++ after := by
    intro width hwidth quote hquote more after hafter hrest
    obtain ⟨chars, hchars, heq⟩ := exists_isQuoted hwidth hquote hafter
    exact ⟨chars, .inr (.inr hchars), hrest.trans heq⟩
  unfold token at h
  simp only at h
  split at h
  · cases h
    cases ht
  · cases h
    cases ht
  · cases h
    cases ht
  · cases h
  · cases h
  · rename_i more hrest
    split at h
    · rename_i after hconstant
      exact isLiteral_of_ok (fun _ => rfl) (hquoted [] (by decide) _ (by decide)
        (characterConstant_suffix (.inl hconstant)) hrest) h ht
    · rename_i after hconstant
      exact isLiteral_of_ok (fun _ => rfl) (hquoted [] (by decide) _ (by decide)
        (characterConstant_suffix (.inr hconstant)) hrest) h ht
    · cases h
    · cases h
    · cases h
  · rename_i more hrest
    split at h
    · rename_i after hstring
      obtain ⟨more, hmore, hafter⟩ := string_eq_some hstring
      exact isLiteral_of_ok (fun _ => rfl) (hquoted [] (by decide) _ (by decide) hafter hmore) h
        ht
    · split at h <;> cases h
  · split at h
    · rename_i after hnumeral
      exact isLiteral_of_ok (fun _ => rfl) (numeral?_eq_some hnumeral) h ht
    split at h
    · cases h
    split at h
    · split at h
      · rename_i after hinteger
        exact isLiteral_of_ok (fun _ => rfl) (octal_or_decimal_eq_some hinteger) h ht
      · cases h
    split at h
    · rename_i after hcharacter
      obtain ⟨body, hwidth, hbody⟩ := Option.bind_eq_some_iff.mp hcharacter
      obtain ⟨width, hmem, hrest⟩ := afterWidth_eq_some hwidth
      obtain ⟨more, rfl, hafter⟩ := singleCharacter_eq_some hbody
      exact isLiteral_of_ok (fun _ => rfl) (hquoted width hmem _ (by decide) hafter hrest) h ht
    split at h
    · rename_i after hstring
      obtain ⟨body, hwidth, hbody⟩ := Option.bind_eq_some_iff.mp hstring
      obtain ⟨width, hmem, hrest⟩ := afterWidth_eq_some hwidth
      obtain ⟨more, rfl, hafter⟩ := string_eq_some hbody
      exact isLiteral_of_ok (fun _ => rfl) (hquoted width hmem _ (by decide) hafter hrest) h ht
    split at h
    · rename_i name hname
      obtain ⟨rfl, -⟩ := Prod.mk.inj (Except.ok.inj h)
      rw [literal?_nameToken] at ht
      cases ht
    split at h
    · rename_i chars t' hfind
      obtain ⟨rfl, -⟩ := Prod.mk.inj (Except.ok.inj h)
      rw [literal?_of_mem_operators _ (List.mem_of_find?_eq_some hfind)] at ht
      cases ht
    · cases h

theorem exists_of_bind_eq_ok {α β : Type} {x : Except Fault α} {f : α → Except Fault β} {b : β}
    (h : x >>= f = .ok b) : ∃ a, x = .ok a ∧ f a = .ok b := by
  cases x with
  | error fault => cases h
  | ok a => exact ⟨a, rfl, h⟩

/-- A literal is read where the scanner stands, or behind blanks, line breaks and markers. -/
theorem exists_token_of_next {fuel : Nat} {s after : Scanner} {lexeme : Lexeme} {text : String}
    (h : s.next fuel = .ok (lexeme, after)) (ht : lexeme.token.literal? = some text) :
    ∃ (start : Scanner) (n : Nat), start.token = .ok (lexeme.token, n) := by
  induction fuel generalizing s with
  | zero => cases h
  | succ fuel ih =>
    rw [next] at h
    split at h
    · cases h
      cases ht
    split at h
    · exact ih h
    split at h
    · exact ih h
    split at h
    · have hpragma : s.pragmaToken.1.literal? = none := by
        rw [pragmaToken]
        split <;> rfl
      obtain ⟨hlexeme, -⟩ := Prod.mk.inj (Except.ok.inj h)
      rw [← hlexeme] at ht
      change s.pragmaToken.1.literal? = some text at ht
      rw [hpragma] at ht
      cases ht
    split at h
    · split at h
      · obtain ⟨marked, -, h⟩ := exists_of_bind_eq_ok h
        exact ih h
      split at h
      · exact ih h
      · cases h
        cases ht
    · obtain ⟨⟨token, n⟩, htoken, h⟩ := exists_of_bind_eq_ok h
      obtain ⟨scopes, -, h⟩ := exists_of_bind_eq_ok h
      cases h
      exact ⟨s, n, htoken⟩

theorem next_isLiteral {fuel : Nat} {s after : Scanner} {lexeme : Lexeme} {text : String}
    (h : s.next fuel = .ok (lexeme, after)) (ht : lexeme.token.literal? = some text) :
    IsLiteral text.toList := by
  obtain ⟨start, n, htoken⟩ := exists_token_of_next h ht
  exact token_isLiteral htoken ht

end Scanner

end HeaderBindings.C
