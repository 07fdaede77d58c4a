/-
  The sizes of arrays that are constants.  An integer constant counts for its value or is not
  evaluated at all, and what is not evaluated stands as it is written, with its suffix.

  A text counts for a number only if the numeral left of its suffix letters is one
  (`natural_eq_some_cases`), which no floating constant and nothing in quotes leaves.  Main
  statement: `length_constant_of_next`.
-/
import HeaderBindings.C.Reading
import HeaderBindings.Proofs.Reading.Literals

namespace HeaderBindings.C

open scoped Characters

namespace Literal

/-- Behind decimal digits no character ends the mark of a base but a letter of the mark. -/
theorem not_opensMark_append {whole : List Char} {c : Char} (ds : List Char)
    (hwhole : ∀ d ∈ whole, d.isDigit = true) (hzero : c ≠ '0')
    (hmark : c ∉ ['x', 'X', 'b', 'B']) : ¬ OpensMark (whole ++ c :: ds) := by
  have hletter : ∀ letter ∈ ['x', 'X', 'b', 'B'], ¬ letter.isDigit = true := by decide
  rintro ⟨letter, hmem, digits, heq⟩
  match whole with
  | [] => exact hzero (List.cons.inj heq).1
  | [_] =>
    obtain ⟨-, heq⟩ := List.cons.inj heq
    rw [(List.cons.inj heq).1] at hmark
    exact hmark hmem
  | _ :: d :: _ =>
    obtain ⟨-, heq⟩ := List.cons.inj heq
    refine hletter letter hmem ?_
    rw [← (List.cons.inj heq).1]
    exact hwhole d (by simp)

theorem natural_of_isFloating {cs : List Char} (h : IsFloating cs) :
    Numeral.natural (Numeral.dropSuffix cs) = none := by
  have hpoint : ∀ c ∈ ['.', 'e', 'E'], Numeral.isSuffixLetter c = false ∧ ¬ digitNumber c < 10 ∧
      c ≠ '0' ∧ c ∉ ['x', 'X', 'b', 'B'] := by decide
  have hexponent : ∀ c ∈ ['p', 'P'], Numeral.isSuffixLetter c = false ∧ ¬ digitNumber c < 16 := by
    decide
  rw [Option.eq_none_iff_forall_ne_some]
  intro value hvalue
  obtain ⟨whole, c, more, rfl, hwhole, hc⟩ | ⟨letter, -, whole, c, more, rfl, hc⟩ := h
  · obtain ⟨hkeep, hten, hzero, hmark⟩ := hpoint c hc
    rw [dropSuffix_append_cons hkeep] at hvalue
    obtain hdigits | ⟨mark, hmem, digits, heq, -⟩ := natural_eq_some_cases hvalue
    · exact hten (hdigits c (by simp))
    · exact not_opensMark_append _ hwhole hzero hmark ⟨mark, hmem, digits, heq⟩
  · obtain ⟨hkeep, hsixteen⟩ := hexponent c hc
    rw [dropSuffix_append_cons hkeep] at hvalue
    obtain hdigits | ⟨mark, hmem, digits, heq, hdigits⟩ := natural_eq_some_cases hvalue
    · exact hsixteen (lt_trans (hdigits c (by simp)) (by decide))
    · obtain ⟨-, hbehind⟩ := List.cons.inj heq
      rw [← (List.cons.inj hbehind).2] at hdigits
      exact hsixteen (hdigits c (by simp))

theorem natural_of_isQuoted {cs : List Char} (h : IsQuoted cs) :
    Numeral.natural (Numeral.dropSuffix cs) = none := by
  have hquote : ∀ quote ∈ ['\'', '"'], Numeral.isSuffixLetter quote = false ∧
      ¬ digitNumber quote < 10 := by decide
  have hhead : ∀ width ∈ widths, ∀ quote ∈ ['\'', '"'], ∀ more,
      (width ++ quote :: more).head? ≠ some '0' := by
    intro width hwidth quote hmem more
    have hfirst : ∀ width ∈ widths, ∀ quote ∈ ['\'', '"'],
        (width ++ [quote]).head? ≠ some '0' := by decide
    have hsame : (width ++ quote :: more).head? = (width ++ [quote]).head? := by
      cases width <;> rfl
    rw [hsame]
    exact hfirst width hwidth quote hmem
  rw [Option.eq_none_iff_forall_ne_some]
  intro value hvalue
  obtain ⟨width, hwidth, quote, hmem, more, rfl⟩ := h
  obtain ⟨hkeep, hten⟩ := hquote quote hmem
  rw [dropSuffix_append_cons hkeep] at hvalue
  obtain hdigits | ⟨mark, -, digits, heq, -⟩ := natural_eq_some_cases hvalue
  · exact hten (hdigits quote (by simp))
  · refine hhead width hwidth quote hmem (Numeral.dropSuffix more) ?_
    rw [heq]
    rfl

end Literal

theorem Expr.length_constant (text : String) :
    (Expr.constant text).length = (Numeral.value text).elim (.symbolic text) .count := rfl

/-- A constant that the scanner reads as the size of an array counts for its value if it is an
integer constant that is evaluated, and stands as its text in every other case: an octal constant
that is not zero, a decimal one that is too long, a floating constant, characters or a string. -/
theorem length_constant_of_next {fuel : Nat} {s after : Scanner} {lexeme : Lexeme} {text : String}
    (h : s.next fuel = .ok (lexeme, after)) (ht : lexeme.token.literal? = some text) :
    (∀ k : IntegerConstant, k.text = text → (Bound.size (.constant text)).length
      = if k.isEvaluated then .count k.value else .symbolic text) ∧
    ((∃ k : IntegerConstant, k.text = text) ∨
      (Literal.IsFloating text.toList ∨ Literal.IsQuoted text.toList) ∧
        (Bound.size (.constant text)).length = .symbolic text) := by
  rw [Bound.length, Expr.length_constant]
  constructor
  · rintro k rfl
    rw [k.value_text]
    split <;> rfl
  · obtain ⟨k, hk⟩ | hother := Scanner.next_isLiteral h ht
    · refine .inl ⟨k, ?_⟩
      rw [IntegerConstant.text, ← hk, String.ofList_toList]
    · have hvalue : Numeral.value text = none := by
        rw [Numeral.value]
        exact hother.elim Literal.natural_of_isFloating Literal.natural_of_isQuoted
      rw [hvalue]
      exact .inr ⟨hother, rfl⟩

/-- The value of a hexadecimal constant with a suffix, in the brackets of an array. -/
theorem length_constant_hexadecimal :
    ({ rest := " 0x1Ful]".toList, file := "size.h" } : Scanner).next 9
        = .ok (⟨.constant "0x1Ful", 1, 2⟩,
          { rest := "]".toList, file := "size.h", line := 1, column := 8 }) ∧
      (Bound.size (.constant "0x1Ful")).length = .count 31 := by
  have hnext : ({ rest := " 0x1Ful]".toList, file := "size.h" } : Scanner).next 9
      = .ok (⟨.constant "0x1Ful", 1, 2⟩,
        { rest := "]".toList, file := "size.h", line := 1, column := 8 }) := by rfl
  let k : IntegerConstant :=
    { radix := .hexadecimal, mark := ['0', 'x'], digits := ['1', 'F'], suffix := ['u', 'l'],
      mark_mem := by decide, digits_ne_nil := by decide, digitNumber_lt := by decide,
      leads := trivial, isIntegerSuffix := ⟨['u'], by decide, ['l'], by decide, .inl rfl⟩ }
  exact ⟨hnext, (length_constant_of_next hnext rfl).1 k rfl⟩

end HeaderBindings.C
