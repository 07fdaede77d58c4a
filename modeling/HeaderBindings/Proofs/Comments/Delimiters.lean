/-
  Block comments, which nest, and the text between their delimiters.

  Main statements: a line that puts a text into a comment closes where it ends exactly if the text
  closes what it opens and no more (`selfContained_comment_iff`); a text without delimiters does
  (`balance_of_isChain`), and has none once its blanks are collapsed (`isChain_collapseBlanks`).
-/
import HeaderBindings.Bindings.Line
import HeaderBindings.Text.Blank
import Mathlib.Data.List.Chain
import Mathlib.Data.List.Infix

namespace HeaderBindings

namespace BlockComment

/-! ## Scanning a comment -/

/-- What follows the end of a comment whose opening delimiter was read, with `depth` further
comments open inside it; none if the comment is left open. -/
def closing : Nat → List Char → Option (List Char)
  | depth, '\x7b' :: '-' :: cs => closing (depth + 1) cs
  | 0, '-' :: '\x7d' :: cs => some cs
  | depth + 1, '-' :: '\x7d' :: cs => closing depth cs
  | depth, _ :: cs => closing depth cs
  | _, [] => none

/-- The number of comments that are open after a text, from `depth` on; none if the text closes one
more than are open. -/
def balance : Nat → List Char → Option Nat
  | depth, '\x7b' :: '-' :: cs => balance (depth + 1) cs
  | 0, '-' :: '\x7d' :: _ => none
  | depth + 1, '-' :: '\x7d' :: cs => balance depth cs
  | depth, _ :: cs => balance depth cs
  | depth, [] => some depth

/-- Two characters in a row that are no delimiter. -/
def Fits (a b : Char) : Prop := ¬ (a = '\x7b' ∧ b = '-') ∧ ¬ (a = '-' ∧ b = '\x7d')

instance (a b : Char) : Decidable (Fits a b) :=
  inferInstanceAs (Decidable (¬ _ ∧ ¬ _))

theorem Fits.blank (a : Char) : Fits a ' ' := ⟨by simp, by simp⟩

theorem Fits.blank_left (b : Char) : Fits ' ' b := ⟨by simp, by simp⟩

theorem closing_cons {depth : Nat} {c : Char} {cs : List Char} (h : ∀ b ∈ cs.head?, Fits c b) :
    closing depth (c :: cs) = closing depth cs := by
  rw [closing]
  · rintro rest rfl rfl
    exact (h _ rfl).1 ⟨rfl, rfl⟩
  · rintro rest rfl rfl rfl
    exact (h _ rfl).2 ⟨rfl, rfl⟩
  · rintro depth rest rfl rfl rfl
    exact (h _ rfl).2 ⟨rfl, rfl⟩

theorem balance_cons {depth : Nat} {c : Char} {cs : List Char} (h : ∀ b ∈ cs.head?, Fits c b) :
    balance depth (c :: cs) = balance depth cs := by
  rw [balance]
  · rintro rest rfl rfl
    exact (h _ rfl).1 ⟨rfl, rfl⟩
  · rintro rest rfl rfl rfl
    exact (h _ rfl).2 ⟨rfl, rfl⟩
  · rintro depth rest rfl rfl rfl
    exact (h _ rfl).2 ⟨rfl, rfl⟩

/-- A blank keeps the last character of a text apart from the delimiter after it. -/
theorem closing_append_iff (depth : Nat) (cs : List Char) :
    closing depth (cs ++ [' ', '-', '\x7d']) = some [] ↔ balance depth cs = some 0 := by
  fun_induction balance depth cs with
  | case1 depth cs ih => simpa [closing] using ih
  | case2 cs => simp [closing]
  | case3 depth cs ih => simpa [closing] using ih
  | case4 depth c cs hopen hclose hcloseInner ih =>
    -- no other pattern matched, so the character makes no delimiter with the one after it, which
    -- is the blank if the text ends here
    have hfits : ∀ b ∈ (cs ++ [' ', '-', '\x7d']).head?, Fits c b := by
      cases cs with
      | nil => simpa using Fits.blank c
      | cons b rest =>
        suffices Fits c b by simpa using this
        refine ⟨fun ⟨hc, hb⟩ => hopen rest hc (by rw [hb]), fun ⟨hc, hb⟩ => ?_⟩
        cases depth with
        | zero => exact hclose rest rfl hc (by rw [hb])
        | succ depth => exact hcloseInner depth rest rfl hc (by rw [hb])
    rw [List.cons_append, closing_cons hfits, ih]
  | case5 depth => cases depth <;> simp [closing]

/-! ## Texts without delimiters -/

theorem balance_of_isChain (depth : Nat) {cs : List Char} (h : cs.IsChain Fits) :
    balance depth cs = some depth := by
  induction cs with
  | nil => rw [balance]
  | cons c rest ih =>
    rw [List.isChain_cons] at h
    rw [balance_cons h.1, ih h.2]

/-- The words of a text are parts of it. -/
theorem isInfix_of_mem_wordsFrom {word cs w : List Char} (hw : w ∈ Text.wordsFrom word cs) :
    w <:+: word.reverse ++ cs := by
  fun_induction Text.wordsFrom word cs with
  | case1 word hempty => cases hw
  | case2 word hempty =>
    rw [List.mem_singleton.mp hw, List.append_nil]
  | case3 word c cs hblank hempty ih =>
    exact (ih hw).trans ⟨word.reverse ++ [c], [], by simp⟩
  | case4 word c cs hblank hempty ih =>
    rcases List.mem_cons.mp hw with rfl | hw
    · exact (List.prefix_append _ _).isInfix
    · exact (ih hw).trans ⟨word.reverse ++ [c], [], by simp⟩
  | case5 word c cs hblank ih => simpa using ih hw

theorem isChain_blank_intercalate {ws : List (List Char)} (h : ∀ w ∈ ws, w.IsChain Fits) :
    ([' '].intercalate ws).IsChain Fits := by
  induction ws with
  | nil => exact .nil
  | cons w rest ih =>
    have hw := h w List.mem_cons_self
    have hrest := ih fun w' hw' => h w' (List.mem_cons_of_mem w hw')
    cases rest with
    | nil => simpa [List.intercalate] using hw
    | cons w' rest =>
      have hcut : [' '].intercalate (w :: w' :: rest)
          = w ++ ' ' :: [' '].intercalate (w' :: rest) := by
        simp [List.intercalate]
      rw [hcut]
      refine hw.append (List.isChain_cons.mpr ⟨fun b _ => .blank_left b, hrest⟩) ?_
      rintro a - b ⟨⟩
      exact .blank a

/-- Words that are parts of a text without delimiters have none, and the blanks between them make
none. -/
theorem isChain_collapseBlanks {text : String} (h : text.toList.IsChain Fits) :
    (Text.collapseBlanks text).toList.IsChain Fits := by
  have hwords : ((Text.words text.toList).map String.ofList).map String.toList
      = Text.words text.toList := by
    simp [Function.comp_def]
  rw [Text.collapseBlanks, String.toList_intercalate, hwords]
  exact isChain_blank_intercalate fun w hw => h.infix (isInfix_of_mem_wordsFrom hw)

/-! ## Texts to put together -/

/-- A text without delimiters that neither begins with a closing brace nor ends with an opening one,
so that no delimiter comes up where two such texts meet. -/
structure Clean (s : String) : Prop where
  chain : s.toList.IsChain Fits
  head : s.toList.head? ≠ some '\x7d'
  last : s.toList.getLast? ≠ some '\x7b'

instance (s : String) : Decidable (Clean s) :=
  decidable_of_iff
    (s.toList.IsChain Fits ∧ s.toList.head? ≠ some '\x7d' ∧ s.toList.getLast? ≠ some '\x7b')
    ⟨fun ⟨hchain, hhead, hlast⟩ => ⟨hchain, hhead, hlast⟩,
      fun ⟨hchain, hhead, hlast⟩ => ⟨hchain, hhead, hlast⟩⟩

/-- The text begins with a character, which is no minus sign. -/
def BeginsPlain (s : String) : Prop := s.toList.head?.any (· ≠ '-') = true

/-- The text ends with a character, which is no minus sign. -/
def EndsPlain (s : String) : Prop := s.toList.getLast?.any (· ≠ '-') = true

instance (s : String) : Decidable (BeginsPlain s) :=
  inferInstanceAs (Decidable (_ = true))

instance (s : String) : Decidable (EndsPlain s) :=
  inferInstanceAs (Decidable (_ = true))

theorem beginsPlain_iff {s : String} :
    BeginsPlain s ↔ ∃ c, s.toList.head? = some c ∧ c ≠ '-' := by
  simp [BeginsPlain, Option.any_eq_true]

theorem endsPlain_iff {s : String} :
    EndsPlain s ↔ ∃ c, s.toList.getLast? = some c ∧ c ≠ '-' := by
  simp [EndsPlain, Option.any_eq_true]

theorem BeginsPlain.append {s : String} (h : BeginsPlain s) (t : String) :
    BeginsPlain (s ++ t) := by
  obtain ⟨c, hc, hne⟩ := beginsPlain_iff.mp h
  exact beginsPlain_iff.mpr ⟨c, by rw [String.toList_append, List.head?_append, hc]; rfl, hne⟩

theorem EndsPlain.append (s : String) {t : String} (h : EndsPlain t) : EndsPlain (s ++ t) := by
  obtain ⟨c, hc, hne⟩ := endsPlain_iff.mp h
  exact endsPlain_iff.mpr ⟨c, by rw [String.toList_append, List.getLast?_append, hc]; rfl, hne⟩

namespace Clean

variable {s t : String}

theorem empty : Clean "" := by
  decide

/-- Without braces there are no delimiters. -/
theorem of_forall_ne (h : ∀ c ∈ s.toList, c ≠ '\x7b' ∧ c ≠ '\x7d') : Clean s where
  chain := by
    refine List.Pairwise.isChain (List.pairwise_of_forall_mem_list fun a ha b hb => ?_)
    exact ⟨fun hab => (h a ha).1 hab.1, fun hab => (h b hb).2 hab.2⟩
  head hc := (h _ (List.mem_of_head? hc)).2 rfl
  last hc := (h _ (List.mem_of_getLast? hc)).1 rfl

theorem append (hs : Clean s) (ht : Clean t) : Clean (s ++ t) where
  chain := by
    rw [String.toList_append]
    refine hs.chain.append ht.chain fun a ha b hb => ?_
    exact ⟨fun h => hs.last (h.1 ▸ ha), fun h => ht.head (h.2 ▸ hb)⟩
  head hc := by
    rw [String.toList_append, List.head?_append] at hc
    rcases Option.or_eq_some_iff.mp hc with h | ⟨_, h⟩
    · exact hs.head h
    · exact ht.head h
  last hc := by
    rw [String.toList_append, List.getLast?_append] at hc
    rcases Option.or_eq_some_iff.mp hc with h | ⟨_, h⟩
    · exact ht.last h
    · exact hs.last h

theorem parenthesized (h : Clean s) : Clean ("(" ++ s ++ ")") :=
  (append (by decide) h).append (by decide)

/-- An opening brace may stand before what begins with no minus sign. -/
theorem openBrace (hs : Clean s) (hbegins : BeginsPlain s) : Clean ("\x7b" ++ s) := by
  obtain ⟨c, hc, hne⟩ := beginsPlain_iff.mp hbegins
  constructor
  case chain =>
    rw [String.toList_append]
    refine .append (.singleton _) hs.chain ?_
    rintro a ⟨⟩ b hb
    obtain rfl : b = c := Option.mem_unique hb hc
    exact ⟨fun h => hne h.2, fun h => absurd h.1 (by decide)⟩
  case head =>
    rw [String.toList_append]
    exact (by decide : some '\x7b' ≠ some '\x7d')
  case last =>
    rw [String.toList_append, List.getLast?_append]
    intro h
    rcases Option.or_eq_some_iff.mp h with h | ⟨h, _⟩
    · exact hs.last h
    · rw [List.getLast?_eq_none_iff.mp h] at hc
      cases hc

/-- A closing brace may stand after what ends with no minus sign. -/
theorem closeBrace (hs : Clean s) (hends : EndsPlain s) : Clean (s ++ "\x7d") := by
  obtain ⟨c, hc, hne⟩ := endsPlain_iff.mp hends
  constructor
  case chain =>
    rw [String.toList_append]
    refine hs.chain.append (.singleton _) ?_
    rintro a ha b ⟨⟩
    obtain rfl : a = c := Option.mem_unique ha hc
    exact ⟨fun h => absurd h.2 (by decide), fun h => hne h.1⟩
  case head =>
    rw [String.toList_append, List.head?_append]
    intro h
    rcases Option.or_eq_some_iff.mp h with h | ⟨h, _⟩
    · exact hs.head h
    · rw [List.head?_eq_none_iff.mp h] at hc
      cases hc
  case last =>
    rw [String.toList_append, List.getLast?_append]
    exact (by decide : some '\x7d' ≠ some '\x7b')

end Clean

/-! ## Lines that are comments -/

/-- The line is one comment: the comment that it opens with closes at its end, and not before. -/
def SelfContained (line : String) : Prop :=
  line.toList.take 2 = ['\x7b', '-'] ∧ closing 0 (line.toList.drop 2) = some []

instance (line : String) : Decidable (SelfContained line) :=
  inferInstanceAs (Decidable (_ ∧ _))

/-- The comment around a text closes at its end exactly if the text closes what it opens and no
more. -/
theorem selfContained_comment_iff (text : String) :
    SelfContained (Line.comment text).render ↔ balance 0 text.toList = some 0 := by
  have hline : (Line.comment text).render.toList
      = '\x7b' :: '-' :: ' ' :: (text.toList ++ [' ', '-', '\x7d']) := by
    simp [Line.render, String.toList_append]
  have hblank : closing 0 (' ' :: (text.toList ++ [' ', '-', '\x7d']))
      = closing 0 (text.toList ++ [' ', '-', '\x7d']) :=
    closing_cons fun b _ => .blank_left b
  rw [SelfContained, hline, ← closing_append_iff, ← hblank]
  exact and_iff_right rfl

end BlockComment

end HeaderBindings
