/-
  Lines of a text.  A text on one line has no break of any kind; the lines of a text are such texts,
  and so is a text whose blanks are collapsed.

  Main statement (`pieces_intercalate`): texts without a line feed are what stands between the line
  feeds of the text that has one after each of them but the last.
-/
import HeaderBindings.Text.Blank
import HeaderBindings.Text.Lines
import Mathlib.Data.List.TakeWhile

namespace HeaderBindings

namespace Text

theorem isBlank_of_isLineBreak {c : Char} (h : isLineBreak c = true) : isBlank c = true := by
  rw [isBlank, inRanges_iff]
  simp only [isLineBreak, Bool.or_eq_true, Bool.and_eq_true, decide_eq_true_eq, beq_iff_eq] at h
  rcases h with (((h | h) | h) | h) | h
  · exact ⟨(0x9, 0xD), by decide, by omega, by omega⟩
  · exact ⟨(0x1C, 0x20), by decide, by omega, by omega⟩
  · exact ⟨(0x85, 0x85), by decide, by omega, by omega⟩
  · exact ⟨(0x2028, 0x2029), by decide, by omega, by omega⟩
  · exact ⟨(0x2028, 0x2029), by decide, by omega, by omega⟩

theorem not_isLineBreak_of_not_isBlank {c : Char} (h : isBlank c = false) :
    isLineBreak c = false := by
  rw [← Bool.not_eq_true] at h ⊢
  exact mt isBlank_of_isLineBreak h

/-- What stands between the line feeds of a text. -/
def pieces (s : String) : List String := (s.toList.splitOn '\n').map String.ofList

theorem pieces_intercalate {lines : List String} (hlines : ∀ line ∈ lines, '\n' ∉ line.toList)
    (hne : lines ≠ []) : pieces ("\n".intercalate lines) = lines := by
  have hchars : ∀ line ∈ lines.map String.toList, '\n' ∉ line := List.forall_mem_map.mpr hlines
  have hfeed : "\n".toList = ['\n'] := rfl
  rw [pieces, String.toList_intercalate, hfeed,
    List.splitOn_intercalate '\n' hchars (by simpa using hne), List.map_map]
  simp [Function.comp_def]

theorem intercalate_pieces (s : String) : "\n".intercalate (pieces s) = s := by
  have hfeed : "\n".toList = ['\n'] := rfl
  have hchars : (pieces s).map String.toList = s.toList.splitOn '\n' := by
    simp [pieces, Function.comp_def]
  rw [← String.toList_inj, String.toList_intercalate, hfeed, hchars, List.intercalate_splitOn]

end Text

/-! ## Texts on one line -/

/-- The text has no line break of any kind. -/
def OneLine (text : String) : Prop := ∀ c ∈ text.toList, Text.isLineBreak c = false

-- by the characters of the text: `Char` is finite, and running through all of it would not end
instance (text : String) : Decidable (OneLine text) := List.decidableBAll _ _

namespace OneLine

theorem append {s t : String} (hs : OneLine s) (ht : OneLine t) : OneLine (s ++ t) := by
  intro c hc
  rw [String.toList_append, List.mem_append] at hc
  exact hc.elim (hs c) (ht c)

theorem intercalate {between : String} {texts : List String} (hbetween : OneLine between)
    (htexts : ∀ t ∈ texts, OneLine t) : OneLine (between.intercalate texts) := by
  induction texts with
  | nil => simp [OneLine]
  | cons t rest ih =>
    rw [List.forall_mem_cons] at htexts
    cases rest with
    | nil => simpa using htexts.1
    | cons u rest =>
      rw [String.intercalate_cons_cons]
      exact (htexts.1.append hbetween).append (ih htexts.2)

theorem newline_not_mem {text : String} (h : OneLine text) : '\n' ∉ text.toList := fun hmem =>
  absurd (h _ hmem) (by decide)

theorem words_not_isBlank {word cs : List Char} (hword : ∀ c ∈ word, Text.isBlank c = false) :
    ∀ w ∈ Text.wordsFrom word cs, ∀ c ∈ w, Text.isBlank c = false := by
  fun_induction Text.wordsFrom word cs with
  | case1 word hempty => simp
  | case2 word hempty => simpa using hword
  | case3 word c cs hblank hempty ih => exact ih (by simp)
  | case4 word c cs hblank hempty ih =>
    exact List.forall_mem_cons.mpr ⟨by simpa using hword, ih (by simp)⟩
  | case5 word c cs hblank ih =>
    exact ih (List.forall_mem_cons.mpr ⟨by simpa using hblank, hword⟩)

theorem collapseBlanks (s : String) : OneLine (Text.collapseBlanks s) := by
  refine intercalate (by decide) (List.forall_mem_map.mpr fun w hw c hc => ?_)
  rw [String.toList_ofList] at hc
  have hword : ∀ c ∈ ([] : List Char), Text.isBlank c = false := by simp
  exact Text.not_isLineBreak_of_not_isBlank (words_not_isBlank hword w hw c hc)

end OneLine

/-! ## The lines of a text -/

namespace Text

theorem not_isLineBreak_of_mem_linesFrom {line cs : List Char}
    (hline : ∀ c ∈ line, isLineBreak c = false) :
    ∀ l ∈ linesFrom line cs, ∀ c ∈ l, isLineBreak c = false := by
  fun_induction linesFrom line cs with
  | case1 line hempty => simp
  | case2 line hempty => simpa using hline
  | case3 line cs ih =>
    exact List.forall_mem_cons.mpr ⟨by simpa using hline, ih (by simp)⟩
  | case4 line c cs hpair hbreak ih =>
    exact List.forall_mem_cons.mpr ⟨by simpa using hline, ih (by simp)⟩
  | case5 line c cs hpair hbreak ih =>
    exact ih (List.forall_mem_cons.mpr ⟨by simpa using hbreak, hline⟩)

theorem oneLine_of_mem_splitLines {s line : String} (h : line ∈ splitLines s) : OneLine line := by
  obtain ⟨l, hl, rfl⟩ := List.mem_map.mp h
  intro c hc
  rw [String.toList_ofList] at hc
  exact not_isLineBreak_of_mem_linesFrom (by simp) l hl c hc

/-- What follows the line break at the head of a text. -/
def afterBreak : List Char → List Char
  | [] => []
  | '\r' :: '\n' :: cs => cs
  | _ :: cs => cs

/-- The text before the first line break. -/
def firstLine (s : String) : String := String.ofList (s.toList.takeWhile (!isLineBreak ·))

/-- The text after the first line break. -/
def laterLines (s : String) : String :=
  String.ofList (afterBreak (s.toList.dropWhile (!isLineBreak ·)))

theorem firstLine_of_oneLine {s : String} (h : OneLine s) : firstLine s = s := by
  have hall : ∀ c ∈ s.toList, (!isLineBreak c) = true := fun c hc => by rw [h c hc]; rfl
  rw [firstLine, List.takeWhile_eq_self_iff.mpr hall, String.ofList_toList]

theorem laterLines_of_oneLine {s : String} (h : OneLine s) : laterLines s = "" := by
  have hall : ∀ c ∈ s.toList, (!isLineBreak c) = true := fun c hc => by rw [h c hc]; rfl
  rw [laterLines, List.dropWhile_eq_nil_iff.mpr hall]
  rfl

theorem linesFrom_of_ne {line cs : List Char} (h : line ≠ [] ∨ cs ≠ []) :
    linesFrom line cs = (line.reverse ++ cs.takeWhile (!isLineBreak ·))
      :: linesFrom [] (afterBreak (cs.dropWhile (!isLineBreak ·))) := by
  fun_induction linesFrom line cs with
  | case1 line hempty => simp_all
  | case2 line hempty => simp [afterBreak, linesFrom]
  | case3 line cs ih =>
    have hreturn : isLineBreak '\r' = true := by decide
    simp [afterBreak, hreturn]
  | case4 line c cs hpair hbreak ih =>
    have hafter : afterBreak (c :: cs) = cs := by
      unfold afterBreak
      split
      · rename_i heq
        cases heq
      · rename_i heq
        cases heq
        exact absurd rfl (hpair _ rfl)
      · rename_i heq
        cases heq
        rfl
    simp [hbreak, hafter]
  | case5 line c cs hpair hbreak ih =>
    rw [ih (.inl (List.cons_ne_nil c line))]
    simp [hbreak]

theorem splitLines_of_ne {s : String} (h : s ≠ "") :
    splitLines s = firstLine s :: splitLines (laterLines s) := by
  have hchars : s.toList ≠ [] := by simpa using h
  rw [splitLines, linesFrom_of_ne (.inr hchars), splitLines, laterLines, String.toList_ofList]
  rfl

theorem linesFrom_cons_of_break {line cs : List Char} {c : Char} (hbreak : isLineBreak c = true)
    (hpair : ∀ ds, c = '\r' → cs ≠ '\n' :: ds) :
    linesFrom line (c :: cs) = line.reverse :: linesFrom [] cs := by
  rw [linesFrom, if_pos hbreak]
  exact hpair

/-- The text is empty or its last line is ended. -/
def EndsLine (s : String) : Prop := ∀ c ∈ s.toList.getLast?, isLineBreak c = true

/-- The text is empty or ends the line before it at once. -/
def BeginsBreak (s : String) : Prop := ∀ c ∈ s.toList.head?, isLineBreak c = true

instance (s : String) : Decidable (EndsLine s) := Option.decidableForallMem _

instance (s : String) : Decidable (BeginsBreak s) := Option.decidableForallMem _

/-- The lines of two texts are found one after the other if the first one ends its last line and no
pair of carriage return and line feed is between them. -/
theorem linesFrom_append {line cs ds : List Char} (hline : cs = [] → line = [])
    (hend : ∀ c ∈ cs.getLast?, isLineBreak c = true) (hds : ds.head? ≠ some '\n') :
    linesFrom line (cs ++ ds) = linesFrom line cs ++ linesFrom [] ds := by
  have htail : ∀ {c : Char} {cs : List Char}, (∀ d ∈ (c :: cs).getLast?, isLineBreak d = true) →
      ∀ d ∈ cs.getLast?, isLineBreak d = true := by
    intro c cs h d hd
    refine h d ?_
    rw [List.getLast?_cons, Option.mem_def.mp hd]
    rfl
  fun_induction linesFrom line cs with
  | case1 line hempty =>
    obtain rfl := List.isEmpty_iff.mp hempty
    rfl
  | case2 line hempty =>
    rw [hline rfl] at hempty
    exact absurd rfl hempty
  | case3 line cs ih =>
    rw [List.cons_append, List.cons_append, linesFrom, ih (fun _ => rfl) (htail (htail hend))]
    rfl
  | case4 line c cs hpair hbreak ih =>
    have hpair' : ∀ es, c = '\r' → cs ++ ds ≠ '\n' :: es := by
      intro es hc heq
      cases cs with
      | nil =>
        rw [List.nil_append] at heq
        exact hds (by rw [heq]; rfl)
      | cons d cs => exact hpair cs hc (by rw [(List.cons.inj heq).1])
    rw [List.cons_append, linesFrom_cons_of_break hbreak hpair', ih (fun _ => rfl) (htail hend)]
    rfl
  | case5 line c cs hpair hbreak ih =>
    have hreturn : c ≠ '\r' := by
      rintro rfl
      exact hbreak (by decide)
    have hne : cs ≠ [] := by
      rintro rfl
      exact hbreak (hend c rfl)
    rw [List.cons_append, linesFrom, if_neg hbreak, ih (fun h => absurd h hne) (htail hend)]
    exact fun _ hc => absurd hc hreturn

theorem splitLines_append {s t : String} (hs : EndsLine s) (ht : t.toList.head? ≠ some '\n') :
    splitLines (s ++ t) = splitLines s ++ splitLines t := by
  rw [splitLines, String.toList_append, linesFrom_append (fun _ => rfl) hs ht, List.map_append]
  rfl

theorem takeWhile_of_beginsBreak {s : String} (h : BeginsBreak s) :
    s.toList.takeWhile (!isLineBreak ·) = [] := by
  cases hchars : s.toList with
  | nil => rfl
  | cons c cs =>
    have hc : isLineBreak c = true := h c (by rw [hchars]; rfl)
    exact List.takeWhile_cons_of_neg (by simp [hc])

/-- A text without a break and what follows it from the next break on. -/
theorem splitLines_line {line back : String} (hne : line ≠ "") (hline : OneLine line)
    (hback : BeginsBreak back) :
    splitLines (line ++ back) = line :: splitLines (laterLines back) := by
  have hkeep : ∀ c ∈ line.toList, (!isLineBreak c) = true := fun c hc => by rw [hline c hc]; rfl
  have happend : line ++ back ≠ "" := by
    rw [ne_eq, String.append_eq_empty_iff]
    exact fun h => hne h.1
  have hfirst : firstLine (line ++ back) = line := by
    rw [firstLine, String.toList_append, List.takeWhile_append_of_pos hkeep,
      takeWhile_of_beginsBreak hback, List.append_nil, String.ofList_toList]
  have hlater : laterLines (line ++ back) = laterLines back := by
    rw [laterLines, String.toList_append, List.dropWhile_append_of_pos hkeep, laterLines]
  rw [splitLines_of_ne happend, hfirst, hlater]

/-- Nonempty lines are found between two line feeds as they are in the whole text. -/
theorem filter_linesFrom_append {p : List Char → Bool} (hp : p [] = false)
    (line cs ds : List Char) :
    (linesFrom line (cs ++ '\n' :: ds)).filter p
      = (linesFrom line cs).filter p ++ (linesFrom [] ds).filter p := by
  have hfeed : ∀ line, linesFrom line ('\n' :: ds) = line.reverse :: linesFrom [] ds := fun line =>
    linesFrom_cons_of_break (by decide) (by simp)
  fun_induction linesFrom line cs with
  | case1 line hempty =>
    obtain rfl := List.isEmpty_iff.mp hempty
    rw [List.nil_append, hfeed, List.reverse_nil, List.filter_cons_of_neg (by simp [hp])]
    rfl
  | case2 line hempty =>
    rw [List.nil_append, hfeed, ← List.singleton_append, List.filter_append]
  | case3 line cs ih =>
    rw [List.cons_append, List.cons_append, linesFrom, List.filter_cons, List.filter_cons, ih]
    split <;> rfl
  | case4 line c cs hpair hbreak ih =>
    cases cs with
    | nil =>
      have hnil : linesFrom [] [] = [] := rfl
      rw [hnil]
      by_cases hc : c = '\r'
      · rw [hc, List.singleton_append, linesFrom, ← List.singleton_append, List.filter_append]
      · -- the line feed ends one more line, an empty one
        rw [List.singleton_append, linesFrom_cons_of_break hbreak (fun _ h => absurd h hc), hfeed,
          ← List.singleton_append, List.filter_append]
        exact congrArg (_ ++ ·) (List.filter_cons_of_neg (by simp [hp]))
    | cons d cs =>
      have hpair' : ∀ es, c = '\r' → d :: cs ++ '\n' :: ds ≠ '\n' :: es := by
        rintro es hc heq
        exact hpair cs hc (by rw [(List.cons.inj heq).1])
      rw [List.cons_append, linesFrom_cons_of_break hbreak hpair', List.filter_cons,
        List.filter_cons, ih]
      split <;> rfl
  | case5 line c cs hpair hbreak ih =>
    have hreturn : c ≠ '\r' := by
      rintro rfl
      exact hbreak (by decide)
    rw [List.cons_append, linesFrom, if_neg hbreak, ih]
    exact fun _ hc => absurd hc hreturn

section Filter

variable {p : String → Bool} (hp : p "" = false)

include hp

theorem filter_splitLines_append (s t : String) :
    (splitLines (s ++ "\n" ++ t)).filter p = (splitLines s).filter p ++ (splitLines t).filter p := by
  have hfeed : "\n".toList = ['\n'] := rfl
  simp only [splitLines, List.filter_map, String.toList_append, hfeed, List.append_assoc,
    List.singleton_append]
  rw [filter_linesFrom_append (by simpa using hp), List.map_append]

theorem filter_splitLines_intercalate (lines : List String) :
    (splitLines ("\n".intercalate lines)).filter p
      = lines.flatMap fun line => (splitLines line).filter p := by
  induction lines with
  | nil => rfl
  | cons line rest ih =>
    cases rest with
    | nil => simp
    | cons next rest =>
      rw [String.intercalate_cons_cons, filter_splitLines_append hp, ih]
      rfl

/-- Lines that are not blank are those of the texts between the line feeds. -/
theorem filter_splitLines (s : String) :
    (splitLines s).filter p = (pieces s).flatMap fun piece => (splitLines piece).filter p := by
  rw [← filter_splitLines_intercalate hp, intercalate_pieces]

end Filter

end Text

end HeaderBindings
