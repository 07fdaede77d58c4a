/-
  Arrows and parentheses.  The argument types of a function are separated by arrows, and those of a
  type in it stand inside parentheses.

  Main statements: a type over aliases with balanced parentheses and no arrow outside them is such a
  text itself (`isEnclosed_bindingClosed`), so the arrows of a function outside its parentheses count
  its arguments (`callText_scan`).
-/
import HeaderBindings.Proofs.Signature.Closed

namespace HeaderBindings

/-! ## Depth -/

/-- The depth of parentheses after a character; none if it closes one that was not opened. -/
def depthStep (depth : Nat) (c : Char) : Option Nat :=
  if c = '(' then some (depth + 1)
  else if c = ')' then if depth = 0 then none else some (depth - 1)
  else some depth

/-- The depth after a text that is read from a depth. -/
def depthAfter (depth : Nat) (cs : List Char) : Option Nat := cs.foldlM depthStep depth

/-- The arrows at depth zero in a text that is read from a depth. -/
def outerArrows : Nat → List Char → Nat
  | _, [] => 0
  | depth, c :: cs =>
    (if depth = 0 ∧ c = '-' ∧ cs.head? = some '>' then 1 else 0)
      + outerArrows ((depthStep depth c).getD 0) cs

theorem depthAfter_append (depth : Nat) (s r : List Char) :
    depthAfter depth (s ++ r) = (depthAfter depth s).bind fun d => depthAfter d r :=
  List.foldlM_append

theorem depthAfter_cons_eq_some {depth d : Nat} {c : Char} {cs : List Char} :
    depthAfter depth (c :: cs) = some d
      ↔ ∃ e, depthStep depth c = some e ∧ depthAfter e cs = some d :=
  Option.bind_eq_some_iff

theorem depthStep_succ {depth d : Nat} {c : Char} (h : depthStep depth c = some d) :
    depthStep (depth + 1) c = some (d + 1) := by
  unfold depthStep at h ⊢
  split at h
  · rw [if_pos ‹_›, ← Option.some.inj h]
  · rw [if_neg ‹_›]
    split at h
    · rw [if_pos ‹_›, if_neg (Nat.succ_ne_zero depth)]
      split at h
      · cases h
      · rw [← Option.some.inj h]
        congr 1
        omega
    · rw [if_neg ‹_›, ← Option.some.inj h]

/-- A text that can be read from a depth reads the same one level deeper. -/
theorem depthAfter_succ {depth d : Nat} {s : List Char} (h : depthAfter depth s = some d) :
    depthAfter (depth + 1) s = some (d + 1) := by
  induction s generalizing depth with
  | nil => rw [← Option.some.inj h]; rfl
  | cons c s ih =>
    obtain ⟨e, hc, hs⟩ := depthAfter_cons_eq_some.mp h
    exact depthAfter_cons_eq_some.mpr ⟨e + 1, depthStep_succ hc, ih hs⟩

/-- Two texts have the arrows of both, unless they meet in the middle of one. -/
theorem outerArrows_append {depth d : Nat} {s r : List Char} (h : depthAfter depth s = some d)
    (hr : r.head? ≠ some '>') :
    outerArrows depth (s ++ r) = outerArrows depth s + outerArrows d r := by
  induction s generalizing depth with
  | nil =>
    obtain rfl : depth = d := Option.some.inj h
    rw [List.nil_append, outerArrows, Nat.zero_add]
  | cons c s ih =>
    obtain ⟨e, hc, hs⟩ := depthAfter_cons_eq_some.mp h
    have hhead : (s ++ r).head? = some '>' ↔ s.head? = some '>' := by
      cases s with
      | nil => simpa using hr
      | cons c s => rfl
    rw [List.cons_append, outerArrows, outerArrows, hc, Option.getD_some, ih hs, Nat.add_assoc]
    simp only [hhead]

/-- Inside parentheses a text has no outer arrow. -/
theorem outerArrows_succ {depth d : Nat} {s : List Char} (h : depthAfter depth s = some d) :
    outerArrows (depth + 1) s = 0 := by
  induction s generalizing depth with
  | nil => rfl
  | cons c s ih =>
    obtain ⟨e, hc, hs⟩ := depthAfter_cons_eq_some.mp h
    rw [outerArrows, depthStep_succ hc, Option.getD_some, ih hs]
    simp

/-! ## Enclosed texts -/

/-- Balanced parentheses, and no arrow outside them. -/
structure IsEnclosed (text : String) : Prop where
  balanced : depthAfter 0 text.toList = some 0
  arrows : outerArrows 0 text.toList = 0

/-- A character that is no part of parentheses and arrows. -/
def isPlain (c : Char) : Bool := c != '(' && c != ')' && c != '-'

/-- A text of plain characters in front of another changes neither depth nor arrows. -/
theorem depthAfter_word {w : List Char} (hw : w.all isPlain = true) (depth : Nat)
    (s : List Char) :
    depthAfter depth (w ++ s) = depthAfter depth s ∧
      outerArrows depth (w ++ s) = outerArrows depth s := by
  induction w with
  | nil => exact ⟨rfl, rfl⟩
  | cons c w ih =>
    rw [List.all_cons, Bool.and_eq_true] at hw
    obtain ⟨hc, hw⟩ := hw
    obtain ⟨hopen, hclose, hhyphen⟩ : c ≠ '(' ∧ c ≠ ')' ∧ c ≠ '-' := by
      simpa [isPlain, and_assoc] using hc
    have hstep : depthStep depth c = some depth := by
      rw [depthStep, if_neg hopen, if_neg hclose]
    obtain ⟨hdepth, harrows⟩ := ih hw
    refine ⟨?_, ?_⟩
    · rw [List.cons_append, depthAfter, List.foldlM_cons, hstep]
      exact hdepth
    · rw [List.cons_append, outerArrows, hstep, Option.getD_some, harrows]
      simp [hhyphen]

theorem IsEnclosed.of_word {text : String} (h : text.toList.all isPlain = true) :
    IsEnclosed text := by
  obtain ⟨hdepth, harrows⟩ := depthAfter_word h 0 []
  rw [List.append_nil] at hdepth harrows
  exact ⟨hdepth, harrows⟩

/-- A word in front of a text in parentheses. -/
theorem IsEnclosed.paren (word : String) (hword : word.toList.all isPlain = true) {text : String}
    (h : depthAfter 0 text.toList = some 0) : IsEnclosed (word ++ "(" ++ text ++ ")") := by
  have hlist : (word ++ "(" ++ text ++ ")").toList
      = word.toList ++ ('(' :: (text.toList ++ [')'])) := by
    simp [String.toList_append]
  obtain ⟨hdepth, harrows⟩ := depthAfter_word hword 0 ('(' :: (text.toList ++ [')']))
  have hinside : depthAfter 1 text.toList = some 1 := depthAfter_succ h
  refine ⟨?_, ?_⟩
  · rw [hlist, hdepth]
    refine depthAfter_cons_eq_some.mpr ⟨1, rfl, ?_⟩
    rw [depthAfter_append, hinside]
    rfl
  · rw [hlist, harrows, outerArrows, show (depthStep 0 '(').getD 0 = 1 from rfl,
      outerArrows_append hinside (by decide), outerArrows_succ h]
    rfl

/-- A function has balanced parentheses, and one outer arrow for each argument. -/
theorem callText_scan {arguments : List String} {result : String}
    (harguments : ∀ type ∈ arguments, IsEnclosed type) (hresult : IsEnclosed result) :
    depthAfter 0 (callText arguments result).toList = some 0 ∧
      outerArrows 0 (callText arguments result).toList = arguments.length := by
  induction arguments with
  | nil =>
    have h : IsEnclosed ("IO " ++ "(" ++ result ++ ")") := .paren "IO " (by decide) hresult.balanced
    exact ⟨h.balanced, h.arrows⟩
  | cons type rest ih =>
    obtain ⟨⟨hdepth, harrows⟩, hrest⟩ := List.forall_mem_cons.mp harguments
    obtain ⟨ihdepth, iharrows⟩ := ih hrest
    have hlist : (callText (type :: rest) result).toList
        = type.toList ++ (' ' :: '-' :: '>' :: ' ' :: (callText rest result).toList) := by
      rw [callText_cons]
      simp [String.toList_append]
    refine ⟨?_, ?_⟩
    · rw [hlist, depthAfter_append, hdepth]
      exact ihdepth
    · rw [hlist, outerArrows_append hdepth (by simp), harrows, Nat.zero_add]
      change 0 + (1 + (0 + (0 + outerArrows 0 (callText rest result).toList))) = rest.length + 1
      rw [iharrows]
      omega

/-- A type over enclosed aliases is enclosed. -/
theorem isEnclosed_bindingClosed : BindingClosed IsEnclosed where
  void := .of_word (by decide)
  name base := .of_word (by cases base <;> decide)
  pointer h := .paren "Ptr " (by decide) h.balanced
  wordPointer {type} h := by
    have hlist : ("Ptr " ++ type).toList = "Ptr ".toList ++ type.toList := String.toList_append
    obtain ⟨hdepth, harrows⟩ := depthAfter_word (w := "Ptr ".toList) (by decide) 0 type.toList
    exact ⟨by rw [hlist, hdepth, h.balanced], by rw [hlist, harrows, h.arrows]⟩
  function harguments hresult := .paren "FunPtr " (by decide) (callText_scan harguments hresult).1

/-- The placeholder of an identifier is a word. -/
theorem isEnclosed_placeholder {name : String} (h : C.isIdentifier name.toList = true) :
    IsEnclosed ("<" ++ name ++ ">") := by
  have hword : name.toList.all isPlain = true := by
    rw [List.all_eq_true]
    intro c hc
    have hrest := C.Ident.isIdentRest_of_mem ⟨name.toList, h⟩ hc
    have hne : c ≠ '(' ∧ c ≠ ')' ∧ c ≠ '-' := by
      refine ⟨?_, ?_, ?_⟩ <;> rintro rfl <;> cases hrest
    simp [isPlain, hne]
  apply IsEnclosed.of_word
  rw [String.toList_append, String.toList_append, List.all_append, List.all_append, hword]
  rfl

end HeaderBindings
