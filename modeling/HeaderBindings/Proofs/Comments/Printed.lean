/-
  The text of a plain tree has no delimiter of a comment.  The texts of its parts are clean, and
  the printer puts them together with clean text in between; only a brace that closes a body needs a
  look at what stands before it, which is the end of a line.

  Main statement: the text of a plain declaration is clean (`Decl.clean_text`).
-/
import HeaderBindings.Proofs.Comments.Plain

namespace HeaderBindings.C

open BlockComment (Clean EndsPlain)

/-! ## Bodies -/

/-- What ends with no minus sign still does with members after it. -/
theorem endsPlain_members (n : Nat) {s : String} (h : EndsPlain s) (members : List Member) :
    EndsPlain (s ++ Member.listText n members) := by
  induction members generalizing s with
  | nil => simpa [Member.listText] using h
  | cons m ms ih =>
    -- the line of the first member joins what stands before the others
    cases m with
    | field decl =>
      rw [Member.listText, ← String.append_assoc]
      exact ih (.append _ (.append _ (by decide : EndsPlain ";\n")))
    | pragma text =>
      rw [Member.listText, ← String.append_assoc]
      exact ih (.append _ (.append _ (by decide : EndsPlain "\n")))

/-- A statement ends with its line. -/
theorem Stmt.endsPlain_text (n : Nat) : ∀ (lead : Nat) (s : Stmt), EndsPlain (s.text lead n)
  | lead, .expression e => by
    rw [Stmt.text]
    cases e with
    | block => exact .append _ (by decide : EndsPlain "\x7d\n")
    | compound => exact .append _ (by decide : EndsPlain "\n")
    | _ => exact .append _ (by decide : EndsPlain ";\n")
  | lead, .branch condition yes no => by
    cases no with
    | none =>
      rw [Stmt.text, Stmt.elseText, String.append_empty]
      exact .append _ (Stmt.endsPlain_text n (n + 2) yes)
    | some no =>
      rw [Stmt.text, Stmt.elseText]
      exact .append _ (.append _ (Stmt.endsPlain_text n (n + 2) no))
  | _, .declaration _ | _, .empty | _, .compound _ | _, .loop .. | _, .loopAfter .. | _, .count ..
  | _, .countOver .. | _, .select .. | _, .case .. | _, .otherwise _ | _, .label .. | _, .jump _
  | _, .leave | _, .again | _, .result _ | _, .pragma _ | _, .assert .. => by
    rw [Stmt.text]
    exact .append _ (by decide)

theorem endsPlain_statements (n : Nat) {s : String} (h : EndsPlain s) (body : List Stmt) :
    EndsPlain (s ++ Stmt.listText n body) := by
  induction body generalizing s with
  | nil => simpa [Stmt.listText] using h
  | cons statement rest ih =>
    rw [Stmt.listText, ← String.append_assoc]
    exact ih (.append _ (statement.endsPlain_text n n))

theorem endsPlain_indent {s : String} (h : EndsPlain s) (n : Nat) : EndsPlain (s ++ indent n) := by
  induction n with
  | zero => simpa [indent] using h
  | succ n ih =>
    have hcut : indent (n + 1) = indent n ++ " " := by
      simp [indent, List.replicate_succ', String.ofList_append]
    rw [hcut]
    exact .append _ (.append _ (by decide))

/-- Statements in braces, on lines of their own. -/
theorem clean_statements (n : Nat) {body : List Stmt} (h : Clean (Stmt.listText (n + 2) body)) :
    Clean (indent n ++ "\x7b\n" ++ Stmt.listText (n + 2) body ++ indent n ++ "\x7d\n") := by
  have hopened : Clean (indent n ++ "\x7b\n" ++ Stmt.listText (n + 2) body ++ indent n) :=
    (((clean_indent n).append (by decide)).append h).append (clean_indent n)
  have hends : EndsPlain (indent n ++ "\x7b\n" ++ Stmt.listText (n + 2) body ++ indent n) :=
    endsPlain_indent (endsPlain_statements (n + 2) (.append _ (by decide)) body) n
  have hclosed := (hopened.closeBrace hends).append (t := "\n") (by decide)
  rwa [String.append_assoc] at hclosed

/-- A loop that counts, over an expression or over declarations. -/
theorem clean_loop {lead : Nat} {init condition step body : String} (hinit : Clean init)
    (hcondition : Clean condition) (hstep : Clean step) (hbody : Clean body) :
    Clean (indent lead ++ "for (" ++ init ++ ";" ++ condition ++ ";" ++ step ++ ")\n" ++ body
      ++ "\n") := by
  have hopened : Clean (indent lead ++ "for (" ++ init ++ ";") :=
    (((clean_indent lead).append (by decide)).append hinit).append (by decide)
  have hhead :
      Clean (indent lead ++ "for (" ++ init ++ ";" ++ condition ++ ";" ++ step ++ ")\n") :=
    (((hopened.append hcondition).append (by decide)).append hstep).append (by decide)
  exact (hhead.append hbody).append (by decide)

/-! ## Trees

One case for each constructor: the texts of its parts are clean, and so is what the printer writes
between them. -/

mutual

theorem Expr.clean_text (n : Nat) : ∀ e : Expr, e.isPlain = true → Clean (e.text n)
  | .constant text, h => by
    simp only [Expr.isPlain, isPlainConstant, Bool.and_eq_true, decide_eq_true_eq] at h
    exact h.1.1
  | .name ident, _ => ident.clean_text
  | .index base position, h => by
    rw [Expr.isPlain, Bool.and_eq_true] at h
    have hbase := Expr.clean_operand h.1 (Expr.clean_text n base h.1)
    have hposition := Expr.clean_text n position h.2
    rw [Expr.text]
    apply_rules [Clean.append] <;> decide
  | .member base isArrow field, h => by
    rw [Expr.isPlain] at h
    have hbase := Expr.clean_operand h (Expr.clean_text n base h)
    rw [Expr.text]
    refine (hbase.append ?_).append field.clean_text
    cases isArrow <;> decide
  | .call function arguments, h => by
    rw [Expr.isPlain, Bool.and_eq_true] at h
    have hfunction := Expr.clean_operand h.1 (Expr.clean_text n function h.1)
    have harguments : Clean (joined ", " (Expr.listTexts n arguments)) :=
      clean_joined (by decide) (Expr.clean_listTexts n arguments h.2)
    rw [Expr.text]
    apply_rules [Clean.append] <;> decide
  | .offset type path, h => by
    rw [Expr.isPlain, Bool.and_eq_true] at h
    have htype := TypeTree.clean_text n type.nameAround type h.1 type.clean_nameAround
    have hpath := Expr.clean_enclose h.2 (Expr.clean_text n path h.2)
    rw [Expr.text]
    apply_rules [Clean.append] <;> decide
  | .unary op e, h => by
    rw [Expr.isPlain] at h
    exact op.clean_text.append (Expr.clean_operand h (Expr.clean_text n e h))
  | .postfix_ op e, h => by
    rw [Expr.isPlain] at h
    exact (Expr.clean_operand h (Expr.clean_text n e h)).append op.clean_text
  | .sizeofExpr e, h => by
    rw [Expr.isPlain] at h
    have he := Expr.clean_text n e h
    rw [Expr.text]
    apply_rules [Clean.append] <;> decide
  | .sizeofType type, h => by
    rw [Expr.isPlain] at h
    have htype := TypeTree.clean_text n type.nameAround type h type.clean_nameAround
    rw [Expr.text]
    apply_rules [Clean.append] <;> decide
  | .alignof type, h => by
    rw [Expr.isPlain] at h
    have htype := TypeTree.clean_text n type.nameAround type h type.clean_nameAround
    rw [Expr.text]
    apply_rules [Clean.append] <;> decide
  | .binary op l r, h => by
    rw [Expr.isPlain, Bool.and_eq_true] at h
    have hl := Expr.clean_operand h.1 (Expr.clean_text n l h.1)
    have hop := op.clean_text
    have hr := Expr.clean_operand h.2 (Expr.clean_text n r h.2)
    rw [Expr.text]
    apply_rules [Clean.append] <;> decide
  | .assign op l r, h => by
    rw [Expr.isPlain, Bool.and_eq_true] at h
    have hl := Expr.clean_text n l h.1
    have hop := op.clean_text
    have hr := Expr.clean_assigned h.2 (Expr.clean_text n r h.2)
    rw [Expr.text]
    exact (((hl.append (by decide)).append hop).append (by decide)).append hr
  | .choice condition yes no, h => by
    simp only [Expr.isPlain, Bool.and_eq_true] at h
    have hcondition := Expr.clean_enclose h.1.1 (Expr.clean_text n condition h.1.1)
    have hyes := Expr.clean_enclose h.1.2 (Expr.clean_text n yes h.1.2)
    have hno := Expr.clean_enclose h.2 (Expr.clean_text n no h.2)
    rw [Expr.text]
    apply_rules [Clean.append] <;> decide
  | .cast type e, h => by
    rw [Expr.isPlain, Bool.and_eq_true] at h
    have htype := TypeTree.clean_text n (.declarator false "") type h.1 .empty
    have he := Expr.clean_operand h.2 (Expr.clean_text n e h.2)
    rw [Expr.text]
    apply_rules [Clean.append] <;> decide
  | .compound type items, h => by
    simp only [Expr.isPlain, Bool.and_eq_true] at h
    have htype := TypeTree.clean_text n type.nameAround type h.1.1 type.clean_nameAround
    have hitems : Clean (joined ", " (Item.listTexts n items)) :=
      clean_joined (by decide) (Item.clean_listTexts n items h.1.2)
    have hlist := clean_inBraces n h.1.2 h.2 hitems
    -- the brace belongs to the list and not to the parenthesis that it is written with
    have hcut : Expr.text n (.compound type items) = "(" ++ type.text n type.nameAround ++ ")"
        ++ ("\x7b" ++ joined ", " (Item.listTexts n items) ++ "\x7d") := by
      have hbrace : ")\x7b" = ")" ++ "\x7b" := rfl
      rw [Expr.text, hbrace]
      simp only [String.append_assoc]
    rw [hcut]
    apply_rules [Clean.append] <;> decide
  | .sequence members, h => by
    rw [Expr.isPlain] at h
    exact clean_joined (by decide) (Expr.clean_listTexts n members h)
  | .braces items, h => by
    rw [Expr.isPlain, Bool.and_eq_true] at h
    exact clean_joined (by decide) (Item.clean_listTexts n items h.1)
  | .block body, h => by
    rw [Expr.isPlain] at h
    have hbody := Stmt.clean_listText (n + 2) body h
    rw [Expr.text]
    exact clean_statements n hbody

theorem Expr.clean_listTexts (n : Nat) :
    ∀ es : List Expr, Expr.listIsPlain es = true → ∀ s ∈ Expr.listTexts n es, Clean s
  | [], _ => by simp [Expr.listTexts]
  | e :: es, h => by
    rw [Expr.listIsPlain, Bool.and_eq_true] at h
    rw [Expr.listTexts, List.forall_mem_cons]
    exact ⟨Expr.clean_enclose h.1 (Expr.clean_text n e h.1), Expr.clean_listTexts n es h.2⟩

theorem Expr.clean_optionText (n : Nat) {lead : String} (hlead : Clean lead) :
    ∀ e : Option Expr, Expr.optionIsPlain e = true → Clean (Expr.optionText n lead e)
  | none, _ => .empty
  | some e, h => by
    rw [Expr.optionIsPlain] at h
    exact hlead.append (Expr.clean_text n e h)

theorem Designator.clean_text (n : Nat) : ∀ d : Designator, d.isPlain = true → Clean (d.text n)
  | .field ident, _ => .append (by decide) ident.clean_text
  | .position e, h => by
    rw [Designator.isPlain] at h
    have he := Expr.clean_text n e h
    rw [Designator.text]
    apply_rules [Clean.append] <;> decide

theorem Designator.clean_listText (n : Nat) :
    ∀ ds : List Designator, Designator.listIsPlain ds = true → Clean (Designator.listText n ds)
  | [], _ => .empty
  | d :: ds, h => by
    rw [Designator.listIsPlain, Bool.and_eq_true] at h
    exact (Designator.clean_text n d h.1).append (Designator.clean_listText n ds h.2)

theorem Item.clean_text (n : Nat) : ∀ i : Item, i.isPlain = true → Clean (i.text n)
  | .item designators value, h => by
    rw [Item.isPlain, Bool.and_eq_true] at h
    have hdesignators := Designator.clean_listText n designators h.1
    have hvalue := Expr.clean_enclose h.2 (Expr.clean_text n value h.2)
    rw [Item.text]
    refine (hdesignators.append ?_).append hvalue
    cases designators.isEmpty <;> decide

theorem Item.clean_listTexts (n : Nat) :
    ∀ is : List Item, Item.listIsPlain is = true → ∀ s ∈ Item.listTexts n is, Clean s
  | [], _ => by simp [Item.listTexts]
  | i :: is, h => by
    rw [Item.listIsPlain, Bool.and_eq_true] at h
    rw [Item.listTexts, List.forall_mem_cons]
    exact ⟨Item.clean_text n i h.1, Item.clean_listTexts n is h.2⟩

theorem TypeTree.clean_text (n : Nat) (around : Around) :
    ∀ t : TypeTree, t.isPlain = true → Clean around.text → Clean (t.text n around)
  | .pointer qualifiers target, h, haround => by
    rw [TypeTree.isPlain] at h
    exact TypeTree.clean_text n _ target h (Around.clean_addPointer qualifiers haround)
  | .array marks bound element, h, haround => by
    rw [TypeTree.isPlain, Bool.and_eq_true] at h
    exact TypeTree.clean_text n _ element h.2
      (Around.clean_addArray marks (Bound.clean_text n bound h.1) haround)
  | .function parameters result, h, haround => by
    rw [TypeTree.isPlain, Bool.and_eq_true] at h
    exact TypeTree.clean_text n _ result h.2
      (Around.clean_addParameters (Param.clean_listTexts n parameters h.1) haround)
  | .declared _ qualifiers base, h, haround => by
    rw [TypeTree.isPlain] at h
    have hqualifiers : Clean (spaced (qualifiers.map Qualifier.text)) :=
      clean_spaced (by simpa using fun q _ => Qualifier.clean_text q)
    rw [TypeTree.text]
    refine (hqualifiers.append (TypeTree.clean_text n .base base h .empty)).append ?_
    split
    · exact .empty
    · exact .append (by decide) haround
  | .words words, _, _ => by
    have hwords : Clean (joined " " (words.map BaseWord.text)) :=
      clean_joined (by decide) (by simpa using fun w _ => BaseWord.clean_text w)
    exact hwords.append around.clean_gap
  | .record isUnion tag members, h, _ => by
    rw [TypeTree.isPlain] at h
    have hhead := clean_recordHead isUnion tag
    have hmembers := Member.clean_listText (n + 2) members h
    rw [TypeTree.text]
    refine Clean.closeBrace ?_ (endsPlain_indent (endsPlain_members _ (.append _ (by decide)) _) n)
    apply_rules [Clean.append, clean_indent] <;> decide
  | .recordRef isUnion tag, _, _ => clean_recordHead isUnion (some tag)
  | .enumeration tag enumerators, h, _ => by
    rw [TypeTree.isPlain] at h
    have henumerators : Clean (joined ",\n" (Enumerator.listTexts (n + 2) enumerators)) :=
      clean_joined (by decide) (Enumerator.clean_listTexts (n + 2) enumerators h)
    have htag := clean_optionalName tag
    rw [TypeTree.text]
    refine Clean.closeBrace ?_ (endsPlain_indent (.append _ (by decide)) n)
    apply_rules [Clean.append, clean_indent] <;> decide
  | .enumerationRef tag, _, _ => .append (by decide) tag.clean_text
  | .named type, h, _ => by
    rw [TypeTree.isPlain] at h
    exact TypeTree.clean_text n _ type h type.clean_nameAround

theorem Bound.clean_text (n : Nat) : ∀ b : Bound, b.isPlain = true → Clean (b.text n)
  | .none, _ => .empty
  | .star, _ => (by decide : Clean "*")
  | .leadingStar, _ => (by decide : Clean "]")
  | .size value, h => by
    rw [Bound.isPlain] at h
    exact Expr.clean_text n value h

theorem Alignment.clean_text (n : Nat) : ∀ a : Alignment, a.isPlain = true → Clean (a.text n)
  | .type type, h => by
    rw [Alignment.isPlain] at h
    have htype := TypeTree.clean_text n type.nameAround type h type.clean_nameAround
    exact (Clean.append (by decide) htype).append (by decide)
  | .value value, h => by
    rw [Alignment.isPlain] at h
    exact (Clean.append (by decide) (Expr.clean_text n value h)).append (by decide)

theorem Alignment.clean_listText (n : Nat) :
    ∀ as : List Alignment, Alignment.listIsPlain as = true → Clean (Alignment.listText n as)
  | [], _ => .empty
  | a :: _, h => by
    rw [Alignment.listIsPlain] at h
    exact (Alignment.clean_text n a h).append (by decide)

theorem Decl.clean_text (n : Nat) : ∀ d : Decl, d.isPlain = true → Clean (d.text n)
  | .decl _ storage functionWords alignments type bits init _, h => by
    simp only [Decl.isPlain, Bool.and_eq_true] at h
    obtain ⟨⟨⟨halignments, htype⟩, hbits⟩, hinit⟩ := h
    have hwords : Clean (spaced (functionWords.map FunctionWord.text)) :=
      clean_spaced (by simpa using fun w _ => FunctionWord.clean_text w)
    have hstorage : Clean (spaced (storage.map Storage.text)) :=
      clean_spaced (by simpa using fun w _ => Storage.clean_text w)
    have halignments := Alignment.clean_listText n alignments halignments
    have htype := TypeTree.clean_text n type.nameAround type htype type.clean_nameAround
    have hbits : Clean (Expr.optionText n " : " bits) :=
      Expr.clean_optionText n (by decide) bits hbits
    have hinit := Decl.clean_initText n init hinit
    rw [Decl.text]
    exact ((((hwords.append hstorage).append halignments).append htype).append hbits).append hinit
  | .typedef _ storage type _, h => by
    rw [Decl.isPlain] at h
    have hstorage : Clean (spaced (storage.map Storage.text)) :=
      clean_spaced (by simpa using fun w _ => Storage.clean_text w)
    exact hstorage.append (TypeTree.clean_text n type.nameAround type h type.clean_nameAround)

theorem Decl.clean_initText (n : Nat) :
    ∀ e : Option Expr, Expr.optionIsPlain e = true → Clean (Decl.initText n e)
  | none, _ => .empty
  | some e, h => by
    rw [Expr.optionIsPlain] at h
    exact .append (by decide) (Expr.clean_enclose h (Expr.clean_text n e h))

theorem Decl.clean_tailTexts (n : Nat) :
    ∀ ds : List Decl, Decl.listIsPlain ds = true → ∀ s ∈ Decl.tailTexts n ds, Clean s
  | [], _ => by simp [Decl.tailTexts]
  | .decl name _ _ _ _ bits init _ :: ds, h => by
    simp only [Decl.listIsPlain, Decl.isPlain, Bool.and_eq_true] at h
    rw [Decl.tailTexts, List.forall_mem_cons]
    exact ⟨((clean_optionalName name).append
      (Expr.clean_optionText n (by decide) bits h.1.1.2)).append
        (Decl.clean_initText n init h.1.2), Decl.clean_tailTexts n ds h.2⟩
  | .typedef name .. :: ds, h => by
    rw [Decl.listIsPlain, Bool.and_eq_true] at h
    rw [Decl.tailTexts, List.forall_mem_cons]
    exact ⟨clean_optionalName name, Decl.clean_tailTexts n ds h.2⟩

theorem Decl.clean_headText (n : Nat) :
    ∀ ds : List Decl, Decl.listIsPlain ds = true → Clean (Decl.headText n ds)
  | [], _ => .empty
  | d :: ds, h => by
    rw [Decl.listIsPlain, Bool.and_eq_true] at h
    exact clean_joined (by decide)
      (List.forall_mem_cons.mpr ⟨Decl.clean_text n d h.1, Decl.clean_tailTexts n ds h.2⟩)

theorem Param.clean_text (n : Nat) : ∀ p : Param, p.isPlain = true → Clean (p.text n)
  | .declared decl, h => by
    rw [Param.isPlain] at h
    exact Decl.clean_text n decl h
  | .unnamed type _, h => by
    rw [Param.isPlain] at h
    exact TypeTree.clean_text n type.nameAround type h type.clean_nameAround
  | .bare name, _ => name.clean_text
  | .ellipsis, _ => (by decide : Clean "...")

theorem Param.clean_listTexts (n : Nat) :
    ∀ ps : List Param, Param.listIsPlain ps = true → ∀ s ∈ Param.listTexts n ps, Clean s
  | [], _ => by simp [Param.listTexts]
  | p :: ps, h => by
    rw [Param.listIsPlain, Bool.and_eq_true] at h
    rw [Param.listTexts, List.forall_mem_cons]
    exact ⟨Param.clean_text n p h.1, Param.clean_listTexts n ps h.2⟩

theorem Member.clean_listText (n : Nat) :
    ∀ ms : List Member, Member.listIsPlain ms = true → Clean (Member.listText n ms)
  | [], _ => .empty
  | .field decl :: ms, h => by
    rw [Member.listIsPlain, Member.isPlain, Bool.and_eq_true] at h
    have hdecl := Decl.clean_text n decl h.1
    have hrest := Member.clean_listText n ms h.2
    rw [Member.listText]
    apply_rules [Clean.append, clean_indent]
    decide
  | .pragma text :: ms, h => by
    rw [Member.listIsPlain, Member.isPlain, Bool.and_eq_true, decide_eq_true_eq] at h
    have hpragma := clean_pragmaLine h.1
    have hrest := Member.clean_listText n ms h.2
    rw [Member.listText]
    apply_rules [Clean.append, clean_indent]
    decide

theorem Enumerator.clean_text (n : Nat) :
    ∀ e : Enumerator, e.isPlain = true → Clean (e.text n)
  | .mk name value, h => by
    rw [Enumerator.isPlain] at h
    exact ((clean_indent n).append name.clean_text).append
      (Expr.clean_optionText n (by decide) value h)

theorem Enumerator.clean_listTexts (n : Nat) :
    ∀ es : List Enumerator, Enumerator.listIsPlain es = true →
      ∀ s ∈ Enumerator.listTexts n es, Clean s
  | [], _ => by simp [Enumerator.listTexts]
  | e :: es, h => by
    rw [Enumerator.listIsPlain, Bool.and_eq_true] at h
    rw [Enumerator.listTexts, List.forall_mem_cons]
    exact ⟨Enumerator.clean_text n e h.1, Enumerator.clean_listTexts n es h.2⟩

theorem Stmt.clean_text (lead n : Nat) : ∀ s : Stmt, s.isPlain = true → Clean (s.text lead n)
  | .expression e, h => by
    rw [Stmt.isPlain] at h
    exact Expr.clean_asStatement (clean_indent lead) (Expr.clean_text n e h)
  | .declaration decl, h => by
    rw [Stmt.isPlain] at h
    exact ((clean_indent lead).append (Decl.clean_text n decl h)).append (by decide)
  | .empty, _ => (clean_indent lead).append (by decide)
  | .compound body, h => by
    rw [Stmt.isPlain] at h
    exact clean_statements n (Stmt.clean_listText (n + 2) body h)
  | .branch condition yes no, h => by
    simp only [Stmt.isPlain, Bool.and_eq_true] at h
    have hcondition := Expr.clean_text n condition h.1.1
    have hyes := Stmt.clean_text (n + 2) n yes h.1.2
    have hno := Stmt.clean_elseText n no h.2
    rw [Stmt.text]
    apply_rules [Clean.append, clean_indent] <;> decide
  | .loop condition body, h => by
    rw [Stmt.isPlain, Bool.and_eq_true] at h
    have hcondition := Expr.clean_text n condition h.1
    have hbody := Stmt.clean_text (n + 2) n body h.2
    rw [Stmt.text]
    apply_rules [Clean.append, clean_indent] <;> decide
  | .loopAfter body condition, h => by
    rw [Stmt.isPlain, Bool.and_eq_true] at h
    have hbody := Stmt.clean_text (n + 2) n body h.1
    have hcondition := Expr.clean_text n condition h.2
    rw [Stmt.text]
    apply_rules [Clean.append, clean_indent] <;> decide
  | .count init condition step body, h => by
    simp only [Stmt.isPlain, Bool.and_eq_true] at h
    obtain ⟨⟨⟨hinit, hcondition⟩, hstep⟩, hbody⟩ := h
    exact clean_loop (Expr.clean_optionText n .empty init hinit)
      (Expr.clean_optionText n (by decide) condition hcondition)
      (Expr.clean_optionText n (by decide) step hstep) (Stmt.clean_text (n + 2) n body hbody)
  | .countOver decls condition step body, h => by
    simp only [Stmt.isPlain, Bool.and_eq_true] at h
    obtain ⟨⟨⟨hdecls, hcondition⟩, hstep⟩, hbody⟩ := h
    exact clean_loop (Decl.clean_headText n decls hdecls)
      (Expr.clean_optionText n (by decide) condition hcondition)
      (Expr.clean_optionText n (by decide) step hstep) (Stmt.clean_text (n + 2) n body hbody)
  | .select value body, h => by
    rw [Stmt.isPlain, Bool.and_eq_true] at h
    have hvalue := Expr.clean_text n value h.1
    have hbody := Stmt.clean_text (n + 2) n body h.2
    rw [Stmt.text]
    apply_rules [Clean.append, clean_indent] <;> decide
  | .case value body, h => by
    rw [Stmt.isPlain, Bool.and_eq_true] at h
    have hvalue := Expr.clean_text n value h.1
    have hbody := Stmt.clean_innerText n body h.2
    rw [Stmt.text]
    apply_rules [Clean.append, clean_indent] <;> decide
  | .otherwise body, h => by
    rw [Stmt.isPlain] at h
    have hbody := Stmt.clean_innerText n body h
    rw [Stmt.text]
    apply_rules [Clean.append, clean_indent] <;> decide
  | .label ident body, h => by
    rw [Stmt.isPlain] at h
    have hident := ident.clean_text
    have hbody := Stmt.clean_text n n body h
    rw [Stmt.text]
    apply_rules [Clean.append, clean_indent] <;> decide
  | .jump ident, _ => by
    have hident := ident.clean_text
    rw [Stmt.text]
    apply_rules [Clean.append, clean_indent] <;> decide
  | .leave, _ => (clean_indent lead).append (by decide)
  | .again, _ => (clean_indent lead).append (by decide)
  | .result value, h => by
    rw [Stmt.isPlain] at h
    have hvalue : Clean (Expr.optionText n " " value) :=
      Expr.clean_optionText n (by decide) value h
    rw [Stmt.text]
    apply_rules [Clean.append, clean_indent] <;> decide
  | .pragma text, h => by
    rw [Stmt.isPlain, decide_eq_true_eq] at h
    exact ((clean_indent lead).append (clean_pragmaLine h)).append (by decide)
  | .assert condition message, h => by
    rw [Stmt.isPlain, Bool.and_eq_true] at h
    have hcondition := Expr.clean_text n condition h.1
    have hmessage : Clean (message.elim "" ("," ++ ·)) := by
      cases message with
      | none => exact .empty
      | some text => exact .append (by decide) (by simpa using h.2)
    rw [Stmt.text]
    apply_rules [Clean.append, clean_indent] <;> decide

theorem Stmt.clean_elseText (n : Nat) :
    ∀ s : Option Stmt, Stmt.optionIsPlain s = true → Clean (Stmt.elseText n s)
  | none, _ => .empty
  | some s, h => by
    rw [Stmt.optionIsPlain] at h
    exact ((clean_indent n).append (by decide)).append (Stmt.clean_text (n + 2) n s h)

theorem Stmt.clean_listText (n : Nat) :
    ∀ ss : List Stmt, Stmt.listIsPlain ss = true → Clean (Stmt.listText n ss)
  | [], _ => .empty
  | s :: ss, h => by
    rw [Stmt.listIsPlain, Bool.and_eq_true] at h
    exact (Stmt.clean_text n n s h.1).append (Stmt.clean_listText n ss h.2)

theorem Stmt.clean_innerText (n : Nat) :
    ∀ ss : List Stmt, Stmt.listIsPlain ss = true → Clean (Stmt.innerText n ss)
  | [], _ => .empty
  | s :: ss, h => by
    rw [Stmt.listIsPlain, Bool.and_eq_true] at h
    exact (Stmt.clean_text (n + 2) n s h.1).append (Stmt.clean_innerText n ss h.2)

end

end HeaderBindings.C
