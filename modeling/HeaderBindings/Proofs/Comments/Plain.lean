/-
  Plain trees, whose text has no delimiter of a comment.  The printer sets every operator apart from
  its operands or puts a bracket between them, except that it writes a list right between its braces
  and a unary operator right beside its operand.  So a delimiter comes up in two ways: it stands in
  a constant or a pragma, or a list in braces begins or ends with a minus sign.

  Main statement: a list with plain edges may stand in braces (`clean_inBraces`).
-/
import HeaderBindings.C.Printer
import HeaderBindings.Proofs.Comments.Delimiters

namespace HeaderBindings.C

open BlockComment (Clean BeginsPlain EndsPlain)

/-! ## Plain trees -/

/-- A clean constant that neither begins nor ends with a minus sign. -/
def isPlainConstant (text : String) : Bool :=
  Clean text && BeginsPlain text && EndsPlain text

namespace Expr

/-- The text of the expression, as an item of a list, may begin with a minus sign. -/
def mayBeginMinus : Expr → Bool
  | .unary .minus _ | .unary .decrement _ | .assign .. => true
  | _ => false

/-- The text of the expression, as an item of a list, may end with a minus sign. -/
def mayEndMinus : Expr → Bool
  | .postfix_ .minus _ | .postfix_ .decrement _ | .assign .. => true
  | _ => false

end Expr

def Item.beginsPlain : Item → Bool
  | .item designators value => !designators.isEmpty || !value.mayBeginMinus

def Item.endsPlain : Item → Bool
  | .item _ value => !value.mayEndMinus

/-- The list neither begins nor ends with a minus sign. -/
def Item.edgesPlain (items : List Item) : Bool :=
  items.head?.all Item.beginsPlain && items.getLast?.all Item.endsPlain

mutual

/-- Constants and pragmas have no delimiter, and no list in braces begins or ends with a minus
sign. -/
def Expr.isPlain : Expr → Bool
  | .constant text => isPlainConstant text
  | .name _ => true
  | .index base position => base.isPlain && position.isPlain
  | .member base _ _ => base.isPlain
  | .call function arguments => function.isPlain && Expr.listIsPlain arguments
  | .offset type path => type.isPlain && path.isPlain
  | .unary _ e => e.isPlain
  | .postfix_ _ e => e.isPlain
  | .sizeofExpr e => e.isPlain
  | .sizeofType type => type.isPlain
  | .alignof type => type.isPlain
  | .binary _ l r => l.isPlain && r.isPlain
  | .assign _ l r => l.isPlain && r.isPlain
  | .choice condition yes no => condition.isPlain && yes.isPlain && no.isPlain
  | .cast type e => type.isPlain && e.isPlain
  | .compound type items => type.isPlain && Item.listIsPlain items && Item.edgesPlain items
  | .sequence members => Expr.listIsPlain members
  | .braces items => Item.listIsPlain items && Item.edgesPlain items
  | .block body => Stmt.listIsPlain body

def Expr.listIsPlain : List Expr → Bool
  | [] => true
  | e :: es => e.isPlain && Expr.listIsPlain es

def Expr.optionIsPlain : Option Expr → Bool
  | none => true
  | some e => e.isPlain

def Designator.isPlain : Designator → Bool
  | .field _ => true
  | .position e => e.isPlain

def Designator.listIsPlain : List Designator → Bool
  | [] => true
  | d :: ds => d.isPlain && Designator.listIsPlain ds

def Item.isPlain : Item → Bool
  | .item designators value => Designator.listIsPlain designators && value.isPlain

def Item.listIsPlain : List Item → Bool
  | [] => true
  | i :: is => i.isPlain && Item.listIsPlain is

def TypeTree.isPlain : TypeTree → Bool
  | .pointer _ target => target.isPlain
  | .array _ bound element => bound.isPlain && element.isPlain
  | .function parameters result => Param.listIsPlain parameters && result.isPlain
  | .declared _ _ base => base.isPlain
  | .words _ => true
  | .record _ _ members => Member.listIsPlain members
  | .recordRef .. => true
  | .enumeration _ enumerators => Enumerator.listIsPlain enumerators
  | .enumerationRef _ => true
  | .named type => type.isPlain

def Bound.isPlain : Bound → Bool
  | .none => true
  | .star => true
  | .leadingStar => true
  | .size value => value.isPlain

def Alignment.isPlain : Alignment → Bool
  | .type type => type.isPlain
  | .value value => value.isPlain

def Alignment.listIsPlain : List Alignment → Bool
  | [] => true
  | a :: _ => a.isPlain

def Decl.isPlain : Decl → Bool
  | .decl _ _ _ alignments type bits init _ =>
    Alignment.listIsPlain alignments && type.isPlain && Expr.optionIsPlain bits
      && Expr.optionIsPlain init
  | .typedef _ _ type _ => type.isPlain

def Decl.listIsPlain : List Decl → Bool
  | [] => true
  | d :: ds => d.isPlain && Decl.listIsPlain ds

def Param.isPlain : Param → Bool
  | .declared decl => decl.isPlain
  | .unnamed type _ => type.isPlain
  | .bare _ => true
  | .ellipsis => true

def Param.listIsPlain : List Param → Bool
  | [] => true
  | p :: ps => p.isPlain && Param.listIsPlain ps

def Member.isPlain : Member → Bool
  | .field decl => decl.isPlain
  | .pragma text => Clean text

def Member.listIsPlain : List Member → Bool
  | [] => true
  | m :: ms => m.isPlain && Member.listIsPlain ms

def Enumerator.isPlain : Enumerator → Bool
  | .mk _ value => Expr.optionIsPlain value

def Enumerator.listIsPlain : List Enumerator → Bool
  | [] => true
  | e :: es => e.isPlain && Enumerator.listIsPlain es

def Stmt.isPlain : Stmt → Bool
  | .expression e => e.isPlain
  | .declaration decl => decl.isPlain
  | .empty => true
  | .compound body => Stmt.listIsPlain body
  | .branch condition yes no => condition.isPlain && yes.isPlain && Stmt.optionIsPlain no
  | .loop condition body => condition.isPlain && body.isPlain
  | .loopAfter body condition => body.isPlain && condition.isPlain
  | .count init condition step body =>
    Expr.optionIsPlain init && Expr.optionIsPlain condition && Expr.optionIsPlain step
      && body.isPlain
  | .countOver decls condition step body =>
    Decl.listIsPlain decls && Expr.optionIsPlain condition && Expr.optionIsPlain step
      && body.isPlain
  | .select value body => value.isPlain && body.isPlain
  | .case value body => value.isPlain && Stmt.listIsPlain body
  | .otherwise body => Stmt.listIsPlain body
  | .label _ body => body.isPlain
  | .jump _ => true
  | .leave => true
  | .again => true
  | .result value => Expr.optionIsPlain value
  | .pragma text => Clean text
  | .assert condition message => condition.isPlain && message.all fun text => Clean text

def Stmt.optionIsPlain : Option Stmt → Bool
  | none => true
  | some s => s.isPlain

def Stmt.listIsPlain : List Stmt → Bool
  | [] => true
  | s :: ss => s.isPlain && Stmt.listIsPlain ss

end

/-! ## Words and lists of words -/

section Words

open BlockComment

theorem clean_joined {between : String} {texts : List String} (hbetween : Clean between)
    (h : ∀ s ∈ texts, Clean s) : Clean (joined between texts) := by
  unfold C.joined
  induction texts with
  | nil => exact .empty
  | cons s rest ih =>
    have hs := h s List.mem_cons_self
    have hrest := ih fun s' hs' => h s' (List.mem_cons_of_mem s hs')
    cases rest with
    | nil => simpa using hs
    | cons s' rest =>
      rw [String.intercalate_cons_of_ne_nil (List.cons_ne_nil s' rest)]
      exact (hs.append hbetween).append hrest

theorem clean_spaced {words : List String} (h : ∀ w ∈ words, Clean w) : Clean (spaced words) := by
  unfold C.spaced
  induction words with
  | nil => decide
  | cons w rest ih =>
    rw [List.map_cons, String.join_cons]
    exact ((h w List.mem_cons_self).append (by decide)).append
      (ih fun w' hw' => h w' (List.mem_cons_of_mem w hw'))

theorem clean_indent (n : Nat) : Clean (indent n) := by
  induction n with
  | zero => decide
  | succ n ih =>
    have hcut : indent (n + 1) = " " ++ indent n := by
      simp [indent, List.replicate_succ, String.ofList_cons]
    rw [hcut]
    exact .append (by decide) ih

theorem Ident.ne_of_mem (name : Ident) {c : Char} (h : c ∈ name.text.toList) :
    c ≠ '\x7b' ∧ c ≠ '-' ∧ c ≠ '\x7d' := by
  rw [text, String.toList_ofList] at h
  have hrest := name.isIdentRest_of_mem h
  refine ⟨?_, ?_, ?_⟩ <;> rintro rfl <;> exact absurd hrest (by decide)

theorem Ident.clean_text (name : Ident) : Clean name.text :=
  .of_forall_ne fun _ h => ⟨(name.ne_of_mem h).1, (name.ne_of_mem h).2.2⟩

theorem Ident.text_ne_nil (name : Ident) : name.text.toList ≠ [] := by
  obtain ⟨chars, hchars⟩ := name
  rw [text, String.toList_ofList]
  rintro rfl
  cases hchars

theorem Ident.beginsPlain_text (name : Ident) : BeginsPlain name.text :=
  BlockComment.beginsPlain_iff.mpr ⟨_, List.head?_eq_some_head name.text_ne_nil,
    (name.ne_of_mem (List.head_mem name.text_ne_nil)).2.1⟩

theorem Ident.endsPlain_text (name : Ident) : EndsPlain name.text :=
  BlockComment.endsPlain_iff.mpr ⟨_, List.getLast?_eq_some_getLast name.text_ne_nil,
    (name.ne_of_mem (List.getLast_mem name.text_ne_nil)).2.1⟩

theorem clean_optionalName (name : Option Ident) : Clean (name.elim "" Ident.text) := by
  cases name with
  | none => exact .empty
  | some name => exact name.clean_text

theorem BaseWord.clean_text (word : BaseWord) : Clean word.text := by
  cases word with
  | keyword word => cases word <;> decide
  | typedefName name => exact name.clean_text

theorem UnaryOp.clean_text (op : UnaryOp) : Clean op.text := by
  cases op <;> decide

theorem BinaryOp.clean_text (op : BinaryOp) : Clean op.text := by
  cases op <;> decide

theorem AssignOp.clean_text (op : AssignOp) : Clean op.text := by
  cases op with
  | none => exact (by decide : Clean "=")
  | some op => exact op.clean_text.append (by decide)

theorem Qualifier.clean_text (word : Qualifier) : Clean word.text := by
  cases word <;> decide

theorem BoundWord.clean_text (word : BoundWord) : Clean word.text := by
  cases word with
  | qualifier word => exact word.clean_text
  | static => decide

theorem Storage.clean_text (word : Storage) : Clean word.text := by
  cases word <;> decide

theorem FunctionWord.clean_text (word : FunctionWord) : Clean word.text := by
  cases word <;> decide

theorem clean_pragmaLine {text : String} (h : Clean text) : Clean (pragmaLine text) := by
  unfold pragmaLine
  split
  · decide
  · exact .append (by decide) h

theorem clean_recordHead (isUnion : Bool) (tag : Option Ident) :
    Clean (recordHead isUnion tag) := by
  cases isUnion <;> exact .append (by decide) (clean_optionalName tag)

end Words

/-! ## Declarators -/

namespace Around

variable {around : Around}

theorem clean_grouped (h : Clean around.text) : Clean around.grouped := by
  unfold grouped
  split
  · exact h.parenthesized
  · exact h

theorem clean_gap (around : Around) : Clean around.gap := by
  cases around with
  | base => exact .empty
  | declarator => exact (by decide : Clean " ")

theorem clean_addPointer (qualifiers : List Qualifier) (h : Clean around.text) :
    Clean (around.addPointer qualifiers).text := by
  have hwords : Clean (joined " " (qualifiers.map Qualifier.text)) :=
    clean_joined (by decide) (by simpa using fun q _ => Qualifier.clean_text q)
  unfold addPointer
  rw [text]
  split
  · exact .append (by decide) h
  · refine (Clean.append (by decide) hwords).append ?_
    split
    · exact .empty
    · exact .append (by decide) h

theorem clean_addArray (marks : List BoundWord) {bound : String} (hbound : Clean bound)
    (h : Clean around.text) : Clean (around.addArray marks bound).text := by
  have hwords : Clean (spaced (marks.map BoundWord.text)) :=
    clean_spaced (by simpa using fun w _ => BoundWord.clean_text w)
  exact ((((clean_grouped h).append (by decide)).append hwords).append hbound).append (by decide)

theorem clean_addParameters {parameters : List String} (hparameters : ∀ p ∈ parameters, Clean p)
    (h : Clean around.text) : Clean (around.addParameters parameters).text :=
  (((clean_grouped h).append (by decide)).append (clean_joined (by decide) hparameters)).append
    (by decide)

end Around

theorem TypeTree.clean_nameAround (type : TypeTree) : Clean type.nameAround.text :=
  clean_optionalName type.name?

/-! ## The first and the last character -/

theorem beginsPlain_parenthesized (text : String) : BeginsPlain ("(" ++ text ++ ")") :=
  ((by decide : BeginsPlain "(").append text).append ")"

/-- An operand begins with a bracket or with what its base begins with. -/
theorem Expr.beginsPlain_operand (n : Nat) :
    ∀ e : Expr, e.isPlain = true → BeginsPlain (e.operand (e.text n))
  | .constant text, h => by
    simp only [isPlain, isPlainConstant, Bool.and_eq_true, decide_eq_true_eq] at h
    exact h.1.2
  | .name ident, _ => ident.beginsPlain_text
  | .index base position, h => by
    rw [isPlain, Bool.and_eq_true] at h
    exact (((beginsPlain_operand n base h.1).append _).append _).append _
  | .member base isArrow field, h => by
    rw [isPlain] at h
    exact ((beginsPlain_operand n base h).append _).append _
  | .call function arguments, h => by
    rw [isPlain, Bool.and_eq_true] at h
    exact (((beginsPlain_operand n function h.1).append _).append _).append _
  | .offset type path, _ =>
    ((((by decide : BeginsPlain "offsetof(").append _).append _).append _).append _
  | .unary .., _ | .postfix_ .., _ | .sizeofExpr _, _ | .sizeofType _, _ | .alignof _, _
  | .binary .., _ | .assign .., _ | .choice .., _ | .cast .., _ | .compound .., _
  | .sequence _, _ | .braces _, _ | .block _, _ => beginsPlain_parenthesized _

theorem Expr.endsPlain_operand (n : Nat) {e : Expr} (h : e.isPlain = true) :
    EndsPlain (e.operand (e.text n)) := by
  cases e with
  | constant text =>
    simp only [isPlain, isPlainConstant, Bool.and_eq_true, decide_eq_true_eq] at h
    exact h.2
  | name ident => exact ident.endsPlain_text
  | member base isArrow field => exact .append _ field.endsPlain_text
  | index => exact .append _ (by decide : EndsPlain "]")
  | _ => exact .append _ (by decide : EndsPlain ")")

theorem Expr.enclose_of_isSimple {e : Expr} (h : e.isSimple = true) (text : String) :
    e.enclose text = e.operand text :=
  (if_pos h).symm

theorem Expr.beginsPlain_enclose (n : Nat) {e : Expr} (h : e.isPlain = true)
    (hminus : e.mayBeginMinus = false) : BeginsPlain (e.enclose (e.text n)) := by
  cases e with
  | constant | name | index | member | call | offset =>
    rw [enclose_of_isSimple rfl]
    exact beginsPlain_operand n _ h
  | unary op e =>
    refine .append ?_ _
    cases op with
    | minus | decrement => cases hminus
    | increment | address | dereference | plus | complement | negation => decide
  | postfix_ op e => exact (beginsPlain_operand n e h).append _
  | binary op l r =>
    rw [isPlain, Bool.and_eq_true] at h
    exact ((((beginsPlain_operand n l h.1).append _).append _).append _).append _
  | assign => cases hminus
  | sizeofExpr e => exact ((by decide : BeginsPlain "sizeof(").append _).append _
  | sizeofType type => exact ((by decide : BeginsPlain "sizeof(").append _).append _
  | alignof type => exact ((by decide : BeginsPlain "_Alignof(").append _).append _
  | choice condition yes no =>
    refine .append (.append (.append (.append (.append (.append ?_ _) _) _) _) _) _
    decide
  | cast type e => exact (((by decide : BeginsPlain "(").append _).append _).append _
  | compound type items =>
    exact ((((by decide : BeginsPlain "(").append _).append _).append _).append _
  | sequence | block => exact beginsPlain_parenthesized _
  | braces items => exact ((by decide : BeginsPlain "\x7b").append _).append _

theorem Expr.endsPlain_enclose (n : Nat) {e : Expr} (h : e.isPlain = true)
    (hminus : e.mayEndMinus = false) : EndsPlain (e.enclose (e.text n)) := by
  cases e with
  | constant | name | index | member | call | offset =>
    rw [enclose_of_isSimple rfl]
    exact endsPlain_operand n h
  | unary op e => exact .append _ (endsPlain_operand n h)
  | postfix_ op e =>
    refine .append _ ?_
    cases op with
    | minus | decrement => cases hminus
    | increment | address | dereference | plus | complement | negation => decide
  | binary op l r =>
    rw [isPlain, Bool.and_eq_true] at h
    exact .append _ (endsPlain_operand n h.2)
  | cast type e =>
    rw [isPlain, Bool.and_eq_true] at h
    exact .append _ (endsPlain_operand n h.2)
  | assign => cases hminus
  | compound | braces => exact .append _ (by decide : EndsPlain "\x7d")
  | sizeofExpr | sizeofType | alignof | choice | sequence | block =>
    exact .append _ (by decide : EndsPlain ")")

/-! ## Lists in braces -/

theorem beginsPlain_joined {s : String} (h : BeginsPlain s) (between : String)
    (texts : List String) : BeginsPlain (joined between (s :: texts)) := by
  unfold joined
  cases texts with
  | nil => simpa using h
  | cons t rest =>
    rw [String.intercalate_cons_of_ne_nil (List.cons_ne_nil t rest)]
    exact (h.append _).append _

theorem endsPlain_joined {s : String} (h : EndsPlain s) (between : String) {texts : List String}
    (hlast : texts.getLast? = some s) : EndsPlain (joined between texts) := by
  unfold joined
  induction texts with
  | nil => cases hlast
  | cons t rest ih =>
    cases rest with
    | nil =>
      obtain rfl : t = s := Option.some.inj hlast
      simpa using h
    | cons t' rest =>
      rw [String.intercalate_cons_of_ne_nil (List.cons_ne_nil t' rest)]
      exact .append _ (ih (by rwa [List.getLast?_cons_cons] at hlast))

theorem Item.listTexts_eq_map (n : Nat) (items : List Item) :
    Item.listTexts n items = items.map (Item.text n) := by
  induction items with
  | nil => rw [listTexts, List.map_nil]
  | cons i is ih => rw [listTexts, List.map_cons, ih]

theorem Item.isPlain_of_mem {items : List Item} {i : Item} (h : Item.listIsPlain items = true)
    (hi : i ∈ items) : i.isPlain = true := by
  induction items with
  | nil => cases hi
  | cons i' is ih =>
    rw [listIsPlain, Bool.and_eq_true] at h
    rcases List.mem_cons.mp hi with rfl | hi
    · exact h.1
    · exact ih h.2 hi

theorem Item.beginsPlain_text (n : Nat) {i : Item} (h : i.isPlain = true)
    (hbegins : i.beginsPlain = true) : BeginsPlain (i.text n) := by
  obtain ⟨designators, value⟩ := i
  rw [isPlain, Bool.and_eq_true] at h
  cases designators with
  | nil =>
    rw [text, Designator.listText]
    exact value.beginsPlain_enclose n h.2 (by simpa [beginsPlain] using hbegins)
  | cons d ds =>
    -- the first designator opens the item, whatever its value is
    refine .append (.append (.append ?_ _) _) _
    cases d with
    | field ident => exact (by decide : BeginsPlain ".").append _
    | position e => exact ((by decide : BeginsPlain "[").append _).append _

theorem Item.endsPlain_text (n : Nat) {i : Item} (h : i.isPlain = true)
    (hends : i.endsPlain = true) : EndsPlain (i.text n) := by
  obtain ⟨designators, value⟩ := i
  rw [isPlain, Bool.and_eq_true] at h
  exact .append _ (value.endsPlain_enclose n h.2 (by simpa [endsPlain] using hends))

/-- A list with plain edges may stand in braces. -/
theorem clean_inBraces (n : Nat) {items : List Item} (hplain : Item.listIsPlain items = true)
    (hedges : Item.edgesPlain items = true) (h : Clean (joined ", " (Item.listTexts n items))) :
    Clean ("\x7b" ++ joined ", " (Item.listTexts n items) ++ "\x7d") := by
  rw [Item.listTexts_eq_map] at h ⊢
  cases items with
  | nil => exact (by decide : Clean "\x7b\x7d")
  | cons i is =>
    rw [Item.edgesPlain, Bool.and_eq_true] at hedges
    have hbegins : BeginsPlain (joined ", " ((i :: is).map (Item.text n))) :=
      beginsPlain_joined (i.beginsPlain_text n (Item.isPlain_of_mem hplain List.mem_cons_self)
        (by simpa using hedges.1)) _ _
    have hlast : (i :: is).getLast? = some ((i :: is).getLast (List.cons_ne_nil i is)) :=
      List.getLast?_eq_some_getLast _
    rw [hlast] at hedges
    have hends : EndsPlain (joined ", " ((i :: is).map (Item.text n))) :=
      endsPlain_joined (Item.endsPlain_text n (Item.isPlain_of_mem hplain (List.getLast_mem _))
        (by simpa using hedges.2)) _ (by rw [List.getLast?_map, hlast]; rfl)
    exact (h.openBrace hbegins).closeBrace (.append _ hends)

namespace Expr

variable {n : Nat} {e : Expr}

theorem clean_enclose (h : e.isPlain = true) (htext : Clean (e.text n)) :
    Clean (e.enclose (e.text n)) := by
  cases e with
  | braces items =>
    rw [isPlain, Bool.and_eq_true] at h
    exact clean_inBraces n h.1 h.2 htext
  | sequence | block => exact htext.parenthesized
  | _ => exact htext

theorem clean_operand (h : e.isPlain = true) (htext : Clean (e.text n)) :
    Clean (e.operand (e.text n)) := by
  unfold operand
  split
  · exact clean_enclose h htext
  · exact (clean_enclose h htext).parenthesized

theorem clean_assigned (h : e.isPlain = true) (htext : Clean (e.text n)) :
    Clean (e.assigned (e.text n)) := by
  cases e with
  | assign => exact htext.parenthesized
  | _ => exact clean_enclose h htext

theorem clean_asStatement {lead : String} (hlead : Clean lead) (htext : Clean (e.text n)) :
    Clean (e.asStatement lead (e.text n)) := by
  cases e with
  | block => exact htext
  | _ => exact (hlead.append htext).append (by decide)

end Expr

end HeaderBindings.C
