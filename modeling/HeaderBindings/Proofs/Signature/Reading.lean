/-
  The trees of resolved types.  `treeAlgebra` builds parses where the binding dialect builds text,
  with the same recursion; a recorded alias is spliced in as one tree.

  Main statement: the dialect and the trees stay related, text to parse (`binding_related`), so the
  tree of a declaration is the parse of its signature.
-/
import HeaderBindings.Bindings.Line
import HeaderBindings.Proofs.Signature.Algebra
import HeaderBindings.Proofs.Signature.Tree
import HeaderBindings.Proofs.TableRelation

namespace HeaderBindings

/-! ## Operations on trees -/

/-- The tree of a pointer that ends a chain. -/
def TypeTree.pointerTo : Option TypeTree → TypeTree
  | none => .voidPointer
  | some (.atom (.base .char)) => .atom (.base .string)
  | some (.atom a) => .atomPointer a
  | some t => .pointer t

/-- The tree of a pointer or an array that more of the chain follows. -/
def TypeTree.wrap : Option TypeTree → TypeTree
  | none => .voidPointer
  | some t => .pointer t

def ArrowTree.ofParts : List TypeTree → Option TypeTree → ArrowTree
  | [], none => .voidResult
  | [], some t => .result t
  | t :: ts, s => .argument t (ofParts ts s)

def builtinBase : BaseKind → Signedness → Option BaseName
  | .void, _ => none
  | .bool, _ => some .int
  | .char, .plain => some .char
  | .char, .signed => some .schar
  | .char, .unsigned => some .uchar
  | .short, .unsigned => some .ushort
  | .short, _ => some .short
  | .int, .unsigned => some .uint
  | .int, _ => some .int
  | .long, .unsigned => some .ulong
  | .long, _ => some .long
  | .float, _ => some .float
  | .double, _ => some .double
  | .complex, _ => none

def signBase : Signedness → Option BaseName
  | .plain => none
  | .signed => some .int
  | .unsigned => some .uint

def baseTree (name : Option BaseName) : Option TypeTree := name.map (.atom ∘ .base)

def treeAlgebra : TypeAlgebra TypeTree (Option TypeTree) where
  void := none
  builtin kind sign := baseTree (builtinBase kind sign)
  sign s := baseTree (signBase s)
  aliasName types name := some ((types.lookup name).getD (.atom (.placeholder name)))
  functionBase s := some (.pointerTo s)
  endPointer s := some (.pointerTo s)
  wrapPointer s := some (.wrap s)
  wrapArray s := some (.wrap s)
  wrapFunction ts s := some (.function (.ofParts ts s))
  type? := id

/-! ## Parses -/

/-- The text of a signature; void has none. -/
def signatureText (s : Option TypeTree) : String := s.elim "" TypeTree.text

/-- `t` is a parse of a type. -/
def TypeParse (text : String) (t : TypeTree) : Prop := t.WellFormed ∧ t.text = text

/-- `s` is a parse of a signature. -/
def SignatureParse (text : String) (s : Option TypeTree) : Prop :=
  (∀ t ∈ s, t.WellFormed) ∧ signatureText s = text

/-- `f` is a parse of a function. -/
def ArrowParse (text : String) (f : ArrowTree) : Prop := f.WellFormed ∧ f.text = text

theorem TypeTree.text_ne_empty (t : TypeTree) : t.text ≠ "" := by
  intro h
  obtain ⟨c, cs, hc, _⟩ := t.text_head
  rw [h] at hc
  simp at hc

theorem TypeParse.signature {text : String} {t : TypeTree} (h : TypeParse text t) :
    SignatureParse text (some t) := by
  refine ⟨?_, h.2⟩
  rintro _ ⟨⟩
  exact h.1

theorem SignatureParse.type {text : String} {t : TypeTree} (h : SignatureParse text (some t)) :
    TypeParse text t :=
  ⟨h.1 t rfl, h.2⟩

/-- `a` is the one parse there is. -/
def OnlyParse {α : Type} (parse : α → Prop) (a : α) : Prop := ∀ b, parse b ↔ b = a

theorem OnlyParse.intro {α : Type} {parse : α → Prop} {a : α} (h : parse a)
    (hunique : ∀ b, parse b → b = a) : OnlyParse parse a :=
  fun b => ⟨hunique b, fun hb => hb ▸ h⟩

theorem TypeParse.only {text : String} {t : TypeTree} (h : TypeParse text t) :
    OnlyParse (TypeParse text) t :=
  .intro h fun _ hu => TypeTree.text_injective hu.1 h.1 (hu.2.trans h.2.symm)

theorem ArrowParse.only {text : String} {f : ArrowTree} (h : ArrowParse text f) :
    OnlyParse (ArrowParse text) f :=
  .intro h fun _ hg => ArrowTree.text_injective hg.1 h.1 (hg.2.trans h.2.symm)

theorem SignatureParse.only {text : String} {s : Option TypeTree} (h : SignatureParse text s) :
    OnlyParse (SignatureParse text) s := by
  refine .intro h fun s' h' => ?_
  have htext : signatureText s' = signatureText s := h'.2.trans h.2.symm
  cases s with
  | none =>
    cases s' with
    | none => rfl
    | some u => exact absurd htext u.text_ne_empty
  | some t =>
    cases s' with
    | none => exact absurd htext.symm t.text_ne_empty
    | some u => rw [TypeTree.text_injective (h'.1 u rfl) (h.1 t rfl) htext]

/-! ## The dialect and the trees -/

theorem text_baseTree (name : Option BaseName) : SignatureParse (name.elim "" BaseName.text)
    (baseTree name) := by
  cases name with
  | none => exact ⟨by rintro _ ⟨⟩, rfl⟩
  | some n => exact TypeParse.signature ⟨trivial, rfl⟩

/-- A type is one word exactly if it is an atom. -/
theorem blank_mem_text {t : TypeTree} (ht : t.WellFormed) :
    ' ' ∈ t.text.toList ↔ ∀ a, t ≠ .atom a := by
  cases t with
  | atom a =>
    refine iff_of_false (fun h => (Atom.isWord_text ht _ h).1 rfl) ?_
    intro h
    exact h a rfl
  | _ => refine iff_of_true ?_ (by rintro a ⟨⟩); simp [TypeTree.text, String.toList_append]

theorem TypeTree.pointerTo_atom {a : Atom} (h : a ≠ .base .char) :
    TypeTree.pointerTo (some (.atom a)) = .atomPointer a := by
  cases a with
  | base name => cases name <;> first | rfl | exact absurd rfl h
  | placeholder name => rfl

theorem TypeTree.pointerTo_compound {t : TypeTree} (h : ∀ a, t ≠ .atom a) :
    TypeTree.pointerTo (some t) = .pointer t := by
  cases t with
  | atom a => exact absurd rfl (h a)
  | _ => rfl

/-- Whether a pointer needs parentheses is read off the text of its base: a blank in it tells a
compound type from an atom. -/
theorem pointerTo_parse {text : String} {s : Option TypeTree} (h : SignatureParse text s) :
    TypeParse (Dialect.bindingPointer text) (TypeTree.pointerTo s) := by
  obtain ⟨hs, rfl⟩ := h
  cases s with
  | none => exact ⟨trivial, rfl⟩
  | some t =>
    have ht := hs t rfl
    have hne : t.text ≠ "" := t.text_ne_empty
    change TypeParse (Dialect.bindingPointer t.text) _
    by_cases hatom : ∃ a, t = .atom a
    · obtain ⟨a, rfl⟩ := hatom
      by_cases hchar : a = .base .char
      · subst hchar
        exact ⟨trivial, rfl⟩
      · have hname : (TypeTree.atom a).text ≠ "CChar" := by
          intro h
          exact hchar (Atom.text_injective (b := .base .char) (congrArg String.toList h))
        have hblank : ' ' ∉ (TypeTree.atom a).text.toList := by
          rw [blank_mem_text ht]
          exact fun h => h a rfl
        rw [Dialect.bindingPointer, if_neg hne, if_neg hname, if_neg hblank,
          TypeTree.pointerTo_atom hchar]
        exact ⟨ht, rfl⟩
    · have hcompound : ∀ a, t ≠ .atom a := fun a h => hatom ⟨a, h⟩
      have hblank : ' ' ∈ t.text.toList := (blank_mem_text ht).mpr hcompound
      have hname : t.text ≠ "CChar" := by
        intro h
        rw [h] at hblank
        revert hblank
        decide
      rw [Dialect.bindingPointer, if_neg hne, if_neg hname, if_pos hblank,
        TypeTree.pointerTo_compound hcompound]
      exact ⟨ht, rfl⟩

theorem wrap_parse {text : String} {s : Option TypeTree} (h : SignatureParse text s) :
    TypeParse ("Ptr (" ++ text ++ ")") (TypeTree.wrap s) := by
  obtain ⟨hs, rfl⟩ := h
  cases s with
  | none => exact ⟨trivial, rfl⟩
  | some t => exact ⟨hs t rfl, rfl⟩

/-- What follows the name of a function: its arguments and its result. -/
def callText (arguments : List String) (result : String) : String :=
  " -> ".intercalate (arguments ++ ["IO (" ++ result ++ ")"])

theorem Line.render_function (marker : Marker) (name : String) (arguments : List String)
    (result : String) :
    (Line.function marker name arguments result).render
      = marker.render ++ " " ++ name ++ " , " ++ callText arguments result := rfl

theorem callText_cons (a : String) (arguments : List String) (result : String) :
    callText (a :: arguments) result = a ++ " -> " ++ callText arguments result := by
  rw [callText, List.cons_append, String.intercalate_cons_of_ne_nil (by simp), callText]

theorem ofParts_parse {arguments : List String} {ts : List TypeTree} {result : String}
    {s : Option TypeTree} (ha : List.Forall₂ TypeParse arguments ts)
    (hr : SignatureParse result s) :
    ArrowParse (callText arguments result) (ArrowTree.ofParts ts s) := by
  induction ha with
  | nil =>
    obtain ⟨hs, rfl⟩ := hr
    cases s with
    | none => exact ⟨trivial, rfl⟩
    | some t => exact ⟨hs t rfl, rfl⟩
  | cons ht _ ih =>
    obtain ⟨ht, rfl⟩ := ht
    obtain ⟨hf, hftext⟩ := ih
    refine ⟨⟨ht, hf⟩, ?_⟩
    rw [callText_cons, ← hftext]
    rfl

/-- The text of the binding dialect and the trees go together. -/
theorem binding_related :
    Dialect.binding.algebra.Related treeAlgebra TypeParse SignatureParse where
  void := text_baseTree none
  builtin kind sign := by
    have h := text_baseTree (builtinBase kind sign)
    cases kind <;> cases sign <;> exact h
  sign s := by
    have h := text_baseTree (signBase s)
    cases s <;> exact h
  functionBase h := (pointerTo_parse h).signature
  endPointer h := (pointerTo_parse h).signature
  wrapPointer h := (wrap_parse h).signature
  wrapArray h := (wrap_parse h).signature
  wrapFunction ha hr := by
    obtain ⟨hf, hftext⟩ := ofParts_parse ha hr
    refine TypeParse.signature ⟨hf, ?_⟩
    rw [TypeTree.text, hftext]
    rfl
  type? := by
    rintro text s h
    cases s with
    | none =>
      obtain rfl : "" = text := h.2
      exact .none
    | some t =>
      have hne : text ≠ "" := by
        rintro rfl
        exact t.text_ne_empty h.2
      have htype : Dialect.binding.algebra.type? text = some text := if_neg hne
      rw [htype]
      exact .some h.type

/-- An alias is read as the parse of what was recorded, or as a placeholder. -/
theorem aliasName_parse {types : Table String String} {trees : Table String TypeTree}
    {name : String} (h : Table.Rel TypeParse types trees)
    (hname : C.isIdentifier name.toList = true) :
    SignatureParse (Dialect.binding.algebra.aliasName types name)
      (treeAlgebra.aliasName trees name) := by
  have hl := h.lookup name
  change SignatureParse ((types.lookup name).getD _) (some ((trees.lookup name).getD _))
  revert hl
  cases types.lookup name <;> cases trees.lookup name <;> intro hl <;> cases hl
  case none.none => exact TypeParse.signature ⟨hname, rfl⟩
  case some.some h => exact h.signature

end HeaderBindings
