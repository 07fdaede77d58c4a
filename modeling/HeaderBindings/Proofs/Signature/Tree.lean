/-
  The grammar of binding signatures.  With `A` for a name or a placeholder,

    T ::= A | `Ptr ()` | `Ptr ` A | `Ptr (` T `)` | `FunPtr (` F `)`
    F ::= `IO ()` | `IO (` T `)` | T ` -> ` F

  and a signature is a type `T` or the empty text, which is void.  A tree has one constructor for
  each production, so trees are the parses of their texts.

  Main statement: a text has at most one parse (`TypeTree.text_injective`,
  `ArrowTree.text_injective`), since a type is told from what follows it wherever that starts with a
  blank or a closing parenthesis.
-/
import HeaderBindings.C.Ident

namespace HeaderBindings

/-- The fixed names of the bindings. -/
inductive BaseName where
  | char | schar | uchar | short | ushort | int | uint | long | ulong | float | double | string
  deriving DecidableEq, Repr

def BaseName.text : BaseName → String
  | char => "CChar"
  | schar => "CSChar"
  | uchar => "CUChar"
  | short => "CShort"
  | ushort => "CUShort"
  | int => "CInt"
  | uint => "CUInt"
  | long => "CLong"
  | ulong => "CULong"
  | float => "CFloat"
  | double => "CDouble"
  | string => "CString"

/-- A fixed name, or an alias that was not recorded. -/
inductive Atom where
  | base (name : BaseName)
  | placeholder (name : String)
  deriving DecidableEq, Repr

def Atom.text : Atom → String
  | base name => name.text
  | placeholder name => "<" ++ name ++ ">"

/-- Placeholders name identifiers. -/
def Atom.WellFormed : Atom → Prop
  | base _ => True
  | placeholder name => C.isIdentifier name.toList = true

mutual

/-- The parses of a type `T`. -/
inductive TypeTree where
  | atom (a : Atom)
  | voidPointer
  | atomPointer (a : Atom)
  | pointer (t : TypeTree)
  | function (f : ArrowTree)

/-- The parses of a function `F`: its arguments, and its result unless that is void. -/
inductive ArrowTree where
  | voidResult
  | result (t : TypeTree)
  | argument (t : TypeTree) (f : ArrowTree)

end

mutual

def TypeTree.text : TypeTree → String
  | .atom a => a.text
  | .voidPointer => "Ptr ()"
  | .atomPointer a => "Ptr " ++ a.text
  | .pointer t => "Ptr (" ++ t.text ++ ")"
  | .function f => "FunPtr (" ++ f.text ++ ")"

def ArrowTree.text : ArrowTree → String
  | .voidResult => "IO ()"
  | .result t => "IO (" ++ t.text ++ ")"
  | .argument t f => t.text ++ " -> " ++ f.text

end

mutual

def TypeTree.WellFormed : TypeTree → Prop
  | .atom a => a.WellFormed
  | .voidPointer => True
  | .atomPointer a => a.WellFormed
  | .pointer t => t.WellFormed
  | .function f => f.WellFormed

def ArrowTree.WellFormed : ArrowTree → Prop
  | .voidResult => True
  | .result t => t.WellFormed
  | .argument t f => t.WellFormed ∧ f.WellFormed

end

/-! ## Words and what ends them -/

/-- What may follow a type: nothing, or a text that starts with a blank or `)`. -/
def EndsType : List Char → Prop
  | [] => True
  | c :: _ => c = ' ' ∨ c = ')'

/-- A text without the characters that may follow a type. -/
def IsWord (cs : List Char) : Prop := ∀ c ∈ cs, c ≠ ' ' ∧ c ≠ ')'

theorem IsWord.append_inj {xs ys r s : List Char} (hx : IsWord xs) (hy : IsWord ys)
    (hr : EndsType r) (hs : EndsType s) (h : xs ++ r = ys ++ s) : xs = ys ∧ r = s := by
  induction xs generalizing ys with
  | nil =>
    cases ys with
    | nil => exact ⟨rfl, h⟩
    | cons y ys =>
      have hy := hy y List.mem_cons_self
      rw [List.nil_append] at h
      subst h
      rcases hr with rfl | rfl <;> simp at hy
  | cons x xs ih =>
    have hx' := hx x List.mem_cons_self
    cases ys with
    | nil =>
      rw [List.nil_append] at h
      subst h
      rcases hs with rfl | rfl <;> simp at hx'
    | cons y ys =>
      rw [List.cons_append, List.cons_append, List.cons.injEq] at h
      obtain ⟨rfl, h⟩ := h
      obtain ⟨rfl, rfl⟩ := ih (fun c hc => hx c (List.mem_cons_of_mem _ hc))
        (fun c hc => hy c (List.mem_cons_of_mem _ hc)) h
      exact ⟨rfl, rfl⟩

theorem isWord_identifier {cs : List Char} (h : C.isIdentifier cs = true) : IsWord cs := by
  intro c hc
  have hrest := C.Ident.isIdentRest_of_mem ⟨cs, h⟩ hc
  constructor <;> rintro rfl <;> revert hrest <;> decide

namespace Atom

theorem isWord_text {a : Atom} (ha : a.WellFormed) : IsWord a.text.toList := by
  cases a with
  | base name => cases name <;> simp [IsWord, text, BaseName.text]
  | placeholder name =>
    have hname := isWord_identifier ha
    intro c hc
    simp only [text, String.toList_append, List.mem_append] at hc
    rcases hc with (hc | hc) | hc
    · simp at hc; subst hc; decide
    · exact hname c hc
    · simp at hc; subst hc; decide

/-- An atom starts with `C` or `<`, so it is told from `Ptr`, `FunPtr` and `IO` by its head. -/
theorem text_head (a : Atom) :
    ∃ c cs, a.text.toList = c :: cs ∧ (c = 'C' ∨ c = '<') := by
  cases a with
  | base name => cases name <;> exact ⟨_, _, rfl, .inl rfl⟩
  | placeholder name =>
    exact ⟨'<', name.toList ++ ['>'], by simp [text, String.toList_append], .inr rfl⟩

theorem text_injective {a b : Atom} (h : a.text.toList = b.text.toList) : a = b := by
  cases a with
  | base n =>
    cases b with
    | base m => cases n <;> cases m <;> first | rfl | simp [text, BaseName.text] at h
    | placeholder m => cases n <;> simp [text, BaseName.text, String.toList_append] at h
  | placeholder n =>
    cases b with
    | base m => cases m <;> simp [text, BaseName.text, String.toList_append] at h
    | placeholder m =>
      simp only [text, String.toList_append, List.append_assoc] at h
      have h := List.append_cancel_right (List.append_cancel_left h)
      rw [String.toList_injective h]

end Atom

/-! ## One parse at most -/

/-- A type starts with one of four characters, none of which starts a result or ends a type. -/
theorem TypeTree.text_head (t : TypeTree) :
    ∃ c cs, t.text.toList = c :: cs ∧ (c = 'C' ∨ c = '<' ∨ c = 'P' ∨ c = 'F') := by
  cases t with
  | atom a =>
    obtain ⟨c, cs, h, hc⟩ := a.text_head
    exact ⟨c, cs, by rw [TypeTree.text, h], hc.elim .inl (.inr ∘ .inl)⟩
  | voidPointer => exact ⟨'P', _, rfl, by decide⟩
  | atomPointer a =>
    exact ⟨'P', _, by rw [TypeTree.text, String.toList_append]; rfl, by decide⟩
  | pointer t =>
    exact ⟨'P', _, by rw [TypeTree.text, String.toList_append, String.toList_append]; rfl,
      by decide⟩
  | function f =>
    exact ⟨'F', _, by rw [TypeTree.text, String.toList_append, String.toList_append]; rfl,
      by decide⟩

/-- The production that starts a parse, of a type or of a function. -/
inductive Production where
  | atom | voidPointer | atomPointer | pointer | function | voidResult | result | argument
  deriving DecidableEq, Repr

def TypeTree.production : TypeTree → Production
  | .atom _ => .atom
  | .voidPointer => .voidPointer
  | .atomPointer _ => .atomPointer
  | .pointer _ => .pointer
  | .function _ => .function

def ArrowTree.production : ArrowTree → Production
  | .voidResult => .voidResult
  | .result _ => .result
  | .argument .. => .argument

/-- Six characters decide on the production of a type. -/
def typeProduction : List Char → Production
  | 'F' :: _ => .function
  | 'P' :: _ :: _ :: _ :: '(' :: ')' :: _ => .voidPointer
  | 'P' :: _ :: _ :: _ :: '(' :: _ => .pointer
  | 'P' :: _ => .atomPointer
  | _ => .atom

/-- Five characters decide on the production of a function. -/
def arrowProduction : List Char → Production
  | 'I' :: _ :: _ :: _ :: ')' :: _ => .voidResult
  | 'I' :: _ => .result
  | _ => .argument

theorem typeProduction_text (t : TypeTree) (r : List Char) :
    typeProduction (t.text.toList ++ r) = t.production := by
  cases t with
  | atom a | atomPointer a =>
    obtain ⟨c, cs, hc, rfl | rfl⟩ := a.text_head <;>
      simp [TypeTree.text, TypeTree.production, String.toList_append, hc, typeProduction]
  | pointer t =>
    obtain ⟨c, cs, hc, rfl | rfl | rfl | rfl⟩ := t.text_head <;>
      simp [TypeTree.text, TypeTree.production, String.toList_append, hc, typeProduction]
  | voidPointer | function f =>
    simp [TypeTree.text, TypeTree.production, String.toList_append, typeProduction]

theorem arrowProduction_text (f : ArrowTree) (r : List Char) :
    arrowProduction (f.text.toList ++ r) = f.production := by
  cases f with
  | voidResult => simp [ArrowTree.text, ArrowTree.production, arrowProduction]
  | result t | argument t f =>
    obtain ⟨c, cs, hc, rfl | rfl | rfl | rfl⟩ := t.text_head <;>
      simp [ArrowTree.text, ArrowTree.production, String.toList_append, hc, arrowProduction]

theorem endsType_paren (r : List Char) : EndsType (")".toList ++ r) := Or.inr rfl

theorem endsType_arrow (r : List Char) : EndsType (" -> ".toList ++ r) := Or.inl rfl

mutual

/-- A type is told from what follows it. -/
theorem TypeTree.text_append_inj : ∀ (t u : TypeTree) {r s : List Char},
    t.WellFormed → u.WellFormed → EndsType r → EndsType s →
      t.text.toList ++ r = u.text.toList ++ s → t = u ∧ r = s
  | t, u, r, s, ht, hu, hr, hs, h => by
    have hp : t.production = u.production := by
      rw [← typeProduction_text t r, h, typeProduction_text]
    match t, u, hp with
    | .atom a, .atom b, _ =>
      obtain ⟨hab, hrs⟩ := (Atom.isWord_text ht).append_inj (Atom.isWord_text hu) hr hs h
      exact ⟨by rw [Atom.text_injective hab], hrs⟩
    | .voidPointer, .voidPointer, _ => exact ⟨rfl, List.append_cancel_left h⟩
    | .atomPointer a, .atomPointer b, _ =>
      simp only [TypeTree.text, String.toList_append, List.append_assoc] at h
      obtain ⟨hab, hrs⟩ := (Atom.isWord_text ht).append_inj (Atom.isWord_text hu) hr hs
        (List.append_cancel_left h)
      exact ⟨by rw [Atom.text_injective hab], hrs⟩
    | .pointer t, .pointer u, _ =>
      simp only [TypeTree.text, String.toList_append, List.append_assoc] at h
      obtain ⟨rfl, hrs⟩ := TypeTree.text_append_inj t u ht hu (endsType_paren r)
        (endsType_paren s) (List.append_cancel_left h)
      exact ⟨rfl, List.append_cancel_left hrs⟩
    | .function f, .function g, _ =>
      simp only [TypeTree.text, String.toList_append, List.append_assoc] at h
      obtain ⟨rfl, hrs⟩ := ArrowTree.text_append_inj f g ht hu (List.append_cancel_left h)
      exact ⟨rfl, List.append_cancel_left hrs⟩

/-- A function closes its own result, so anything may follow it. -/
theorem ArrowTree.text_append_inj : ∀ (f g : ArrowTree) {r s : List Char},
    f.WellFormed → g.WellFormed → f.text.toList ++ r = g.text.toList ++ s → f = g ∧ r = s
  | f, g, r, s, hf, hg, h => by
    have hp : f.production = g.production := by
      rw [← arrowProduction_text f r, h, arrowProduction_text]
    match f, g, hp with
    | .voidResult, .voidResult, _ => exact ⟨rfl, List.append_cancel_left h⟩
    | .result t, .result u, _ =>
      simp only [ArrowTree.text, String.toList_append, List.append_assoc] at h
      obtain ⟨rfl, hrs⟩ := TypeTree.text_append_inj t u hf hg (endsType_paren r)
        (endsType_paren s) (List.append_cancel_left h)
      exact ⟨rfl, List.append_cancel_left hrs⟩
    | .argument t f, .argument u g, _ =>
      simp only [ArrowTree.text, String.toList_append, List.append_assoc] at h
      obtain ⟨rfl, hfg⟩ := TypeTree.text_append_inj t u hf.1 hg.1 (endsType_arrow _)
        (endsType_arrow _) h
      obtain ⟨rfl, hrs⟩ := ArrowTree.text_append_inj f g hf.2 hg.2 (List.append_cancel_left hfg)
      exact ⟨rfl, hrs⟩

end

theorem TypeTree.text_injective {t u : TypeTree} (ht : t.WellFormed) (hu : u.WellFormed)
    (h : t.text = u.text) : t = u :=
  (t.text_append_inj u ht hu (r := []) (s := []) trivial trivial (by rw [h])).1

theorem ArrowTree.text_injective {f g : ArrowTree} (hf : f.WellFormed) (hg : g.WellFormed)
    (h : f.text = g.text) : f = g :=
  (f.text_append_inj g hf hg (r := []) (s := []) (by rw [h])).1

end HeaderBindings
