/-
  Text in UTF-8.  Bytes are cut into pieces, each a character or the longest beginning of one that
  cannot be completed.  The strict reading stops at the first piece of the second sort, the lenient
  one puts the replacement character in its place.
-/
import HeaderBindings.Text.Quoted

namespace HeaderBindings.Text.Utf8

/-- Why bytes are no character. -/
inductive Flaw where
  /-- No character starts with this byte. -/
  | start
  /-- The byte that follows does not continue the character. -/
  | continuation
  /-- The text ends inside the character. -/
  | ending
  deriving DecidableEq, Repr

def Flaw.message : Flaw → String
  | start => "invalid start byte"
  | continuation => "invalid continuation byte"
  | ending => "unexpected end of data"

/-! ## Pieces -/

/-- What a first byte announces: how many bytes follow, its own part of the code point, and the range
of the byte after it, which leaves out overlong forms, surrogates and what is beyond Unicode. -/
structure Lead where
  count : Nat
  bits : Nat
  low : UInt8 := 0x80
  high : UInt8 := 0xBF

/-- What a byte announces as the first one of a character. -/
def lead? (b : UInt8) : Option Lead :=
  if b < 0x80 then some { count := 0, bits := b.toNat }
  else if b < 0xC2 then none
  else if b < 0xE0 then some { count := 1, bits := b.toNat - 0xC0 }
  else if b < 0xF0 then
    some {
      count := 2, bits := b.toNat - 0xE0
      low := if b = 0xE0 then 0xA0 else 0x80, high := if b = 0xED then 0x9F else 0xBF }
  else if b < 0xF5 then
    some {
      count := 3, bits := b.toNat - 0xF0
      low := if b = 0xF0 then 0x90 else 0x80, high := if b = 0xF4 then 0x8F else 0xBF }
  else none

/-- The continuation bytes at the head of a text, at most `n`, the first of them in the range. -/
def continuation (low high : UInt8) : Nat → List UInt8 → List UInt8
  | 0, _ | _, [] => []
  | n + 1, b :: bs =>
    if low ≤ b ∧ b ≤ high then b :: continuation 0x80 0xBF n bs else []

/-- The code point that continuation bytes complete. -/
def codePoint (bits : Nat) (bytes : List UInt8) : Nat :=
  bytes.foldl (fun n b => 64 * n + (b.toNat - 0x80)) bits

/-- Bytes that stand together, and what they stand for. -/
structure Piece where
  bytes : List UInt8
  char : Except Flaw Char

/-- The piece that opens with a byte. -/
def piece (b : UInt8) (rest : List UInt8) : Piece :=
  match lead? b with
  | none => ⟨[b], .error .start⟩
  | some lead =>
    let more := continuation lead.low lead.high lead.count rest
    if more.length = lead.count then ⟨b :: more, .ok (Char.ofNat (codePoint lead.bits more))⟩
    else ⟨b :: more, .error (if more.length = rest.length then .ending else .continuation)⟩

/-- The pieces of a text after the first `skip` bytes. -/
def piecesFrom : Nat → List UInt8 → List Piece
  | _, [] => []
  | skip + 1, _ :: bs => piecesFrom skip bs
  | 0, b :: bs =>
    let p := piece b bs
    p :: piecesFrom (p.bytes.length - 1) bs

def pieces (bytes : List UInt8) : List Piece := piecesFrom 0 bytes

/-! ## Readings -/

/-- Where a text is not UTF-8: the bytes of the first flawed piece and the number of those before
it. -/
structure Fault where
  position : Nat
  bytes : List UInt8
  flaw : Flaw
  deriving DecidableEq, Repr

def Fault.message (f : Fault) : String :=
  let bytes := match f.bytes with
    | [b] => " byte 0x" ++ String.ofList (hexDigits 2 b.toNat) ++ " in position "
        ++ toString f.position
    | bs => " bytes in position " ++ toString f.position ++ "-"
        ++ toString (f.position + bs.length - 1)
  "'utf-8' codec can't decode" ++ bytes ++ ": " ++ f.flaw.message

def decodeFrom (position : Nat) : List Piece → Except Fault (List Char)
  | [] => .ok []
  | p :: ps =>
    match p.char with
    | .error flaw => .error ⟨position, p.bytes, flaw⟩
    | .ok c => return c :: (← decodeFrom (position + p.bytes.length) ps)

/-- The text that bytes stand for, if they are UTF-8. -/
def decode (bytes : List UInt8) : Except Fault (List Char) := decodeFrom 0 (pieces bytes)

/-- The text that bytes stand for, with U+FFFD for each flawed piece. -/
def decodeLenient (bytes : List UInt8) : List Char :=
  (pieces bytes).map fun p => p.char.toOption.getD (Char.ofNat 0xFFFD)

end HeaderBindings.Text.Utf8
