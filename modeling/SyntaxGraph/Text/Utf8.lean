/-!
# Bytes and UTF-8 text

Paths and file contents are byte sequences that need not be text.  This file reads such a sequence
as UTF-8 in one pass and keeps everything it finds, so that the three readings the program needs
are views of the same pass.

## What is here

* `Utf8.pieces` — the pass itself: whole characters, and between them the broken parts.  A broken
  part is *maximal*: it ends at the first byte that cannot continue the character that was begun.
* `Utf8.text?` — the strict reading: a text, if nothing is broken.  Surrogates, overlong forms and
  code points beyond U+10FFFF are broken.
* `Utf8.lossy` — the forgiving reading: each broken part becomes one U+FFFD.
* `Utf8.encode` — the way back.
-/

set_option autoImplicit false
namespace SyntaxGraph

/-- File names, paths and file contents: any sequence of bytes. -/
abbrev Bytes := List UInt8

namespace Utf8

/-- The bytes of a list of characters. -/
def encode (cs : List Char) : Bytes :=
  cs.flatMap String.utf8EncodeChar

/-- The bytes of a text. -/
def ofString (s : String) : Bytes :=
  encode s.toList

/-! ## One pass over the bytes -/

/-- A stretch of a byte sequence: a whole character, or a maximal part that is none. -/
inductive Piece where
  | char (c : Char)
  | broken (bs : Bytes)
deriving DecidableEq, Repr

/-- The bytes a piece was read from. -/
def Piece.bytes : Piece → Bytes
  | .char c => String.utf8EncodeChar c
  | .broken bs => bs

/-- A character of which the first bytes have been read. -/
structure Begun where
  /-- The bytes read so far, in order. -/
  seen : Bytes
  /-- The bits they contribute to the code point. -/
  code : Nat
  /-- The least byte that may come next. -/
  low : UInt8
  /-- The greatest byte that may come next. -/
  high : UInt8
  /-- How many bytes are missing after the next one. -/
  more : Nat
deriving DecidableEq, Repr

/-- What a byte above 0x7F begins.  The range of the byte after it is narrowed where the full range
would admit an overlong form (after 0xE0 and 0xF0), a surrogate (after 0xED) or a code point beyond
U+10FFFF (after 0xF4). -/
def lead (b : UInt8) : Option Begun :=
  if 0xC2 ≤ b ∧ b ≤ 0xDF then some ⟨[b], b.toNat - 0xC0, 0x80, 0xBF, 0⟩
  else if b = 0xE0 then some ⟨[b], 0x0, 0xA0, 0xBF, 1⟩
  else if b = 0xED then some ⟨[b], 0xD, 0x80, 0x9F, 1⟩
  else if 0xE1 ≤ b ∧ b ≤ 0xEF then some ⟨[b], b.toNat - 0xE0, 0x80, 0xBF, 1⟩
  else if b = 0xF0 then some ⟨[b], 0, 0x90, 0xBF, 2⟩
  else if b = 0xF4 then some ⟨[b], 4, 0x80, 0x8F, 2⟩
  else if 0xF1 ≤ b ∧ b ≤ 0xF3 then some ⟨[b], b.toNat - 0xF0, 0x80, 0xBF, 2⟩
  else none

/-- A byte where no character is under way. -/
def fresh (b : UInt8) : List Piece × Option Begun :=
  if b < 0x80 then ([.char (Char.ofNat b.toNat)], none)
  else
    match lead b with
    | some o => ([], some o)
    | none => ([.broken [b]], none)

/-- A byte, given the character that is under way. -/
def step : Option Begun → UInt8 → List Piece × Option Begun
  | none, b => fresh b
  | some o, b =>
    if o.low ≤ b ∧ b ≤ o.high then
      let code := o.code * 64 + (b.toNat - 0x80)
      match o.more with
      | 0 => ([.char (Char.ofNat code)], none)
      | k + 1 => ([], some ⟨o.seen ++ [b], code, 0x80, 0xBF, k⟩)
    else
      (.broken o.seen :: (fresh b).1, (fresh b).2)

/-- The pieces of a byte sequence, given the character that is under way. -/
def scan : Option Begun → Bytes → List Piece
  | none, [] => []
  | some o, [] => [.broken o.seen]
  | o, b :: bs => (step o b).1 ++ scan (step o b).2 bs

/-- The pieces of a byte sequence, from left to right. -/
def pieces (bs : Bytes) : List Piece :=
  scan none bs

/-! ## The readings -/

/-- The character of a piece that is whole. -/
def Piece.char? : Piece → Option Char
  | .char c => some c
  | .broken _ => none

/-- The character shown for a piece: its own, or U+FFFD. -/
def Piece.shown : Piece → Char
  | .char c => c
  | .broken _ => Char.ofNat 0xFFFD

/-- The strict reading. -/
def text? (bs : Bytes) : Option String :=
  ((pieces bs).mapM Piece.char?).map String.ofList

/-- The forgiving reading. -/
def lossy (bs : Bytes) : String :=
  String.ofList ((pieces bs).map Piece.shown)

@[simp] theorem pieces_nil : pieces [] = [] := rfl

theorem scan_cons (o : Option Begun) (b : UInt8) (bs : Bytes) :
    scan o (b :: bs) = (step o b).1 ++ scan (step o b).2 bs := by
  cases o <;> rfl

end Utf8
end SyntaxGraph
