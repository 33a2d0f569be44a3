import EnvAudit.Text.Basic
/-!
# UTF-8

A file is a list of bytes.  Decoding splits it into pieces: a character, or a stretch of bytes that no character
begins with or goes on with.  An invalid stretch is as long as a prefix of some character can be, so a character
cut short is one stretch and a byte that can begin nothing is a stretch of its own.

Three readers share the pieces and differ in what they do with an invalid stretch: `decodeLossy` puts one
replacement character for it, `decodeStrict` refuses the file, and `decodeKeeping` keeps its bytes, so that a file
can be changed around them.

The machine takes one byte at a time and holds at most one unfinished character, so it is a plain recursion on the
bytes.
-/
namespace EnvAudit

abbrev Bytes := List UInt8

inductive Piece where
  | char (c : Char)
  | stray (bytes : Bytes)
  deriving DecidableEq, Repr

/-- A character that is not complete: its bytes so far, the value they hold, how many bytes are owed, and the range
the next one must lie in. -/
structure Unfinished where
  bytes : Bytes
  value : Nat
  owed : Nat
  low : Nat
  high : Nat
  deriving DecidableEq, Repr

inductive Opening where
  | whole (c : Char)
  | unfinished (u : Unfinished)
  | invalid
  deriving DecidableEq, Repr

/-- What a byte begins.  The second byte is bounded more tightly after the four leads that would otherwise allow an
overlong form, a surrogate or a value above the last code point. -/
def opening (b : UInt8) : Opening :=
  let n := b.toNat
  if n < 0x80 then .whole (Char.ofNat n)
  else if n < 0xC2 then .invalid
  else if n < 0xE0 then .unfinished ⟨[b], n - 0xC0, 1, 0x80, 0xBF⟩
  else if n = 0xE0 then .unfinished ⟨[b], 0, 2, 0xA0, 0xBF⟩
  else if n = 0xED then .unfinished ⟨[b], n - 0xE0, 2, 0x80, 0x9F⟩
  else if n < 0xF0 then .unfinished ⟨[b], n - 0xE0, 2, 0x80, 0xBF⟩
  else if n = 0xF0 then .unfinished ⟨[b], 0, 3, 0x90, 0xBF⟩
  else if n < 0xF4 then .unfinished ⟨[b], n - 0xF0, 3, 0x80, 0xBF⟩
  else if n = 0xF4 then .unfinished ⟨[b], n - 0xF0, 3, 0x80, 0x8F⟩
  else .invalid

/-- The unfinished character with one more byte of the right range. -/
def Unfinished.extend (u : Unfinished) (b : UInt8) : Unfinished :=
  ⟨u.bytes ++ [b], u.value * 64 + b.toNat % 64, u.owed - 1, 0x80, 0xBF⟩

mutual
def piecesAfter (u : Unfinished) : Bytes → List Piece
  | [] => [.stray u.bytes]
  | b :: bs =>
    if u.low ≤ b.toNat && b.toNat ≤ u.high then
      let v := u.extend b
      if v.owed = 0 then .char (Char.ofNat v.value) :: pieces bs else piecesAfter v bs
    else .stray u.bytes :: (match opening b with
      | .whole c => .char c :: pieces bs
      | .unfinished v => piecesAfter v bs
      | .invalid => .stray [b] :: pieces bs)

def pieces : Bytes → List Piece
  | [] => []
  | b :: bs => match opening b with
    | .whole c => .char c :: pieces bs
    | .unfinished u => piecesAfter u bs
    | .invalid => .stray [b] :: pieces bs
end

/-! ## Reading -/

def replacement : Char := '\ufffd'

def Piece.lossy : Piece → Char
  | .char c => c
  | .stray _ => replacement

def decodeLossy (bs : Bytes) : Text := (pieces bs).map Piece.lossy

def Piece.char? : Piece → Option Char
  | .char c => some c
  | .stray _ => none

def decodeStrict (bs : Bytes) : Option Text := (pieces bs).mapM Piece.char?

/-! ## Units that keep every byte

A `Glyph` is a character or one byte that belongs to no character.  Rules that look at a text look through
`CharLike.view`, which shows a kept byte as the replacement character: no rule treats that character in any
special way. -/

inductive Glyph where
  | char (c : Char)
  | raw (b : UInt8)
  deriving DecidableEq, Repr

class CharLike (α : Type) where
  view : α → Char
  ofChar : Char → α
  view_ofChar : ∀ c, view (ofChar c) = c

instance : CharLike Char := ⟨id, id, fun _ => rfl⟩

def Glyph.view : Glyph → Char
  | .char c => c
  | .raw _ => replacement

instance : CharLike Glyph := ⟨Glyph.view, .char, fun _ => rfl⟩

def Piece.glyphs : Piece → List Glyph
  | .char c => [.char c]
  | .stray bs => bs.map .raw

def decodeKeeping (bs : Bytes) : List Glyph := (pieces bs).flatMap Piece.glyphs

/-! ## Writing -/

def encodeChar (c : Char) : Bytes :=
  let n := c.toNat
  if n < 0x80 then [UInt8.ofNat n]
  else if n < 0x800 then [UInt8.ofNat (0xC0 + n / 64), UInt8.ofNat (0x80 + n % 64)]
  else if n < 0x10000 then
    [UInt8.ofNat (0xE0 + n / 4096), UInt8.ofNat (0x80 + n / 64 % 64), UInt8.ofNat (0x80 + n % 64)]
  else
    [UInt8.ofNat (0xF0 + n / 262144), UInt8.ofNat (0x80 + n / 4096 % 64), UInt8.ofNat (0x80 + n / 64 % 64),
      UInt8.ofNat (0x80 + n % 64)]

def encode (t : Text) : Bytes := t.flatMap encodeChar

def Glyph.encode : Glyph → Bytes
  | .char c => encodeChar c
  | .raw b => [b]

def encodeGlyphs (t : List Glyph) : Bytes := t.flatMap Glyph.encode

/-! ## Line terminators

A file opened as text has its carriage returns, alone or before a newline, read as newlines. -/

def unifyNewlines {α : Type} [CharLike α] : List α → List α
  | [] => []
  | [c] => if CharLike.view c = '\r' then [CharLike.ofChar '\n'] else [c]
  | c :: d :: rest =>
    if CharLike.view c = '\r' then
      if CharLike.view d = '\n' then d :: unifyNewlines rest else CharLike.ofChar '\n' :: unifyNewlines (d :: rest)
    else c :: unifyNewlines (d :: rest)

end EnvAudit
