import ShaderBindings.Text.Hex

/-!
# UTF-8

Reading a text from bytes. `Utf8.pieces` splits the bytes into characters and
maximal ill-formed pieces; strict reading fails at the first ill-formed piece,
lenient reading puts one U+FFFD in place of each.
-/

namespace ShaderBindings.Text.Utf8

/-- Why a piece is ill-formed. -/
inductive Fault
  | invalidStart
  | invalidContinuation
  | unexpectedEnd
  deriving DecidableEq, Repr

/-- The words for a fault. -/
def Fault.message : Fault → String
  | .invalidStart => "invalid start byte"
  | .invalidContinuation => "invalid continuation byte"
  | .unexpectedEnd => "unexpected end of data"

/-- A character together with the number of its bytes, or the bytes of an
ill-formed piece. -/
inductive Piece
  | char (c : Char) (size : Nat)
  | bad (bytes : List UInt8) (fault : Fault)
  deriving DecidableEq, Repr

/-- A character of which some bytes have been read. -/
structure Started where
  /-- The bytes read so far. -/
  bytes : List UInt8
  /-- The bits of the code point read so far. -/
  value : Nat
  /-- How many bytes follow the next one. -/
  after : Nat
  /-- The next byte is not below this. -/
  low : Nat
  /-- The next byte is not above this. -/
  high : Nat
  deriving DecidableEq, Repr

/-- What a byte at the start of a character begins: nothing open and the piece
that it is by itself, or a longer character. The bounds on the second byte
exclude overlong forms, surrogates and code points above U+10FFFF. -/
def begin (b : UInt8) : Option Started × List Piece :=
  let n := b.toNat
  let open_ (bits after low high : Nat) : Option Started × List Piece :=
    (some ⟨[b], bits, after, low, high⟩, [])
  if n < 0x80 then (none, [.char (.ofNat n) 1])
  else if 0xc2 ≤ n && n < 0xe0 then open_ (n - 0xc0) 0 0x80 0xbf
  else if n == 0xe0 then open_ 0 1 0xa0 0xbf
  else if n == 0xed then open_ 0xd 1 0x80 0x9f
  else if 0xe0 < n && n < 0xf0 then open_ (n - 0xe0) 1 0x80 0xbf
  else if n == 0xf0 then open_ 0 2 0x90 0xbf
  else if 0xf0 < n && n < 0xf4 then open_ (n - 0xf0) 2 0x80 0xbf
  else if n == 0xf4 then open_ 4 2 0x80 0x8f
  else (none, [.bad [b] .invalidStart])

/-- The pieces of the bytes that follow the started character, if there is
one. A byte that does not continue it closes it as ill-formed and begins
anew. -/
def piecesFrom : Option Started → List UInt8 → List Piece
  | none, [] => []
  | some s, [] => [.bad s.bytes .unexpectedEnd]
  | none, b :: rest => (begin b).2 ++ piecesFrom (begin b).1 rest
  | some s, b :: rest =>
    if s.low ≤ b.toNat && b.toNat ≤ s.high then
      let value := 64 * s.value + (b.toNat - 0x80)
      match s.after with
      | 0 => .char (.ofNat value) (s.bytes.length + 1) :: piecesFrom none rest
      | after + 1 =>
        piecesFrom (some ⟨s.bytes ++ [b], value, after, 0x80, 0xbf⟩) rest
    else
      .bad s.bytes .invalidContinuation ::
        ((begin b).2 ++ piecesFrom (begin b).1 rest)

/-- The bytes as characters and ill-formed pieces, in order. -/
def pieces (bytes : List UInt8) : List Piece :=
  piecesFrom none bytes

/-- An ill-formed piece and where it starts. -/
structure DecodeError where
  bytes : List UInt8
  position : Nat
  fault : Fault
  deriving DecidableEq, Repr

/-- One offending byte is shown, several are given by their positions. -/
def DecodeError.message (e : DecodeError) : String :=
  match e.bytes with
  | [b] =>
    s!"'utf-8' codec can't decode byte 0x{hexPadded 2 b.toNat} in position " ++
      s!"{e.position}: {e.fault.message}"
  | bytes =>
    s!"'utf-8' codec can't decode bytes in position {e.position}-" ++
      s!"{e.position + bytes.length - 1}: {e.fault.message}"

/-- The characters of the pieces, the first of which starts at `position`. -/
def charsOf (position : Nat) : List Piece → Except DecodeError (List Char)
  | [] => .ok []
  | .char c size :: rest => (charsOf (position + size) rest).map (c :: ·)
  | .bad bytes fault :: _ => .error ⟨bytes, position, fault⟩

/-- Strict reading. -/
def decode (bytes : List UInt8) : Except DecodeError String :=
  (charsOf 0 (pieces bytes)).map .ofList

/-- The character that stands for a piece in a lenient reading. -/
def Piece.shown : Piece → Char
  | .char c _ => c
  | .bad _ _ => '\ufffd'

/-- Lenient reading. -/
def decodeReplacing (bytes : List UInt8) : String :=
  .ofList ((pieces bytes).map Piece.shown)

/-- The bytes of a text. -/
def encode (s : String) : List UInt8 :=
  s.toList.flatMap String.utf8EncodeChar

end ShaderBindings.Text.Utf8
