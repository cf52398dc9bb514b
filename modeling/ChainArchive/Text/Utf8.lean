import ChainArchive.Bytes

namespace ChainArchive.Text

/-! UTF-8 that may be ill-formed, taken apart into characters and what is none. -/

inductive PieceKind where
  | character
  | broken
  | cut
  deriving DecidableEq, Repr

/-- The next bytes of a text: one character, the longest beginning of one that other
bytes follow, or such a beginning at the end of the text. -/
structure Piece where
  kind : PieceKind
  bytes : Bytes

structure Continuation where
  low : UInt8
  high : UInt8
  count : Nat

def continuation? (lead : UInt8) : Option Continuation :=
  if lead < 0x80 then some ⟨0x80, 0xBF, 0⟩
  else if lead < 0xC2 then none
  else if lead < 0xE0 then some ⟨0x80, 0xBF, 1⟩
  else if lead = 0xE0 then some ⟨0xA0, 0xBF, 2⟩
  else if lead = 0xED then some ⟨0x80, 0x9F, 2⟩
  else if lead < 0xF0 then some ⟨0x80, 0xBF, 2⟩
  else if lead = 0xF0 then some ⟨0x90, 0xBF, 3⟩
  else if lead < 0xF4 then some ⟨0x80, 0xBF, 3⟩
  else if lead = 0xF4 then some ⟨0x80, 0x8F, 3⟩
  else none

def follow (low high : UInt8) : Nat → Bytes → Nat × PieceKind
  | 0, _ => (0, .character)
  | _ + 1, [] => (0, .cut)
  | count + 1, b :: rest =>
      if low ≤ b && b ≤ high then
        let further := follow 0x80 0xBF count rest
        (further.1 + 1, further.2)
      else (0, .broken)

def nextPiece (lead : UInt8) (rest : Bytes) : Piece :=
  match continuation? lead with
  | none => ⟨.broken, [lead]⟩
  | some c =>
      let further := follow c.low c.high c.count rest
      ⟨further.2, lead :: rest.take further.1⟩

def splitPieces : Nat → Bytes → List Piece
  | 0, _ => []
  | _ + 1, [] => []
  | fuel + 1, lead :: rest =>
      let piece := nextPiece lead rest
      piece :: splitPieces fuel (rest.drop (piece.bytes.length - 1))

def pieces (text : Bytes) : List Piece := splitPieces text.length text

def repaired (text : Bytes) : String :=
  String.join ((pieces text).map fun piece =>
    match piece.kind with
    | .character => piece.bytes.toString?.getD ""
    | _ => "\uFFFD")

/-! Where a text is no UTF-8. -/

structure EncodingFault where
  index : Nat
  piece : Piece

def encodingFaultFrom (index : Nat) : List Piece → Option EncodingFault
  | [] => none
  | piece :: rest =>
      if piece.kind = .character then
        encodingFaultFrom (index + piece.bytes.length) rest
      else some ⟨index, piece⟩

def encodingFault (text : Bytes) : EncodingFault :=
  (encodingFaultFrom 0 (pieces text)).getD ⟨text.length, ⟨.cut, []⟩⟩

def EncodingFault.message (fault : EncodingFault) : String :=
  if fault.piece.kind = .cut then
    "incomplete utf-8 byte sequence from index " ++ toString fault.index
  else
    "invalid utf-8 sequence of " ++ toString fault.piece.bytes.length ++
      " bytes from index " ++ toString fault.index

end ChainArchive.Text
