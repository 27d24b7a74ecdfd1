/-!
# SipHash-1-3

The keyed hash with one round per word and three final rounds, under the zero
key.  A byte string is read as little-endian 64-bit words; the last word holds
the bytes left over and, in its top byte, the length.
-/

namespace SeriesIndex.Hash.Sip

/-- The four words that are mixed. -/
structure State where
  v0 : UInt64
  v1 : UInt64
  v2 : UInt64
  v3 : UInt64

def rotateLeft (x count : UInt64) : UInt64 :=
  (x <<< count) ||| (x >>> (64 - count))

def round (s : State) : State :=
  let v0 := s.v0 + s.v1
  let v1 := rotateLeft s.v1 13 ^^^ v0
  let v0 := rotateLeft v0 32
  let v2 := s.v2 + s.v3
  let v3 := rotateLeft s.v3 16 ^^^ v2
  let v0 := v0 + v3
  let v3 := rotateLeft v3 21 ^^^ v0
  let v2 := v2 + v1
  let v1 := rotateLeft v1 17 ^^^ v2
  let v2 := rotateLeft v2 32
  ⟨v0, v1, v2, v3⟩

/-- The state under the zero key. -/
def start : State :=
  ⟨0x736f6d6570736575, 0x646f72616e646f6d, 0x6c7967656e657261,
    0x7465646279746573⟩

def absorb (s : State) (word : UInt64) : State :=
  let mixed := round { s with v3 := s.v3 ^^^ word }
  { mixed with v0 := mixed.v0 ^^^ word }

/-- At most eight bytes as a number, least significant byte first. -/
def littleEndian (bytes : List UInt8) : UInt64 :=
  bytes.foldr (fun byte value => (value <<< 8) ||| byte.toUInt64) 0

/-- Mixes all whole words in, then the rest under the length in the top byte. -/
def absorbAll (length : UInt64) (s : State) : List UInt8 → State
  | a :: b :: c :: d :: e :: f :: g :: h :: rest =>
    absorbAll length (absorb s (littleEndian [a, b, c, d, e, f, g, h])) rest
  | rest => absorb s (littleEndian rest ||| (length <<< 56))

def digest (bytes : List UInt8) : UInt64 :=
  let s := absorbAll bytes.length.toUInt64 start bytes
  let s := round (round (round { s with v2 := s.v2 ^^^ 0xff }))
  s.v0 ^^^ s.v1 ^^^ s.v2 ^^^ s.v3

end SeriesIndex.Hash.Sip
