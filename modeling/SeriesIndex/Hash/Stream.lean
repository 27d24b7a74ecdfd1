/-!
# Byte streams of hashed values

What is hashed is written as a stream of bytes.  A text is closed by a byte that
occurs in no text, so that texts one after another cannot run into each other; a
number has a fixed width.
-/

namespace SeriesIndex.Hash

/-- Closes a text; no text holds this byte. -/
def endMark : UInt8 := 0xff

/-- A text as bytes that are closed by the end mark. -/
def textBytes (text : String) : List UInt8 :=
  text.toUTF8.toList ++ [endMark]

/-- A number as eight bytes, least significant byte first. -/
def wordBytes (word : UInt64) : List UInt8 :=
  (List.range 8).map fun i => (word >>> (8 * i).toUInt64).toUInt8

end SeriesIndex.Hash
