/-!
# FNV-1a over words

The 64-bit FNV-1a hash, fed with words: each is mixed in by an exclusive or, and
the result is multiplied by a prime.
-/

namespace SeriesIndex.Hash.Fnv

def offset : UInt64 := 14695981039346656037

def prime : UInt64 := 1099511628211

def absorb (hash word : UInt64) : UInt64 :=
  (hash ^^^ word) * prime

def digest (words : List UInt64) : UInt64 :=
  words.foldl absorb offset

end SeriesIndex.Hash.Fnv
