import SeriesIndex.Hash.Slots
import SeriesIndex.Pattern.Encoding
import SeriesIndex.Pattern.Shape

/-!
# The space that automata take

A shape is turned into two automata over bytes: one that reads forwards and
marks where groups start and end, and one that reads backwards and knows no
groups.  `Shape.fits` says whether each of them stays within a number of bytes.
No automaton is built for it: only what it takes is added up, and that ends as
soon as the limit is passed.

States are numbered as they are made.  The numbers matter for sets beyond ASCII,
where states that do the same are shared as far as a bounded memory finds them
again.
-/

namespace SeriesIndex.Pattern

/-- What is made of an automaton so far: how many states, and the bytes of their
links, which a state with several of them keeps outside itself.  `exit` tells
what it takes to link the piece that was made last to the next one. -/
structure Footprint where
  states : Nat
  links : Nat
  exit : Nat
  deriving DecidableEq, Repr

namespace Footprint

def stateBytes : Nat := 32

def rangeBytes : Nat := 8

def branchBytes : Nat := 4

def start : Footprint := ⟨0, 0, 0⟩

def bytes (f : Footprint) : Nat :=
  stateBytes * f.states + f.links

/-- Makes states with links, unless they exceed the limit. -/
def make (limit states links : Nat) (f : Footprint) : Option Footprint :=
  let f : Footprint := ⟨f.states + states, f.links + links, 0⟩
  if f.bytes ≤ limit then some f else none

def join (limit : Nat) (f : Footprint) : Option Footprint :=
  f.make limit 0 f.exit

/-- From here on the last state made is one that branches. -/
def branching (f : Footprint) : Footprint :=
  { f with exit := branchBytes }

def choose (limit ranges : Nat) (f : Footprint) : Option Footprint :=
  f.make limit 1 (rangeBytes * ranges)

def branch (limit targets : Nat) (f : Footprint) : Option Footprint :=
  f.make limit 1 (branchBytes * targets)

end Footprint

/-- A footprint while a set beyond ASCII is turned into states, and the states
of the set that can be used again. -/
structure Sharing where
  made : Footprint
  known : Hash.Slots

namespace Sharing

def stateSlots : Nat := 10000

def linkSlots : Nat := 1000

/-- Makes a state, or finds it by its key; the result has its number. -/
def state (limit : Nat) (key : List UInt64) (ranges : Nat) (s : Sharing) :
    Option (Sharing × Nat) :=
  match s.known.find? key with
  | some number => some (s, number)
  | none => do
    let number := s.made.states
    return (⟨← s.made.make limit 1 (Footprint.rangeBytes * ranges),
      s.known.put key number⟩, number)

/-- The words by which links are found again. -/
def linkKey (range : ByteRange) (target : Nat) : List UInt64 :=
  [range.1.toUInt64, range.2.toUInt64, target.toUInt64]

/-- Makes the state that leads through any of the byte ranges to `target`, where
encodings that start alike take the same way.  There are at most `length` bytes
in each. -/
def forward (limit target : Nat) :
    Nat → List (List ByteRange) → Sharing → Option (Sharing × Nat)
  | 0, _, s => some (s, target)
  | length + 1, encodings, s =>
    if encodings.all List.isEmpty then some (s, target)
    else do
      let groups := encodings.splitBy fun a b => a.head? == b.head?
      let (s, links) ← groups.foldlM (fun (s, links) group => do
        match group.head?.bind List.head? with
        | some range =>
          let (s, next) ← forward limit target length (group.map List.tail) s
          return (s, linkKey range next :: links)
        | none => return (s, links)) (s, [])
      s.state limit links.reverse.flatten links.length

/-- Makes the states that lead from the end of an encoding back to `target`. -/
def backward (limit : Nat) :
    List ByteRange → Nat → Sharing → Option (Sharing × Nat)
  | [], target, s => some (s, target)
  | range :: rest, target, s => do
    let key := [target.toUInt64, range.1.toUInt64, range.2.toUInt64]
    let (s, target) ← s.state limit key 0
    backward limit rest target s

end Sharing

inductive Direction where
  | forwards
  | backwards
  deriving DecidableEq, Repr

namespace Footprint

/-- A set.  ASCII takes one state with a link for every range. -/
def set (limit : Nat) (direction : Direction) (ranges : List (Nat × Nat))
    (f : Footprint) : Option Footprint :=
  if ranges.all fun (_, high) => high < 0x80 then do
    (← f.make limit 1 0).choose limit ranges.length
  else
    let encodings := ranges.flatMap fun (low, high) => encodings low high
    match direction with
    | .forwards => do
      let target := f.states
      let s : Sharing := ⟨← f.make limit 1 0, .empty Sharing.stateSlots⟩
      let (s, _) ← Sharing.forward limit target 4 encodings s
      return s.made
    | .backwards => do
      let target := f.states + 1
      let s : Sharing := ⟨← f.make limit 2 0, .empty Sharing.linkSlots⟩
      let s ← encodings.foldlM (fun s encoding => do
        let (s, _) ← s.backward limit encoding target
        return { s with made := ← s.made.make limit 0 branchBytes }) s
      return s.made

def runs : List (List UInt8) → List (List (List UInt8))
  | [] => [[]]
  | [] :: rest => [] :: runs rest
  | word :: rest =>
    match runs rest with
    | run :: others => (word :: run) :: others
    | [] => [[word]]

/-- Several empty words in front are as good as one. -/
def trim : List (List UInt8) → List (List UInt8)
  | [] :: rest => [] :: rest.dropWhile List.isEmpty
  | words => words

/-- The states for the branches of a choice that are all literals: words that
start alike take the same way, as long as no word that ends there stands between
them.  Every place where ways part is a branching state over states that choose
by the next byte.  No word is longer than `length`. -/
def words (limit : Nat) : Nat → List (List UInt8) → Footprint → Option Footprint
  | 0, _, f => some f
  | length + 1, ws, f =>
    if ws.all List.isEmpty then some f
    else do
      let runs := runs (trim ws)
      let f ← runs.foldlM (fun f run => do
        let firsts := (run.filterMap List.head?).eraseDups
        let f ← firsts.foldlM (fun f first =>
          words limit length
            (run.filterMap fun word =>
              if word.head? = some first then some word.tail else none)
            f) f
        match firsts.length with
        | 0 => some f
        | 1 => f.make limit 1 0
        | count => f.choose limit count) f
      f.branch limit ((runs.filter (!·.isEmpty)).length + (runs.length - 1))

def literalBytes (direction : Direction) (text : List Char) : List UInt8 :=
  let bytes := text.flatMap String.utf8EncodeChar
  match direction with
  | .forwards => bytes
  | .backwards => bytes.reverse

def text? : Shape → Option (List Char)
  | .literal text => some text
  | _ => none

def copies (limit : Nat) (piece : Footprint → Option Footprint) :
    Nat → Footprint → Option Footprint
  | 0, f => f.make limit 1 0
  | 1, f => piece f
  | count + 2, f => do copies limit piece (count + 1) (← (← piece f).join limit)

/-- At most so many copies of a piece, each behind a state that branches around
the rest. -/
def upTo (limit : Nat) (piece : Footprint → Option Footprint) :
    Nat → Footprint → Option Footprint
  | 0, f => f.join limit
  | count + 1, f => do
    upTo limit piece count (← piece (← (← f.join limit).branch limit 2))

/-- A piece repeated.  Counted copies are made one by one, and only the last of
them is repeated without end.  What can be empty is kept from going around
without reading. -/
def repetition (limit : Nat) (least : Nat) (most : Option Nat) (nonempty : Bool)
    (piece : Footprint → Option Footprint) (f : Footprint) : Option Footprint :=
  match least, most with
  | 0, some 1 => do (← (← piece (← f.branch limit 2)).join limit).make limit 1 0
  | 0, none =>
    if nonempty then do
      return (← (← piece (← f.branch limit 1)).join limit).branching
    else do
      let f ← (← piece f).join limit
      (← (← f.branch limit 2).branch limit 2).make limit 1 0
  | 1, none => do
    return (← (← (← piece f).join limit).branch limit 1).branching
  | least, none => do
    let f ← (← copies limit piece (least - 1) f).join limit
    return (← (← (← piece f).join limit).branch limit 1).branching
  | least, some most => do
    let f ← copies limit piece least f
    if least = most then return f
    else
      let exit := f.exit
      upTo limit piece (most - least) { (← f.make limit 1 0) with exit := exit }

mutual

def shape (limit : Nat) (direction : Direction) :
    Shape → Footprint → Option Footprint
  | .empty, f => f.make limit 1 0
  | .literal text, f => f.make limit (literalBytes direction text).length 0
  | .set _ ranges, f => f.set limit direction ranges
  | .look _, f => f.make limit 1 0
  | .repetition least most _ body, f =>
    repetition limit least most (body.least?.any (0 < ·))
      (shape limit direction body) f
  | .group body, f =>
    match direction with
    | .forwards => do
      let f ← shape limit direction body (← f.make limit 1 0)
      (← f.join limit).make limit 1 0
    | .backwards => shape limit direction body f
  | .sequence parts, f => sequence limit direction parts f
  | .choice branches, f =>
    match branches.mapM text? with
    | some texts =>
      let ws := texts.map (literalBytes direction)
      do
        words limit ((ws.map List.length).foldl max 0 + 1) ws
          (← f.make limit 1 0)
    | none => choice limit direction 0 branches f

def sequence (limit : Nat) (direction : Direction) :
    List Shape → Footprint → Option Footprint
  | [], f => some f
  | [part], f => shape limit direction part f
  | part :: next :: rest, f =>
    match direction with
    | .forwards => do
      let f ← (← shape limit direction part f).join limit
      sequence limit direction (next :: rest) f
    | .backwards => do
      let f ← (← sequence limit direction (next :: rest) f).join limit
      shape limit direction part f

/-- The states of the branches of a choice.  The state that branches and the one
in which the branches meet again are made behind the second branch. -/
def choice (limit : Nat) (direction : Direction) (position : Nat) :
    List Shape → Footprint → Option Footprint
  | [], f => some f
  | branch :: rest, f => do
    let f ← (← shape limit direction branch f).join limit
    let f ← f.make limit (if position = 1 then 2 else 0) branchBytes
    choice limit direction (position + 1) rest f

end

/-- The states before those of the shape.  A match that can start anywhere needs
a loop that skips what is before it. -/
def front (limit : Nat) (anchored : Bool) : Option Footprint :=
  if anchored then start.make limit 1 0
  else start.make limit 3 (rangeBytes + 2 * branchBytes)

end Footprint

namespace Shape

/-- Whether both automata for a shape stay within a limit.  The whole match is a
group of its own, and one more state says that it is found. -/
def fits (limit : Nat) (shape : Shape) : Bool :=
  let forwards := do
    let f ← Footprint.front limit (shape.startsWith .textStart)
    Footprint.shape limit .forwards (.group shape) f
  let backwards := do
    let f ← Footprint.front limit (shape.endsWith .textEnd)
    (← Footprint.shape limit .backwards shape f).join limit
  (forwards.bind (·.make limit 1 0)).isSome &&
    (backwards.bind (·.make limit 1 0)).isSome

end Shape

end SeriesIndex.Pattern
