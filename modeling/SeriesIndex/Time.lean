/-!
# Windows and activity intervals

A window is an inclusive range of timestamps that a query asks about.  The
activity interval of a series is the smallest range that covers the timestamps
at which the series was registered; it only ever widens.
-/

namespace SeriesIndex

abbrev Timestamp := Int64

/-- An inclusive range of timestamps.  One whose start lies after its end can be
written down, and contains nothing. -/
structure Window where
  start : Timestamp
  stop : Timestamp
  deriving DecidableEq, Repr

namespace Window

def all : Window := ⟨Int64.minValue, Int64.maxValue⟩

/-- The window between two bounds, unless it would be inverted. -/
def ofBounds? (start stop : Timestamp) : Option Window :=
  if stop < start then none else some ⟨start, stop⟩

def contains (window : Window) (timestamp : Timestamp) : Bool :=
  window.start ≤ timestamp && timestamp ≤ window.stop

/-- The distance between the bounds, if it is a 64-bit number. -/
def duration? (window : Window) : Option Int64 :=
  let distance := window.stop.toInt - window.start.toInt
  if Int64.minValue.toInt ≤ distance ∧ distance ≤ Int64.maxValue.toInt then
    some (Int64.ofInt distance)
  else none

def text (window : Window) : String :=
  s!"[{window.start.toInt}, {window.stop.toInt}]"

end Window

/-- The range of timestamps at which a series was seen. -/
structure Activity where
  earliest : Timestamp
  latest : Timestamp
  deriving DecidableEq, Repr

namespace Activity

def single (timestamp : Timestamp) : Activity := ⟨timestamp, timestamp⟩

def widenDown (activity : Activity) (timestamp : Timestamp) : Activity :=
  { activity with earliest := min activity.earliest timestamp }

def widenUp (activity : Activity) (timestamp : Timestamp) : Activity :=
  { activity with latest := max activity.latest timestamp }

/-- The smallest interval that covers `activity` and `timestamp`. -/
def widen (activity : Activity) (timestamp : Timestamp) : Activity :=
  (activity.widenDown timestamp).widenUp timestamp

/-- Whether an interval reaches into a window: it starts before the window's end
and ends after its start. -/
def overlaps (activity : Activity) (window : Window) : Bool :=
  activity.earliest ≤ window.stop && window.start ≤ activity.latest

def text (activity : Activity) : String :=
  s!"[{activity.earliest.toInt}, {activity.latest.toInt}]"

end Activity

end SeriesIndex
