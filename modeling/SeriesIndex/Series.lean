import SeriesIndex.Label
import SeriesIndex.Time

/-!
# Series

A series is a label set under a number of its own, with the interval of
timestamps at which it was seen.  Numbers are given out in ascending order from
one; zero names no series, and the greatest number is never given out, so that a
next number always exists.
-/

namespace SeriesIndex

abbrev Tsid := UInt64

namespace Tsid

/-- The number that never names a series. -/
def reserved : Tsid := 0

def first : Tsid := 1

/-- The greatest number; it stands for the end of the numbers and is never given
out. -/
def last : Tsid := 0xffffffffffffffff

/-- The number after `tsid`, unless there is none. -/
def next? (tsid : Tsid) : Option Tsid :=
  if tsid = last then none else some (tsid + 1)

end Tsid

/-- A series as it is kept, and as it is handed out for safe keeping. -/
structure Series where
  tsid : Tsid
  labels : LabelSet
  activity : Activity
  deriving DecidableEq

namespace Series

def widen (series : Series) (timestamp : Timestamp) : Series :=
  { series with activity := series.activity.widen timestamp }

end Series

end SeriesIndex
