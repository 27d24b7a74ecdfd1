/-!
# Events

What an index tells of its work besides its answers: a level, a message and
named values.  Events are computed from what went into an operation and what
came out of it, so that the operations themselves do not carry them.
-/

namespace SeriesIndex

/-- How much an event matters. -/
inductive Level where
  | trace
  | debug
  | info
  | warn
  deriving DecidableEq, Repr

def Level.text : Level → String
  | trace => "TRACE"
  | debug => "DEBUG"
  | info => "INFO"
  | warn => "WARN"

inductive EventValue where
  | number (value : Int)
  | text (value : String)
  deriving DecidableEq, Repr

structure Event where
  level : Level
  message : String
  fields : List (String × EventValue) := []
  deriving DecidableEq, Repr

end SeriesIndex
