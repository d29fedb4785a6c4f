/-!
# Durations and instants

Time is counted in whole nanoseconds. An instant is the time that has passed since the clock
started. The clock can name instants up to a fixed number of seconds only; an instant beyond it
is no deadline that a timer could wait for.
-/

namespace FloatingAddress

structure Duration where
  nanos : Nat
deriving DecidableEq, Repr, Inhabited

namespace Duration

/-- Nanoseconds of one second. -/
def perSecond : Nat := 1000000000

/-- Nanoseconds of one millisecond. -/
def perMilli : Nat := 1000000

def ofSeconds (n : Nat) : Duration := ⟨n * perSecond⟩

def ofMillis (n : Nat) : Duration := ⟨n * perMilli⟩

def seconds (d : Duration) : Nat := d.nanos / perSecond

/-- What is left beyond the whole seconds, in nanoseconds. -/
def subsecond (d : Duration) : Nat := d.nanos % perSecond

def millis (d : Duration) : Nat := d.nanos / perMilli

/-- How long the removal of stale series waits between two runs: half as long as the sweep, but
one second at least. -/
def cleanupPeriod (sweep : Duration) : Duration := ⟨max (sweep.nanos / 2) perSecond⟩

end Duration

/-- A point in time: what has passed since the clock started. -/
structure Instant where
  nanos : Nat
deriving DecidableEq, Repr, Inhabited

namespace Instant

def start : Instant := ⟨0⟩

def after (t : Instant) (d : Duration) : Instant := ⟨t.nanos + d.nanos⟩

def millis (t : Instant) : Nat := t.nanos / Duration.perMilli

/-- The first instant of whole milliseconds that is not before this one. Timers fire only at
such instants. -/
def ceilMilli (t : Instant) : Instant :=
  ⟨(t.nanos + (Duration.perMilli - 1)) / Duration.perMilli * Duration.perMilli⟩

/-- The clock counts seconds in a signed word of 64 bits. -/
def isRepresentable (t : Instant) : Bool := t.nanos / Duration.perSecond < 1 <<< 63

end Instant

end FloatingAddress
