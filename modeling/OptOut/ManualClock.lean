import OptOut.Backend

/-!
# A clock set by hand

Every reading of the clock is known in advance; setting it decides all readings from now on.
-/

namespace OptOut

structure ManualClock where
    /-- What the reading of each number shows. -/
    shows : Nat → Millis
    /-- The number of the next reading. -/
    next : Nat := 0

namespace ManualClock

def standing (moment : Millis) : ManualClock :=
  { shows := fun _ => moment }

/-- What the next reading will show. -/
def current (clock : ManualClock) : Millis :=
  clock.shows clock.next

def set (clock : ManualClock) (moment : Millis) : ManualClock :=
  { clock with shows := fun _ => moment }

/-- Moves the clock on; past the last moment it starts over. -/
def advance (clock : ManualClock) (span : Millis) : ManualClock :=
  clock.set (clock.current + span)

instance : Clock ManualClock where
  now clock := (clock.current, { clock with next := clock.next + 1 })

end ManualClock

end OptOut
