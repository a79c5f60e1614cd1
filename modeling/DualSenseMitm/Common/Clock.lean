/-!
# The steady clock

Time points and durations of `std::chrono::steady_clock`, in nanoseconds.  A default-constructed
time point, which several members use for "not yet", is `0`.
-/

set_option autoImplicit false

namespace DualSenseMitm

/-- A time point or a duration, in nanoseconds. -/
abbrev Time := Int

/-- `std::chrono::milliseconds`. -/
def milliseconds (n : Int) : Time := n * 1000000

/-- `std::chrono::seconds`. -/
def seconds (n : Int) : Time := n * 1000000000

/-- `Clock::time_point{}`. -/
def noTime : Time := 0

end DualSenseMitm
