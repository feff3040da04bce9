/-! # Durations

Times on a host are whole numbers of nanoseconds. -/

namespace Errand.Host

/-- The nanoseconds of a second. -/
def second : Nat := 1000000000

/-- The nanoseconds of a number of seconds; a negative number is none. -/
def nanoseconds (x : Float) : Nat := (x * 1e9).toUInt64.toNat

/-- A number of nanoseconds in seconds. -/
def inSeconds (time : Nat) : Float := time.toFloat / 1e9

end Errand.Host
