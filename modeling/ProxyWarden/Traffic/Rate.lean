import ProxyWarden.Traffic.Counter

/-!
# Rates

A meter holds the total of one direction, its rate over the time since the last increment, and the
moment of that increment. Moments are nanoseconds; a moment before the last one counts as no time
at all, and over no time the rate is the increment itself.
-/
namespace ProxyWarden.Traffic

def nanosPerSecond : Nat := 1000000000

/-- A time in seconds as a binary floating-point number: the whole seconds and the fraction are
rounded on their own. -/
def seconds (elapsed : Nat) : Float :=
  (elapsed / nanosPerSecond).toUInt64.toFloat
    + (elapsed % nanosPerSecond).toUInt64.toFloat / nanosPerSecond.toUInt64.toFloat

/-- An amount per second, rounded down. -/
def perSecond (v elapsed : Nat) : Nat :=
  let s := seconds elapsed
  if s > 0 then (v.toUInt64.toFloat / s).toUInt64.toNat else v

structure Meter where
  total : Nat
  rate : Nat
  last : Nat
deriving DecidableEq, Repr

namespace Meter

def startingAt (moment : Nat) : Meter := ⟨0, 0, moment⟩

/-- Counts `v` at a moment. -/
def add (m : Meter) (v now : Nat) : Meter :=
  { total := addClamped m.total v, rate := perSecond v (now - m.last), last := now }

end Meter

/-- The received and the sent traffic of one subject. -/
structure RateCounter where
  rx : Meter
  tx : Meter
deriving DecidableEq, Repr

namespace RateCounter

def startingAt (moment : Nat) : RateCounter := ⟨.startingAt moment, .startingAt moment⟩

def addReceived (c : RateCounter) (v now : Nat) : RateCounter := { c with rx := c.rx.add v now }

def addSent (c : RateCounter) (v now : Nat) : RateCounter := { c with tx := c.tx.add v now }

/-- Clears totals and rates and measures from now on. -/
def reset (_ : RateCounter) (now : Nat) : RateCounter := startingAt now

end RateCounter

end ProxyWarden.Traffic
