/-!
# Call limits

A limiter admits a call if no call was admitted for one interval. A call that is refused leaves no
trace.
-/
namespace ProxyWarden

structure Limiter where
  interval : Nat
  lastAccepted : Option Nat
deriving DecidableEq, Repr

namespace Limiter

def start (interval : Nat) : Limiter := ⟨interval, none⟩

def admits (l : Limiter) (now : Nat) : Bool :=
  match l.lastAccepted with
  | none => true
  | some t => l.interval ≤ now - t

def call (l : Limiter) (now : Nat) : Limiter :=
  if l.admits now then { l with lastAccepted := some now } else l

end Limiter

end ProxyWarden
