import ProxyWarden.NameMap
import ProxyWarden.Traffic.Counter

/-!
# Traffic samples

A sample adds up the counters of every user and of every tag. The same name may be that of a user,
an inbound tag and an outbound tag at once; each is counted for itself.
-/
namespace ProxyWarden.Traffic

structure Volume where
  sent : Nat
  received : Nat
deriving DecidableEq, Repr

namespace Volume

def zero : Volume := ⟨0, 0⟩

def add (v : Volume) (way : Way) (n : Nat) : Volume :=
  match way with
  | .downlink => { v with received := addClamped v.received n }
  | .uplink => { v with sent := addClamped v.sent n }

end Volume

structure Sample where
  users : NameMap Volume
  inbounds : NameMap Volume
  outbounds : NameMap Volume
deriving DecidableEq

namespace Sample

def empty : Sample := ⟨.empty, .empty, .empty⟩

/-- The entries of one kind. -/
def ofKind (s : Sample) : Kind → NameMap Volume
  | .user => s.users
  | .inbound => s.inbounds
  | .outbound => s.outbounds

/-- Changes the entries of one kind. -/
def modify (s : Sample) (kind : Kind) (f : NameMap Volume → NameMap Volume) : Sample :=
  match kind with
  | .user => { s with users := f s.users }
  | .inbound => { s with inbounds := f s.inbounds }
  | .outbound => { s with outbounds := f s.outbounds }

/-- Adds a value to the volume of a subject. -/
def addTo (s : Sample) (subject : Subject) (n : Nat) : Sample :=
  s.modify subject.kind fun m =>
    m.insertWith subject.name fun old => (old.getD .zero).add subject.way n

/-- Adds a counter; one that counts something else changes nothing. -/
def add (s : Sample) (c : Counter) : Sample :=
  match Subject.ofName? c.name with
  | none => s
  | some subject => if subject.isSampled then s.addTo subject c.value else s

def ofCounters (cs : List Counter) : Sample := cs.foldl add empty

end Sample

end ProxyWarden.Traffic
