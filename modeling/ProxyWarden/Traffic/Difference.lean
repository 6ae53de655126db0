import ProxyWarden.Traffic.Rate
import ProxyWarden.Traffic.Sample

/-!
# Differences of samples

Two samples and their moments give a snapshot for everything that both of them hold: what was
received and sent in between, and how fast. A volume that went down means that the core started
again in between; it counts as no traffic.
-/
namespace ProxyWarden.Traffic

structure Snapshot where
  kind : Kind
  name : String
  io : RateCounter
deriving DecidableEq, Repr

/-- The snapshot of one entry, from its volumes before and after. -/
def Snapshot.between (kind : Kind) (name : String) (prev next : Volume) (start stop : Nat) : Snapshot :=
  let io := (RateCounter.startingAt start).addReceived (next.received - prev.received) stop
  ⟨kind, name, io.addSent (next.sent - prev.sent) stop⟩

namespace Sample

/-- The snapshots of one kind in ascending order of the names. -/
def differenceOf (kind : Kind) (prev next : Sample) (start stop : Nat) : List Snapshot :=
  ((next.ofKind kind).meet (prev.ofKind kind)).entries.map fun e =>
    .between kind e.1 e.2.2 e.2.1 start stop

/-- The snapshots of users, then of inbound and of outbound tags. -/
def difference (prev next : Sample) (start stop : Nat) : List Snapshot :=
  [Kind.user, Kind.inbound, Kind.outbound].flatMap fun k => differenceOf k prev next start stop

end Sample

end ProxyWarden.Traffic
