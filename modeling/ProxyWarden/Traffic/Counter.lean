import ProxyWarden.Word

/-!
# Counters

The core counts traffic in 64-bit words. A counter is named for what it counts; totals that would
pass the largest word stay there.
-/
namespace ProxyWarden.Traffic

def maxWord : Nat := Word.largest64

/-- A sum that stays at the largest word. -/
def addClamped (a b : Nat) : Nat := min (a + b) maxWord

/-- A number as the core reports it. -/
structure Stat where
  name : String
  value : Int
deriving DecidableEq, Repr

structure Counter where
  name : String
  value : Nat
deriving DecidableEq, Repr

/-- A counter is never negative; a negative report counts as zero. -/
def Counter.ofStat (s : Stat) : Counter := ⟨s.name, s.value.toNat⟩

/-- Whose traffic a counter counts: that of a user, or of a tag in one direction. -/
inductive Kind where
  | user
  | inbound
  | outbound
deriving DecidableEq, Repr

def Kind.name : Kind → String
  | user => "user"
  | inbound => "inbound"
  | outbound => "outbound"

/-- The way of the traffic: a downlink is received, an uplink is sent. -/
inductive Way where
  | downlink
  | uplink
deriving DecidableEq, Repr

def Way.name : Way → String
  | downlink => "downlink"
  | uplink => "uplink"

/-- What a counter counts. -/
structure Subject where
  kind : Kind
  name : String
  way : Way
deriving DecidableEq, Repr

namespace Subject

def separator : List Char := ">>>".toList

/-- The tag of the program's own calls to the core, which is not counted. -/
def ownTag : String := "api"

/-- The name of the counter of a subject. -/
def counterName (s : Subject) : List Char :=
  s.kind.name.toList ++ separator ++ s.name.toList ++ separator ++ "traffic".toList ++ separator
    ++ s.way.name.toList

/-- The text after a word at the front. -/
def after? (w cs : List Char) : Option (List Char) :=
  if w.isPrefixOf cs then some (cs.drop w.length) else none

/-- Reads the way at the very end. -/
def way? (cs : List Char) : Option Way :=
  match after? (separator ++ "traffic".toList ++ separator) cs with
  | none => none
  | some r => [Way.downlink, Way.uplink].find? fun w => w.name.toList == r

/-- Reads a counter name of one kind. The name of the subject is not empty and has no `>`. -/
def ofKind? (kind : Kind) (cs : List Char) : Option Subject :=
  match after? (kind.name.toList ++ separator) cs with
  | none => none
  | some r =>
    let name := r.takeWhile fun c => c != '>'
    if name.isEmpty then none
    else (way? (r.dropWhile fun c => c != '>')).map fun w => ⟨kind, String.ofList name, w⟩

/-- The subject of a counter name, if the name has the form of one. -/
def ofName? (name : String) : Option Subject :=
  [Kind.user, Kind.inbound, Kind.outbound].findSome? fun k => ofKind? k name.toList

/-- Whether the subject's traffic is sampled. -/
def isSampled (s : Subject) : Bool :=
  match s.kind with
  | .user => true
  | _ => s.name != ownTag

end Subject

end ProxyWarden.Traffic
