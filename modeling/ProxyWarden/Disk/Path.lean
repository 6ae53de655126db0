import ProxyWarden.Text.Utf8

/-!
# Paths

A path is a list of bytes, its names separated by slashes. Two paths are the same when their
components are: repeated and trailing slashes do not count, nor does a dot, unless it is the first
component. `Path.location` goes further and follows the components from a directory.
-/
namespace ProxyWarden

abbrev Path := Bytes

inductive Component where
  | root
  | here
  | up
  | name (n : Bytes)
deriving DecidableEq, Repr

namespace Path

def slash : UInt8 := '/'.toUInt8

def dot : Bytes := ['.'.toUInt8]

def dotDot : Bytes := ['.'.toUInt8, '.'.toUInt8]

def isAbsolute (p : Path) : Bool := p.head? == some slash

/-- One more byte in front of the names between slashes. -/
def consName (b : UInt8) : List Bytes → List Bytes
  | [] => if b = slash then [[], []] else [[b]]
  | n :: ns => if b = slash then [] :: n :: ns else (b :: n) :: ns

/-- The texts between slashes, empty ones included. -/
def names (p : Path) : List Bytes := p.foldr consName [[]]

def component? (n : Bytes) : Option Component :=
  if n = [] ∨ n = dot then none else if n = dotDot then some .up else some (.name n)

def components (p : Path) : List Component :=
  let ns := p.names
  let front := if p.isAbsolute then [.root] else if ns.head? = some dot then [.here] else []
  front ++ ns.filterMap component?

/-- Whether two paths have the same components. -/
def same (p q : Path) : Bool := p.components == q.components

/-- The last component, if it is a name. -/
def fileName? (p : Path) : Option Bytes :=
  match p.components.getLast? with
  | some (.name n) => some n
  | _ => none

/-- The names after one more component, in a tree without links. -/
def follow (names : List Bytes) : Component → List Bytes
  | .root => []
  | .here => names
  | .up => names.dropLast
  | .name n => names ++ [n]

/-- The names from the root down to what a path leads to, seen from a directory. -/
def location (start : List Bytes) (p : Path) : List Bytes := p.components.foldl follow start

/-- The path of `q` seen from the directory `p`. -/
def join (p q : Path) : Path :=
  if q.isAbsolute then q
  else if p = [] || p.getLast? == some slash then p ++ q
  else p ++ slash :: q

/-- The path as it is shown in messages. -/
def text (p : Path) : String := Utf8.lossy p

end Path

end ProxyWarden
