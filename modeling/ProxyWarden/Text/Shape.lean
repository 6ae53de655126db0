/-!
# Shapes of text

A shape is a list of parts, each a single character of a class or a run of them, perhaps empty. A
text fits a shape when some division of one of its beginnings gives every part its piece. Among
the divisions the preferred one makes the first run as long as possible, then the second, and so
on.

Whether a text fits is decided for all its suffixes at once, from the right: `annotate` stores after
each character which tails of the shape the remaining text fits, so that `divideOnto` can walk
forward without ever going back on a choice.
-/
namespace ProxyWarden.Text

inductive Part where
  /-- One character of the class. -/
  | one (p : Char → Bool)
  /-- A run of characters of the class, as long as possible. -/
  | many (p : Char → Bool)

abbrev Shape := List Part

namespace Shape

def word (w : String) : Shape := w.toList.map fun c => .one (· == c)

/-- A run that is not empty. -/
def run (p : Char → Bool) : Shape := [.one p, .many p]

/-- Whether some beginning of the text can be divided into pieces of the shape. -/
def fits : Shape → List Char → Bool
  | [], _ => true
  | .one _ :: _, [] => false
  | .one p :: s, c :: cs => p c && fits s cs
  | .many _ :: s, [] => fits s []
  | .many p :: s, c :: cs => fits s (c :: cs) || (p c && fits (.many p :: s) cs)

/-- For a text and every tail of a shape, the longest first, whether the text fits it. -/
abbrev Row := List Bool

def Row.first (r : Row) : Bool := r.headD false

/-- The row of the empty text. -/
def endRow : Shape → Row
  | [] => [true]
  | .one _ :: s => false :: endRow s
  | .many _ :: s => let below := endRow s; Row.first below :: below

/-- The row of `c :: cs`, given the row of `cs`. -/
def stepRow (c : Char) : Shape → Row → Row
  | [], _ => [true]
  | .one p :: s, after =>
    let below := stepRow c s after.tail
    (p c && Row.first after.tail) :: below
  | .many p :: s, after =>
    let below := stepRow c s after.tail
    (Row.first below || (p c && Row.first after)) :: below

/-- A text whose every character carries the row of what follows it. -/
abbrev Annotated := List (Char × Row)

/-- The row of the whole text, and the text with the rows of its suffixes. -/
def annotate (s : Shape) (cs : List Char) : Row × Annotated :=
  cs.foldr (fun c r => (stepRow c s r.1, (c, r.1) :: r.2)) (endRow s, [])

/-- The longest run of the class after which the tail of the shape in column `k` still fits. -/
def takeRun (p : Char → Bool) (k : Nat) (piece : List Char) : Annotated → List Char × Annotated
  | [] => (piece.reverse, [])
  | (c, after) :: t =>
    if p c && Row.first (after.drop k) then takeRun p k (c :: piece) t
    else (piece.reverse, (c, after) :: t)

/-- The pieces of the preferred division, onto `done` (last first), and the rest of the text;
`k` is the column of the remaining shape. -/
def divideOnto (done : List (List Char)) : Shape → Nat → Annotated → List (List Char) × Annotated
  | [], _, t => (done.reverse, t)
  | .one _ :: s, k, [] => divideOnto ([] :: done) s (k + 1) []
  | .one _ :: s, k, (c, _) :: t => divideOnto ([c] :: done) s (k + 1) t
  | .many p :: s, k, t =>
    let r := takeRun p k [] t
    divideOnto (r.1 :: done) s (k + 1) r.2

/-- The first suffix that fits, given the row of the text. -/
def seek : Row → Annotated → Option Annotated
  | r, [] => if Row.first r then some [] else none
  | r, (c, after) :: t => if Row.first r then some ((c, after) :: t) else seek after t

/-- Joins the pieces of each group of parts. -/
def regroup : List Shape → List (List Char) → List (List Char)
  | [], _ => []
  | g :: gs, pieces => (pieces.take g.length).flatten :: regroup gs (pieces.drop g.length)

/-- Finds the first place where the groups fit one after the other: the piece of each group, and
the text after them. -/
def find? (groups : List Shape) (cs : List Char) : Option (List (List Char) × List Char) :=
  let shape := groups.flatten
  let marked := annotate shape cs
  (seek marked.1 marked.2).map fun t =>
    let d := divideOnto [] shape 0 t
    (regroup groups d.1, d.2.map (·.1))

end Shape

end ProxyWarden.Text
