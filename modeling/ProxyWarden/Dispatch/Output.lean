import ProxyWarden.Line.Access
import ProxyWarden.Text.Utf8

/-!
# The output of the core

The core writes lines. A line ends with a newline, and a carriage return before that does not
belong to it; what follows the last newline is a line too, kept as it is, unless it is empty. Lines
that speak of an accepted connection belong to the access journal, all others to the core's own.
-/
namespace ProxyWarden.Dispatch

inductive Channel where
  | access
  | core
deriving DecidableEq, Repr

def Channel.name : Channel → String
  | access => "access"
  | core => "core"

/-- Whether a word occurs somewhere in a text. -/
def occurs (w : List Char) : List Char → Bool
  | [] => w.isEmpty
  | c :: cs => w.isPrefixOf (c :: cs) || occurs w cs

/-- Where a line belongs. -/
def Channel.ofLine (line : String) : Channel :=
  if occurs AccessLine.marker line.toList then .access else .core

/-- A line without the carriage return at its end. -/
def dropReturn (line : Bytes) : Bytes :=
  match line.reverse with
  | b :: r => if b = Bytes.carriageReturn then r.reverse else line
  | [] => []

/-- The lines that newlines end. -/
def endedLines (output : Bytes) : List String :=
  output.pieces.dropLast.map fun p => Utf8.lossy (dropReturn p)

/-- The line after the last newline, if there is one. -/
def openLine (output : Bytes) : List String :=
  match output.pieces.getLast? with
  | some (b :: p) => [Utf8.lossy (b :: p)]
  | _ => []

/-- All lines of an output that has come to its end. -/
def lines (output : Bytes) : List String := endedLines output ++ openLine output

end ProxyWarden.Dispatch
