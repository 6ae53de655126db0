import ProxyWarden.Dispatch.Launch
import ProxyWarden.Dispatch.Relay
import ProxyWarden.Text.Blank
import ProxyWarden.Text.Digits

/-!
# Programs in the place of the core

What a run sees of the core is described by a list of acts: it reads its input into a file, prints,
and in the end exits, is killed or goes on for ever. `performRun` lets a run and such a program go
together until the run has ended or nothing more can happen. Scripts of a small shell vocabulary
describe programs too.
-/
namespace ProxyWarden.Dispatch

inductive Act where
  /-- Copies the whole input into a file. -/
  | copyInput (path : Path)
  | print (bs : Bytes)
  /-- Closes the input without reading it. -/
  | closeInput
  | sleep
  | exit (code : Nat)
  | kill (signal : Nat)
deriving DecidableEq, Repr

abbrev Program := List Act

namespace Program

def output (p : Program) : Bytes :=
  p.flatMap fun
    | .print bs => bs
    | _ => []

/-- Whether the program goes on until it is killed. -/
def sleeps (p : Program) : Bool := p.contains .sleep

/-- How the program exits by itself. -/
def status? : Program → Option ExitStatus
  | [] => some (.ofCode 0)
  | .sleep :: _ => none
  | .exit code :: _ => some (.ofCode code)
  | .kill signal :: _ => some (.ofSignal signal)
  | _ :: p => status? p

/-- What a pipe takes without a reader. -/
def pipeSize : Nat := 65536

/-- How feeding a document to the program ends. -/
def feeding (p : Program) (document : Bytes) : Except IoError Unit :=
  let reads := p.any fun
    | .copyInput _ => true
    | _ => false
  if reads || document.length ≤ pipeSize then .ok () else .error OsError.brokenPipe

/-- The file that the input is copied to, and how many lines were printed before. -/
def copied? (p : Program) : Option (Path × Nat) :=
  match p.dropWhile fun | .copyInput _ => false | _ => true with
  | .copyInput path :: _ =>
    let before := p.takeWhile fun | .copyInput _ => false | _ => true
    some (path, (endedLines (output before)).length)
  | _ => none

end Program

/-- Takes the lines of a run: the answer, the sink afterwards, and whether the run is cancelled
from now on. -/
abbrev Sink (σ : Type) := σ → Channel → String → Except JournalError Unit × σ × Bool

/-- Lets the reader and the run take turns, so many of them. -/
def perform {σ : Type} (sink : Sink σ) : Nat → Relay → σ → Relay × σ
  | 0, r, s => (r, s)
  | turns + 1, r, s =>
    let offered := (r.step .read).step .send
    match offered.passing? with
    | none => perform sink turns (offered.step (.turn (.ok ()))) s
    | some l =>
      let answer := sink s (.ofLine l) l
      let passed := offered.step (.turn answer.1)
      perform sink turns (if answer.2.2 then passed.step .cancel else passed) answer.2.1

/-- What a program that is fed a document does before its run comes to anything. A program that goes
on until it is killed does not close its output, so an open line stays unseen. -/
def Program.events (p : Program) (document : Bytes) : List Relay.Event :=
  [.fed (p.feeding document), .arrive p.output.length]
    ++ (if p.sleeps then [] else [.close])
    ++ (p.status?.map fun s => .exited (.ok s)).toList

/-- A whole run of a program that is fed a document: a turn for each line, and one each for the end
of the feeding, of the output and of the program. -/
def performRun {σ : Type} (sink : Sink σ) (program : Program) (document : Bytes) (s : σ) :
    Run × σ :=
  let begun := (Relay.start program.output).steps (program.events document)
  let done := perform sink ((lines program.output).length + 3) begun s
  (done.1.run, done.2)

/-- Whether the run was ended while the program went on. -/
def Run.endedEarly (r : Run) : Bool :=
  match r.stage with
  | .ended (.error (.sink _)) => true
  | _ => r.sawCancel

/-- The file that the program got to copy its input to; a run that ends early kills it before it
comes to that. -/
def Run.copiedInput (r : Run) (program : Program) : Option Path :=
  match program.copied? with
  | none => none
  | some (path, before) =>
    if r.endedEarly && r.forwarded.length ≤ before then none else some path

/-! ## Scripts -/

/-- The text of a word in single quotes, or the whole text if it starts otherwise. -/
def quotedWord (cs : List Char) : List Char :=
  match cs with
  | '\'' :: r => r.takeWhile fun c => c != '\''
  | _ => cs

/-- The text of a format, in which a backslash and a letter stand for a control character. -/
def formatted : List Char → List Char
  | '\\' :: 'n' :: r => '\n' :: formatted r
  | '\\' :: 'r' :: r => '\r' :: formatted r
  | '\\' :: 't' :: r => '\t' :: formatted r
  | '\\' :: '\\' :: r => '\\' :: formatted r
  | c :: r => c :: formatted r
  | [] => []

/-- The signal that a script's `kill` sends: the number or the name after a dash, or the usual
one. -/
def sentSignal (cs : List Char) : Nat :=
  match cs with
  | '-' :: r =>
    let word := r.takeWhile fun c => !Text.isBlank c
    ((Text.readNumber 64 word).or (ExitStatus.signalNumber? word)).getD 15
  | _ => 15

/-- What a program does that sends itself a signal. -/
def Act.ofSignal (signal : Nat) : List Act :=
  match ExitStatus.signalEffect signal with
  | .ends => [.kill signal]
  | .stops => [.sleep]
  | .nothing => []

/-- The largest number that a script can exit with, though only its lowest bits are kept. -/
def maxExit : Nat := 2147483647

/-- The exit code of a script's `exit`; without a number all went well, and two tells of a word
that is none. -/
def exitCode (cs : List Char) : Nat :=
  if cs.isEmpty then 0 else (Text.readNumber maxExit cs).getD 2

/-- The acts of one line of a script; a line of other words does nothing. -/
def Act.ofScriptLine (line : String) : List Act :=
  let cs := Text.trim line.toList
  let word := cs.takeWhile fun c => !Text.isBlank c
  let rest := (cs.dropWhile fun c => !Text.isBlank c).dropWhile Text.isBlank
  if word = "cat".toList then
    match rest with
    | '>' :: path => [.copyInput (Utf8.encodeList (Text.trim path))]
    | _ => []
  else if word = "echo".toList then [.print (Utf8.encodeList (quotedWord rest ++ ['\n']))]
  else if word = "printf".toList then [.print (Utf8.encodeList (formatted (quotedWord rest)))]
  else if word = "exec".toList ∨ word = "sleep".toList then [.sleep]
  else if word = "exit".toList then [.exit (exitCode rest)]
  else if word = "kill".toList then Act.ofSignal (sentSignal rest)
  else []

/-- Whether nothing comes after the act. -/
def Act.isLast : Act → Bool
  | sleep => true
  | exit _ => true
  | kill _ => true
  | _ => false

/-- The acts up to the last one that is performed. -/
def Program.performed : Program → Program
  | [] => []
  | a :: p => if a.isLast then [a] else a :: performed p

/-- The program of a script. -/
def Program.ofScript (text : Bytes) : Program :=
  Program.performed ((Dispatch.lines text).flatMap Act.ofScriptLine)

/-- How a shell exits that does not find a command. -/
def commandNotFound : Nat := 127

/-- The program of a file. A shell takes the document that it is fed for a script, and finds no
command in it. -/
def Program.ofFile (d : Disk) (bin : Path) : Program :=
  if isShell bin then [.exit commandNotFound] else .ofScript ((d.read bin).toOption.getD [])

end Dispatch

end ProxyWarden
