import ProxyWarden.Disk.Basic

/-!
# Starting programs

A program is started by the path of its file, or by a bare name that is looked for in the
directories of the system's programs. A file must be allowed to run, and it must be a script, whose
first line names after `#!` the program that reads it; that program is started the same way.
`spawnError?` tells why a program can't be started.
-/
namespace ProxyWarden.Dispatch

/-- The shells of the system. -/
def shellNames : List Bytes := ["sh", "bash", "dash"].map Bytes.ofAscii

def programDirectories : List Path := ["/bin", "/usr/bin"].map Bytes.ofAscii

/-- The paths of programs of the system that have these names. -/
def systemPaths (names : List Bytes) : List Path :=
  programDirectories.flatMap fun p => names.map fun n => p.join n

/-- Whether a path or a bare name leads to a shell of the system. -/
def isShell (bin : Path) : Bool := shellNames.contains bin || (systemPaths shellNames).contains bin

/-- Whether a path leads to a program of the system that reads scripts: a shell, or the one that
looks for it by name. -/
def readsScripts (bin : Path) : Bool :=
  (systemPaths (Bytes.ofAscii "env" :: shellNames)).contains bin

/-- The space and the tab, which separate the words of a script's first line. -/
def isGap (b : UInt8) : Bool := b == 0x20 || b == 0x09

/-- How much of a file is looked at to tell what it is. -/
def headSize : Nat := 256

/-- The program that is to read a script. Its name must end within the head of the file. -/
def interpreter? (text : Bytes) : Option Path :=
  match text.take headSize with
  | h :: b :: r =>
    let rest := r.dropWhile isGap
    let name := rest.takeWhile fun x => !isGap x && x != Bytes.newline && x != 0
    let cut := name.length == rest.length && headSize ≤ text.length
    if h = '#'.toUInt8 ∧ b = '!'.toUInt8 ∧ name ≠ [] ∧ !cut then some name else none
  | _ => none

/-- How many scripts may be read by one another. -/
def maxScripts : Nat := 6

/-- Why a file can't be started, if it can't. -/
def fileError? (d : Disk) : Nat → Path → Option OsError
  | 0, _ => some .tooManyLinks
  | scripts + 1, bin =>
    if readsScripts bin then none
    else
      match d.find bin with
      | .error e => some e
      | .ok (.file number true) =>
        match interpreter? (d.content number) with
        | none => some .execFormat
        | some p => fileError? d scripts p
      | .ok _ => some .permissionDenied

/-- Why a program can't be started, if it can't. Of the bare names only those of shells are found;
a dot is a directory of programs itself. -/
def spawnError? (d : Disk) (bin : Path) : Option IoError :=
  if bin.contains 0 then some (.other "nul byte found in provided data")
  else if bin.contains Path.slash then (fileError? d maxScripts bin).map .os
  else if isShell bin then none
  else if bin = Path.dot ∨ bin = Path.dotDot then some OsError.permissionDenied
  else if Disk.maxName < bin.length then some OsError.nameTooLong
  else some OsError.notFound

end ProxyWarden.Dispatch
