import ProxyWarden.Disk.Path

/-!
# Files and directories

A disk is a tree of directories and files, without links. A name leads to a node; what a file
holds is kept under the file's number, so that an open handle still writes to its file after the
name was removed or given to another file. A handle either writes at the end of the file, wherever
that is at the time, or at its own offset; what lies between the end and such an offset is filled
with zero bytes.
-/
namespace ProxyWarden

/-- Why an operation of the system fails. -/
inductive OsError where
  | notFound
  | execFormat
  | permissionDenied
  | notDirectory
  | isDirectory
  | noSpace
  | brokenPipe
  | nameTooLong
  | tooManyLinks
  /-- A path holds a zero byte, which the system takes for its end. -/
  | zeroInPath
deriving DecidableEq, Repr

namespace OsError

/-- The number of the error; a path that the system never gets to see has none. -/
def code? : OsError → Option Nat
  | notFound => some 2
  | execFormat => some 8
  | permissionDenied => some 13
  | notDirectory => some 20
  | isDirectory => some 21
  | noSpace => some 28
  | brokenPipe => some 32
  | nameTooLong => some 36
  | tooManyLinks => some 40
  | zeroInPath => none

def text : OsError → String
  | notFound => "No such file or directory"
  | execFormat => "Exec format error"
  | permissionDenied => "Permission denied"
  | notDirectory => "Not a directory"
  | isDirectory => "Is a directory"
  | noSpace => "No space left on device"
  | brokenPipe => "Broken pipe"
  | nameTooLong => "File name too long"
  | tooManyLinks => "Too many levels of symbolic links"
  | zeroInPath => "file name contained an unexpected NUL byte"

def message (e : OsError) : String :=
  match e.code? with
  | some n => s!"{e.text} (os error {n})"
  | none => e.text

end OsError

/-- A failure of input or output: one of the system, or one told in other words. -/
inductive IoError where
  | os (e : OsError)
  | other (text : String)
deriving DecidableEq, Repr

def IoError.message : IoError → String
  | os e => e.message
  | other t => t

instance : Coe OsError IoError := ⟨.os⟩

inductive Node where
  | directory
  | file (number : Nat) (executable : Bool)
  /-- A device that is always full. -/
  | fullDevice
deriving DecidableEq, Repr

/-- The names from the root down to a node. -/
abbrev Location := List Bytes

structure Disk where
  nodes : List (Location × Node)
  /-- What each file holds, by number. -/
  contents : List Bytes
  /-- Where relative paths start. -/
  current : Location
deriving DecidableEq, Repr

/-- A place on the disk that a path leads to. -/
structure Place where
  location : Location
  node? : Option Node
  /-- The path ends like that of a directory. -/
  asDirectory : Bool
deriving DecidableEq, Repr

inductive WriteMode where
  | append
  | offset (n : Nat)
deriving DecidableEq, Repr

/-- What a handle writes to: a file by number, or the full device. -/
inductive Target where
  | file (number : Nat)
  | fullDevice
deriving DecidableEq, Repr

structure Handle where
  target : Target
  mode : WriteMode
deriving DecidableEq, Repr

namespace Disk

def workLocation : Location := [Bytes.ofAscii "work"]

/-- The directories that every system has. -/
def systemLocations : List Location :=
  [["bin"], ["dev"], ["etc"], ["home"], ["opt"], ["proc"], ["root"], ["sys"], ["tmp"], ["usr"],
    ["usr", "bin"], ["var"]].map fun l => l.map Bytes.ofAscii

/-- A disk with an empty current directory and the device. -/
def fresh : Disk := {
  nodes := (workLocation, .directory)
    :: ([Bytes.ofAscii "dev", Bytes.ofAscii "full"], .fullDevice)
    :: systemLocations.map fun l => (l, .directory)
  contents := []
  current := workLocation }

def node? (d : Disk) (l : Location) : Option Node :=
  if l = [] then some .directory else (d.nodes.find? fun e => e.1 == l).map (·.2)

/-- Puts a node at a location, in place of what was there. -/
def link (d : Disk) (l : Location) (n : Node) : Disk :=
  { d with nodes := (l, n) :: d.nodes.filter fun e => e.1 != l }

def unlink (d : Disk) (l : Location) : Disk :=
  { d with nodes := d.nodes.filter fun e => e.1 != l }

def content (d : Disk) (number : Nat) : Bytes := d.contents[number]?.getD []

def setContent (d : Disk) (number : Nat) (bs : Bytes) : Disk :=
  { d with contents := d.contents.set number bs }

/-- A new empty file at a location. -/
def create (d : Disk) (l : Location) (executable : Bool) : Disk × Nat :=
  let number := d.contents.length
  ({ d.link l (.file number executable) with contents := d.contents ++ [[]] }, number)

/-- The longest name, in bytes. -/
def maxName : Nat := 255

/-- The longest path, in bytes. -/
def maxPath : Nat := 4095

/-- Follows names from a directory. Every node on the way must be a directory. -/
def walk (d : Disk) (l : Location) (n : Option Node) : List Bytes → Except OsError Place
  | [] => .ok ⟨l, n, false⟩
  | name :: names =>
    match n with
    | none => .error .notFound
    | some .directory =>
      if name = [] ∨ name = Path.dot then
        if names.isEmpty then .ok ⟨l, n, true⟩ else d.walk l n names
      else if name = Path.dotDot then
        let parent := l.dropLast
        if names.isEmpty then .ok ⟨parent, some .directory, true⟩
        else d.walk parent (some .directory) names
      else if maxName < name.length then .error .nameTooLong
      else
        let next := l ++ [name]
        d.walk next (d.node? next) names
    | some _ => .error .notDirectory

/-- The place that a path leads to; the last name need not exist. -/
def locate (d : Disk) (p : Path) : Except OsError Place :=
  if p = [] then .error .notFound
  else if p.contains 0 then .error .zeroInPath
  else if maxPath < p.length then .error .nameTooLong
  else
    let start := if p.isAbsolute then [] else d.current
    let names := p.names
    let trailing := names.getLast? == some []
    let kept := if trailing then names.dropLast else names
    match d.walk start (some .directory) kept with
    | .error e => .error e
    | .ok place => .ok { place with asDirectory := place.asDirectory || trailing }

/-- The place that a path leads to, which is a directory or missing if the path ends like that of a
directory. -/
def resolve (d : Disk) (p : Path) : Except OsError Place :=
  match d.locate p with
  | .error e => .error e
  | .ok place =>
    match place.node?, place.asDirectory with
    | some (.file ..), true => .error .notDirectory
    | some .fullDevice, true => .error .notDirectory
    | _, _ => .ok place

/-- What a path leads to, which must exist. -/
def find (d : Disk) (p : Path) : Except OsError Node :=
  match d.resolve p with
  | .error e => .error e
  | .ok place => place.node?.elim (.error .notFound) .ok

/-- Reads a file from the start. The device reads as empty. -/
def read (d : Disk) (p : Path) : Except OsError Bytes :=
  match d.find p with
  | .error e => .error e
  | .ok .directory => .error .isDirectory
  | .ok .fullDevice => .ok []
  | .ok (.file number _) => .ok (d.content number)

/-- Opens a file for writing and makes it if it is not there; returns where the handle leads. A path
that ends like that of a directory is refused whatever it leads to, as no file can be made there. -/
def openTarget (d : Disk) (p : Path) : Except OsError (Disk × Target) :=
  match d.locate p with
  | .error e => .error e
  | .ok place =>
    if place.asDirectory then .error .isDirectory
    else
      match place.node? with
      | some .directory => .error .isDirectory
      | some .fullDevice => .ok (d, .fullDevice)
      | some (.file number _) => .ok (d, .file number)
      | none =>
        let made := d.create place.location false
        .ok (made.1, .file made.2)

/-- Opens a file whose handle always writes at the end. -/
def openAppend (d : Disk) (p : Path) : Except OsError (Disk × Handle) :=
  match d.openTarget p with
  | .error e => .error e
  | .ok (d, t) => .ok (d, ⟨t, .append⟩)

/-- Opens a file, empties it, and writes from its start. -/
def openTruncate (d : Disk) (p : Path) : Except OsError (Disk × Handle) :=
  match d.openTarget p with
  | .error e => .error e
  | .ok (d, .file number) => .ok (d.setContent number [], ⟨.file number, .offset 0⟩)
  | .ok (d, .fullDevice) => .ok (d, ⟨.fullDevice, .offset 0⟩)

/-- A file's content after `data` was put at an offset. -/
def overlay (old : Bytes) (offset : Nat) (data : Bytes) : Bytes :=
  old.take offset ++ List.replicate (offset - old.length) 0 ++ data
    ++ old.drop (offset + data.length)

/-- The content and the handle's mode after a complete write. -/
def written (old : Bytes) (mode : WriteMode) (data : Bytes) : Bytes × WriteMode :=
  match mode with
  | .append => (old ++ data, .append)
  | .offset n => (overlay old n data, .offset (n + data.length))

/-- Writes all the bytes, or fails on the device. -/
def write (d : Disk) (h : Handle) (data : Bytes) : Except OsError (Disk × Handle) :=
  match h.target with
  | .fullDevice => if data.isEmpty then .ok (d, h) else .error .noSpace
  | .file number =>
    let w := written (d.content number) h.mode data
    .ok (d.setContent number w.1, { h with mode := w.2 })

/-- Lets a file be run as a program. -/
def makeExecutable (d : Disk) (p : Path) : Disk :=
  match d.resolve p with
  | .error _ => d
  | .ok place =>
    match place.node? with
    | some (.file number _) => d.link place.location (.file number true)
    | _ => d

/-- Removes a name that is not a directory's. -/
def removeFile (d : Disk) (p : Path) : Except OsError Disk :=
  match d.resolve p with
  | .error e => .error e
  | .ok place =>
    match place.node? with
    | none => .error .notFound
    | some .directory => .error .isDirectory
    | some _ => .ok (d.unlink place.location)

/-- Gives the file at `p` the name `q`, in place of a file that had it. -/
def rename (d : Disk) (p q : Path) : Except OsError Disk :=
  match d.resolve p, d.resolve q with
  | .error e, _ => .error e
  | _, .error e => .error e
  | .ok a, .ok b =>
    match a.node?, b.node? with
    | none, _ => .error .notFound
    | some _, some .directory => .error .isDirectory
    | some n, _ =>
      if b.asDirectory then .error .notDirectory
      else if a.location = b.location then .ok d
      else .ok ((d.unlink a.location).link b.location n)

/-- Makes the directories of a list of names, as far as they are missing. -/
def makeDirectories (d : Disk) (l : Location) : List Bytes → Disk
  | [] => d
  | name :: names =>
    if name = [] ∨ name = Path.dot then d.makeDirectories l names
    else if name = Path.dotDot then d.makeDirectories l.dropLast names
    else
      let next := l ++ [name]
      match d.node? next with
      | none => (d.link next .directory).makeDirectories next names
      | some .directory => d.makeDirectories next names
      | some _ => d

/-- Makes a directory and those above it. -/
def makeDirectory (d : Disk) (p : Path) : Disk :=
  d.makeDirectories (if p.isAbsolute then [] else d.current) p.names

/-- Replaces what a file holds; the file is made if it is not there. -/
def writeFile (d : Disk) (p : Path) (data : Bytes) : Except OsError Disk :=
  match d.openTruncate p with
  | .error e => .error e
  | .ok (d, h) => (d.write h data).map (·.1)

/-- Adds to the end of a file; the file is made if it is not there. -/
def appendFile (d : Disk) (p : Path) (data : Bytes) : Except OsError Disk :=
  match d.openAppend p with
  | .error e => .error e
  | .ok (d, h) => (d.write h data).map (·.1)

/-- Removes a name and, if it is a directory's, all below it. -/
def removeAll (d : Disk) (p : Path) : Disk :=
  match d.resolve p with
  | .error _ => d
  | .ok place => { d with nodes := d.nodes.filter fun e => !place.location.isPrefixOf e.1 }

/-- The names in the current directory, in ascending order. -/
def list (d : Disk) : List Bytes :=
  let names := d.nodes.filterMap fun e =>
    match e.1.getLast? with
    | some name => if e.1.dropLast = d.current then some name else none
    | none => none
  names.mergeSort fun a b => !decide (b < a)

end Disk

end ProxyWarden
