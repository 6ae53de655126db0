import ProxyWarden.Disk.Basic
import ProxyWarden.Document.Printer
import ProxyWarden.Document.Reader
import ProxyWarden.Text.Quoted

/-!
# The settings file

A store keeps one document in a file. A save writes the new text to a temporary file beside it and
then gives that file the name of the settings, so that the settings are never seen half written.
Every step of a save can fail, by the state of the disk or by a mishap from outside; `SaveRun`
keeps the disk after each step.
-/
namespace ProxyWarden

inductive StoreError where
  | reservedName (path : Path)
  | read (path : Path) (error : IoError)
  | decode (fault : Json.Located)
  | invalidField (key : String)
  | write (path : Path) (error : IoError)
deriving DecidableEq, Repr

namespace StoreError

def message : StoreError → String
  | reservedName path => "core settings can't be named 'config.json': " ++ path.text
  | read path error => s!"failed to read config {path.text}: {error.message}"
  | decode fault => "failed to decode config: " ++ fault.message
  | invalidField key => "invalid JSON for key " ++ Text.quoted key
  | write path error => s!"failed to write config {path.text}: {error.message}"

end StoreError

/-- The core reads a file of this name on its own, which would shadow the document fed to it. -/
def reservedFileName : Bytes := Bytes.ofAscii "config.json"

structure Store where
  path : Path
deriving DecidableEq, Repr

/-- The steps of a save that touch the disk. -/
inductive SaveStep where
  | create
  | write
  | sync
  | rename
deriving DecidableEq, Repr

/-- A failure of one step that comes from outside. -/
structure Mishap where
  step : SaveStep
  error : IoError
  /-- How many bytes a failing write put down before it failed. -/
  written : Nat
deriving DecidableEq, Repr

/-- What a save did: the disk after each step, the disk in the end, and the outcome. -/
structure SaveRun where
  states : List Disk
  disk : Disk
  result : Except StoreError Unit

namespace Store

def tempPath (s : Store) : Path := s.path ++ Bytes.ofAscii ".tmp"

/-- Reads the document, with its allowed fields only. -/
def load (s : Store) (d : Disk) : Except StoreError Document :=
  match d.read s.path with
  | .error e => .error (.read s.path e)
  | .ok text =>
    match Document.ofBytes text with
    | .error f => .error (.decode f)
    | .ok doc => .ok doc.retainAllowed

/-- The mishap, if it hits the step. -/
def hit (m : Option Mishap) (step : SaveStep) : Option Mishap := m.filter fun x => x.step == step

/-- What writing the temporary file did: the disk after each step, and why it failed. -/
structure TempRun where
  states : List Disk
  disk : Disk
  error? : Option IoError

/-- Writes the bytes to a new file and makes sure that they are on the disk. -/
def writeTemp (m : Option Mishap) (path : Path) (data : Bytes) (d : Disk) : TempRun :=
  match hit m .create with
  | some x => ⟨[], d, some x.error⟩
  | none =>
    match d.openTruncate path with
    | .error e => ⟨[], d, some e⟩
    | .ok (made, h) =>
      match hit m .write with
      | some x =>
        match made.write h (data.take x.written) with
        | .error e => ⟨[made], made, some e⟩
        | .ok (torn, _) => ⟨[made, torn], torn, some x.error⟩
      | none =>
        match made.write h data with
        | .error e => ⟨[made], made, some e⟩
        | .ok (full, _) =>
          match hit m .sync with
          | some x => ⟨[made, full], full, some x.error⟩
          | none => ⟨[made, full], full, none⟩

/-- Replaces the stored document by the allowed fields of another. -/
def saveRun (s : Store) (m : Option Mishap) (doc : Document) (d : Disk) : SaveRun :=
  match doc.retainAllowed.pretty with
  | .error key => ⟨[], d, .error (.invalidField key)⟩
  | .ok data =>
    let temp := writeTemp m s.tempPath data d
    match temp.error? with
    | some e =>
      let cleaned := (temp.disk.removeFile s.tempPath).toOption.getD temp.disk
      ⟨temp.states ++ [cleaned], cleaned, .error (.write s.tempPath e)⟩
    | none =>
      match hit m .rename with
      | some x => ⟨temp.states, temp.disk, .error (.write s.path x.error)⟩
      | none =>
        match temp.disk.rename s.tempPath s.path with
        | .error e => ⟨temp.states, temp.disk, .error (.write s.path e)⟩
        | .ok renamed => ⟨temp.states ++ [renamed], renamed, .ok ()⟩

/-- A save that nothing from outside disturbs. -/
def save (s : Store) (doc : Document) (d : Disk) : Except StoreError Unit × Disk :=
  let run := s.saveRun none doc d
  (run.result, run.disk)

/-- Opens the settings and writes them back in their normal form. -/
def open? (path : Path) (d : Disk) : Except StoreError Store × Disk :=
  if path.fileName? = some reservedFileName then (.error (.reservedName path), d)
  else
    let s : Store := ⟨path⟩
    match s.load d with
    | .error e => (.error e, d)
    | .ok doc =>
      match s.save doc d with
      | (.error e, d') => (.error e, d')
      | (.ok _, d') => (.ok s, d')

end Store

end ProxyWarden
