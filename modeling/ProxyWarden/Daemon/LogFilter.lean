import ProxyWarden.Text.Alphanumeric
import ProxyWarden.Text.Blank
import ProxyWarden.Text.Digits
import ProxyWarden.Text.Pattern
import ProxyWarden.Text.Utf8
import ProxyWarden.Word

/-!
# Filters of diagnostics

A filter is a list of rules, separated by commas. A rule is a level for everything, or the front of
a module's name with the level for such modules, or it speaks of spans and the fields of events. Of
the rules that apply to a message the most specific one decides; without any the message is dropped.

The parts of a rule lie between its marks. White space around a rule does not count when the marks
are looked for, but the parts are cut out of the whole text at the places that were found, so that
blanks in front of a rule move every part of it to the left.
-/
namespace ProxyWarden

/-- How much of the diagnostics a rule lets through. -/
inductive Verbosity where
  | off | error | warn | info | debug | trace
deriving DecidableEq, Repr

namespace Verbosity

def name : Verbosity → String
  | off => "off"
  | error => "error"
  | warn => "warn"
  | info => "info"
  | debug => "debug"
  | trace => "trace"

/-- All levels in ascending order, which is that of their numbers. -/
def all : List Verbosity := [off, error, warn, info, debug, trace]

/-- ASCII letters in lowercase. -/
def lower (cs : List Char) : List Char := cs.map Char.toLower

/-- Reads a level from its number or its name in any case. -/
def ofText? (cs : List Char) : Option Verbosity :=
  match (Text.readNumber Word.largest64 cs).bind fun n => all[n]? with
  | some v => some v
  | none => all.find? fun v => v.name.toList == lower cs

end Verbosity

namespace LogFilter

structure Rule where
  /-- The front of the names of the modules that it is about. -/
  target : Option (List Char)
  /-- The span that it is about. -/
  span : Option (List Char)
  /-- The fields that must be there, and whether a value is asked for. -/
  fields : List (List Char × Bool)
  verbosity : Verbosity
deriving DecidableEq, Repr

/-- Reads the level after an equals sign; without text it is the highest. -/
def level? (cs : List Char) : Option Verbosity :=
  if cs.isEmpty then some .trace else Verbosity.ofText? cs

/-! ## Fields -/

def isDigit (c : Char) : Bool := (Text.digitValue? c).isSome

/-- Whether a text is a number without a sign, perhaps with a point and an exponent, or the name of
one that is not finite. -/
def isDecimal (cs : List Char) : Bool :=
  if ["inf", "infinity", "nan"].contains (String.ofList cs) then true
  else
    let whole := cs.takeWhile isDigit
    let rest := cs.dropWhile isDigit
    let decimals := if rest.head? = some '.' then rest.tail.takeWhile isDigit else []
    let rest := if rest.head? = some '.' then rest.tail.dropWhile isDigit else rest
    let exponentIsRight := match rest with
      | [] => true
      | 'e' :: s :: r =>
        let digits := if s = '+' ∨ s = '-' then r else s :: r
        !digits.isEmpty && digits.all isDigit
      | _ => false
    (!whole.isEmpty || !decimals.isEmpty) && exponentIsRight

/-- Whether a value can be asked for: it is a pattern, as all words and most numbers are, or a
number with a plus sign. -/
def isFieldValue (cs : List Char) : Bool :=
  Text.Pattern.isPattern cs
    || match cs with
      | '+' :: r => isDecimal r
      | _ => false

/-- A field, which is told with or without a value; a second value does not count. -/
def field? (cs : List Char) : Option (List Char × Bool) :=
  let isName (c : Char) := c != '='
  let name := cs.takeWhile isName
  match cs.dropWhile isName with
  | [] => if name.isEmpty then none else some (name, false)
  | _ :: r => if isFieldValue (r.takeWhile isName) then some (name, true) else none

/-! ## Rules -/

/-- The part of a text between two places, counted in bytes, if both lie between characters. -/
def cut? (text : Bytes) (start stop : Nat) : Option (List Char) := do
  let before ← Utf8.decode? (text.take start)
  let through ← Utf8.decode? (text.take stop)
  return through.toList.drop before.length

/-- What may come after a closing bracket at a place: the end of the rule, or its level, which goes
to the end of the text. -/
def tail? (text : Bytes) (place : Nat) : Bytes → Option Verbosity
  | [] => some .trace
  | b :: _ =>
    if b = '='.toUInt8 then (cut? text (place + 1) text.length).bind level? else none

def isSpanEnd (b : UInt8) : Bool := b == ']'.toUInt8 || b == '\x7b'.toUInt8

def isFieldEnd (b : UInt8) : Bool := b == '\x7d'.toUInt8

/-- Reads the rest of a rule after an opening bracket, which starts at a place. -/
def bracket? (text : Bytes) (target : Option (List Char)) (place : Nat) (rest : Bytes) :
    Option Rule := do
  let name := rest.takeWhile fun b => !isSpanEnd b
  let stop := place + name.length
  let span ← cut? text place stop
  match rest.dropWhile fun b => !isSpanEnd b with
  | [] => none
  | b :: r =>
    if b = ']'.toUInt8 then
      return ⟨target, some span, [], ← tail? text (stop + 1) r⟩
    else
      let inner := r.takeWhile fun b => !isFieldEnd b
      let close := stop + 1 + inner.length
      let field ← (cut? text (stop + 1) close).bind field?
      match r.dropWhile fun b => !isFieldEnd b with
      | _ :: b :: r =>
        if b = ']'.toUInt8 then
          return ⟨target, if span.isEmpty then none else some span, [field],
            ← tail? text (close + 2) r⟩
        else none
      | _ => none

def isRuleStart (c : Char) : Bool := c == '-' || c == ':' || c == '_' || Text.isAlphanumeric c

def isWordEnd (b : UInt8) : Bool := b == '='.toUInt8 || b == '['.toUInt8

/-- Reads a rule that starts with a word: a level or the front of a name. -/
def wordRule? (text : Bytes) (rest : Bytes) : Option Rule := do
  let stop := (rest.takeWhile fun b => !isWordEnd b).length
  match rest.dropWhile fun b => !isWordEnd b with
  | [] =>
    let whole ← cut? text 0 text.length
    match Verbosity.ofText? whole with
    | some v => return ⟨none, none, [], v⟩
    | none => return ⟨some whole, none, [], .trace⟩
  | b :: r =>
    let word ← cut? text 0 stop
    if b = '='.toUInt8 then
      let level ← cut? text (stop + 1) text.length
      return ⟨some word, none, [], ← level? level⟩
    else bracket? text (some word) (stop + 1) r

def rule? (cs : List Char) : Option Rule :=
  let text := Utf8.encodeList cs
  let shown := Text.trim cs
  match shown with
  | [] => none
  | '[' :: r => bracket? text none 1 (Utf8.encodeList r)
  | c :: _ => if isRuleStart c then wordRule? text (Utf8.encodeList shown) else none

/-- The texts between commas that are not empty. -/
def splitRules (cs : List Char) : List (List Char) :=
  (cs.splitBy fun a b => a != ',' && b != ',').filter fun r => r != [',']

/-- Reads a filter; every rule must be one. -/
def ofText? (text : String) : Option (List Rule) := (splitRules text.toList).mapM rule?

/-- Whether a rule is about plain messages of a module. -/
def Rule.appliesTo (r : Rule) (module : List Char) : Bool :=
  r.span.isNone && r.fields.all (fun f => !f.2 && f.1 == "message".toList)
    && match r.target with
      | none => true
      | some t => t.isPrefixOf module

/-- Whether a rule is at least as specific as another one. -/
def Rule.atLeast (r s : Rule) : Bool :=
  let length (t : Option (List Char)) := (t.map fun cs => cs.length + 1).getD 0
  length s.target < length r.target
    || (length s.target == length r.target && s.fields.length ≤ r.fields.length)

/-- The most specific rule for messages of a module; of two such rules the later one. -/
def deciding? (rules : List Rule) (module : List Char) : Option Rule :=
  (rules.filter fun r => r.appliesTo module).foldl (fun best r =>
    match best with
    | none => some r
    | some b => if r.atLeast b then some r else some b) none

/-- Whether errors of a module are let through. -/
def showsErrors (rules : List Rule) (module : String) : Bool :=
  match deciding? rules module.toList with
  | none => false
  | some r => r.verbosity != .off

end LogFilter

end ProxyWarden
