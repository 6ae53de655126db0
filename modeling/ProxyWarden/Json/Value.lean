import ProxyWarden.Json.Quote

/-!
# JSON values

The values that the program itself writes. They are written without any space, the fields of an
object in the order of the list.
-/
namespace ProxyWarden.Json

inductive Value where
  | null
  | bool (b : Bool)
  | number (n : Int)
  | string (s : String)
  | array (items : List Value)
  | object (fields : List (String × Value))

namespace Value

def writeNumber (n : Int) : List Char :=
  match n with
  | .ofNat m => Nat.toDigits 10 m
  | .negSucc m => '-' :: Nat.toDigits 10 (m + 1)

mutual

def write : Value → List Char
  | null => "null".toList
  | bool true => "true".toList
  | bool false => "false".toList
  | number n => writeNumber n
  | string s => writeString s
  | array [] => ['[', ']']
  | array (v :: vs) => '[' :: (write v ++ writeItems vs)
  | object [] => ['\x7b', '\x7d']
  | object ((k, v) :: fs) => '\x7b' :: (writeString k ++ ':' :: (write v ++ writeFields fs))

/-- The further items of an array, and its closing bracket. -/
def writeItems : List Value → List Char
  | [] => [']']
  | v :: vs => ',' :: (write v ++ writeItems vs)

/-- The further fields of an object, and its closing brace. -/
def writeFields : List (String × Value) → List Char
  | [] => ['\x7d']
  | (k, v) :: fs => ',' :: (writeString k ++ ':' :: (write v ++ writeFields fs))

end

end Value

end ProxyWarden.Json
