/-!
# Words

How many values the words of a machine have: two to the power of their bits.
-/
namespace ProxyWarden.Word

def values32 : Nat := 4294967296

def values64 : Nat := 18446744073709551616

def largest64 : Nat := values64 - 1

end ProxyWarden.Word
