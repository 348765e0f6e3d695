namespace SnpGuest

/-!
# Quoted characters

The form in which a message shows a single byte as a character: between single quotes, with an
escape for whatever would not show.  A byte stands for the character of the same code, so only
the codes below 256 occur.
-/

namespace Quoted

/-- Codes that show nothing or only space: the two control ranges, the blank that does not break
and the soft hyphen. -/
def isInvisible (code : Nat) : Bool :=
  code < 0x20 || (0x7f ≤ code && code ≤ 0xa0) || code == 0xad

/-- The characters for one code between the quotes. -/
def body (code : Nat) : List Char :=
  if code = 0 then ['\\', '0']
  else if code = 9 then ['\\', 't']
  else if code = 10 then ['\\', 'n']
  else if code = 13 then ['\\', 'r']
  else if code = 39 then ['\\', '\'']
  else if code = 92 then ['\\', '\\']
  else if isInvisible code then
    ['\\', 'u', '\x7b'] ++ Nat.toDigits 16 code ++ ['\x7d']
  else [Char.ofNat code]

def byte (value : UInt8) : String :=
  String.ofList ('\'' :: body value.toNat ++ ['\''])

end Quoted

end SnpGuest
