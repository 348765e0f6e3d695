import SnpGuest.Bytes.Basic

namespace SnpGuest

/-!
# Text as bytes

The UTF-8 form of a text, character by character.
-/

def utf8 (text : String) : Bytes :=
  text.toList.flatMap String.utf8EncodeChar

end SnpGuest
