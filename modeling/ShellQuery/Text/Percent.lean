import ShellQuery.Text.Hex
import ShellQuery.Text.Utf8

/-!
# Percent encoding

A percent sign with two hexadecimal digits stands for a byte.  A percent sign
without them stands for itself.
-/

namespace ShellQuery.Text

/-- The bytes of a text with percent signs. -/
def percentBytes : List Char → List UInt8
  | [] => []
  | '%' :: a :: b :: rest =>
      match hexDigit? a, hexDigit? b with
      | some x, some y => UInt8.ofNat (x.val * 16 + y.val) :: percentBytes rest
      | _, _ => String.utf8EncodeChar '%' ++ percentBytes (a :: b :: rest)
  | c :: rest => String.utf8EncodeChar c ++ percentBytes rest

/-- A text without percent encoding, if its bytes are a text. -/
def percentDecode? (s : String) : Option String :=
  (decodeUtf8? (percentBytes s.toList)).map String.ofList

/-- A text without percent encoding, with replacement characters. -/
def percentDecodeLossy (s : String) : String :=
  String.ofList (decodeLossy (percentBytes s.toList))

/-- Whether every percent sign has its two digits. -/
def percentSignsPaired : List Char → Bool
  | [] => true
  | '%' :: rest =>
      (match rest with
        | a :: b :: _ => (hexDigit? a).isSome && (hexDigit? b).isSome
        | _ => false)
      && percentSignsPaired rest
  | _ :: rest => percentSignsPaired rest

example : percentDecode? "a%20b%C3%A9%zz" = some "a bé%zz" := by decide +kernel
example : percentDecode? "%ff" = none := by decide +kernel

end ShellQuery.Text
