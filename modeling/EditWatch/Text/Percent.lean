import EditWatch.Text.Lines
import EditWatch.Text.Numeral

/-!
# EditWatch.Text.Percent -- percent encoding

A byte is written as a percent sign and two hexadecimal digits. A percent sign without two digits
behind it stands for itself, and so does every other character.
-/

namespace EditWatch.Text

/-- A number below 16 as a hexadecimal digit in upper case. -/
def upperHexDigit (n : Nat) : Char := (hexDigit n).toUpper

/-- A byte in percent encoding. -/
def percentEncodeByte (b : UInt8) : List Char :=
  ['%', upperHexDigit (b.toNat / 16), upperHexDigit (b.toNat % 16)]

/-- The text with the characters of a class replaced by the bytes of their UTF-8 form. -/
def percentEncode (isEncoded : Char → Bool) (cs : List Char) : List Char :=
  cs.flatMap fun c =>
    if isEncoded c then (encode (String.singleton c)).flatMap percentEncodeByte else [c]

/-- The bytes that a text stands for. -/
def percentDecode : List Char → List UInt8
  | [] => []
  | '%' :: a :: b :: rest =>
    match hexValue? a, hexValue? b with
    | some x, some y => UInt8.ofNat (16 * x + y) :: percentDecode rest
    | _, _ => 37 :: percentDecode (a :: b :: rest)
  | c :: rest => encode (String.singleton c) ++ percentDecode rest

end EditWatch.Text
