import Intercept.Document.Basic
import Intercept.Text.Digit

/-!
# Bytes as documents

Bytes that are UTF-8 are written as a string, and all others as an object whose field `hex` holds
two hexadecimal digits for each byte. Both forms are read for any bytes.
-/

namespace Intercept

namespace Payload

/-- The bytes of pairs of hexadecimal digits. -/
def ofHex? : List Char → Option (List UInt8)
  | [] => some []
  | [_] => none
  | a :: b :: cs => do
    let a ← Text.hexValue? a
    let b ← Text.hexValue? b
    let rest ← ofHex? cs
    some (UInt8.ofNat (16 * a + b) :: rest)

/-- Two hexadecimal digits for each byte. -/
def toHex (bytes : ByteArray) : String :=
  String.ofList (bytes.toList.flatMap fun b =>
    [Text.hexDigit (b.toNat / 16), Text.hexDigit (b.toNat % 16)])

/-- Read bytes. -/
def ofDocument? (d : Document) : Option ByteArray :=
  match d with
  | .string s => some s.toUTF8
  | _ =>
    match d.field? "hex" with
    | some (.string h) => (ofHex? h.toList).map fun bs => ⟨bs.toArray⟩
    | _ => none

/-- Write bytes. -/
def toDocument (bytes : ByteArray) : Document :=
  match String.fromUTF8? bytes with
  | some s => .string s
  | none => .ofFields [("hex", .string (toHex bytes))]

end Payload

end Intercept
