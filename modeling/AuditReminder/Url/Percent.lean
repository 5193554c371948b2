/-
Percent encoding.

A byte that may not stand in a part of an address is written as a percent sign and two digits in
base sixteen.  Which characters are encoded depends on the part; characters outside ASCII and
controls always are.  Main definitions: `Part`, `encode` and `decode`.
-/
import AuditReminder.Number.Hexadecimal

namespace AuditReminder.Url

/-- The parts of an address that encode different characters. -/
inductive Part where
  | bare
  | fragment
  | query
  /-- The query of a scheme that has hosts and ports by rule. -/
  | specialQuery
  | path
  | userInfo
deriving DecidableEq

namespace Part

/-- The visible characters that are encoded in a part. -/
def encoded : Part → List Char
  | bare => []
  | fragment => [' ', '"', '<', '>', '\x60']
  | query => [' ', '"', '#', '<', '>']
  | specialQuery => [' ', '"', '#', '<', '>', '\x27']
  | path => [' ', '"', '<', '>', '\x60', '#', '?', '\x7b', '\x7d']
  | userInfo =>
      [' ', '"', '<', '>', '\x60', '#', '?', '\x7b', '\x7d', '/', ':', ';', '=', '@', '[', '\\',
        ']', '^', '|']

end Part

/-- Whether a character is encoded in a part. -/
def mustEncode (part : Part) (c : Char) : Bool :=
  c.toNat < 0x20 || 0x7E < c.toNat || part.encoded.contains c

/-- A byte as a percent sign and two digits. -/
def encodeByte (b : UInt8) : List Char :=
  '%' :: (Hexadecimal.byte b.toNat).map Char.toUpper

/-- A character as it stands in a part. -/
def encodeChar (part : Part) (c : Char) : List Char :=
  if mustEncode part c then (String.utf8EncodeChar c).flatMap encodeByte else [c]

/-- A text as it stands in a part. -/
def encode (part : Part) (cs : List Char) : List Char := cs.flatMap (encodeChar part)

/-- The bytes that a text stands for; a percent sign without two digits stands for itself. -/
def decodeBytes : List Char → List UInt8
  | [] => []
  | '%' :: a :: b :: rest =>
      match Hexadecimal.value? a, Hexadecimal.value? b with
      | some a', some b' => UInt8.ofNat (a' * 16 + b') :: decodeBytes rest
      | _, _ => 0x25 :: decodeBytes (a :: b :: rest)
  | c :: rest => String.utf8EncodeChar c ++ decodeBytes rest

/-- The text that a text stands for, when its bytes are a text. -/
def decode? (cs : List Char) : Option (List Char) :=
  (String.fromUTF8? (ByteArray.mk (decodeBytes cs).toArray)).map String.toList

end AuditReminder.Url
