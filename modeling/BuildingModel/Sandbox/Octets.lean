import BuildingModel.Text.Utf8

/-!
# Octets

Programs work on bytes, whether these are UTF-8 or not. A text whose characters stand for one byte
each, its octets, is what they are given and what they write.
-/

namespace BuildingModel.Sandbox

/-- The octets of bytes. -/
def octetsOf (bytes : List UInt8) : String :=
  bytes.foldl (fun s b => s.push (Char.ofNat b.toNat)) ""

/-- The bytes of octets. -/
def bytesOf (s : String) : List UInt8 :=
  s.toList.map fun c => c.toNat.toUInt8

/-- The octets of a text. -/
def octets (s : String) : String :=
  octetsOf s.toUTF8.toList

/-- The text of octets, with what is not UTF-8 replaced. -/
def textOf (s : String) : String :=
  Text.decodeUtf8 (bytesOf s)

end BuildingModel.Sandbox
