import FaultContext.Files.Inflate
import FaultContext.Text.Utf8

/-!
# Archives

Zip files: a directory of members at the end, each pointing back to its data. An archive is what its
directory lists, in that order; of members with one name the first gives the place and the last the
content. A member whose data cannot be had, or does not match its checksum, is still listed.
-/

namespace FaultContext.Files

set_option autoImplicit false

/-- A member of an archive, without content when its data cannot be read. -/
structure Member where
  name : Text
  content : Option ByteArray

/-- The members of an archive in the order of its listing, each name once. -/
structure Archive where
  members : List Member

namespace Archive

def names (archive : Archive) : List Text := archive.members.map (·.name)

def read? (archive : Archive) (name : Text) : Option ByteArray :=
  (archive.members.find? fun member => member.name == name).bind (·.content)

def add (member : Member) : List Member → List Member
  | [] => [member]
  | other :: rest => if other.name = member.name then member :: rest else other :: add member rest

open Inflate (byteAt)

/-- A number of two bytes, lowest first. -/
def halfAt (data : ByteArray) (position : Nat) : Nat :=
  byteAt data position + 256 * byteAt data (position + 1)

/-- A number of four bytes, lowest first. -/
def wordAt (data : ByteArray) (position : Nat) : Nat :=
  halfAt data position + 65536 * halfAt data (position + 2)

def checksumBit (sum : UInt32) : UInt32 :=
  if sum &&& 1 == 1 then (sum >>> 1) ^^^ 0xedb88320 else sum >>> 1

def checksumByte (sum : UInt32) (byte : UInt8) : UInt32 :=
  let mixed := sum ^^^ byte.toUInt32
  checksumBit (checksumBit (checksumBit (checksumBit
    (checksumBit (checksumBit (checksumBit (checksumBit mixed)))))))

/-- The cyclic checksum of some bytes. -/
def checksum (data : ByteArray) : Nat := (data.data.foldl checksumByte 0xffffffff ^^^ 0xffffffff).toNat

/-- The upper half of the character set that names without a mark for UTF-8 are written in. -/
def legacyUpperHalf : Text :=
  ("ÇüéâäàåçêëèïîìÄÅÉæÆôöòûùÿÖÜ¢£¥₧ƒáíóúñÑªº¿⌐¬½¼¡«»░▒▓│┤╡╢╖╕╣║╗╝╜╛┐└┴┬├─┼╞╟╚╔╩╦╠═╬╧╨╤╥╙╘╒╓╫╪┘┌█▄▌▐▀" ++
    "αßΓπΣσµτΦΘΩδ∞φε∩≡±≥≤⌠⌡÷≈°∙·√ⁿ²■\u00a0").toList

def legacyName (bytes : List UInt8) : Text :=
  bytes.map fun byte =>
    if byte.toNat < 0x80 then Char.ofNat byte.toNat
    else legacyUpperHalf.getD (byte.toNat - 0x80) '\ufffd'

/-- The content that a directory entry points to. Only plain and deflated data can be read. -/
def contentAt? (data : ByteArray) (entry : Nat) : Option ByteArray := do
  let header := wordAt data (entry + 42)
  if wordAt data header ≠ 0x04034b50 ∨ halfAt data (entry + 8) % 2 = 1 then none
  let start := header + 30 + halfAt data (header + 26) + halfAt data (header + 28)
  let length := wordAt data (entry + 20)
  if data.size < start + length then none
  let packed := data.extract start (start + length)
  let content ←
    match halfAt data (entry + 10) with
    | 0 => some packed
    | 8 => Inflate.inflate? packed
    | _ => none
  if checksum content = wordAt data (entry + 16) then some content else none

/-- The members listed from a position on. -/
def listed? (data : ByteArray) : Nat → Nat → List Member → Option (List Member)
  | 0, _, members => some members
  | count + 1, entry, members =>
      if data.size < entry + 46 ∨ wordAt data entry ≠ 0x02014b50 then none
      else
        let length := halfAt data (entry + 28)
        let bytes := (data.extract (entry + 46) (entry + 46 + length)).toList
        let name :=
          if halfAt data (entry + 8) / Nat.pow 2 11 % 2 = 1 then Text.decodeUtf8Lossy bytes else legacyName bytes
        listed? data count (entry + 46 + length + halfAt data (entry + 30) + halfAt data (entry + 32))
          (add ⟨name, contentAt? data entry⟩ members)

/-- The position of the end record, searched backwards. -/
def endRecord? (data : ByteArray) : Nat → Option Nat
  | 0 => if wordAt data 0 = 0x06054b50 then some 0 else none
  | position + 1 =>
      if wordAt data (position + 1) = 0x06054b50 then some (position + 1) else endRecord? data position

def ofBytes? (data : ByteArray) : Option Archive := do
  if data.size < 22 then none
  let position ← endRecord? data (data.size - 22)
  let members ← listed? data (halfAt data (position + 10)) (wordAt data (position + 16)) []
  return ⟨members⟩

end Archive

end FaultContext.Files
