import FaultContext.Text.Basic

/-!
# UTF-8

Characters as bytes and back. Reading is total: each longest run of bytes that could begin a
character but does not finish one counts as one fault, and the two readers differ only in what they
make of a fault.
-/

namespace FaultContext.Text

set_option autoImplicit false

def encodeUtf8 (text : Text) : List UInt8 := text.flatMap String.utf8EncodeChar

/-- The bounds of the second byte after a lead byte, and how many bytes follow the lead; `none` for
a byte that leads nothing. -/
def leadBounds? (lead : Nat) : Option (Nat × Nat × Nat) :=
  if 0xc2 ≤ lead ∧ lead ≤ 0xdf then some (0x80, 0xbf, 1)
  else if lead = 0xe0 then some (0xa0, 0xbf, 2)
  else if lead = 0xed then some (0x80, 0x9f, 2)
  else if 0xe1 ≤ lead ∧ lead ≤ 0xef then some (0x80, 0xbf, 2)
  else if lead = 0xf0 then some (0x90, 0xbf, 3)
  else if 0xf1 ≤ lead ∧ lead ≤ 0xf3 then some (0x80, 0xbf, 3)
  else if lead = 0xf4 then some (0x80, 0x8f, 3)
  else none

/-- The bits that a lead byte contributes when `count` bytes follow it. -/
def leadBits (lead count : Nat) : Nat :=
  if count = 1 then lead % 0x20 else if count = 2 then lead % 0x10 else lead % 0x08

/-- Reads up to `count` further bytes, the first within `low` and `high`, the others within the
general bounds: the code point if all are there, and the bytes after the last one that fits. -/
def continueChar (value low high : Nat) : Nat → List UInt8 → Option Nat × List UInt8
  | 0, bytes => (some value, bytes)
  | _ + 1, [] => (none, [])
  | count + 1, byte :: rest =>
      if low ≤ byte.toNat ∧ byte.toNat ≤ high then
        continueChar (value * 0x40 + byte.toNat % 0x40) 0x80 0xbf count rest
      else (none, byte :: rest)

theorem length_continueChar (value low high count : Nat) (bytes : List UInt8) :
    (continueChar value low high count bytes).2.length ≤ bytes.length := by
  induction bytes generalizing value low high count with
  | nil => cases count <;> simp [continueChar]
  | cons byte rest ih =>
      cases count with
      | zero => simp [continueChar]
      | succ count =>
          rw [continueChar]
          split
          · exact Nat.le_succ_of_le (ih _ _ _ _)
          · simp

/-- The character that a non-empty run of bytes begins with, or `none` for a fault, and the bytes
after it. -/
def scanChar (lead : UInt8) (rest : List UInt8) : Option Char × List UInt8 :=
  if lead.toNat < 0x80 then (some (Char.ofNat lead.toNat), rest)
  else
    match leadBounds? lead.toNat with
    | none => (none, rest)
    | some (low, high, count) =>
        let found := continueChar (leadBits lead.toNat count) low high count rest
        (found.1.map Char.ofNat, found.2)

theorem length_scanChar (lead : UInt8) (rest : List UInt8) :
    (scanChar lead rest).2.length ≤ rest.length := by
  unfold scanChar
  split
  · simp
  · split
    · simp
    · exact length_continueChar _ _ _ _ _

/-- The characters of a run of bytes, `none` standing for each fault. -/
def scanUtf8 : List UInt8 → List (Option Char)
  | [] => []
  | lead :: rest => (scanChar lead rest).1 :: scanUtf8 (scanChar lead rest).2
termination_by bytes => bytes.length
decreasing_by exact Nat.lt_succ_of_le (length_scanChar lead rest)

def decodeUtf8Lossy (bytes : List UInt8) : Text :=
  (scanUtf8 bytes).map fun c => c.getD '\ufffd'

def decodeUtf8? (bytes : List UInt8) : Option Text := (scanUtf8 bytes).mapM id

end FaultContext.Text
