import Sens.Spec.Utilities

/-!
# What a colour text says

`SixHex` is what a text must be to be a colour. `Presents` is what it must be to be
the colour of three given bytes, in any of the ways of writing it.
-/

namespace Sens

/-- The text that is scanned: trimmed, in capitals, and without one leading `#`. -/
def scannedText (F : Foundation) (hex : String) : String :=
  let cString := F.uppercased (trimmingCharacters hex)
  if cString.startsWith "#" then String.ofList cString.toList.tail else cString

/-- Exactly six hexadecimal digits. -/
def SixHex (s : String) : Prop := s.toList.length = 6 ∧ ∀ c ∈ s.toList, (hexDigit c).isSome = true

/-- The values of the digits of `RRGGBB`. -/
def digitValues (red green blue : UInt8) : List ℕ :=
  [red.toNat / 16, red.toNat % 16, green.toNat / 16, green.toNat % 16, blue.toNat / 16, blue.toNat % 16]

/-- The text is `RRGGBB`, in capitals or not, with or without a `#` in front of it, and
with any whitespace around it. -/
def Presents (hex : String) (red green blue : UInt8) : Prop :=
  ∃ pre mark digits post, hex.toList = pre ++ (mark ++ digits) ++ post ∧
    (∀ c ∈ pre, whitespacesAndNewlines c = true) ∧ (mark = [] ∨ mark = ['#']) ∧
    digits.map hexDigit = (digitValues red green blue).map some ∧
    ∀ c ∈ post, whitespacesAndNewlines c = true

/-- What Foundation does to ASCII text. A carriage return and a line feed count as one
character. -/
structure Foundation.OnASCII (F : Foundation) : Prop where
  uppercased : ∀ s : String, (∀ c ∈ s.toList, c.toNat < 128) →
    F.uppercased s = String.ofList (s.toList.map Char.toUpper)
  count : ∀ s : String, (∀ c ∈ s.toList, c.toNat < 128 ∧ c ≠ '\r') → F.count s = s.toList.length

end Sens
