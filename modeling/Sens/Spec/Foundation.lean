import Mathlib.Algebra.Order.Ring.Rat
import Mathlib.Data.List.DropRight

/-!
# Foundation and the system frameworks

The parts of Foundation, CoreLocation and UIKit that the app calls. Trimming and
coordinates are defined here. What rests on the Unicode tables or on the device's
locale is a parameter: a result about the app holds for every `Foundation`.

Strings stand for their canonical forms, since Swift's `==` on strings is
canonical equivalence.
-/

namespace Sens

/-- Seconds since the reference date: the app handles whole days only. -/
abbrev Date := ℤ

structure Foundation where
  /-- `String.capitalized`. -/
  capitalized : String → String
  /-- `String.uppercased()`. -/
  uppercased : String → String
  /-- `String.count`, the number of extended grapheme clusters. -/
  count : String → ℕ
  /-- The general category Nd, which `\d` stands for. -/
  decimalDigit : Char → Bool
  /-- `DateFormatter.date(from:)` with `dateStyle` medium and `timeStyle` none. -/
  date : String → Option Date

/-- The first letter of each word in upper case and the rest in lower case, where words
are delimited by blanks, tabs and line ends; `start` at the beginning of a word. -/
def capitalizedWords (start : Bool) : List Char → List Char
  | [] => []
  | c :: cs =>
    (if start then c.toUpper else c.toLower) :: capitalizedWords (c ∈ [' ', '\t', '\n', '\r']) cs

/-- A `Foundation` that is right on ASCII text without carriage returns and knows one date. -/
def Foundation.ascii : Foundation where
  capitalized s := String.ofList (capitalizedWords true s.toList)
  uppercased s := String.ofList (s.toList.map Char.toUpper)
  count s := s.toList.length
  decimalDigit c := c.isDigit
  date s := if s = "Aug 22, 2019" then some 588124800 else none

/-! ## Trimming -/

/-- `CharacterSet.whitespacesAndNewlines`: the general category Z, the tab, U+000A
to U+000D and U+0085. -/
def whitespacesAndNewlines (c : Char) : Bool :=
  let n := c.toNat
  (0x9 ≤ n && n ≤ 0xD) || n == 0x20 || n == 0x85 || n == 0xA0 || n == 0x1680 ||
    (0x2000 ≤ n && n ≤ 0x200A) || n == 0x2028 || n == 0x2029 || n == 0x202F || n == 0x205F ||
    n == 0x3000

/-- `s.trimmingCharacters(in: .whitespacesAndNewlines)`. -/
def trimmingCharacters (s : String) : String :=
  String.ofList ((s.toList.dropWhile whitespacesAndNewlines).rdropWhile whitespacesAndNewlines)

/-! ## Coordinates, images and colours -/

/-- Degrees are finite doubles, and so rationals; the app only compares them. -/
structure CLLocationCoordinate2D where
  latitude : ℚ := 0
  longitude : ℚ := 0
deriving DecidableEq, Inhabited

/-- The emoji that was drawn and the side of its square. -/
structure UIImage where
  text : String
  sizeSquare : ℕ
deriving DecidableEq

/-- `String.image(sizeSquare:)`. -/
def image (s : String) (sizeSquare : ℕ) : UIImage := ⟨s, sizeSquare⟩

inductive UIColor
  | gray
  | rgba (red green blue alpha : ℚ)
deriving DecidableEq

end Sens
