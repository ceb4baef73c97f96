import Sens.Lib.Regex
import Sens.Spec.Foundation

/-!
# `Utilities.swift`
-/

namespace Sens

variable (F : Foundation)

/-- `.` in a pattern: any character but a line terminator. -/
def anyCharacter (c : Char) : Bool :=
  let n := c.toNat
  !((0xA ≤ n && n ≤ 0xD) || n == 0x85 || n == 0x2028 || n == 0x2029)

/-- `[$@$#!%*?&]`. -/
def specialCharacter (c : Char) : Bool := "$@$#!%*?&".toList.contains c

/-- `[A-Za-z\d$@$#!%*?&]`. -/
def passwordCharacter (c : Char) : Bool :=
  ('A' ≤ c && c ≤ 'Z') || ('a' ≤ c && c ≤ 'z') || F.decimalDigit c || specialCharacter c

/-- `^(?=.*[a-z])(?=.*[$@$#!%*?&])[A-Za-z\d$@$#!%*?&]{8,}`. `MATCHES` asks for the
whole string, so the `^` says nothing more. -/
def passwordPattern : Regex :=
  .seq (.ahead (.seq (.star anyCharacter) (.cls fun c => 'a' ≤ c && c ≤ 'z')))
    (.seq (.ahead (.seq (.star anyCharacter) (.cls specialCharacter)))
      (Regex.atLeast (passwordCharacter F) 8))

def isPasswordValid (password : String) : Bool := (passwordPattern F).matchesAll password

/-! ## `hexStringToUIColor` -/

/-- The value of a hexadecimal digit. -/
def hexDigit (c : Char) : Option ℕ :=
  if '0' ≤ c ∧ c ≤ '9' then some (c.toNat - 48)
  else if 'A' ≤ c ∧ c ≤ 'F' then some (c.toNat - 55)
  else if 'a' ≤ c ∧ c ≤ 'f' then some (c.toNat - 87)
  else none

/-- The value of the longest run of hexadecimal digits, if it is not empty; a value
too large for 64 bits is capped. -/
def scanHexDigits (cs : List Char) : Option UInt64 :=
  match (cs.takeWhile fun c => (hexDigit c).isSome).filterMap hexDigit with
  | [] => none
  | ds => some (UInt64.ofNat (min (ds.foldl (fun v d => 16 * v + d) 0) (2 ^ 64 - 1)))

/-- `Scanner(string:).scanHexInt64(&value)`: skips whitespace and an optional `0x`
or `0X`, and leaves `value` alone where there is no digit. -/
def scanHexInt64 (s : String) (value : UInt64) : UInt64 :=
  match s.toList.dropWhile whitespacesAndNewlines with
  | '0' :: x :: cs =>
    if x = 'x' ∨ x = 'X' then (scanHexDigits cs).getD value
    else (scanHexDigits ('0' :: x :: cs)).getD value
  | cs => (scanHexDigits cs).getD value

def hexStringToUIColor (hex : String) : UIColor :=
  let cString := F.uppercased (trimmingCharacters hex)
  let cString := if cString.startsWith "#" then String.ofList cString.toList.tail else cString
  if F.count cString ≠ 6 then .gray
  else
    let rgbValue := scanHexInt64 cString 0
    .rgba (((rgbValue &&& 0xFF0000) >>> 16).toNat / 255) (((rgbValue &&& 0x00FF00) >>> 8).toNat / 255)
      ((rgbValue &&& 0x0000FF).toNat / 255) 1

end Sens
