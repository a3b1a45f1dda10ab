import SbomGate.Url.Domain.Mark
/-!
# SbomGate.Url.Domain.Direction

The **direction** in which the characters of domain names are written, and the
rule that keeps the labels of a name in their order when some of them are
written from right to left.
-/

namespace SbomGate.Url.Domain

/-- How a character behaves in a line of text of both directions. -/
inductive Direction
  /-- Written from left to right. -/
  | left
  /-- Written from right to left. -/
  | right
  /-- A digit of an Arabic number. -/
  | arabicDigit
  /-- A digit of any other number. -/
  | digit
  /-- Takes its direction from its neighbours. -/
  | neutral
  /-- Takes its direction from the character it stands on. -/
  | carried
  deriving DecidableEq, Repr

/-- Characters written from right to left. -/
def rightToLeft : Text.Ranges := .ofLines [
  "5BE-5F4 608 60B 60D 61B-64A 66D-6D5 6E5-6E6 6EE-6EF 6FA-7F5 7FA-8C9 FBB2-FBC2 FE73",
  "10800-1091B 10920-10B35 10B40-10D23 10D40-10D8F 10E80-10FF6 1E800-1ED3D"]

/-- Digits of Arabic numbers, with their separators. -/
def arabicDigits : Text.Ranges := .ofLines [
  "660-669 66B-66C 10D30-10D39 10E60-10E7E"]

/-- Digits of any other numbers. -/
def otherDigits : Text.Ranges := .ofLines [
  "30-39 6F0-6F9 102E1-102FB"]

/-- Characters that take their direction from their neighbours. -/
def neutrals : Text.Ranges := .ofLines [
  "0-2F 3A-60 7B-D7 F7 2B9-2BA 2C2-2CF 2D2-2ED 2EF-2FF 375 3F6 58A-58F 606-607 609-60A 60C",
  "60E-60F 66A 6DE 6E9 7F6-7F9 9F2-9F3 9FB AF1 BF3-BFA C78-C7E E3F F3A-F3D 1390-1399 1400",
  "169B-169C 17DB 17F0-180A 1940-1945 19DE-19FF 200C-214D 218A-2335 237B-2394 2396-26AB",
  "26AD-27FF 2900-2BFF 2CE5-2CEA 2CF9-2CFF 2E00-2EF2 3001-3004 3008-3020 3030 3037 303D-303F",
  "30A0 30FB 31C0-31E3 4DC0-4DFF A490-A4C6 A60D-A60F A673-A67F A700-A721 A788 A828-A82B",
  "A838-A839 A874-A877 AB6A-AB6B FD3E-FE46 10101 10140-1018C 10190-101A0 1091F 10B39-10B3F",
  "11052-11065 11660-1166C 11FD5-11FF1 16FE2 1D1E9-1D245 1D300-1D356 1E2FF 1EEF0-1F12F",
  "1F16D-1F16F 1F1AD 1F260-1F8B1 1F900-1FA88 1FA90-1FABD 1FABF-1FAC5 1FACE-1FADB 1FAE0-1FAE8",
  "1FAF0-1FBCA"]

/-- How a character behaves, by the first table that it is in; those in none run
from left to right. -/
def Direction.of (c : Char) : Direction :=
  if nonspacing.contains c then .carried
  else if rightToLeft.contains c then .right
  else if arabicDigits.contains c then .arabicDigit
  else if otherDigits.contains c then .digit
  else if neutrals.contains c then .neutral
  else .left

/-- Whether a label with such a character makes the whole name one of both
directions. -/
def Direction.isRight : Direction → Bool
  | right => true
  | arabicDigit => true
  | _ => false

/-- The last direction of a label, apart from marks. -/
def lastDirection? (ds : List Direction) : Option Direction :=
  (ds.reverse.dropWhile (· = .carried)).head?

/-- Whether a label keeps its place in a name of both directions: one that
starts from the left holds nothing from the right and ends in a letter or a
digit; one that starts from the right holds nothing from the left, ends in a
letter or a digit, and its numbers are of one kind. -/
def keepsPlace (label : List Char) : Bool :=
  let ds := label.map Direction.of
  match ds.head?, lastDirection? ds with
  | some .left, some last => ds.all (!·.isRight) && (last = .left || last = .digit)
  | some .right, some last =>
    !ds.contains .left && (last.isRight || last = .digit) &&
      !(ds.contains .digit && ds.contains .arabicDigit)
  | first, _ => first.isNone

end SbomGate.Url.Domain
