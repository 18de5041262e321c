import AccountStore.Email.Mark
import AccountStore.Text.Digits

/-!
The direction in which the labels of a host name are read.

In a host name with right-to-left letters every label keeps one direction, so that no label is shown
with its characters in another order than they are stored. The tables tell the characters that host
names may hold from one another; their ranges may reach over others.
-/

namespace AccountStore.Email
open Text

/-- Digits beyond ASCII that are read like `0` to `9`. -/
def digitRanges : Ranges :=
  [(0x6F0, 0x6F9), (0x102E1, 0x102FB)]

/-- Digits of right-to-left scripts. -/
def arabicDigitRanges : Ranges :=
  [(0x660, 0x669), (0x66B, 0x66C), (0x10D30, 0x10E7E)]

/-- Symbols and punctuation beyond ASCII. Marks and digits among them are told apart first. -/
def neutralRanges : Ranges :=
  [(0xA1, 0xD7), (0xF7, 0xF7), (0x2B9, 0x2BA), (0x2C2, 0x2CF), (0x2D2, 0x2ED), (0x2EF, 0x2FF),
   (0x375, 0x375), (0x3F6, 0x3F6), (0x58A, 0x58F), (0x606, 0x607), (0x609, 0x60A), (0x60C, 0x60C),
   (0x60E, 0x60F), (0x66A, 0x66A), (0x6DE, 0x6DE), (0x6E9, 0x6E9), (0x7F6, 0x7F9), (0x9F2, 0x9F3),
   (0x9FB, 0x9FB), (0xAF1, 0xAF1), (0xBF3, 0xBFA), (0xC78, 0xC7E), (0xE3F, 0xE3F), (0xF3A, 0xF3D),
   (0x1390, 0x1399), (0x1400, 0x1400), (0x169B, 0x169C), (0x17DB, 0x17DB), (0x17F0, 0x180A),
   (0x1940, 0x1945), (0x19DE, 0x19FF), (0x200C, 0x214D), (0x218A, 0x2335), (0x237B, 0x2394),
   (0x2396, 0x26AB), (0x26AD, 0x27FF), (0x2900, 0x2BFF), (0x2CE5, 0x2CEA), (0x2CF9, 0x2CFF),
   (0x2E00, 0x3004), (0x3008, 0x3020), (0x3030, 0x3030), (0x3037, 0x3037), (0x303D, 0x303F),
   (0x30A0, 0x30A0), (0x30FB, 0x30FB), (0x31C0, 0x31E3), (0x4DC0, 0x4DFF), (0xA490, 0xA4C6),
   (0xA60D, 0xA60F), (0xA673, 0xA67F), (0xA700, 0xA721), (0xA788, 0xA788), (0xA828, 0xA82B),
   (0xA838, 0xA839), (0xA874, 0xA877), (0xAB6A, 0xAB6B), (0xFD3E, 0xFE46), (0x10101, 0x10101),
   (0x10140, 0x1018C), (0x10190, 0x101A0), (0x1091F, 0x1091F), (0x10B39, 0x10B3F),
   (0x11052, 0x11065), (0x11660, 0x1166C), (0x11FD5, 0x11FF1), (0x16FE2, 0x16FE2),
   (0x1D200, 0x1D245), (0x1D300, 0x1D356), (0x1E2FF, 0x1E2FF), (0x1EEF0, 0x1F12F),
   (0x1F16D, 0x1F16F), (0x1F1AD, 0x1F1AD), (0x1F260, 0x1FBCA)]

/-- Letters of right-to-left scripts. Marks, digits and symbols among them are told apart first. -/
def rightToLeftRanges : Ranges :=
  [(0x5BE, 0x8C7), (0xFBB2, 0xFE73), (0x10800, 0x10FF6), (0x1E800, 0x1ED3D)]

/-- How a character takes part in the direction of a label. -/
inductive Direction where
  | left
  | right
  | digit
  | arabicDigit
  | mark
  | neutral
deriving DecidableEq

def direction (c : Char) : Direction :=
  if nonspacingRanges.has c then .mark
  else if isDigit c || digitRanges.has c then .digit
  else if arabicDigitRanges.has c then .arabicDigit
  else if (c.toNat < 128 && !c.isAlpha) || neutralRanges.has c then .neutral
  else if rightToLeftRanges.has c then .right
  else .left

def hasRightToLeft (label : List Char) : Bool :=
  label.any fun c => direction c = .right || direction c = .arabicDigit

/-- The label keeps one direction: it begins with a letter of it, holds none of the other, and ends,
marks aside, with a letter of it or a digit. -/
def keepsDirection (label : List Char) : Bool :=
  let directions := label.map direction
  let last := (directions.reverse.dropWhile (· = .mark)).headD .neutral
  match directions with
  | [] => true
  | .left :: _ =>
      directions.all (fun d => d != .right && d != .arabicDigit) && (last = .left || last = .digit)
  | .right :: _ =>
      directions.all (· != .left) && (last = .right || last = .digit || last = .arabicDigit) &&
        !(directions.contains .digit && directions.contains .arabicDigit)
  | _ => false

example : digitRanges.ascending ∧ arabicDigitRanges.ascending ∧ neutralRanges.ascending ∧
    rightToLeftRanges.ascending := by decide +kernel

example : keepsDirection "\u05d0\u05d11".toList ∧ keepsDirection "ab1".toList ∧
    ¬keepsDirection "a\u05d0".toList ∧ ¬keepsDirection "1\u05d0".toList := by decide +kernel

end AccountStore.Email
