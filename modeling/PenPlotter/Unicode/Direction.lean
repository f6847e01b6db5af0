import PenPlotter.Unicode.Mark

/-! # Directions of characters

Which way characters run: letters to the right or to the left, numbers and signs by what stands
around them.  Only characters that may stand in a domain name are told apart; what lies between
two of them is counted with either. -/

namespace PenPlotter.Unicode

/-- A direction. -/
inductive Direction where
  | leftToRight
  | rightToLeft
  | arabicLetter
  | arabicNumber
  | europeanNumber
  | europeanSeparator
  | commonSeparator
  | europeanTerminator
  | otherNeutral
  | boundaryNeutral
  | nonspacingMark
deriving Repr, DecidableEq, Inhabited

/-- The characters of each direction, apart from marks; all others run from left to right. -/
def directions : List (Direction × Ranges) := [
    (.rightToLeft, #[
      (0x5BE, 0x5F4), (0x7C0, 0x7F5), (0x7FA, 0x85E), (0x10800, 0x1091B), (0x10920, 0x10B35),
      (0x10B40, 0x10CFF), (0x10D40, 0x10D4F), (0x10D6F, 0x10D8F), (0x10E80, 0x10EB1),
      (0x10F00, 0x10F27), (0x10F70, 0x10FF6), (0x1E800, 0x1E95F)]),
    (.arabicLetter, #[
      (0x608, 0x608), (0x60B, 0x60B), (0x60D, 0x60D), (0x61B, 0x64A), (0x66D, 0x6D5),
      (0x6E5, 0x6E6), (0x6EE, 0x6EF), (0x6FA, 0x7B1), (0x860, 0x8C9), (0xFBB2, 0xFBC2),
      (0xFE73, 0xFE73), (0x10D00, 0x10D23), (0x10EC2, 0x10EC7), (0x10F30, 0x10F59),
      (0x1EC71, 0x1ED3D)]),
    (.arabicNumber, #[
      (0x660, 0x669), (0x66B, 0x66C), (0x10D30, 0x10D39), (0x10E60, 0x10E7E)]),
    (.europeanNumber, #[
      (0x30, 0x39), (0x6F0, 0x6F9), (0x102E1, 0x102FB)]),
    (.europeanSeparator, #[
      (0x2B, 0x2B), (0x2D, 0x2D), (0x2212, 0x2212)]),
    (.commonSeparator, #[
      (0x2C, 0x2C), (0x2E, 0x2F), (0x3A, 0x3A), (0x60C, 0x60C), (0x2044, 0x2044)]),
    (.europeanTerminator, #[
      (0x23, 0x25), (0xA2, 0xA5), (0xB0, 0xB1), (0x58F, 0x58F), (0x609, 0x60A), (0x66A, 0x66A),
      (0x9F2, 0x9F3), (0x9FB, 0x9FB), (0xAF1, 0xAF1), (0xBF9, 0xBF9), (0xE3F, 0xE3F),
      (0x17DB, 0x17DB), (0x2030, 0x2032), (0x20A0, 0x20C1), (0x212E, 0x212E), (0x2213, 0x2213),
      (0xA838, 0xA839), (0x11FDD, 0x11FE0), (0x1E2FF, 0x1E2FF)]),
    (.otherNeutral, #[
      (0x21, 0x22), (0x26, 0x2A), (0x3B, 0x40), (0x5B, 0x60), (0x7B, 0xA1), (0xA6, 0xAE),
      (0xB6, 0xD7), (0xF7, 0xF7), (0x2B9, 0x2BA), (0x2C2, 0x2CF), (0x2D2, 0x2ED), (0x2EF, 0x2FF),
      (0x375, 0x375), (0x3F6, 0x3F6), (0x58A, 0x58E), (0x606, 0x607), (0x60E, 0x60F),
      (0x6DE, 0x6DE), (0x6E9, 0x6E9), (0x7F6, 0x7F9), (0xBF3, 0xBF8), (0xBFA, 0xBFA),
      (0xC78, 0xC7E), (0xF3A, 0xF3D), (0x1390, 0x1399), (0x1400, 0x1400), (0x169B, 0x169C),
      (0x17F0, 0x180A), (0x1940, 0x1945), (0x19DE, 0x19FF), (0x2010, 0x2027), (0x2035, 0x2043),
      (0x2045, 0x205E), (0x2104, 0x2129), (0x213A, 0x214D), (0x218A, 0x2211), (0x2214, 0x2335),
      (0x237B, 0x2394), (0x2396, 0x26AB), (0x26AD, 0x27FF), (0x2900, 0x2BFF), (0x2CE5, 0x2CEA),
      (0x2CF9, 0x2CFF), (0x2E00, 0x3004), (0x3008, 0x3020), (0x3030, 0x3030), (0x3037, 0x3037),
      (0x303D, 0x303F), (0x30A0, 0x30A0), (0x30FB, 0x30FB), (0x31C0, 0x31E5), (0x4DC0, 0x4DFF),
      (0xA490, 0xA4C6), (0xA60D, 0xA60F), (0xA673, 0xA67F), (0xA700, 0xA721), (0xA788, 0xA788),
      (0xA828, 0xA82B), (0xA874, 0xA877), (0xAB6A, 0xAB6B), (0xFBC3, 0xFE46), (0x10101, 0x10101),
      (0x10140, 0x1018C), (0x10190, 0x101A0), (0x1091F, 0x1091F), (0x10B39, 0x10B3F),
      (0x10D6E, 0x10D6E), (0x10ED0, 0x10ED8), (0x11052, 0x11065), (0x11660, 0x1166C),
      (0x11FD5, 0x11FDC), (0x11FE1, 0x11FF1), (0x16FE2, 0x16FE2), (0x1CC00, 0x1CEF0),
      (0x1D1E9, 0x1D245), (0x1D300, 0x1D356), (0x1EEF0, 0x1F12F), (0x1F16D, 0x1F16F),
      (0x1F1AD, 0x1F1AD), (0x1F260, 0x1FBFA)]),
    (.boundaryNeutral, #[
      (0x200C, 0x200D)])]

/-- The marks that take no room and still run from left to right. -/
def directedMarks : Ranges := #[
    (0xCBF, 0xCBF), (0xCC6, 0xCC6), (0x11A07, 0x11A08), (0x11C3F, 0x11C3F)]

def direction (c : Char) : Direction :=
  if isNonspacing c then (if isIn directedMarks c then .leftToRight else .nonspacingMark)
  else ((directions.find? fun entry => isIn entry.2 c).map (·.1)).getD .leftToRight

end PenPlotter.Unicode
