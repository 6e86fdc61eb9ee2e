import HostCall.Text.Basic
import HostCall.Text.RangeTable

/-!
# Blanks

Code points that separate words, after the Unicode 14.0 character database: spaces, line and
paragraph separators, and the control codes with a bidirectional class of white space.
-/

namespace HostCall

/-- Ranges of blanks. -/
def blankRanges : RangeTable := [
  (0x9, 0xD), (0x1C, 0x20), (0x85, 0x85), (0xA0, 0xA0), (0x1680, 0x1680), (0x2000, 0x200A),
  (0x2028, 0x2029), (0x202F, 0x202F), (0x205F, 0x205F), (0x3000, 0x3000)]

namespace CodePoint

def isBlank (c : CodePoint) : Bool := blankRanges.contains c.val

end CodePoint

end HostCall
