import BlockPool.Text.Combining
import BlockPool.Text.Hex
import BlockPool.Text.Unassigned

/-! Quoted text: between double quotes, with a backslash before a quote or a backslash, letters for the
common control characters, and the code point in hexadecimal for any other character that has no visible
form of its own. Those are control and format characters, blanks other than the space, fillers, combining
marks, and code points for private use or without a character. -/

set_option autoImplicit false

namespace BlockPool.Text

def controls : List CodeRange := [(0x00, 0x1F), (0x7F, 0x9F)]

-- Characters that direct the layout and draw nothing.
def formats : List CodeRange :=
  [(0xAD, 0xAD), (0x600, 0x605), (0x61C, 0x61C), (0x6DD, 0x6DD), (0x70F, 0x70F), (0x890, 0x891), (0x8E2, 0x8E2),
   (0x180E, 0x180E), (0x200B, 0x200F), (0x202A, 0x202E), (0x2060, 0x2064), (0x2066, 0x206F), (0xFEFF, 0xFEFF),
   (0xFFF9, 0xFFFB), (0x110BD, 0x110BD), (0x110CD, 0x110CD), (0x13430, 0x1343F), (0x1BCA0, 0x1BCA3),
   (0x1D173, 0x1D17A), (0xE0001, 0xE0001), (0xE0020, 0xE007F)]

def blanks : List CodeRange :=
  [(0xA0, 0xA0), (0x1680, 0x1680), (0x2000, 0x200A), (0x2028, 0x2029), (0x202F, 0x202F), (0x205F, 0x205F),
   (0x3000, 0x3000)]

-- Letters that hold a place in a Hangul syllable and draw nothing.
def fillers : List CodeRange := [(0x115F, 0x1160), (0x3164, 0x3164), (0xFFA0, 0xFFA0)]

def privateUse : List CodeRange := [(0xE000, 0xF8FF), (0xF0000, 0xFFFFD), (0x100000, 0x10FFFD)]

def isHidden (c : Char) : Bool :=
  [controls, formats, blanks, fillers, privateUse, combining, unassigned].any fun ranges => covered ranges c.toNat

def escaped (c : Char) : String :=
  if c = '"' then "\\\""
  else if c = '\\' then "\\\\"
  else if c = '\n' then "\\n"
  else if c = '\t' then "\\t"
  else if c = '\r' then "\\r"
  else if c.toNat = 0 then "\\0"
  else if isHidden c then "\\u\x7b" ++ String.ofList (Nat.toDigits 16 c.toNat) ++ "\x7d"
  else c.toString

def quoted (text : String) : String := "\"" ++ String.join (text.toList.map escaped) ++ "\""

end BlockPool.Text
