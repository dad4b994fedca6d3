import ScannerAlphabet.Unicode.PropertyValue

/-!
# Separators and other code points

The general categories of separators, controls, format characters, surrogates and private use.
-/
namespace ScannerAlphabet.Unicode.Category

def spaceSeparator : PropertyValue where
  name := "zs"
  synonyms := ["spaceseparator"]
  bounds :=
    [0x0020, 0x0020, 0x00A0, 0x00A0, 0x1680, 0x1680, 0x2000, 0x200A, 0x202F, 0x202F, 0x205F, 0x205F,
     0x3000, 0x3000]

def lineSeparator : PropertyValue where
  name := "zl"
  synonyms := ["lineseparator"]
  bounds :=
    [0x2028, 0x2028]

def paragraphSeparator : PropertyValue where
  name := "zp"
  synonyms := ["paragraphseparator"]
  bounds :=
    [0x2029, 0x2029]

def control : PropertyValue where
  name := "cc"
  synonyms := ["control", "cntrl"]
  bounds :=
    [0x0000, 0x001F, 0x007F, 0x009F]

def format : PropertyValue where
  name := "cf"
  synonyms := ["format"]
  bounds :=
    [0x00AD, 0x00AD, 0x0600, 0x0603, 0x06DD, 0x06DD, 0x070F, 0x070F, 0x180E, 0x180E, 0x200B, 0x200F,
     0x202A, 0x202E, 0x2060, 0x2064, 0x206A, 0x206F, 0xFEFF, 0xFEFF, 0xFFF9, 0xFFFB]

def surrogate : PropertyValue where
  name := "cs"
  synonyms := ["surrogate"]
  since := .v2_0
  bounds :=
    [0xD800, 0xDFFF]

def privateUse : PropertyValue where
  name := "co"
  synonyms := ["privateuse"]
  bounds :=
    [0xE000, 0xF8FF]

end ScannerAlphabet.Unicode.Category
