import ScannerAlphabet.Unicode.PropertyValue

/-!
# Numbers

The general categories of numbers: decimal digits, numerals that are letters, and the rest.
-/
namespace ScannerAlphabet.Unicode.Category

def decimalNumber : PropertyValue where
  name := "nd"
  synonyms := ["decimalnumber", "digit"]
  bounds :=
    [0x0030, 0x0039, 0x0660, 0x0669, 0x06F0, 0x06F9, 0x07C0, 0x07C9, 0x0966, 0x096F, 0x09E6, 0x09EF,
     0x0A66, 0x0A6F, 0x0AE6, 0x0AEF, 0x0B66, 0x0B6F, 0x0BE6, 0x0BEF, 0x0C66, 0x0C6F, 0x0CE6, 0x0CEF,
     0x0D66, 0x0D6F, 0x0E50, 0x0E59, 0x0ED0, 0x0ED9, 0x0F20, 0x0F29, 0x1040, 0x1049, 0x1090, 0x1099,
     0x17E0, 0x17E9, 0x1810, 0x1819, 0x1946, 0x194F, 0x19D0, 0x19D9, 0x1A80, 0x1A89, 0x1A90, 0x1A99,
     0x1B50, 0x1B59, 0x1BB0, 0x1BB9, 0x1C40, 0x1C49, 0x1C50, 0x1C59, 0xA620, 0xA629, 0xA8D0, 0xA8D9,
     0xA900, 0xA909, 0xA9D0, 0xA9D9, 0xAA50, 0xAA59, 0xABF0, 0xABF9, 0xFF10, 0xFF19]

def letterNumber : PropertyValue where
  name := "nl"
  synonyms := ["letternumber"]
  bounds :=
    [0x16EE, 0x16F0, 0x2160, 0x2182, 0x2185, 0x2188, 0x3007, 0x3007, 0x3021, 0x3029, 0x3038, 0x303A,
     0xA6E6, 0xA6EF]

def otherNumber : PropertyValue where
  name := "no"
  synonyms := ["othernumber"]
  bounds :=
    [0x00B2, 0x00B3, 0x00B9, 0x00B9, 0x00BC, 0x00BE, 0x09F4, 0x09F9, 0x0B72, 0x0B77, 0x0BF0, 0x0BF2,
     0x0C78, 0x0C7E, 0x0D70, 0x0D75, 0x0F2A, 0x0F33, 0x1369, 0x137C, 0x17F0, 0x17F9, 0x19DA, 0x19DA,
     0x2070, 0x2070, 0x2074, 0x2079, 0x2080, 0x2089, 0x2150, 0x215F, 0x2189, 0x2189, 0x2460, 0x249B,
     0x24EA, 0x24FF, 0x2776, 0x2793, 0x2CFD, 0x2CFD, 0x3192, 0x3195, 0x3220, 0x3229, 0x3248, 0x324F,
     0x3251, 0x325F, 0x3280, 0x3289, 0x32B1, 0x32BF, 0xA830, 0xA835]

end ScannerAlphabet.Unicode.Category
