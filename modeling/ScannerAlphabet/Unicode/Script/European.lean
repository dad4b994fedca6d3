import ScannerAlphabet.Unicode.PropertyValue

/-!
# Scripts of Europe

The alphabets of Europe and the Caucasus, with their ancient relatives.
-/
namespace ScannerAlphabet.Unicode.Script

def latin : PropertyValue where
  name := "latin"
  synonyms := ["latn"]
  bounds :=
    [0x0041, 0x005A, 0x0061, 0x007A, 0x00AA, 0x00AA, 0x00BA, 0x00BA, 0x00C0, 0x00D6, 0x00D8, 0x00F6,
     0x00F8, 0x02B8, 0x02E0, 0x02E4, 0x1D00, 0x1D25, 0x1D2C, 0x1D5C, 0x1D62, 0x1D65, 0x1D6B, 0x1D77,
     0x1D79, 0x1DBE, 0x1E00, 0x1EFF, 0x2071, 0x2071, 0x207F, 0x207F, 0x2090, 0x209C, 0x212A, 0x212B,
     0x2132, 0x2132, 0x214E, 0x214E, 0x2160, 0x2188, 0x2C60, 0x2C7F, 0xA722, 0xA787, 0xA78B, 0xA78E,
     0xA790, 0xA791, 0xA7A0, 0xA7A9, 0xA7FA, 0xA7FF, 0xFB00, 0xFB06, 0xFF21, 0xFF3A, 0xFF41, 0xFF5A]

def greek : PropertyValue where
  name := "greek"
  synonyms := ["grek"]
  bounds :=
    [0x0370, 0x0373, 0x0375, 0x0377, 0x037A, 0x037D, 0x0384, 0x0384, 0x0386, 0x0386, 0x0388, 0x038A,
     0x038C, 0x038C, 0x038E, 0x03A1, 0x03A3, 0x03E1, 0x03F0, 0x03FF, 0x1D26, 0x1D2A, 0x1D5D, 0x1D61,
     0x1D66, 0x1D6A, 0x1DBF, 0x1DBF, 0x1F00, 0x1F15, 0x1F18, 0x1F1D, 0x1F20, 0x1F45, 0x1F48, 0x1F4D,
     0x1F50, 0x1F57, 0x1F59, 0x1F59, 0x1F5B, 0x1F5B, 0x1F5D, 0x1F5D, 0x1F5F, 0x1F7D, 0x1F80, 0x1FB4,
     0x1FB6, 0x1FC4, 0x1FC6, 0x1FD3, 0x1FD6, 0x1FDB, 0x1FDD, 0x1FEF, 0x1FF2, 0x1FF4, 0x1FF6, 0x1FFE,
     0x2126, 0x2126]

def cyrillic : PropertyValue where
  name := "cyrillic"
  synonyms := ["cyrl"]
  bounds :=
    [0x0400, 0x0484, 0x0487, 0x0527, 0x1D2B, 0x1D2B, 0x1D78, 0x1D78, 0x2DE0, 0x2DFF, 0xA640, 0xA673,
     0xA67C, 0xA697]

def armenian : PropertyValue where
  name := "armenian"
  synonyms := ["armn"]
  bounds :=
    [0x0531, 0x0556, 0x0559, 0x055F, 0x0561, 0x0587, 0x0589, 0x058A, 0xFB13, 0xFB17]

def georgian : PropertyValue where
  name := "georgian"
  synonyms := ["geor"]
  bounds :=
    [0x10A0, 0x10C5, 0x10D0, 0x10FA, 0x10FC, 0x10FC, 0x2D00, 0x2D25]

def coptic : PropertyValue where
  name := "coptic"
  synonyms := ["copt", "qaac"]
  bounds :=
    [0x03E2, 0x03EF, 0x2C80, 0x2CF1, 0x2CF9, 0x2CFF]

def glagolitic : PropertyValue where
  name := "glagolitic"
  synonyms := ["glag"]
  since := .v4_1
  bounds :=
    [0x2C00, 0x2C2E, 0x2C30, 0x2C5E]

def gothic : PropertyValue where
  name := "gothic"
  synonyms := ["goth"]
  since := .v3_1

def ogham : PropertyValue where
  name := "ogham"
  synonyms := ["ogam"]
  since := .v3_0
  bounds :=
    [0x1680, 0x169C]

def runic : PropertyValue where
  name := "runic"
  synonyms := ["runr"]
  since := .v3_0
  bounds :=
    [0x16A0, 0x16EA, 0x16EE, 0x16F0]

def oldItalic : PropertyValue where
  name := "olditalic"
  synonyms := ["ital"]
  since := .v3_1

def linearB : PropertyValue where
  name := "linearb"
  synonyms := ["linb"]
  since := .v4_0

def cypriot : PropertyValue where
  name := "cypriot"
  synonyms := ["cprt"]
  since := .v4_0

def shavian : PropertyValue where
  name := "shavian"
  synonyms := ["shaw"]
  since := .v4_0

def carian : PropertyValue where
  name := "carian"
  synonyms := ["cari"]
  since := .v5_1

def lycian : PropertyValue where
  name := "lycian"
  synonyms := ["lyci"]
  since := .v5_1

def lydian : PropertyValue where
  name := "lydian"
  synonyms := ["lydi"]
  since := .v5_1

end ScannerAlphabet.Unicode.Script
