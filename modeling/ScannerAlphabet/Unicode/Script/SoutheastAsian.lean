import ScannerAlphabet.Unicode.PropertyValue

/-!
# Scripts of south-eastern Asia

The scripts of the mainland and of the islands of south-eastern Asia.
-/
namespace ScannerAlphabet.Unicode.Script

def thai : PropertyValue where
  name := "thai"
  bounds :=
    [0x0E01, 0x0E3A, 0x0E40, 0x0E5B]

def lao : PropertyValue where
  name := "lao"
  synonyms := ["laoo"]
  bounds :=
    [0x0E81, 0x0E82, 0x0E84, 0x0E84, 0x0E87, 0x0E88, 0x0E8A, 0x0E8A, 0x0E8D, 0x0E8D, 0x0E94, 0x0E97,
     0x0E99, 0x0E9F, 0x0EA1, 0x0EA3, 0x0EA5, 0x0EA5, 0x0EA7, 0x0EA7, 0x0EAA, 0x0EAB, 0x0EAD, 0x0EB9,
     0x0EBB, 0x0EBD, 0x0EC0, 0x0EC4, 0x0EC6, 0x0EC6, 0x0EC8, 0x0ECD, 0x0ED0, 0x0ED9, 0x0EDC, 0x0EDD]

def khmer : PropertyValue where
  name := "khmer"
  synonyms := ["khmr"]
  since := .v3_0
  bounds :=
    [0x1780, 0x17DD, 0x17E0, 0x17E9, 0x17F0, 0x17F9, 0x19E0, 0x19FF]

def myanmar : PropertyValue where
  name := "myanmar"
  synonyms := ["mymr"]
  since := .v3_0
  bounds :=
    [0x1000, 0x109F, 0xAA60, 0xAA7B]

def taiLe : PropertyValue where
  name := "taile"
  synonyms := ["tale"]
  since := .v4_0
  bounds :=
    [0x1950, 0x196D, 0x1970, 0x1974]

def newTaiLue : PropertyValue where
  name := "newtailue"
  synonyms := ["talu"]
  since := .v4_1
  bounds :=
    [0x1980, 0x19AB, 0x19B0, 0x19C9, 0x19D0, 0x19DA, 0x19DE, 0x19DF]

def taiTham : PropertyValue where
  name := "taitham"
  synonyms := ["lana"]
  since := .v5_2
  bounds :=
    [0x1A20, 0x1A5E, 0x1A60, 0x1A7C, 0x1A7F, 0x1A89, 0x1A90, 0x1A99, 0x1AA0, 0x1AAD]

def taiViet : PropertyValue where
  name := "taiviet"
  synonyms := ["tavt"]
  since := .v5_2
  bounds :=
    [0xAA80, 0xAAC2, 0xAADB, 0xAADF]

def kayahLi : PropertyValue where
  name := "kayahli"
  synonyms := ["kali"]
  since := .v5_1
  bounds :=
    [0xA900, 0xA92D, 0xA92F, 0xA92F]

def cham : PropertyValue where
  name := "cham"
  since := .v5_1
  bounds :=
    [0xAA00, 0xAA36, 0xAA40, 0xAA4D, 0xAA50, 0xAA59, 0xAA5C, 0xAA5F]

def tagalog : PropertyValue where
  name := "tagalog"
  synonyms := ["tglg"]
  since := .v3_2
  bounds :=
    [0x1700, 0x170C, 0x170E, 0x1714]

def hanunoo : PropertyValue where
  name := "hanunoo"
  synonyms := ["hano"]
  since := .v3_2
  bounds :=
    [0x1720, 0x1734]

def buhid : PropertyValue where
  name := "buhid"
  synonyms := ["buhd"]
  since := .v3_2
  bounds :=
    [0x1740, 0x1753]

def tagbanwa : PropertyValue where
  name := "tagbanwa"
  synonyms := ["tagb"]
  since := .v3_2
  bounds :=
    [0x1760, 0x176C, 0x176E, 0x1770, 0x1772, 0x1773]

def buginese : PropertyValue where
  name := "buginese"
  synonyms := ["bugi"]
  since := .v4_1
  bounds :=
    [0x1A00, 0x1A1B, 0x1A1E, 0x1A1F]

def balinese : PropertyValue where
  name := "balinese"
  synonyms := ["bali"]
  since := .v5_0
  bounds :=
    [0x1B00, 0x1B4B, 0x1B50, 0x1B7C]

def sundanese : PropertyValue where
  name := "sundanese"
  synonyms := ["sund"]
  since := .v5_1
  bounds :=
    [0x1B80, 0x1BAA, 0x1BAE, 0x1BB9]

def javanese : PropertyValue where
  name := "javanese"
  synonyms := ["java"]
  since := .v5_2
  bounds :=
    [0xA980, 0xA9CD, 0xA9D0, 0xA9D9, 0xA9DE, 0xA9DF]

def rejang : PropertyValue where
  name := "rejang"
  synonyms := ["rjng"]
  since := .v5_1
  bounds :=
    [0xA930, 0xA953, 0xA95F, 0xA95F]

def batak : PropertyValue where
  name := "batak"
  synonyms := ["batk"]
  since := .v6_0
  bounds :=
    [0x1BC0, 0x1BF3, 0x1BFC, 0x1BFF]

end ScannerAlphabet.Unicode.Script
