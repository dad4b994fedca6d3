import ScannerAlphabet.Unicode.PropertyValue

/-!
# Scripts of Africa and America

The scripts of Africa and America, and patterns of raised dots.
-/
namespace ScannerAlphabet.Unicode.Script

def ethiopic : PropertyValue where
  name := "ethiopic"
  synonyms := ["ethi"]
  since := .v3_0
  bounds :=
    [0x1200, 0x1248, 0x124A, 0x124D, 0x1250, 0x1256, 0x1258, 0x1258, 0x125A, 0x125D, 0x1260, 0x1288,
     0x128A, 0x128D, 0x1290, 0x12B0, 0x12B2, 0x12B5, 0x12B8, 0x12BE, 0x12C0, 0x12C0, 0x12C2, 0x12C5,
     0x12C8, 0x12D6, 0x12D8, 0x1310, 0x1312, 0x1315, 0x1318, 0x135A, 0x135D, 0x137C, 0x1380, 0x1399,
     0x2D80, 0x2D96, 0x2DA0, 0x2DA6, 0x2DA8, 0x2DAE, 0x2DB0, 0x2DB6, 0x2DB8, 0x2DBE, 0x2DC0, 0x2DC6,
     0x2DC8, 0x2DCE, 0x2DD0, 0x2DD6, 0x2DD8, 0x2DDE, 0xAB01, 0xAB06, 0xAB09, 0xAB0E, 0xAB11, 0xAB16,
     0xAB20, 0xAB26, 0xAB28, 0xAB2E]

def osmanya : PropertyValue where
  name := "osmanya"
  synonyms := ["osma"]
  since := .v4_0

def tifinagh : PropertyValue where
  name := "tifinagh"
  synonyms := ["tfng"]
  since := .v4_1
  bounds :=
    [0x2D30, 0x2D65, 0x2D6F, 0x2D70, 0x2D7F, 0x2D7F]

def nko : PropertyValue where
  name := "nko"
  synonyms := ["nkoo"]
  since := .v5_0
  bounds :=
    [0x07C0, 0x07FA]

def vai : PropertyValue where
  name := "vai"
  synonyms := ["vaii"]
  since := .v5_1
  bounds :=
    [0xA500, 0xA62B]

def bamum : PropertyValue where
  name := "bamum"
  synonyms := ["bamu"]
  since := .v5_2
  bounds :=
    [0xA6A0, 0xA6F7]

def egyptianHieroglyphs : PropertyValue where
  name := "egyptianhieroglyphs"
  synonyms := ["egyp"]
  since := .v5_2

def cherokee : PropertyValue where
  name := "cherokee"
  synonyms := ["cher"]
  since := .v3_0
  bounds :=
    [0x13A0, 0x13F4]

def canadianAboriginal : PropertyValue where
  name := "canadianaboriginal"
  synonyms := ["cans"]
  since := .v3_0
  bounds :=
    [0x1400, 0x167F, 0x18B0, 0x18F5]

def deseret : PropertyValue where
  name := "deseret"
  synonyms := ["dsrt"]
  since := .v3_1

def braille : PropertyValue where
  name := "braille"
  synonyms := ["brai"]
  since := .v3_0
  bounds :=
    [0x2800, 0x28FF]

end ScannerAlphabet.Unicode.Script
