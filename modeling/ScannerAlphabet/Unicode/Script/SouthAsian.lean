import ScannerAlphabet.Unicode.PropertyValue

/-!
# Scripts of southern Asia

The scripts of the Indian subcontinent and of Tibet.
-/
namespace ScannerAlphabet.Unicode.Script

def devanagari : PropertyValue where
  name := "devanagari"
  synonyms := ["deva"]
  bounds :=
    [0x0900, 0x0950, 0x0955, 0x0963, 0x0966, 0x0977, 0x0979, 0x097F, 0xA8E0, 0xA8FB]

def bengali : PropertyValue where
  name := "bengali"
  synonyms := ["beng"]
  bounds :=
    [0x0981, 0x0983, 0x0985, 0x098C, 0x098F, 0x0990, 0x0993, 0x09A8, 0x09AA, 0x09B0, 0x09B2, 0x09B2,
     0x09B6, 0x09B9, 0x09BC, 0x09C4, 0x09C7, 0x09C8, 0x09CB, 0x09CE, 0x09D7, 0x09D7, 0x09DC, 0x09DD,
     0x09DF, 0x09E3, 0x09E6, 0x09FB]

def gurmukhi : PropertyValue where
  name := "gurmukhi"
  synonyms := ["guru"]
  bounds :=
    [0x0A01, 0x0A03, 0x0A05, 0x0A0A, 0x0A0F, 0x0A10, 0x0A13, 0x0A28, 0x0A2A, 0x0A30, 0x0A32, 0x0A33,
     0x0A35, 0x0A36, 0x0A38, 0x0A39, 0x0A3C, 0x0A3C, 0x0A3E, 0x0A42, 0x0A47, 0x0A48, 0x0A4B, 0x0A4D,
     0x0A51, 0x0A51, 0x0A59, 0x0A5C, 0x0A5E, 0x0A5E, 0x0A66, 0x0A75]

def gujarati : PropertyValue where
  name := "gujarati"
  synonyms := ["gujr"]
  bounds :=
    [0x0A81, 0x0A83, 0x0A85, 0x0A8D, 0x0A8F, 0x0A91, 0x0A93, 0x0AA8, 0x0AAA, 0x0AB0, 0x0AB2, 0x0AB3,
     0x0AB5, 0x0AB9, 0x0ABC, 0x0AC5, 0x0AC7, 0x0AC9, 0x0ACB, 0x0ACD, 0x0AD0, 0x0AD0, 0x0AE0, 0x0AE3,
     0x0AE6, 0x0AEF, 0x0AF1, 0x0AF1]

def oriya : PropertyValue where
  name := "oriya"
  synonyms := ["orya"]
  bounds :=
    [0x0B01, 0x0B03, 0x0B05, 0x0B0C, 0x0B0F, 0x0B10, 0x0B13, 0x0B28, 0x0B2A, 0x0B30, 0x0B32, 0x0B33,
     0x0B35, 0x0B39, 0x0B3C, 0x0B44, 0x0B47, 0x0B48, 0x0B4B, 0x0B4D, 0x0B56, 0x0B57, 0x0B5C, 0x0B5D,
     0x0B5F, 0x0B63, 0x0B66, 0x0B77]

def tamil : PropertyValue where
  name := "tamil"
  synonyms := ["taml"]
  bounds :=
    [0x0B82, 0x0B83, 0x0B85, 0x0B8A, 0x0B8E, 0x0B90, 0x0B92, 0x0B95, 0x0B99, 0x0B9A, 0x0B9C, 0x0B9C,
     0x0B9E, 0x0B9F, 0x0BA3, 0x0BA4, 0x0BA8, 0x0BAA, 0x0BAE, 0x0BB9, 0x0BBE, 0x0BC2, 0x0BC6, 0x0BC8,
     0x0BCA, 0x0BCD, 0x0BD0, 0x0BD0, 0x0BD7, 0x0BD7, 0x0BE6, 0x0BFA]

def telugu : PropertyValue where
  name := "telugu"
  synonyms := ["telu"]
  bounds :=
    [0x0C01, 0x0C03, 0x0C05, 0x0C0C, 0x0C0E, 0x0C10, 0x0C12, 0x0C28, 0x0C2A, 0x0C33, 0x0C35, 0x0C39,
     0x0C3D, 0x0C44, 0x0C46, 0x0C48, 0x0C4A, 0x0C4D, 0x0C55, 0x0C56, 0x0C58, 0x0C59, 0x0C60, 0x0C63,
     0x0C66, 0x0C6F, 0x0C78, 0x0C7F]

def kannada : PropertyValue where
  name := "kannada"
  synonyms := ["knda"]
  bounds :=
    [0x0C82, 0x0C83, 0x0C85, 0x0C8C, 0x0C8E, 0x0C90, 0x0C92, 0x0CA8, 0x0CAA, 0x0CB3, 0x0CB5, 0x0CB9,
     0x0CBC, 0x0CC4, 0x0CC6, 0x0CC8, 0x0CCA, 0x0CCD, 0x0CD5, 0x0CD6, 0x0CDE, 0x0CDE, 0x0CE0, 0x0CE3,
     0x0CE6, 0x0CEF, 0x0CF1, 0x0CF2]

def malayalam : PropertyValue where
  name := "malayalam"
  synonyms := ["mlym"]
  bounds :=
    [0x0D02, 0x0D03, 0x0D05, 0x0D0C, 0x0D0E, 0x0D10, 0x0D12, 0x0D3A, 0x0D3D, 0x0D44, 0x0D46, 0x0D48,
     0x0D4A, 0x0D4E, 0x0D57, 0x0D57, 0x0D60, 0x0D63, 0x0D66, 0x0D75, 0x0D79, 0x0D7F]

def sinhala : PropertyValue where
  name := "sinhala"
  synonyms := ["sinh"]
  since := .v3_0
  bounds :=
    [0x0D82, 0x0D83, 0x0D85, 0x0D96, 0x0D9A, 0x0DB1, 0x0DB3, 0x0DBB, 0x0DBD, 0x0DBD, 0x0DC0, 0x0DC6,
     0x0DCA, 0x0DCA, 0x0DCF, 0x0DD4, 0x0DD6, 0x0DD6, 0x0DD8, 0x0DDF, 0x0DF2, 0x0DF4]

def tibetan : PropertyValue where
  name := "tibetan"
  synonyms := ["tibt"]
  since := .v2_0
  bounds :=
    [0x0F00, 0x0F47, 0x0F49, 0x0F6C, 0x0F71, 0x0F97, 0x0F99, 0x0FBC, 0x0FBE, 0x0FCC, 0x0FCE, 0x0FD4,
     0x0FD9, 0x0FDA]

def limbu : PropertyValue where
  name := "limbu"
  synonyms := ["limb"]
  since := .v4_0
  bounds :=
    [0x1900, 0x191C, 0x1920, 0x192B, 0x1930, 0x193B, 0x1940, 0x1940, 0x1944, 0x194F]

def lepcha : PropertyValue where
  name := "lepcha"
  synonyms := ["lepc"]
  since := .v5_1
  bounds :=
    [0x1C00, 0x1C37, 0x1C3B, 0x1C49, 0x1C4D, 0x1C4F]

def sylotiNagri : PropertyValue where
  name := "sylotinagri"
  synonyms := ["sylo"]
  since := .v4_1
  bounds :=
    [0xA800, 0xA82B]

def saurashtra : PropertyValue where
  name := "saurashtra"
  synonyms := ["saur"]
  since := .v5_1
  bounds :=
    [0xA880, 0xA8C4, 0xA8CE, 0xA8D9]

def meeteiMayek : PropertyValue where
  name := "meeteimayek"
  synonyms := ["mtei"]
  since := .v5_2
  bounds :=
    [0xABC0, 0xABED, 0xABF0, 0xABF9]

def olChiki : PropertyValue where
  name := "olchiki"
  synonyms := ["olck"]
  since := .v5_1
  bounds :=
    [0x1C50, 0x1C7F]

def kaithi : PropertyValue where
  name := "kaithi"
  synonyms := ["kthi"]
  since := .v5_2

def brahmi : PropertyValue where
  name := "brahmi"
  synonyms := ["brah"]
  since := .v6_0

def kharoshthi : PropertyValue where
  name := "kharoshthi"
  synonyms := ["khar"]
  since := .v4_1

end ScannerAlphabet.Unicode.Script
