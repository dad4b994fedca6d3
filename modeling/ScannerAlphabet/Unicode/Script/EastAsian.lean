import ScannerAlphabet.Unicode.PropertyValue

/-!
# Scripts of eastern and central Asia

The scripts of China, Japan, Korea and Mongolia.
-/
namespace ScannerAlphabet.Unicode.Script

def han : PropertyValue where
  name := "han"
  synonyms := ["hani"]
  bounds :=
    [0x2E80, 0x2E99, 0x2E9B, 0x2EF3, 0x2F00, 0x2FD5, 0x3005, 0x3005, 0x3007, 0x3007, 0x3021, 0x3029,
     0x3038, 0x303B, 0x3400, 0x4DB5, 0x4E00, 0x9FCB, 0xF900, 0xFA2D, 0xFA30, 0xFA6D, 0xFA70, 0xFAD9]

def hiragana : PropertyValue where
  name := "hiragana"
  synonyms := ["hira"]
  bounds :=
    [0x3041, 0x3096, 0x309D, 0x309F]

def katakana : PropertyValue where
  name := "katakana"
  synonyms := ["kana"]
  bounds :=
    [0x30A1, 0x30FA, 0x30FD, 0x30FF, 0x31F0, 0x31FF, 0x32D0, 0x32FE, 0x3300, 0x3357, 0xFF66, 0xFF6F,
     0xFF71, 0xFF9D]

def bopomofo : PropertyValue where
  name := "bopomofo"
  synonyms := ["bopo"]
  bounds :=
    [0x02EA, 0x02EB, 0x3105, 0x312D, 0x31A0, 0x31BA]

def hangul : PropertyValue where
  name := "hangul"
  synonyms := ["hang"]
  bounds :=
    [0x1100, 0x11FF, 0x302E, 0x302F, 0x3131, 0x318E, 0x3200, 0x321E, 0x3260, 0x327E, 0xA960, 0xA97C,
     0xAC00, 0xD7A3, 0xD7B0, 0xD7C6, 0xD7CB, 0xD7FB, 0xFFA0, 0xFFBE, 0xFFC2, 0xFFC7, 0xFFCA, 0xFFCF,
     0xFFD2, 0xFFD7, 0xFFDA, 0xFFDC]

def yi : PropertyValue where
  name := "yi"
  synonyms := ["yiii"]
  since := .v3_0
  bounds :=
    [0xA000, 0xA48C, 0xA490, 0xA4C6]

def lisu : PropertyValue where
  name := "lisu"
  since := .v5_2
  bounds :=
    [0xA4D0, 0xA4FF]

def mongolian : PropertyValue where
  name := "mongolian"
  synonyms := ["mong"]
  since := .v3_0
  bounds :=
    [0x1800, 0x1801, 0x1804, 0x1804, 0x1806, 0x180E, 0x1810, 0x1819, 0x1820, 0x1877, 0x1880, 0x18AA]

def phagsPa : PropertyValue where
  name := "phagspa"
  synonyms := ["phag"]
  since := .v5_0
  bounds :=
    [0xA840, 0xA877]

def oldTurkic : PropertyValue where
  name := "oldturkic"
  synonyms := ["orkh"]
  since := .v5_2

end ScannerAlphabet.Unicode.Script
