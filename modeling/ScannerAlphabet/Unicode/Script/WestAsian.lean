import ScannerAlphabet.Unicode.PropertyValue

/-!
# Scripts of western Asia

The scripts of the Near and Middle East, living and ancient.
-/
namespace ScannerAlphabet.Unicode.Script

def arabic : PropertyValue where
  name := "arabic"
  synonyms := ["arab"]
  bounds :=
    [0x0600, 0x0603, 0x0606, 0x060B, 0x060D, 0x061A, 0x061E, 0x061E, 0x0620, 0x063F, 0x0641, 0x064A,
     0x0656, 0x066F, 0x0671, 0x06DC, 0x06DE, 0x06FF, 0x0750, 0x077F, 0xFB50, 0xFBC1, 0xFBD3, 0xFD3D,
     0xFD50, 0xFD8F, 0xFD92, 0xFDC7, 0xFDF0, 0xFDFD, 0xFE70, 0xFE74, 0xFE76, 0xFEFC]

def hebrew : PropertyValue where
  name := "hebrew"
  synonyms := ["hebr"]
  bounds :=
    [0x0591, 0x05C7, 0x05D0, 0x05EA, 0x05F0, 0x05F4, 0xFB1D, 0xFB36, 0xFB38, 0xFB3C, 0xFB3E, 0xFB3E,
     0xFB40, 0xFB41, 0xFB43, 0xFB44, 0xFB46, 0xFB4F]

def syriac : PropertyValue where
  name := "syriac"
  synonyms := ["syrc"]
  since := .v3_0
  bounds :=
    [0x0700, 0x070D, 0x070F, 0x074A, 0x074D, 0x074F]

def thaana : PropertyValue where
  name := "thaana"
  synonyms := ["thaa"]
  since := .v3_0
  bounds :=
    [0x0780, 0x07B1]

def samaritan : PropertyValue where
  name := "samaritan"
  synonyms := ["samr"]
  since := .v5_2
  bounds :=
    [0x0800, 0x082D, 0x0830, 0x083E]

def mandaic : PropertyValue where
  name := "mandaic"
  synonyms := ["mand"]
  since := .v6_0
  bounds :=
    [0x0840, 0x085B, 0x085E, 0x085E]

def imperialAramaic : PropertyValue where
  name := "imperialaramaic"
  synonyms := ["armi"]
  since := .v5_2

def phoenician : PropertyValue where
  name := "phoenician"
  synonyms := ["phnx"]
  since := .v5_0

def avestan : PropertyValue where
  name := "avestan"
  synonyms := ["avst"]
  since := .v5_2

def inscriptionalPahlavi : PropertyValue where
  name := "inscriptionalpahlavi"
  synonyms := ["phli"]
  since := .v5_2

def inscriptionalParthian : PropertyValue where
  name := "inscriptionalparthian"
  synonyms := ["prti"]
  since := .v5_2

def oldSouthArabian : PropertyValue where
  name := "oldsoutharabian"
  synonyms := ["sarb"]
  since := .v5_2

def oldPersian : PropertyValue where
  name := "oldpersian"
  synonyms := ["xpeo"]
  since := .v4_1

def cuneiform : PropertyValue where
  name := "cuneiform"
  synonyms := ["xsux"]
  since := .v5_0

def ugaritic : PropertyValue where
  name := "ugaritic"
  synonyms := ["ugar"]
  since := .v4_0

end ScannerAlphabet.Unicode.Script
