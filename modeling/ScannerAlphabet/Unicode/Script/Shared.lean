import ScannerAlphabet.Unicode.PropertyValue

/-!
# Characters of several scripts

Characters that many scripts use, and marks that take the script of what they stand on.
-/
namespace ScannerAlphabet.Unicode.Script

def common : PropertyValue where
  name := "common"
  synonyms := ["zyyy"]
  bounds :=
    [0x0000, 0x0040, 0x005B, 0x0060, 0x007B, 0x00A9, 0x00AB, 0x00B9, 0x00BB, 0x00BF, 0x00D7, 0x00D7,
     0x00F7, 0x00F7, 0x02B9, 0x02DF, 0x02E5, 0x02E9, 0x02EC, 0x02FF, 0x0374, 0x0374, 0x037E, 0x037E,
     0x0385, 0x0385, 0x0387, 0x0387, 0x060C, 0x060C, 0x061B, 0x061B, 0x061F, 0x061F, 0x0640, 0x0640,
     0x06DD, 0x06DD, 0x0964, 0x0965, 0x0E3F, 0x0E3F, 0x0FD5, 0x0FD8, 0x10FB, 0x10FB, 0x16EB, 0x16ED,
     0x1735, 0x1736, 0x1802, 0x1803, 0x1805, 0x1805, 0x1CD3, 0x1CD3, 0x1CE1, 0x1CE1, 0x1CE9, 0x1CEC,
     0x1CEE, 0x1CF2, 0x2000, 0x200B, 0x200E, 0x2064, 0x206A, 0x2070, 0x2074, 0x207E, 0x2080, 0x208E,
     0x20A0, 0x20B9, 0x2100, 0x2125, 0x2127, 0x2129, 0x212C, 0x2131, 0x2133, 0x214D, 0x214F, 0x215F,
     0x2189, 0x2189, 0x2190, 0x23F3, 0x2400, 0x2426, 0x2440, 0x244A, 0x2460, 0x26FF, 0x2701, 0x27CA,
     0x27CC, 0x27CC, 0x27CE, 0x27FF, 0x2900, 0x2B4C, 0x2B50, 0x2B59, 0x2E00, 0x2E31, 0x2FF0, 0x2FFB,
     0x3000, 0x3004, 0x3006, 0x3006, 0x3008, 0x3020, 0x3030, 0x3037, 0x303C, 0x303F, 0x309B, 0x309C,
     0x30A0, 0x30A0, 0x30FB, 0x30FC, 0x3190, 0x319F, 0x31C0, 0x31E3, 0x3220, 0x325F, 0x327F, 0x32CF,
     0x3358, 0x33FF, 0x4DC0, 0x4DFF, 0xA700, 0xA721, 0xA788, 0xA78A, 0xA830, 0xA839, 0xA92E, 0xA92E,
     0xA9CF, 0xA9CF, 0xFD3E, 0xFD3F, 0xFE10, 0xFE19, 0xFE30, 0xFE52, 0xFE54, 0xFE66, 0xFE68, 0xFE6B,
     0xFEFF, 0xFEFF, 0xFF01, 0xFF20, 0xFF3B, 0xFF40, 0xFF5B, 0xFF65, 0xFF70, 0xFF70, 0xFF9E, 0xFF9F,
     0xFFE0, 0xFFE6, 0xFFE8, 0xFFEE, 0xFFF9, 0xFFFD]

def inherited : PropertyValue where
  name := "inherited"
  synonyms := ["zinh", "qaai"]
  bounds :=
    [0x0300, 0x036F, 0x0485, 0x0486, 0x064B, 0x0655, 0x0670, 0x0670, 0x0951, 0x0954, 0x1CD0, 0x1CD2,
     0x1CD4, 0x1CE0, 0x1CE2, 0x1CE8, 0x1CED, 0x1CED, 0x1DC0, 0x1DE6, 0x1DFC, 0x1DFF, 0x200C, 0x200D,
     0x20D0, 0x20F0, 0x302A, 0x302D, 0x3099, 0x309A, 0xFE00, 0xFE0F, 0xFE20, 0xFE26]

end ScannerAlphabet.Unicode.Script
