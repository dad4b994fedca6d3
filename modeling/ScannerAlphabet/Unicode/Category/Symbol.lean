import ScannerAlphabet.Unicode.PropertyValue

/-!
# Symbols

The general categories of symbols: mathematical signs, currency signs, modifiers, and the rest.
-/
namespace ScannerAlphabet.Unicode.Category

def mathSymbol : PropertyValue where
  name := "sm"
  synonyms := ["mathsymbol"]
  bounds :=
    [0x002B, 0x002B, 0x003C, 0x003E, 0x007C, 0x007C, 0x007E, 0x007E, 0x00AC, 0x00AC, 0x00B1, 0x00B1,
     0x00D7, 0x00D7, 0x00F7, 0x00F7, 0x03F6, 0x03F6, 0x0606, 0x0608, 0x2044, 0x2044, 0x2052, 0x2052,
     0x207A, 0x207C, 0x208A, 0x208C, 0x2118, 0x2118, 0x2140, 0x2144, 0x214B, 0x214B, 0x2190, 0x2194,
     0x219A, 0x219B, 0x21A0, 0x21A0, 0x21A3, 0x21A3, 0x21A6, 0x21A6, 0x21AE, 0x21AE, 0x21CE, 0x21CF,
     0x21D2, 0x21D2, 0x21D4, 0x21D4, 0x21F4, 0x22FF, 0x2320, 0x2321, 0x237C, 0x237C, 0x239B, 0x23B3,
     0x23DC, 0x23E1, 0x25B7, 0x25B7, 0x25C1, 0x25C1, 0x25F8, 0x25FF, 0x266F, 0x266F, 0x27C0, 0x27C4,
     0x27C7, 0x27CA, 0x27CC, 0x27CC, 0x27CE, 0x27E5, 0x27F0, 0x27FF, 0x2900, 0x2982, 0x2999, 0x29D7,
     0x29DC, 0x29FB, 0x29FE, 0x2AFF, 0x2B30, 0x2B44, 0x2B47, 0x2B4C, 0xFB29, 0xFB29, 0xFE62, 0xFE62,
     0xFE64, 0xFE66, 0xFF0B, 0xFF0B, 0xFF1C, 0xFF1E, 0xFF5C, 0xFF5C, 0xFF5E, 0xFF5E, 0xFFE2, 0xFFE2,
     0xFFE9, 0xFFEC]

def currencySymbol : PropertyValue where
  name := "sc"
  synonyms := ["currencysymbol"]
  bounds :=
    [0x0024, 0x0024, 0x00A2, 0x00A5, 0x060B, 0x060B, 0x09F2, 0x09F3, 0x09FB, 0x09FB, 0x0AF1, 0x0AF1,
     0x0BF9, 0x0BF9, 0x0E3F, 0x0E3F, 0x17DB, 0x17DB, 0x20A0, 0x20B9, 0xA838, 0xA838, 0xFDFC, 0xFDFC,
     0xFE69, 0xFE69, 0xFF04, 0xFF04, 0xFFE0, 0xFFE1, 0xFFE5, 0xFFE6]

def modifierSymbol : PropertyValue where
  name := "sk"
  synonyms := ["modifiersymbol"]
  bounds :=
    [0x005E, 0x005E, 0x0060, 0x0060, 0x00A8, 0x00A8, 0x00AF, 0x00AF, 0x00B4, 0x00B4, 0x00B8, 0x00B8,
     0x02C2, 0x02C5, 0x02D2, 0x02DF, 0x02E5, 0x02EB, 0x02ED, 0x02ED, 0x02EF, 0x02FF, 0x0375, 0x0375,
     0x0384, 0x0385, 0x1FBD, 0x1FBD, 0x1FBF, 0x1FC1, 0x1FCD, 0x1FCF, 0x1FDD, 0x1FDF, 0x1FED, 0x1FEF,
     0x1FFD, 0x1FFE, 0x309B, 0x309C, 0xA700, 0xA716, 0xA720, 0xA721, 0xA789, 0xA78A, 0xFBB2, 0xFBC1,
     0xFF3E, 0xFF3E, 0xFF40, 0xFF40, 0xFFE3, 0xFFE3]

def otherSymbol : PropertyValue where
  name := "so"
  synonyms := ["othersymbol"]
  bounds :=
    [0x00A6, 0x00A6, 0x00A9, 0x00A9, 0x00AE, 0x00AE, 0x00B0, 0x00B0, 0x0482, 0x0482, 0x060E, 0x060F,
     0x06DE, 0x06DE, 0x06E9, 0x06E9, 0x06FD, 0x06FE, 0x07F6, 0x07F6, 0x09FA, 0x09FA, 0x0B70, 0x0B70,
     0x0BF3, 0x0BF8, 0x0BFA, 0x0BFA, 0x0C7F, 0x0C7F, 0x0D79, 0x0D79, 0x0F01, 0x0F03, 0x0F13, 0x0F13,
     0x0F15, 0x0F17, 0x0F1A, 0x0F1F, 0x0F34, 0x0F34, 0x0F36, 0x0F36, 0x0F38, 0x0F38, 0x0FBE, 0x0FC5,
     0x0FC7, 0x0FCC, 0x0FCE, 0x0FCF, 0x0FD5, 0x0FD8, 0x109E, 0x109F, 0x1390, 0x1399, 0x166D, 0x166D,
     0x1940, 0x1940, 0x19DE, 0x19FF, 0x1B61, 0x1B6A, 0x1B74, 0x1B7C, 0x2100, 0x2101, 0x2103, 0x2106,
     0x2108, 0x2109, 0x2114, 0x2114, 0x2116, 0x2117, 0x211E, 0x2123, 0x2125, 0x2125, 0x2127, 0x2127,
     0x2129, 0x2129, 0x212E, 0x212E, 0x213A, 0x213B, 0x214A, 0x214A, 0x214C, 0x214D, 0x214F, 0x214F,
     0x2195, 0x2199, 0x219C, 0x219F, 0x21A1, 0x21A2, 0x21A4, 0x21A5, 0x21A7, 0x21AD, 0x21AF, 0x21CD,
     0x21D0, 0x21D1, 0x21D3, 0x21D3, 0x21D5, 0x21F3, 0x2300, 0x2307, 0x230C, 0x231F, 0x2322, 0x2328,
     0x232B, 0x237B, 0x237D, 0x239A, 0x23B4, 0x23DB, 0x23E2, 0x23F3, 0x2400, 0x2426, 0x2440, 0x244A,
     0x249C, 0x24E9, 0x2500, 0x25B6, 0x25B8, 0x25C0, 0x25C2, 0x25F7, 0x2600, 0x266E, 0x2670, 0x26FF,
     0x2701, 0x2767, 0x2794, 0x27BF, 0x2800, 0x28FF, 0x2B00, 0x2B2F, 0x2B45, 0x2B46, 0x2B50, 0x2B59,
     0x2CE5, 0x2CEA, 0x2E80, 0x2E99, 0x2E9B, 0x2EF3, 0x2F00, 0x2FD5, 0x2FF0, 0x2FFB, 0x3004, 0x3004,
     0x3012, 0x3013, 0x3020, 0x3020, 0x3036, 0x3037, 0x303E, 0x303F, 0x3190, 0x3191, 0x3196, 0x319F,
     0x31C0, 0x31E3, 0x3200, 0x321E, 0x322A, 0x3247, 0x3250, 0x3250, 0x3260, 0x327F, 0x328A, 0x32B0,
     0x32C0, 0x32FE, 0x3300, 0x33FF, 0x4DC0, 0x4DFF, 0xA490, 0xA4C6, 0xA828, 0xA82B, 0xA836, 0xA837,
     0xA839, 0xA839, 0xAA77, 0xAA79, 0xFDFD, 0xFDFD, 0xFFE4, 0xFFE4, 0xFFE8, 0xFFE8, 0xFFED, 0xFFEE,
     0xFFFC, 0xFFFD]

end ScannerAlphabet.Unicode.Category
