import ScannerAlphabet.CharSet.Packed
import ScannerAlphabet.Unicode.Version

/-!
# Repertoires

The code points that each version assigns, up to `CodePoint.last`. Versions only ever add code
points, so that each lists what it adds to the ones before.
-/
namespace ScannerAlphabet.Unicode.Repertoire

def added1_1 : List Nat :=
  [0x0000, 0x01F5, 0x01FA, 0x0217, 0x0250, 0x02A8, 0x02B0, 0x02DE, 0x02E0, 0x02E9, 0x0300, 0x0345,
   0x0360, 0x0361, 0x0374, 0x0375, 0x037A, 0x037A, 0x037E, 0x037E, 0x0384, 0x038A, 0x038C, 0x038C,
   0x038E, 0x03A1, 0x03A3, 0x03CE, 0x03D0, 0x03D6, 0x03DA, 0x03DA, 0x03DC, 0x03DC, 0x03DE, 0x03DE,
   0x03E0, 0x03E0, 0x03E2, 0x03F3, 0x0401, 0x040C, 0x040E, 0x044F, 0x0451, 0x045C, 0x045E, 0x0486,
   0x0490, 0x04C4, 0x04C7, 0x04C8, 0x04CB, 0x04CC, 0x04D0, 0x04EB, 0x04EE, 0x04F5, 0x04F8, 0x04F9,
   0x0531, 0x0556, 0x0559, 0x055F, 0x0561, 0x0587, 0x0589, 0x0589, 0x05B0, 0x05B9, 0x05BB, 0x05C3,
   0x05D0, 0x05EA, 0x05F0, 0x05F4, 0x060C, 0x060C, 0x061B, 0x061B, 0x061F, 0x061F, 0x0621, 0x063A,
   0x0640, 0x0652, 0x0660, 0x066D, 0x0670, 0x06B7, 0x06BA, 0x06BE, 0x06C0, 0x06CE, 0x06D0, 0x06ED,
   0x06F0, 0x06F9, 0x0901, 0x0903, 0x0905, 0x0939, 0x093C, 0x094D, 0x0950, 0x0954, 0x0958, 0x0970,
   0x0981, 0x0983, 0x0985, 0x098C, 0x098F, 0x0990, 0x0993, 0x09A8, 0x09AA, 0x09B0, 0x09B2, 0x09B2,
   0x09B6, 0x09B9, 0x09BC, 0x09BC, 0x09BE, 0x09C4, 0x09C7, 0x09C8, 0x09CB, 0x09CD, 0x09D7, 0x09D7,
   0x09DC, 0x09DD, 0x09DF, 0x09E3, 0x09E6, 0x09FA, 0x0A02, 0x0A02, 0x0A05, 0x0A0A, 0x0A0F, 0x0A10,
   0x0A13, 0x0A28, 0x0A2A, 0x0A30, 0x0A32, 0x0A33, 0x0A35, 0x0A36, 0x0A38, 0x0A39, 0x0A3C, 0x0A3C,
   0x0A3E, 0x0A42, 0x0A47, 0x0A48, 0x0A4B, 0x0A4D, 0x0A59, 0x0A5C, 0x0A5E, 0x0A5E, 0x0A66, 0x0A74,
   0x0A81, 0x0A83, 0x0A85, 0x0A8B, 0x0A8D, 0x0A8D, 0x0A8F, 0x0A91, 0x0A93, 0x0AA8, 0x0AAA, 0x0AB0,
   0x0AB2, 0x0AB3, 0x0AB5, 0x0AB9, 0x0ABC, 0x0AC5, 0x0AC7, 0x0AC9, 0x0ACB, 0x0ACD, 0x0AD0, 0x0AD0,
   0x0AE0, 0x0AE0, 0x0AE6, 0x0AEF, 0x0B01, 0x0B03, 0x0B05, 0x0B0C, 0x0B0F, 0x0B10, 0x0B13, 0x0B28,
   0x0B2A, 0x0B30, 0x0B32, 0x0B33, 0x0B36, 0x0B39, 0x0B3C, 0x0B43, 0x0B47, 0x0B48, 0x0B4B, 0x0B4D,
   0x0B56, 0x0B57, 0x0B5C, 0x0B5D, 0x0B5F, 0x0B61, 0x0B66, 0x0B70, 0x0B82, 0x0B83, 0x0B85, 0x0B8A,
   0x0B8E, 0x0B90, 0x0B92, 0x0B95, 0x0B99, 0x0B9A, 0x0B9C, 0x0B9C, 0x0B9E, 0x0B9F, 0x0BA3, 0x0BA4,
   0x0BA8, 0x0BAA, 0x0BAE, 0x0BB5, 0x0BB7, 0x0BB9, 0x0BBE, 0x0BC2, 0x0BC6, 0x0BC8, 0x0BCA, 0x0BCD,
   0x0BD7, 0x0BD7, 0x0BE7, 0x0BF2, 0x0C01, 0x0C03, 0x0C05, 0x0C0C, 0x0C0E, 0x0C10, 0x0C12, 0x0C28,
   0x0C2A, 0x0C33, 0x0C35, 0x0C39, 0x0C3E, 0x0C44, 0x0C46, 0x0C48, 0x0C4A, 0x0C4D, 0x0C55, 0x0C56,
   0x0C60, 0x0C61, 0x0C66, 0x0C6F, 0x0C82, 0x0C83, 0x0C85, 0x0C8C, 0x0C8E, 0x0C90, 0x0C92, 0x0CA8,
   0x0CAA, 0x0CB3, 0x0CB5, 0x0CB9, 0x0CBE, 0x0CC4, 0x0CC6, 0x0CC8, 0x0CCA, 0x0CCD, 0x0CD5, 0x0CD6,
   0x0CDE, 0x0CDE, 0x0CE0, 0x0CE1, 0x0CE6, 0x0CEF, 0x0D02, 0x0D03, 0x0D05, 0x0D0C, 0x0D0E, 0x0D10,
   0x0D12, 0x0D28, 0x0D2A, 0x0D39, 0x0D3E, 0x0D43, 0x0D46, 0x0D48, 0x0D4A, 0x0D4D, 0x0D57, 0x0D57,
   0x0D60, 0x0D61, 0x0D66, 0x0D6F, 0x0E01, 0x0E3A, 0x0E3F, 0x0E5B, 0x0E81, 0x0E82, 0x0E84, 0x0E84,
   0x0E87, 0x0E88, 0x0E8A, 0x0E8A, 0x0E8D, 0x0E8D, 0x0E94, 0x0E97, 0x0E99, 0x0E9F, 0x0EA1, 0x0EA3,
   0x0EA5, 0x0EA5, 0x0EA7, 0x0EA7, 0x0EAA, 0x0EAB, 0x0EAD, 0x0EB9, 0x0EBB, 0x0EBD, 0x0EC0, 0x0EC4,
   0x0EC6, 0x0EC6, 0x0EC8, 0x0ECD, 0x0ED0, 0x0ED9, 0x0EDC, 0x0EDD, 0x10A0, 0x10C5, 0x10D0, 0x10F6,
   0x10FB, 0x10FB, 0x1100, 0x1159, 0x115F, 0x11A2, 0x11A8, 0x11F9, 0x1E00, 0x1E9A, 0x1EA0, 0x1EF9,
   0x1F00, 0x1F15, 0x1F18, 0x1F1D, 0x1F20, 0x1F45, 0x1F48, 0x1F4D, 0x1F50, 0x1F57, 0x1F59, 0x1F59,
   0x1F5B, 0x1F5B, 0x1F5D, 0x1F5D, 0x1F5F, 0x1F7D, 0x1F80, 0x1FB4, 0x1FB6, 0x1FC4, 0x1FC6, 0x1FD3,
   0x1FD6, 0x1FDB, 0x1FDD, 0x1FEF, 0x1FF2, 0x1FF4, 0x1FF6, 0x1FFE, 0x2000, 0x202E, 0x2030, 0x2046,
   0x206A, 0x2070, 0x2074, 0x208E, 0x20A0, 0x20AA, 0x20D0, 0x20E1, 0x2100, 0x2138, 0x2153, 0x2182,
   0x2190, 0x21EA, 0x2200, 0x22F1, 0x2300, 0x2300, 0x2302, 0x237A, 0x2400, 0x2424, 0x2440, 0x244A,
   0x2460, 0x24EA, 0x2500, 0x2595, 0x25A0, 0x25EF, 0x2600, 0x2613, 0x261A, 0x266F, 0x2701, 0x2704,
   0x2706, 0x2709, 0x270C, 0x2727, 0x2729, 0x274B, 0x274D, 0x274D, 0x274F, 0x2752, 0x2756, 0x2756,
   0x2758, 0x275E, 0x2761, 0x2767, 0x2776, 0x2794, 0x2798, 0x27AF, 0x27B1, 0x27BE, 0x3000, 0x3037,
   0x303F, 0x303F, 0x3041, 0x3094, 0x3099, 0x309E, 0x30A1, 0x30FE, 0x3105, 0x312C, 0x3131, 0x318E,
   0x3190, 0x319F, 0x3200, 0x321C, 0x3220, 0x3243, 0x3260, 0x327B, 0x327F, 0x32B0, 0x32C0, 0x32CB,
   0x32D0, 0x32FE, 0x3300, 0x3376, 0x337B, 0x33DD, 0x33E0, 0x33FE, 0x4E00, 0x9FA5, 0xE000, 0xFA2D,
   0xFB00, 0xFB06, 0xFB13, 0xFB17, 0xFB1E, 0xFB36, 0xFB38, 0xFB3C, 0xFB3E, 0xFB3E, 0xFB40, 0xFB41,
   0xFB43, 0xFB44, 0xFB46, 0xFBB1, 0xFBD3, 0xFD3F, 0xFD50, 0xFD8F, 0xFD92, 0xFDC7, 0xFDF0, 0xFDFB,
   0xFE20, 0xFE23, 0xFE30, 0xFE44, 0xFE49, 0xFE52, 0xFE54, 0xFE66, 0xFE68, 0xFE6B, 0xFE70, 0xFE72,
   0xFE74, 0xFE74, 0xFE76, 0xFEFC, 0xFEFF, 0xFEFF, 0xFF01, 0xFF5E, 0xFF61, 0xFFBE, 0xFFC2, 0xFFC7,
   0xFFCA, 0xFFCF, 0xFFD2, 0xFFD7, 0xFFDA, 0xFFDC, 0xFFE0, 0xFFE6, 0xFFE8, 0xFFEE, 0xFFFD, 0xFFFD]

def added2_0 : List Nat :=
  [0x0591, 0x05A1, 0x05A3, 0x05AF, 0x05C4, 0x05C4, 0x0F00, 0x0F47, 0x0F49, 0x0F69, 0x0F71, 0x0F8B,
   0x0F90, 0x0F95, 0x0F97, 0x0F97, 0x0F99, 0x0FAD, 0x0FB1, 0x0FB7, 0x0FB9, 0x0FB9, 0x1E9B, 0x1E9B,
   0x20AB, 0x20AB, 0xAC00, 0xD7A3, 0xD800, 0xDFFF]

def added2_1 : List Nat :=
  [0x20AC, 0x20AC, 0xFFFC, 0xFFFC]

def added3_0 : List Nat :=
  [0x01F6, 0x01F9, 0x0218, 0x021F, 0x0222, 0x0233, 0x02A9, 0x02AD, 0x02DF, 0x02DF, 0x02EA, 0x02EE,
   0x0346, 0x034E, 0x0362, 0x0362, 0x03D7, 0x03D7, 0x03DB, 0x03DB, 0x03DD, 0x03DD, 0x03DF, 0x03DF,
   0x03E1, 0x03E1, 0x0400, 0x0400, 0x040D, 0x040D, 0x0450, 0x0450, 0x045D, 0x045D, 0x0488, 0x0489,
   0x048C, 0x048F, 0x04EC, 0x04ED, 0x058A, 0x058A, 0x0653, 0x0655, 0x06B8, 0x06B9, 0x06BF, 0x06BF,
   0x06CF, 0x06CF, 0x06FA, 0x06FE, 0x0700, 0x070D, 0x070F, 0x072C, 0x0730, 0x074A, 0x0780, 0x07B0,
   0x0D82, 0x0D83, 0x0D85, 0x0D96, 0x0D9A, 0x0DB1, 0x0DB3, 0x0DBB, 0x0DBD, 0x0DBD, 0x0DC0, 0x0DC6,
   0x0DCA, 0x0DCA, 0x0DCF, 0x0DD4, 0x0DD6, 0x0DD6, 0x0DD8, 0x0DDF, 0x0DF2, 0x0DF4, 0x0F6A, 0x0F6A,
   0x0F96, 0x0F96, 0x0FAE, 0x0FB0, 0x0FB8, 0x0FB8, 0x0FBA, 0x0FBC, 0x0FBE, 0x0FCC, 0x0FCF, 0x0FCF,
   0x1000, 0x1021, 0x1023, 0x1027, 0x1029, 0x102A, 0x102C, 0x1032, 0x1036, 0x1039, 0x1040, 0x1059,
   0x1200, 0x1206, 0x1208, 0x1246, 0x1248, 0x1248, 0x124A, 0x124D, 0x1250, 0x1256, 0x1258, 0x1258,
   0x125A, 0x125D, 0x1260, 0x1286, 0x1288, 0x1288, 0x128A, 0x128D, 0x1290, 0x12AE, 0x12B0, 0x12B0,
   0x12B2, 0x12B5, 0x12B8, 0x12BE, 0x12C0, 0x12C0, 0x12C2, 0x12C5, 0x12C8, 0x12CE, 0x12D0, 0x12D6,
   0x12D8, 0x12EE, 0x12F0, 0x130E, 0x1310, 0x1310, 0x1312, 0x1315, 0x1318, 0x131E, 0x1320, 0x1346,
   0x1348, 0x135A, 0x1361, 0x137C, 0x13A0, 0x13F4, 0x1401, 0x1676, 0x1680, 0x169C, 0x16A0, 0x16F0,
   0x1780, 0x17DC, 0x17E0, 0x17E9, 0x1800, 0x180E, 0x1810, 0x1819, 0x1820, 0x1877, 0x1880, 0x18A9,
   0x202F, 0x202F, 0x2048, 0x204D, 0x20AD, 0x20AF, 0x20E2, 0x20E3, 0x2139, 0x213A, 0x2183, 0x2183,
   0x21EB, 0x21F3, 0x2301, 0x2301, 0x237B, 0x237B, 0x237D, 0x239A, 0x2425, 0x2426, 0x25F0, 0x25F7,
   0x2619, 0x2619, 0x2670, 0x2671, 0x2800, 0x28FF, 0x2E80, 0x2E99, 0x2E9B, 0x2EF3, 0x2F00, 0x2FD5,
   0x2FF0, 0x2FFB, 0x3038, 0x303A, 0x303E, 0x303E, 0x31A0, 0x31B7, 0x3400, 0x4DB5, 0xA000, 0xA48C,
   0xA490, 0xA4A1, 0xA4A4, 0xA4B3, 0xA4B5, 0xA4C0, 0xA4C2, 0xA4C4, 0xA4C6, 0xA4C6, 0xFB1D, 0xFB1D,
   0xFFF9, 0xFFFB]

def added3_1 : List Nat :=
  [0x03F4, 0x03F5]

def added3_2 : List Nat :=
  [0x0220, 0x0220, 0x034F, 0x034F, 0x0363, 0x036F, 0x03D8, 0x03D9, 0x03F6, 0x03F6, 0x048A, 0x048B,
   0x04C5, 0x04C6, 0x04C9, 0x04CA, 0x04CD, 0x04CE, 0x0500, 0x050F, 0x066E, 0x066F, 0x07B1, 0x07B1,
   0x10F7, 0x10F8, 0x1700, 0x170C, 0x170E, 0x1714, 0x1720, 0x1736, 0x1740, 0x1753, 0x1760, 0x176C,
   0x176E, 0x1770, 0x1772, 0x1773, 0x2047, 0x2047, 0x204E, 0x2052, 0x2057, 0x2057, 0x205F, 0x2063,
   0x2071, 0x2071, 0x20B0, 0x20B1, 0x20E4, 0x20EA, 0x213D, 0x214B, 0x21F4, 0x21FF, 0x22F2, 0x22FF,
   0x237C, 0x237C, 0x239B, 0x23CE, 0x24EB, 0x24FE, 0x2596, 0x259F, 0x25F8, 0x25FF, 0x2616, 0x2617,
   0x2672, 0x267D, 0x2680, 0x2689, 0x2768, 0x2775, 0x27D0, 0x27EB, 0x27F0, 0x27FF, 0x2900, 0x2AFF,
   0x303B, 0x303D, 0x3095, 0x3096, 0x309F, 0x30A0, 0x30FF, 0x30FF, 0x31F0, 0x31FF, 0x3251, 0x325F,
   0x32B1, 0x32BF, 0xA4A2, 0xA4A3, 0xA4B4, 0xA4B4, 0xA4C1, 0xA4C1, 0xA4C5, 0xA4C5, 0xFA30, 0xFA6A,
   0xFDFC, 0xFDFC, 0xFE00, 0xFE0F, 0xFE45, 0xFE46, 0xFE73, 0xFE73, 0xFF5F, 0xFF60]

def added4_0 : List Nat :=
  [0x0221, 0x0221, 0x0234, 0x0236, 0x02AE, 0x02AF, 0x02EF, 0x02FF, 0x0350, 0x0357, 0x035D, 0x035F,
   0x03F7, 0x03FB, 0x0600, 0x0603, 0x060D, 0x0615, 0x0656, 0x0658, 0x06EE, 0x06EF, 0x06FF, 0x06FF,
   0x072D, 0x072F, 0x074D, 0x074F, 0x0904, 0x0904, 0x09BD, 0x09BD, 0x0A01, 0x0A01, 0x0A03, 0x0A03,
   0x0A8C, 0x0A8C, 0x0AE1, 0x0AE3, 0x0AF1, 0x0AF1, 0x0B35, 0x0B35, 0x0B71, 0x0B71, 0x0BF3, 0x0BFA,
   0x0CBC, 0x0CBD, 0x17DD, 0x17DD, 0x17F0, 0x17F9, 0x1900, 0x191C, 0x1920, 0x192B, 0x1930, 0x193B,
   0x1940, 0x1940, 0x1944, 0x196D, 0x1970, 0x1974, 0x19E0, 0x19FF, 0x1D00, 0x1D6B, 0x2053, 0x2054,
   0x213B, 0x213B, 0x23CF, 0x23D0, 0x24FF, 0x24FF, 0x2614, 0x2615, 0x268A, 0x2691, 0x26A0, 0x26A1,
   0x2B00, 0x2B0D, 0x321D, 0x321E, 0x3250, 0x3250, 0x327C, 0x327D, 0x32CC, 0x32CF, 0x3377, 0x337A,
   0x33DE, 0x33DF, 0x33FF, 0x33FF, 0x4DC0, 0x4DFF, 0xFDFD, 0xFDFD, 0xFE47, 0xFE48]

def added4_1 : List Nat :=
  [0x0237, 0x0241, 0x0358, 0x035C, 0x03FC, 0x03FF, 0x04F6, 0x04F7, 0x05A2, 0x05A2, 0x05C5, 0x05C7,
   0x060B, 0x060B, 0x061E, 0x061E, 0x0659, 0x065E, 0x0750, 0x076D, 0x097D, 0x097D, 0x09CE, 0x09CE,
   0x0BB6, 0x0BB6, 0x0BE6, 0x0BE6, 0x0FD0, 0x0FD1, 0x10F9, 0x10FA, 0x10FC, 0x10FC, 0x1207, 0x1207,
   0x1247, 0x1247, 0x1287, 0x1287, 0x12AF, 0x12AF, 0x12CF, 0x12CF, 0x12EF, 0x12EF, 0x130F, 0x130F,
   0x131F, 0x131F, 0x1347, 0x1347, 0x135F, 0x1360, 0x1380, 0x1399, 0x1980, 0x19A9, 0x19B0, 0x19C9,
   0x19D0, 0x19D9, 0x19DE, 0x19DF, 0x1A00, 0x1A1B, 0x1A1E, 0x1A1F, 0x1D6C, 0x1DC3, 0x2055, 0x2056,
   0x2058, 0x205E, 0x2090, 0x2094, 0x20B2, 0x20B5, 0x20EB, 0x20EB, 0x213C, 0x213C, 0x214C, 0x214C,
   0x23D1, 0x23DB, 0x2618, 0x2618, 0x267E, 0x267F, 0x2692, 0x269C, 0x26A2, 0x26B1, 0x27C0, 0x27C6,
   0x2B0E, 0x2B13, 0x2C00, 0x2C2E, 0x2C30, 0x2C5E, 0x2C80, 0x2CEA, 0x2CF9, 0x2D25, 0x2D30, 0x2D65,
   0x2D6F, 0x2D6F, 0x2D80, 0x2D96, 0x2DA0, 0x2DA6, 0x2DA8, 0x2DAE, 0x2DB0, 0x2DB6, 0x2DB8, 0x2DBE,
   0x2DC0, 0x2DC6, 0x2DC8, 0x2DCE, 0x2DD0, 0x2DD6, 0x2DD8, 0x2DDE, 0x2E00, 0x2E17, 0x2E1C, 0x2E1D,
   0x31C0, 0x31CF, 0x327E, 0x327E, 0x9FA6, 0x9FBB, 0xA700, 0xA716, 0xA800, 0xA82B, 0xFA70, 0xFAD9,
   0xFE10, 0xFE19]

def added5_0 : List Nat :=
  [0x0242, 0x024F, 0x037B, 0x037D, 0x04CF, 0x04CF, 0x04FA, 0x04FF, 0x0510, 0x0513, 0x05BA, 0x05BA,
   0x07C0, 0x07FA, 0x097B, 0x097C, 0x097E, 0x097F, 0x0CE2, 0x0CE3, 0x0CF1, 0x0CF2, 0x1B00, 0x1B4B,
   0x1B50, 0x1B7C, 0x1DC4, 0x1DCA, 0x1DFE, 0x1DFF, 0x20EC, 0x20EF, 0x214D, 0x214E, 0x2184, 0x2184,
   0x23DC, 0x23E7, 0x26B2, 0x26B2, 0x27C7, 0x27CA, 0x2B14, 0x2B1A, 0x2B20, 0x2B23, 0x2C60, 0x2C6C,
   0x2C74, 0x2C77, 0xA717, 0xA71A, 0xA720, 0xA721, 0xA840, 0xA877]

def added5_1 : List Nat :=
  [0x0370, 0x0373, 0x0376, 0x0377, 0x03CF, 0x03CF, 0x0487, 0x0487, 0x0514, 0x0523, 0x0606, 0x060A,
   0x0616, 0x061A, 0x063B, 0x063F, 0x076E, 0x077F, 0x0971, 0x0972, 0x0A51, 0x0A51, 0x0A75, 0x0A75,
   0x0B44, 0x0B44, 0x0B62, 0x0B63, 0x0BD0, 0x0BD0, 0x0C3D, 0x0C3D, 0x0C58, 0x0C59, 0x0C62, 0x0C63,
   0x0C78, 0x0C7F, 0x0D3D, 0x0D3D, 0x0D44, 0x0D44, 0x0D62, 0x0D63, 0x0D70, 0x0D75, 0x0D79, 0x0D7F,
   0x0F6B, 0x0F6C, 0x0FCE, 0x0FCE, 0x0FD2, 0x0FD4, 0x1022, 0x1022, 0x1028, 0x1028, 0x102B, 0x102B,
   0x1033, 0x1035, 0x103A, 0x103F, 0x105A, 0x1099, 0x109E, 0x109F, 0x18AA, 0x18AA, 0x1B80, 0x1BAA,
   0x1BAE, 0x1BB9, 0x1C00, 0x1C37, 0x1C3B, 0x1C49, 0x1C4D, 0x1C7F, 0x1DCB, 0x1DE6, 0x1E9C, 0x1E9F,
   0x1EFA, 0x1EFF, 0x2064, 0x2064, 0x20F0, 0x20F0, 0x214F, 0x214F, 0x2185, 0x2188, 0x269D, 0x269D,
   0x26B3, 0x26BC, 0x26C0, 0x26C3, 0x27CC, 0x27CC, 0x27EC, 0x27EF, 0x2B1B, 0x2B1F, 0x2B24, 0x2B4C,
   0x2B50, 0x2B54, 0x2C6D, 0x2C6F, 0x2C71, 0x2C73, 0x2C78, 0x2C7D, 0x2DE0, 0x2DFF, 0x2E18, 0x2E1B,
   0x2E1E, 0x2E30, 0x312D, 0x312D, 0x31D0, 0x31E3, 0x9FBC, 0x9FC3, 0xA500, 0xA62B, 0xA640, 0xA65F,
   0xA662, 0xA673, 0xA67C, 0xA697, 0xA71B, 0xA71F, 0xA722, 0xA78C, 0xA7FB, 0xA7FF, 0xA880, 0xA8C4,
   0xA8CE, 0xA8D9, 0xA900, 0xA953, 0xA95F, 0xA95F, 0xAA00, 0xAA36, 0xAA40, 0xAA4D, 0xAA50, 0xAA59,
   0xAA5C, 0xAA5F, 0xFE24, 0xFE26]

def added5_2 : List Nat :=
  [0x0524, 0x0525, 0x0800, 0x082D, 0x0830, 0x083E, 0x0900, 0x0900, 0x094E, 0x094E, 0x0955, 0x0955,
   0x0979, 0x097A, 0x09FB, 0x09FB, 0x0FD5, 0x0FD8, 0x109A, 0x109D, 0x115A, 0x115E, 0x11A3, 0x11A7,
   0x11FA, 0x11FF, 0x1400, 0x1400, 0x1677, 0x167F, 0x18B0, 0x18F5, 0x19AA, 0x19AB, 0x19DA, 0x19DA,
   0x1A20, 0x1A5E, 0x1A60, 0x1A7C, 0x1A7F, 0x1A89, 0x1A90, 0x1A99, 0x1AA0, 0x1AAD, 0x1CD0, 0x1CF2,
   0x1DFD, 0x1DFD, 0x20B6, 0x20B8, 0x2150, 0x2152, 0x2189, 0x2189, 0x23E8, 0x23E8, 0x269E, 0x269F,
   0x26BD, 0x26BF, 0x26C4, 0x26CD, 0x26CF, 0x26E1, 0x26E3, 0x26E3, 0x26E8, 0x26FF, 0x2757, 0x2757,
   0x2B55, 0x2B59, 0x2C70, 0x2C70, 0x2C7E, 0x2C7F, 0x2CEB, 0x2CF1, 0x2E31, 0x2E31, 0x3244, 0x324F,
   0x9FC4, 0x9FCB, 0xA4D0, 0xA4FF, 0xA6A0, 0xA6F7, 0xA830, 0xA839, 0xA8E0, 0xA8FB, 0xA960, 0xA97C,
   0xA980, 0xA9CD, 0xA9CF, 0xA9D9, 0xA9DE, 0xA9DF, 0xAA60, 0xAA7B, 0xAA80, 0xAAC2, 0xAADB, 0xAADF,
   0xABC0, 0xABED, 0xABF0, 0xABF9, 0xD7B0, 0xD7C6, 0xD7CB, 0xD7FB, 0xFA6B, 0xFA6D]

def added6_0 : List Nat :=
  [0x0526, 0x0527, 0x0620, 0x0620, 0x065F, 0x065F, 0x0840, 0x085B, 0x085E, 0x085E, 0x093A, 0x093B,
   0x094F, 0x094F, 0x0956, 0x0957, 0x0973, 0x0977, 0x0B72, 0x0B77, 0x0D29, 0x0D29, 0x0D3A, 0x0D3A,
   0x0D4E, 0x0D4E, 0x0F8C, 0x0F8F, 0x0FD9, 0x0FDA, 0x135D, 0x135E, 0x1BC0, 0x1BF3, 0x1BFC, 0x1BFF,
   0x1DFC, 0x1DFC, 0x2095, 0x209C, 0x20B9, 0x20B9, 0x23E9, 0x23F3, 0x26CE, 0x26CE, 0x26E2, 0x26E2,
   0x26E4, 0x26E7, 0x2705, 0x2705, 0x270A, 0x270B, 0x2728, 0x2728, 0x274C, 0x274C, 0x274E, 0x274E,
   0x2753, 0x2755, 0x275F, 0x2760, 0x2795, 0x2797, 0x27B0, 0x27B0, 0x27BF, 0x27BF, 0x27CE, 0x27CF,
   0x2D70, 0x2D70, 0x2D7F, 0x2D7F, 0x31B8, 0x31BA, 0xA660, 0xA661, 0xA78D, 0xA78E, 0xA790, 0xA791,
   0xA7A0, 0xA7A9, 0xA7FA, 0xA7FA, 0xAB01, 0xAB06, 0xAB09, 0xAB0E, 0xAB11, 0xAB16, 0xAB20, 0xAB26,
   0xAB28, 0xAB2E, 0xFBB2, 0xFBC1]

/-- What a version adds. -/
def added : Version → List Nat
  | .v1_1 => added1_1
  | .v2_0 => added2_0
  | .v2_1 => added2_1
  | .v3_0 => added3_0
  | .v3_1 => added3_1
  | .v3_2 => added3_2
  | .v4_0 => added4_0
  | .v4_1 => added4_1
  | .v5_0 => added5_0
  | .v5_1 => added5_1
  | .v5_2 => added5_2
  | .v6_0 => added6_0

/-- Everything that a version assigns. -/
def assigned (v : Version) : CharSet :=
  CharSet.unpack ((Version.all.filter (·.rank ≤ v.rank)).flatMap added)

end ScannerAlphabet.Unicode.Repertoire
