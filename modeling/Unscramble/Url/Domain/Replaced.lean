/-!
# Characters that a domain name replaces

Capital letters, wide and narrow forms, ligatures, numbers in circles and the like stand for plainer
characters. Most stand for one character, and many of those come in runs.
-/

namespace Unscramble.Url.Domain

set_option maxRecDepth 20000

/-- Runs `(first, count, step, target)`: for each `i < count`, the code point `first + step * i`
stands for `target + step * i`. -/
def replacedRuns : Array (Nat × Nat × Nat × Nat) := #[
  (0x41, 26, 1, 0x61), (0xA0, 1, 1, 0x20), (0xAA, 1, 1, 0x61), (0xB2, 2, 1, 0x32),
  (0xB5, 1, 1, 0x3BC), (0xB9, 1, 1, 0x31), (0xBA, 1, 1, 0x6F), (0xC0, 23, 1, 0xE0),
  (0xD8, 7, 1, 0xF8), (0x100, 24, 2, 0x101), (0x134, 2, 2, 0x135), (0x139, 3, 2, 0x13A),
  (0x141, 4, 2, 0x142), (0x14A, 23, 2, 0x14B), (0x178, 1, 1, 0xFF), (0x179, 3, 2, 0x17A),
  (0x17F, 1, 1, 0x73), (0x181, 1, 1, 0x253), (0x182, 2, 2, 0x183), (0x186, 1, 1, 0x254),
  (0x187, 1, 1, 0x188), (0x189, 2, 1, 0x256), (0x18B, 1, 1, 0x18C), (0x18E, 1, 1, 0x1DD),
  (0x18F, 1, 1, 0x259), (0x190, 1, 1, 0x25B), (0x191, 1, 1, 0x192), (0x193, 1, 1, 0x260),
  (0x194, 1, 1, 0x263), (0x196, 1, 1, 0x269), (0x197, 1, 1, 0x268), (0x198, 1, 1, 0x199),
  (0x19C, 1, 1, 0x26F), (0x19D, 1, 1, 0x272), (0x19F, 1, 1, 0x275), (0x1A0, 3, 2, 0x1A1),
  (0x1A6, 1, 1, 0x280), (0x1A7, 1, 1, 0x1A8), (0x1A9, 1, 1, 0x283), (0x1AC, 1, 1, 0x1AD),
  (0x1AE, 1, 1, 0x288), (0x1AF, 1, 1, 0x1B0), (0x1B1, 2, 1, 0x28A), (0x1B3, 2, 2, 0x1B4),
  (0x1B7, 1, 1, 0x292), (0x1B8, 1, 1, 0x1B9), (0x1BC, 1, 1, 0x1BD), (0x1CD, 8, 2, 0x1CE),
  (0x1DE, 9, 2, 0x1DF), (0x1F4, 1, 1, 0x1F5), (0x1F6, 1, 1, 0x195), (0x1F7, 1, 1, 0x1BF),
  (0x1F8, 20, 2, 0x1F9), (0x220, 1, 1, 0x19E), (0x222, 9, 2, 0x223), (0x23A, 1, 1, 0x2C65),
  (0x23B, 1, 1, 0x23C), (0x23D, 1, 1, 0x19A), (0x23E, 1, 1, 0x2C66), (0x241, 1, 1, 0x242),
  (0x243, 1, 1, 0x180), (0x244, 1, 1, 0x289), (0x245, 1, 1, 0x28C), (0x246, 5, 2, 0x247),
  (0x2B0, 1, 1, 0x68), (0x2B1, 1, 1, 0x266), (0x2B2, 1, 1, 0x6A), (0x2B3, 1, 1, 0x72),
  (0x2B4, 1, 1, 0x279), (0x2B5, 1, 1, 0x27B), (0x2B6, 1, 1, 0x281), (0x2B7, 1, 1, 0x77),
  (0x2B8, 1, 1, 0x79), (0x2E0, 1, 1, 0x263), (0x2E1, 1, 1, 0x6C), (0x2E2, 1, 1, 0x73),
  (0x2E3, 1, 1, 0x78), (0x2E4, 1, 1, 0x295), (0x345, 1, 1, 0x3B9), (0x370, 2, 2, 0x371),
  (0x376, 1, 1, 0x377), (0x37F, 1, 1, 0x3F3), (0x386, 1, 1, 0x3AC), (0x388, 3, 1, 0x3AD),
  (0x38C, 1, 1, 0x3CC), (0x38E, 2, 1, 0x3CD), (0x391, 17, 1, 0x3B1), (0x3A3, 9, 1, 0x3C3),
  (0x3CF, 1, 1, 0x3D7), (0x3D0, 1, 1, 0x3B2), (0x3D1, 1, 1, 0x3B8), (0x3D2, 1, 1, 0x3C5),
  (0x3D3, 1, 1, 0x3CD), (0x3D4, 1, 1, 0x3CB), (0x3D5, 1, 1, 0x3C6), (0x3D6, 1, 1, 0x3C0),
  (0x3D8, 12, 2, 0x3D9), (0x3F0, 1, 1, 0x3BA), (0x3F1, 1, 1, 0x3C1), (0x3F2, 1, 1, 0x3C3),
  (0x3F4, 1, 1, 0x3B8), (0x3F5, 1, 1, 0x3B5), (0x3F7, 1, 1, 0x3F8), (0x3F9, 1, 1, 0x3C3),
  (0x3FA, 1, 1, 0x3FB), (0x3FD, 3, 1, 0x37B), (0x400, 16, 1, 0x450), (0x410, 32, 1, 0x430),
  (0x460, 17, 2, 0x461), (0x48A, 27, 2, 0x48B), (0x4C1, 7, 2, 0x4C2), (0x4D0, 48, 2, 0x4D1),
  (0x531, 38, 1, 0x561), (0xF0C, 1, 1, 0xF0B), (0x10C7, 1, 1, 0x2D27), (0x10CD, 1, 1, 0x2D2D),
  (0x10FC, 1, 1, 0x10DC), (0x13F8, 6, 1, 0x13F0), (0x1C80, 1, 1, 0x432), (0x1C81, 1, 1, 0x434),
  (0x1C82, 1, 1, 0x43E), (0x1C83, 2, 1, 0x441), (0x1C85, 1, 1, 0x442), (0x1C86, 1, 1, 0x44A),
  (0x1C87, 1, 1, 0x463), (0x1C88, 1, 1, 0xA64B), (0x1C89, 1, 1, 0x1C8A), (0x1C90, 43, 1, 0x10D0),
  (0x1CBD, 3, 1, 0x10FD), (0x1D2C, 1, 1, 0x61), (0x1D2D, 1, 1, 0xE6), (0x1D2E, 2, 2, 0x62),
  (0x1D31, 1, 1, 0x65), (0x1D32, 1, 1, 0x1DD), (0x1D33, 8, 1, 0x67), (0x1D3C, 1, 1, 0x6F),
  (0x1D3D, 1, 1, 0x223), (0x1D3E, 1, 1, 0x70), (0x1D3F, 1, 1, 0x72), (0x1D40, 2, 1, 0x74),
  (0x1D42, 1, 1, 0x77), (0x1D43, 1, 1, 0x61), (0x1D44, 2, 1, 0x250), (0x1D46, 1, 1, 0x1D02),
  (0x1D47, 1, 1, 0x62), (0x1D48, 2, 1, 0x64), (0x1D4A, 1, 1, 0x259), (0x1D4B, 2, 1, 0x25B),
  (0x1D4D, 1, 1, 0x67), (0x1D4F, 1, 1, 0x6B), (0x1D50, 1, 1, 0x6D), (0x1D51, 1, 1, 0x14B),
  (0x1D52, 1, 1, 0x6F), (0x1D53, 1, 1, 0x254), (0x1D54, 2, 1, 0x1D16), (0x1D56, 1, 1, 0x70),
  (0x1D57, 2, 1, 0x74), (0x1D59, 1, 1, 0x1D1D), (0x1D5A, 1, 1, 0x26F), (0x1D5B, 1, 1, 0x76),
  (0x1D5C, 1, 1, 0x1D25), (0x1D5D, 3, 1, 0x3B2), (0x1D60, 2, 1, 0x3C6), (0x1D62, 1, 1, 0x69),
  (0x1D63, 1, 1, 0x72), (0x1D64, 2, 1, 0x75), (0x1D66, 2, 1, 0x3B2), (0x1D68, 1, 1, 0x3C1),
  (0x1D69, 2, 1, 0x3C6), (0x1D78, 1, 1, 0x43D), (0x1D9B, 1, 1, 0x252), (0x1D9C, 1, 1, 0x63),
  (0x1D9D, 1, 1, 0x255), (0x1D9E, 1, 1, 0xF0), (0x1D9F, 1, 1, 0x25C), (0x1DA0, 1, 1, 0x66),
  (0x1DA1, 1, 1, 0x25F), (0x1DA2, 1, 1, 0x261), (0x1DA3, 1, 1, 0x265), (0x1DA4, 3, 1, 0x268),
  (0x1DA7, 1, 1, 0x1D7B), (0x1DA8, 1, 1, 0x29D), (0x1DA9, 1, 1, 0x26D), (0x1DAA, 1, 1, 0x1D85),
  (0x1DAB, 1, 1, 0x29F), (0x1DAC, 1, 1, 0x271), (0x1DAD, 1, 1, 0x270), (0x1DAE, 4, 1, 0x272),
  (0x1DB2, 1, 1, 0x278), (0x1DB3, 2, 1, 0x282), (0x1DB5, 1, 1, 0x1AB), (0x1DB6, 2, 1, 0x289),
  (0x1DB8, 1, 1, 0x1D1C), (0x1DB9, 2, 1, 0x28B), (0x1DBB, 1, 1, 0x7A), (0x1DBC, 3, 1, 0x290),
  (0x1DBF, 1, 1, 0x3B8), (0x1E00, 75, 2, 0x1E01), (0x1E9B, 1, 1, 0x1E61), (0x1E9E, 1, 1, 0xDF),
  (0x1EA0, 48, 2, 0x1EA1), (0x1F08, 8, 1, 0x1F00), (0x1F18, 6, 1, 0x1F10), (0x1F28, 8, 1, 0x1F20),
  (0x1F38, 8, 1, 0x1F30), (0x1F48, 6, 1, 0x1F40), (0x1F59, 4, 2, 0x1F51), (0x1F68, 8, 1, 0x1F60),
  (0x1FB8, 2, 1, 0x1FB0), (0x1FBA, 1, 1, 0x1F70), (0x1FBB, 1, 1, 0x3AC), (0x1FC8, 1, 1, 0x1F72),
  (0x1FC9, 1, 1, 0x3AD), (0x1FCA, 1, 1, 0x1F74), (0x1FCB, 1, 1, 0x3AE), (0x1FD8, 2, 1, 0x1FD0),
  (0x1FDA, 1, 1, 0x1F76), (0x1FDB, 1, 1, 0x3AF), (0x1FE8, 2, 1, 0x1FE0), (0x1FEA, 1, 1, 0x1F7A),
  (0x1FEB, 1, 1, 0x3CD), (0x1FEC, 1, 1, 0x1FE5), (0x1FF8, 1, 1, 0x1F78), (0x1FF9, 1, 1, 0x3CC),
  (0x1FFA, 1, 1, 0x1F7C), (0x1FFB, 1, 1, 0x3CE), (0x2000, 1, 1, 0x20), (0x2001, 1, 1, 0x20),
  (0x2002, 1, 1, 0x20), (0x2003, 1, 1, 0x20), (0x2004, 1, 1, 0x20), (0x2005, 1, 1, 0x20),
  (0x2006, 1, 1, 0x20), (0x2007, 1, 1, 0x20), (0x2008, 1, 1, 0x20), (0x2009, 1, 1, 0x20),
  (0x200A, 1, 1, 0x20), (0x2011, 1, 1, 0x2010), (0x202F, 1, 1, 0x20), (0x205F, 1, 1, 0x20),
  (0x2070, 1, 1, 0x30), (0x2071, 1, 1, 0x69), (0x2074, 6, 1, 0x34), (0x207A, 1, 1, 0x2B),
  (0x207B, 1, 1, 0x2212), (0x207C, 1, 1, 0x3D), (0x207D, 2, 1, 0x28), (0x207F, 1, 1, 0x6E),
  (0x2080, 10, 1, 0x30), (0x208A, 1, 1, 0x2B), (0x208B, 1, 1, 0x2212), (0x208C, 1, 1, 0x3D),
  (0x208D, 2, 1, 0x28), (0x2090, 1, 1, 0x61), (0x2091, 1, 1, 0x65), (0x2092, 1, 1, 0x6F),
  (0x2093, 1, 1, 0x78), (0x2094, 1, 1, 0x259), (0x2095, 1, 1, 0x68), (0x2096, 4, 1, 0x6B),
  (0x209A, 1, 1, 0x70), (0x209B, 2, 1, 0x73), (0x2102, 1, 1, 0x63), (0x2107, 1, 1, 0x25B),
  (0x210A, 2, 1, 0x67), (0x210C, 1, 1, 0x68), (0x210D, 1, 1, 0x68), (0x210E, 1, 1, 0x68),
  (0x210F, 1, 1, 0x127), (0x2110, 1, 1, 0x69), (0x2111, 1, 1, 0x69), (0x2112, 1, 1, 0x6C),
  (0x2113, 2, 2, 0x6C), (0x2119, 3, 1, 0x70), (0x211C, 1, 1, 0x72), (0x211D, 1, 1, 0x72),
  (0x2124, 1, 1, 0x7A), (0x2126, 1, 1, 0x3C9), (0x2128, 1, 1, 0x7A), (0x212A, 1, 1, 0x6B),
  (0x212B, 1, 1, 0xE5), (0x212C, 2, 1, 0x62), (0x212F, 1, 1, 0x65), (0x2130, 2, 1, 0x65),
  (0x2133, 1, 1, 0x6D), (0x2134, 1, 1, 0x6F), (0x2135, 4, 1, 0x5D0), (0x2139, 1, 1, 0x69),
  (0x213C, 1, 1, 0x3C0), (0x213D, 1, 1, 0x3B3), (0x213E, 1, 1, 0x3B3), (0x213F, 1, 1, 0x3C0),
  (0x2140, 1, 1, 0x2211), (0x2145, 1, 1, 0x64), (0x2146, 2, 1, 0x64), (0x2148, 2, 1, 0x69),
  (0x2160, 1, 1, 0x69), (0x2164, 1, 1, 0x76), (0x2169, 1, 1, 0x78), (0x216C, 1, 1, 0x6C),
  (0x216D, 2, 1, 0x63), (0x216F, 1, 1, 0x6D), (0x2170, 1, 1, 0x69), (0x2174, 1, 1, 0x76),
  (0x2179, 1, 1, 0x78), (0x217C, 1, 1, 0x6C), (0x217D, 2, 1, 0x63), (0x217F, 1, 1, 0x6D),
  (0x2460, 9, 1, 0x31), (0x24B6, 26, 1, 0x61), (0x24D0, 26, 1, 0x61), (0x24EA, 1, 1, 0x30),
  (0x2C00, 48, 1, 0x2C30), (0x2C60, 1, 1, 0x2C61), (0x2C62, 1, 1, 0x26B), (0x2C63, 1, 1, 0x1D7D),
  (0x2C64, 1, 1, 0x27D), (0x2C67, 3, 2, 0x2C68), (0x2C6D, 1, 1, 0x251), (0x2C6E, 1, 1, 0x271),
  (0x2C6F, 1, 1, 0x250), (0x2C70, 1, 1, 0x252), (0x2C72, 1, 1, 0x2C73), (0x2C75, 1, 1, 0x2C76),
  (0x2C7C, 1, 1, 0x6A), (0x2C7D, 1, 1, 0x76), (0x2C7E, 2, 1, 0x23F), (0x2C80, 50, 2, 0x2C81),
  (0x2CEB, 2, 2, 0x2CEC), (0x2CF2, 1, 1, 0x2CF3), (0x2D6F, 1, 1, 0x2D61), (0x2E9F, 1, 1, 0x6BCD),
  (0x2EF3, 1, 1, 0x9F9F), (0x2F00, 1, 1, 0x4E00), (0x2F01, 1, 1, 0x4E28), (0x2F02, 1, 1, 0x4E36),
  (0x2F03, 1, 1, 0x4E3F), (0x2F04, 1, 1, 0x4E59), (0x2F05, 1, 1, 0x4E85), (0x2F06, 1, 1, 0x4E8C),
  (0x2F07, 1, 1, 0x4EA0), (0x2F08, 1, 1, 0x4EBA), (0x2F09, 1, 1, 0x513F), (0x2F0A, 1, 1, 0x5165),
  (0x2F0B, 1, 1, 0x516B), (0x2F0C, 1, 1, 0x5182), (0x2F0D, 1, 1, 0x5196), (0x2F0E, 1, 1, 0x51AB),
  (0x2F0F, 1, 1, 0x51E0), (0x2F10, 1, 1, 0x51F5), (0x2F11, 1, 1, 0x5200), (0x2F12, 1, 1, 0x529B),
  (0x2F13, 1, 1, 0x52F9), (0x2F14, 1, 1, 0x5315), (0x2F15, 1, 1, 0x531A), (0x2F16, 1, 1, 0x5338),
  (0x2F17, 1, 1, 0x5341), (0x2F18, 1, 1, 0x535C), (0x2F19, 1, 1, 0x5369), (0x2F1A, 1, 1, 0x5382),
  (0x2F1B, 1, 1, 0x53B6), (0x2F1C, 1, 1, 0x53C8), (0x2F1D, 1, 1, 0x53E3), (0x2F1E, 1, 1, 0x56D7),
  (0x2F1F, 1, 1, 0x571F), (0x2F20, 1, 1, 0x58EB), (0x2F21, 1, 1, 0x5902), (0x2F22, 1, 1, 0x590A),
  (0x2F23, 1, 1, 0x5915), (0x2F24, 1, 1, 0x5927), (0x2F25, 1, 1, 0x5973), (0x2F26, 1, 1, 0x5B50),
  (0x2F27, 1, 1, 0x5B80), (0x2F28, 1, 1, 0x5BF8), (0x2F29, 1, 1, 0x5C0F), (0x2F2A, 1, 1, 0x5C22),
  (0x2F2B, 1, 1, 0x5C38), (0x2F2C, 1, 1, 0x5C6E), (0x2F2D, 1, 1, 0x5C71), (0x2F2E, 1, 1, 0x5DDB),
  (0x2F2F, 1, 1, 0x5DE5), (0x2F30, 1, 1, 0x5DF1), (0x2F31, 1, 1, 0x5DFE), (0x2F32, 1, 1, 0x5E72),
  (0x2F33, 1, 1, 0x5E7A), (0x2F34, 1, 1, 0x5E7F), (0x2F35, 1, 1, 0x5EF4), (0x2F36, 1, 1, 0x5EFE),
  (0x2F37, 1, 1, 0x5F0B), (0x2F38, 1, 1, 0x5F13), (0x2F39, 1, 1, 0x5F50), (0x2F3A, 1, 1, 0x5F61),
  (0x2F3B, 1, 1, 0x5F73), (0x2F3C, 1, 1, 0x5FC3), (0x2F3D, 1, 1, 0x6208), (0x2F3E, 1, 1, 0x6236),
  (0x2F3F, 1, 1, 0x624B), (0x2F40, 1, 1, 0x652F), (0x2F41, 1, 1, 0x6534), (0x2F42, 1, 1, 0x6587),
  (0x2F43, 1, 1, 0x6597), (0x2F44, 1, 1, 0x65A4), (0x2F45, 1, 1, 0x65B9), (0x2F46, 1, 1, 0x65E0),
  (0x2F47, 1, 1, 0x65E5), (0x2F48, 1, 1, 0x66F0), (0x2F49, 1, 1, 0x6708), (0x2F4A, 1, 1, 0x6728),
  (0x2F4B, 1, 1, 0x6B20), (0x2F4C, 1, 1, 0x6B62), (0x2F4D, 1, 1, 0x6B79), (0x2F4E, 1, 1, 0x6BB3),
  (0x2F4F, 1, 1, 0x6BCB), (0x2F50, 1, 1, 0x6BD4), (0x2F51, 1, 1, 0x6BDB), (0x2F52, 1, 1, 0x6C0F),
  (0x2F53, 1, 1, 0x6C14), (0x2F54, 1, 1, 0x6C34), (0x2F55, 1, 1, 0x706B), (0x2F56, 1, 1, 0x722A),
  (0x2F57, 1, 1, 0x7236), (0x2F58, 1, 1, 0x723B), (0x2F59, 1, 1, 0x723F), (0x2F5A, 1, 1, 0x7247),
  (0x2F5B, 1, 1, 0x7259), (0x2F5C, 1, 1, 0x725B), (0x2F5D, 1, 1, 0x72AC), (0x2F5E, 1, 1, 0x7384),
  (0x2F5F, 1, 1, 0x7389), (0x2F60, 1, 1, 0x74DC), (0x2F61, 1, 1, 0x74E6), (0x2F62, 1, 1, 0x7518),
  (0x2F63, 1, 1, 0x751F), (0x2F64, 1, 1, 0x7528), (0x2F65, 1, 1, 0x7530), (0x2F66, 1, 1, 0x758B),
  (0x2F67, 1, 1, 0x7592), (0x2F68, 1, 1, 0x7676), (0x2F69, 1, 1, 0x767D), (0x2F6A, 1, 1, 0x76AE),
  (0x2F6B, 1, 1, 0x76BF), (0x2F6C, 1, 1, 0x76EE), (0x2F6D, 1, 1, 0x77DB), (0x2F6E, 1, 1, 0x77E2),
  (0x2F6F, 1, 1, 0x77F3), (0x2F70, 1, 1, 0x793A), (0x2F71, 1, 1, 0x79B8), (0x2F72, 1, 1, 0x79BE),
  (0x2F73, 1, 1, 0x7A74), (0x2F74, 1, 1, 0x7ACB), (0x2F75, 1, 1, 0x7AF9), (0x2F76, 1, 1, 0x7C73),
  (0x2F77, 1, 1, 0x7CF8), (0x2F78, 1, 1, 0x7F36), (0x2F79, 1, 1, 0x7F51), (0x2F7A, 1, 1, 0x7F8A),
  (0x2F7B, 1, 1, 0x7FBD), (0x2F7C, 1, 1, 0x8001), (0x2F7D, 1, 1, 0x800C), (0x2F7E, 1, 1, 0x8012),
  (0x2F7F, 1, 1, 0x8033), (0x2F80, 1, 1, 0x807F), (0x2F81, 1, 1, 0x8089), (0x2F82, 1, 1, 0x81E3),
  (0x2F83, 1, 1, 0x81EA), (0x2F84, 1, 1, 0x81F3), (0x2F85, 1, 1, 0x81FC), (0x2F86, 1, 1, 0x820C),
  (0x2F87, 1, 1, 0x821B), (0x2F88, 1, 1, 0x821F), (0x2F89, 1, 1, 0x826E), (0x2F8A, 1, 1, 0x8272),
  (0x2F8B, 1, 1, 0x8278), (0x2F8C, 1, 1, 0x864D), (0x2F8D, 1, 1, 0x866B), (0x2F8E, 1, 1, 0x8840),
  (0x2F8F, 1, 1, 0x884C), (0x2F90, 1, 1, 0x8863), (0x2F91, 1, 1, 0x897E), (0x2F92, 1, 1, 0x898B),
  (0x2F93, 1, 1, 0x89D2), (0x2F94, 1, 1, 0x8A00), (0x2F95, 1, 1, 0x8C37), (0x2F96, 1, 1, 0x8C46),
  (0x2F97, 1, 1, 0x8C55), (0x2F98, 1, 1, 0x8C78), (0x2F99, 1, 1, 0x8C9D), (0x2F9A, 1, 1, 0x8D64),
  (0x2F9B, 1, 1, 0x8D70), (0x2F9C, 1, 1, 0x8DB3), (0x2F9D, 1, 1, 0x8EAB), (0x2F9E, 1, 1, 0x8ECA),
  (0x2F9F, 1, 1, 0x8F9B), (0x2FA0, 1, 1, 0x8FB0), (0x2FA1, 1, 1, 0x8FB5), (0x2FA2, 1, 1, 0x9091),
  (0x2FA3, 1, 1, 0x9149), (0x2FA4, 1, 1, 0x91C6), (0x2FA5, 1, 1, 0x91CC), (0x2FA6, 1, 1, 0x91D1),
  (0x2FA7, 1, 1, 0x9577), (0x2FA8, 1, 1, 0x9580), (0x2FA9, 1, 1, 0x961C), (0x2FAA, 1, 1, 0x96B6),
  (0x2FAB, 1, 1, 0x96B9), (0x2FAC, 1, 1, 0x96E8), (0x2FAD, 1, 1, 0x9751), (0x2FAE, 1, 1, 0x975E),
  (0x2FAF, 1, 1, 0x9762), (0x2FB0, 1, 1, 0x9769), (0x2FB1, 1, 1, 0x97CB), (0x2FB2, 1, 1, 0x97ED),
  (0x2FB3, 1, 1, 0x97F3), (0x2FB4, 1, 1, 0x9801), (0x2FB5, 1, 1, 0x98A8), (0x2FB6, 1, 1, 0x98DB),
  (0x2FB7, 1, 1, 0x98DF), (0x2FB8, 1, 1, 0x9996), (0x2FB9, 1, 1, 0x9999), (0x2FBA, 1, 1, 0x99AC),
  (0x2FBB, 1, 1, 0x9AA8), (0x2FBC, 1, 1, 0x9AD8), (0x2FBD, 1, 1, 0x9ADF), (0x2FBE, 1, 1, 0x9B25),
  (0x2FBF, 1, 1, 0x9B2F), (0x2FC0, 1, 1, 0x9B32), (0x2FC1, 1, 1, 0x9B3C), (0x2FC2, 1, 1, 0x9B5A),
  (0x2FC3, 1, 1, 0x9CE5), (0x2FC4, 1, 1, 0x9E75), (0x2FC5, 1, 1, 0x9E7F), (0x2FC6, 1, 1, 0x9EA5),
  (0x2FC7, 1, 1, 0x9EBB), (0x2FC8, 1, 1, 0x9EC3), (0x2FC9, 1, 1, 0x9ECD), (0x2FCA, 1, 1, 0x9ED1),
  (0x2FCB, 1, 1, 0x9EF9), (0x2FCC, 1, 1, 0x9EFD), (0x2FCD, 1, 1, 0x9F0E), (0x2FCE, 1, 1, 0x9F13),
  (0x2FCF, 1, 1, 0x9F20), (0x2FD0, 1, 1, 0x9F3B), (0x2FD1, 1, 1, 0x9F4A), (0x2FD2, 1, 1, 0x9F52),
  (0x2FD3, 1, 1, 0x9F8D), (0x2FD4, 1, 1, 0x9F9C), (0x2FD5, 1, 1, 0x9FA0), (0x3000, 1, 1, 0x20),
  (0x3002, 1, 1, 0x2E), (0x3036, 1, 1, 0x3012), (0x3038, 1, 1, 0x5341), (0x3039, 2, 1, 0x5344),
  (0x3131, 2, 1, 0x1100), (0x3133, 1, 1, 0x11AA), (0x3134, 1, 1, 0x1102), (0x3135, 2, 1, 0x11AC),
  (0x3137, 3, 1, 0x1103), (0x313A, 6, 1, 0x11B0), (0x3140, 1, 1, 0x111A), (0x3141, 3, 1, 0x1106),
  (0x3144, 1, 1, 0x1121), (0x3145, 10, 1, 0x1109), (0x314F, 21, 1, 0x1161), (0x3165, 2, 1, 0x1114),
  (0x3167, 2, 1, 0x11C7), (0x3169, 1, 1, 0x11CC), (0x316A, 1, 1, 0x11CE), (0x316B, 1, 1, 0x11D3),
  (0x316C, 1, 1, 0x11D7), (0x316D, 1, 1, 0x11D9), (0x316E, 1, 1, 0x111C), (0x316F, 1, 1, 0x11DD),
  (0x3170, 1, 1, 0x11DF), (0x3171, 2, 1, 0x111D), (0x3173, 1, 1, 0x1120), (0x3174, 2, 1, 0x1122),
  (0x3176, 1, 1, 0x1127), (0x3177, 1, 1, 0x1129), (0x3178, 5, 1, 0x112B), (0x317D, 1, 1, 0x1132),
  (0x317E, 1, 1, 0x1136), (0x317F, 1, 1, 0x1140), (0x3180, 1, 1, 0x1147), (0x3181, 1, 1, 0x114C),
  (0x3182, 2, 1, 0x11F1), (0x3184, 3, 1, 0x1157), (0x3187, 2, 1, 0x1184), (0x3189, 1, 1, 0x1188),
  (0x318A, 2, 1, 0x1191), (0x318C, 1, 1, 0x1194), (0x318D, 1, 1, 0x119E), (0x318E, 1, 1, 0x11A1),
  (0x3192, 1, 1, 0x4E00), (0x3193, 1, 1, 0x4E8C), (0x3194, 1, 1, 0x4E09), (0x3195, 1, 1, 0x56DB),
  (0x3196, 1, 1, 0x4E0A), (0x3197, 1, 1, 0x4E2D), (0x3198, 1, 1, 0x4E0B), (0x3199, 1, 1, 0x7532),
  (0x319A, 1, 1, 0x4E59), (0x319B, 1, 1, 0x4E19), (0x319C, 1, 1, 0x4E01), (0x319D, 1, 1, 0x5929),
  (0x319E, 1, 1, 0x5730), (0x319F, 1, 1, 0x4EBA), (0x3244, 1, 1, 0x554F), (0x3245, 1, 1, 0x5E7C),
  (0x3246, 1, 1, 0x6587), (0x3247, 1, 1, 0x7B8F), (0x3260, 1, 1, 0x1100), (0x3261, 2, 1, 0x1102),
  (0x3263, 3, 1, 0x1105), (0x3266, 1, 1, 0x1109), (0x3267, 2, 1, 0x110B), (0x3269, 5, 1, 0x110E),
  (0x326E, 1, 1, 0xAC00), (0x326F, 1, 1, 0xB098), (0x3270, 1, 1, 0xB2E4), (0x3271, 1, 1, 0xB77C),
  (0x3272, 1, 1, 0xB9C8), (0x3273, 1, 1, 0xBC14), (0x3274, 1, 1, 0xC0AC), (0x3275, 1, 1, 0xC544),
  (0x3276, 1, 1, 0xC790), (0x3277, 1, 1, 0xCC28), (0x3278, 1, 1, 0xCE74), (0x3279, 1, 1, 0xD0C0),
  (0x327A, 1, 1, 0xD30C), (0x327B, 1, 1, 0xD558), (0x327E, 1, 1, 0xC6B0), (0x3280, 1, 1, 0x4E00),
  (0x3281, 1, 1, 0x4E8C), (0x3282, 1, 1, 0x4E09), (0x3283, 1, 1, 0x56DB), (0x3284, 1, 1, 0x4E94),
  (0x3285, 1, 1, 0x516D), (0x3286, 1, 1, 0x4E03), (0x3287, 1, 1, 0x516B), (0x3288, 1, 1, 0x4E5D),
  (0x3289, 1, 1, 0x5341), (0x328A, 1, 1, 0x6708), (0x328B, 1, 1, 0x706B), (0x328C, 1, 1, 0x6C34),
  (0x328D, 1, 1, 0x6728), (0x328E, 1, 1, 0x91D1), (0x328F, 1, 1, 0x571F), (0x3290, 1, 1, 0x65E5),
  (0x3291, 1, 1, 0x682A), (0x3292, 1, 1, 0x6709), (0x3293, 1, 1, 0x793E), (0x3294, 1, 1, 0x540D),
  (0x3295, 1, 1, 0x7279), (0x3296, 1, 1, 0x8CA1), (0x3297, 1, 1, 0x795D), (0x3298, 1, 1, 0x52B4),
  (0x3299, 1, 1, 0x79D8), (0x329A, 1, 1, 0x7537), (0x329B, 1, 1, 0x5973), (0x329C, 1, 1, 0x9069),
  (0x329D, 1, 1, 0x512A), (0x329E, 1, 1, 0x5370), (0x329F, 1, 1, 0x6CE8), (0x32A0, 1, 1, 0x9805),
  (0x32A1, 1, 1, 0x4F11), (0x32A2, 1, 1, 0x5199), (0x32A3, 1, 1, 0x6B63), (0x32A4, 1, 1, 0x4E0A),
  (0x32A5, 1, 1, 0x4E2D), (0x32A6, 1, 1, 0x4E0B), (0x32A7, 1, 1, 0x5DE6), (0x32A8, 1, 1, 0x53F3),
  (0x32A9, 1, 1, 0x533B), (0x32AA, 1, 1, 0x5B97), (0x32AB, 1, 1, 0x5B66), (0x32AC, 1, 1, 0x76E3),
  (0x32AD, 1, 1, 0x4F01), (0x32AE, 1, 1, 0x8CC7), (0x32AF, 1, 1, 0x5354), (0x32B0, 1, 1, 0x591C),
  (0x32D0, 1, 1, 0x30A2), (0x32D1, 1, 1, 0x30A4), (0x32D2, 1, 1, 0x30A6), (0x32D3, 1, 1, 0x30A8),
  (0x32D4, 2, 1, 0x30AA), (0x32D6, 1, 1, 0x30AD), (0x32D7, 1, 1, 0x30AF), (0x32D8, 1, 1, 0x30B1),
  (0x32D9, 1, 1, 0x30B3), (0x32DA, 1, 1, 0x30B5), (0x32DB, 1, 1, 0x30B7), (0x32DC, 1, 1, 0x30B9),
  (0x32DD, 1, 1, 0x30BB), (0x32DE, 1, 1, 0x30BD), (0x32DF, 1, 1, 0x30BF), (0x32E0, 1, 1, 0x30C1),
  (0x32E1, 1, 1, 0x30C4), (0x32E2, 1, 1, 0x30C6), (0x32E3, 1, 1, 0x30C8), (0x32E4, 6, 1, 0x30CA),
  (0x32EA, 1, 1, 0x30D2), (0x32EB, 1, 1, 0x30D5), (0x32EC, 1, 1, 0x30D8), (0x32ED, 1, 1, 0x30DB),
  (0x32EE, 5, 1, 0x30DE), (0x32F3, 1, 1, 0x30E4), (0x32F4, 1, 1, 0x30E6), (0x32F5, 6, 1, 0x30E8),
  (0x32FB, 4, 1, 0x30EF), (0xA640, 23, 2, 0xA641), (0xA680, 14, 2, 0xA681), (0xA69C, 1, 1, 0x44A),
  (0xA69D, 1, 1, 0x44C), (0xA722, 7, 2, 0xA723), (0xA732, 31, 2, 0xA733), (0xA770, 1, 1, 0xA76F),
  (0xA779, 2, 2, 0xA77A), (0xA77D, 1, 1, 0x1D79), (0xA77E, 5, 2, 0xA77F), (0xA78B, 1, 1, 0xA78C),
  (0xA78D, 1, 1, 0x265), (0xA790, 2, 2, 0xA791), (0xA796, 10, 2, 0xA797), (0xA7AA, 1, 1, 0x266),
  (0xA7AB, 1, 1, 0x25C), (0xA7AC, 1, 1, 0x261), (0xA7AD, 1, 1, 0x26C), (0xA7AE, 1, 1, 0x26A),
  (0xA7B0, 1, 1, 0x29E), (0xA7B1, 1, 1, 0x287), (0xA7B2, 1, 1, 0x29D), (0xA7B3, 1, 1, 0xAB53),
  (0xA7B4, 8, 2, 0xA7B5), (0xA7C4, 1, 1, 0xA794), (0xA7C5, 1, 1, 0x282), (0xA7C6, 1, 1, 0x1D8E),
  (0xA7C7, 2, 2, 0xA7C8), (0xA7CB, 1, 1, 0x264), (0xA7CC, 8, 2, 0xA7CD), (0xA7DC, 1, 1, 0x19B),
  (0xA7F1, 1, 1, 0x73), (0xA7F2, 1, 1, 0x63), (0xA7F3, 1, 1, 0x66), (0xA7F4, 1, 1, 0x71),
  (0xA7F5, 1, 1, 0xA7F6), (0xA7F8, 1, 1, 0x127), (0xA7F9, 1, 1, 0x153), (0xAB5C, 1, 1, 0xA727),
  (0xAB5D, 1, 1, 0xAB37), (0xAB5E, 1, 1, 0x26B), (0xAB5F, 1, 1, 0xAB52), (0xAB69, 1, 1, 0x28D),
  (0xAB70, 80, 1, 0x13A0), (0xFB20, 1, 1, 0x5E2), (0xFB21, 1, 1, 0x5D0), (0xFB22, 2, 1, 0x5D3),
  (0xFB24, 3, 1, 0x5DB), (0xFB27, 1, 1, 0x5E8), (0xFB28, 1, 1, 0x5EA), (0xFB29, 1, 1, 0x2B),
  (0xFB50, 1, 1, 0x671), (0xFB51, 1, 1, 0x671), (0xFB52, 1, 1, 0x67B), (0xFB53, 1, 1, 0x67B),
  (0xFB54, 1, 1, 0x67B), (0xFB55, 1, 1, 0x67B), (0xFB56, 1, 1, 0x67E), (0xFB57, 1, 1, 0x67E),
  (0xFB58, 1, 1, 0x67E), (0xFB59, 1, 1, 0x67E), (0xFB5A, 1, 1, 0x680), (0xFB5B, 1, 1, 0x680),
  (0xFB5C, 1, 1, 0x680), (0xFB5D, 1, 1, 0x680), (0xFB5E, 1, 1, 0x67A), (0xFB5F, 1, 1, 0x67A),
  (0xFB60, 1, 1, 0x67A), (0xFB61, 1, 1, 0x67A), (0xFB62, 1, 1, 0x67F), (0xFB63, 1, 1, 0x67F),
  (0xFB64, 1, 1, 0x67F), (0xFB65, 1, 1, 0x67F), (0xFB66, 1, 1, 0x679), (0xFB67, 1, 1, 0x679),
  (0xFB68, 1, 1, 0x679), (0xFB69, 1, 1, 0x679), (0xFB6A, 1, 1, 0x6A4), (0xFB6B, 1, 1, 0x6A4),
  (0xFB6C, 1, 1, 0x6A4), (0xFB6D, 1, 1, 0x6A4), (0xFB6E, 1, 1, 0x6A6), (0xFB6F, 1, 1, 0x6A6),
  (0xFB70, 1, 1, 0x6A6), (0xFB71, 1, 1, 0x6A6), (0xFB72, 1, 1, 0x684), (0xFB73, 1, 1, 0x684),
  (0xFB74, 1, 1, 0x684), (0xFB75, 1, 1, 0x684), (0xFB76, 1, 1, 0x683), (0xFB77, 1, 1, 0x683),
  (0xFB78, 1, 1, 0x683), (0xFB79, 1, 1, 0x683), (0xFB7A, 1, 1, 0x686), (0xFB7B, 1, 1, 0x686),
  (0xFB7C, 1, 1, 0x686), (0xFB7D, 2, 1, 0x686), (0xFB7F, 1, 1, 0x687), (0xFB80, 1, 1, 0x687),
  (0xFB81, 1, 1, 0x687), (0xFB82, 1, 1, 0x68D), (0xFB83, 1, 1, 0x68D), (0xFB84, 1, 1, 0x68C),
  (0xFB85, 1, 1, 0x68C), (0xFB86, 1, 1, 0x68E), (0xFB87, 1, 1, 0x68E), (0xFB88, 1, 1, 0x688),
  (0xFB89, 1, 1, 0x688), (0xFB8A, 1, 1, 0x698), (0xFB8B, 1, 1, 0x698), (0xFB8C, 1, 1, 0x691),
  (0xFB8D, 1, 1, 0x691), (0xFB8E, 1, 1, 0x6A9), (0xFB8F, 1, 1, 0x6A9), (0xFB90, 1, 1, 0x6A9),
  (0xFB91, 1, 1, 0x6A9), (0xFB92, 1, 1, 0x6AF), (0xFB93, 1, 1, 0x6AF), (0xFB94, 1, 1, 0x6AF),
  (0xFB95, 1, 1, 0x6AF), (0xFB96, 1, 1, 0x6B3), (0xFB97, 1, 1, 0x6B3), (0xFB98, 1, 1, 0x6B3),
  (0xFB99, 1, 1, 0x6B3), (0xFB9A, 1, 1, 0x6B1), (0xFB9B, 1, 1, 0x6B1), (0xFB9C, 1, 1, 0x6B1),
  (0xFB9D, 1, 1, 0x6B1), (0xFB9E, 1, 1, 0x6BA), (0xFB9F, 2, 1, 0x6BA), (0xFBA1, 1, 1, 0x6BB),
  (0xFBA2, 1, 1, 0x6BB), (0xFBA3, 1, 1, 0x6BB), (0xFBA4, 1, 1, 0x6C0), (0xFBA5, 2, 1, 0x6C0),
  (0xFBA7, 1, 1, 0x6C1), (0xFBA8, 1, 1, 0x6C1), (0xFBA9, 1, 1, 0x6C1), (0xFBAA, 1, 1, 0x6BE),
  (0xFBAB, 1, 1, 0x6BE), (0xFBAC, 1, 1, 0x6BE), (0xFBAD, 1, 1, 0x6BE), (0xFBAE, 1, 1, 0x6D2),
  (0xFBAF, 2, 1, 0x6D2), (0xFBB1, 1, 1, 0x6D3), (0xFBD3, 1, 1, 0x6AD), (0xFBD4, 1, 1, 0x6AD),
  (0xFBD5, 1, 1, 0x6AD), (0xFBD6, 1, 1, 0x6AD), (0xFBD7, 1, 1, 0x6C7), (0xFBD8, 1, 1, 0x6C7),
  (0xFBD9, 1, 1, 0x6C6), (0xFBDA, 1, 1, 0x6C6), (0xFBDB, 1, 1, 0x6C8), (0xFBDC, 1, 1, 0x6C8),
  (0xFBDE, 1, 1, 0x6CB), (0xFBDF, 1, 1, 0x6CB), (0xFBE0, 1, 1, 0x6C5), (0xFBE1, 1, 1, 0x6C5),
  (0xFBE2, 1, 1, 0x6C9), (0xFBE3, 1, 1, 0x6C9), (0xFBE4, 1, 1, 0x6D0), (0xFBE5, 1, 1, 0x6D0),
  (0xFBE6, 1, 1, 0x6D0), (0xFBE7, 1, 1, 0x6D0), (0xFBE8, 1, 1, 0x649), (0xFBE9, 1, 1, 0x649),
  (0xFBFC, 1, 1, 0x6CC), (0xFBFD, 1, 1, 0x6CC), (0xFBFE, 1, 1, 0x6CC), (0xFBFF, 1, 1, 0x6CC),
  (0xFE10, 1, 1, 0x2C), (0xFE11, 1, 1, 0x3001), (0xFE13, 2, 1, 0x3A), (0xFE15, 1, 1, 0x21),
  (0xFE16, 1, 1, 0x3F), (0xFE17, 2, 1, 0x3016), (0xFE31, 1, 1, 0x2014), (0xFE32, 1, 1, 0x2013),
  (0xFE33, 1, 1, 0x5F), (0xFE34, 1, 1, 0x5F), (0xFE35, 2, 1, 0x28), (0xFE37, 1, 1, 0x7B),
  (0xFE38, 1, 1, 0x7D), (0xFE39, 2, 1, 0x3014), (0xFE3B, 2, 1, 0x3010), (0xFE3D, 2, 1, 0x300A),
  (0xFE3F, 2, 1, 0x3008), (0xFE41, 4, 1, 0x300C), (0xFE47, 1, 1, 0x5B), (0xFE48, 1, 1, 0x5D),
  (0xFE4D, 1, 1, 0x5F), (0xFE4E, 1, 1, 0x5F), (0xFE4F, 1, 1, 0x5F), (0xFE50, 1, 1, 0x2C),
  (0xFE51, 1, 1, 0x3001), (0xFE54, 1, 1, 0x3B), (0xFE55, 1, 1, 0x3A), (0xFE56, 1, 1, 0x3F),
  (0xFE57, 1, 1, 0x21), (0xFE58, 1, 1, 0x2014), (0xFE59, 2, 1, 0x28), (0xFE5B, 1, 1, 0x7B),
  (0xFE5C, 1, 1, 0x7D), (0xFE5D, 2, 1, 0x3014), (0xFE5F, 1, 1, 0x23), (0xFE60, 1, 1, 0x26),
  (0xFE61, 2, 1, 0x2A), (0xFE63, 1, 1, 0x2D), (0xFE64, 1, 1, 0x3C), (0xFE65, 1, 1, 0x3E),
  (0xFE66, 1, 1, 0x3D), (0xFE68, 1, 1, 0x5C), (0xFE69, 2, 1, 0x24), (0xFE6B, 1, 1, 0x40),
  (0xFE80, 2, 1, 0x621), (0xFE82, 2, 1, 0x622), (0xFE84, 2, 1, 0x623), (0xFE86, 2, 1, 0x624),
  (0xFE88, 2, 1, 0x625), (0xFE8A, 1, 1, 0x626), (0xFE8B, 1, 1, 0x626), (0xFE8C, 2, 1, 0x626),
  (0xFE8E, 2, 1, 0x627), (0xFE90, 1, 1, 0x628), (0xFE91, 1, 1, 0x628), (0xFE92, 2, 1, 0x628),
  (0xFE94, 2, 1, 0x629), (0xFE96, 1, 1, 0x62A), (0xFE97, 1, 1, 0x62A), (0xFE98, 2, 1, 0x62A),
  (0xFE9A, 1, 1, 0x62B), (0xFE9B, 1, 1, 0x62B), (0xFE9C, 2, 1, 0x62B), (0xFE9E, 1, 1, 0x62C),
  (0xFE9F, 1, 1, 0x62C), (0xFEA0, 2, 1, 0x62C), (0xFEA2, 1, 1, 0x62D), (0xFEA3, 1, 1, 0x62D),
  (0xFEA4, 2, 1, 0x62D), (0xFEA6, 1, 1, 0x62E), (0xFEA7, 1, 1, 0x62E), (0xFEA8, 2, 1, 0x62E),
  (0xFEAA, 2, 1, 0x62F), (0xFEAC, 2, 1, 0x630), (0xFEAE, 2, 1, 0x631), (0xFEB0, 2, 1, 0x632),
  (0xFEB2, 1, 1, 0x633), (0xFEB3, 1, 1, 0x633), (0xFEB4, 2, 1, 0x633), (0xFEB6, 1, 1, 0x634),
  (0xFEB7, 1, 1, 0x634), (0xFEB8, 2, 1, 0x634), (0xFEBA, 1, 1, 0x635), (0xFEBB, 1, 1, 0x635),
  (0xFEBC, 2, 1, 0x635), (0xFEBE, 1, 1, 0x636), (0xFEBF, 1, 1, 0x636), (0xFEC0, 2, 1, 0x636),
  (0xFEC2, 1, 1, 0x637), (0xFEC3, 1, 1, 0x637), (0xFEC4, 2, 1, 0x637), (0xFEC6, 1, 1, 0x638),
  (0xFEC7, 1, 1, 0x638), (0xFEC8, 2, 1, 0x638), (0xFECA, 1, 1, 0x639), (0xFECB, 1, 1, 0x639),
  (0xFECC, 2, 1, 0x639), (0xFECE, 1, 1, 0x63A), (0xFECF, 1, 1, 0x63A), (0xFED0, 1, 1, 0x63A),
  (0xFED1, 1, 1, 0x641), (0xFED2, 1, 1, 0x641), (0xFED3, 1, 1, 0x641), (0xFED4, 2, 1, 0x641),
  (0xFED6, 1, 1, 0x642), (0xFED7, 1, 1, 0x642), (0xFED8, 2, 1, 0x642), (0xFEDA, 1, 1, 0x643),
  (0xFEDB, 1, 1, 0x643), (0xFEDC, 2, 1, 0x643), (0xFEDE, 1, 1, 0x644), (0xFEDF, 1, 1, 0x644),
  (0xFEE0, 2, 1, 0x644), (0xFEE2, 1, 1, 0x645), (0xFEE3, 1, 1, 0x645), (0xFEE4, 2, 1, 0x645),
  (0xFEE6, 1, 1, 0x646), (0xFEE7, 1, 1, 0x646), (0xFEE8, 2, 1, 0x646), (0xFEEA, 1, 1, 0x647),
  (0xFEEB, 1, 1, 0x647), (0xFEEC, 2, 1, 0x647), (0xFEEE, 2, 1, 0x648), (0xFEF0, 2, 1, 0x649),
  (0xFEF2, 1, 1, 0x64A), (0xFEF3, 1, 1, 0x64A), (0xFEF4, 1, 1, 0x64A), (0xFF01, 32, 1, 0x21),
  (0xFF21, 26, 1, 0x61), (0xFF3B, 36, 1, 0x5B), (0xFF5F, 2, 1, 0x2985), (0xFF61, 1, 1, 0x2E),
  (0xFF62, 2, 1, 0x300C), (0xFF64, 1, 1, 0x3001), (0xFF65, 1, 1, 0x30FB), (0xFF66, 1, 1, 0x30F2),
  (0xFF67, 1, 1, 0x30A1), (0xFF68, 1, 1, 0x30A3), (0xFF69, 1, 1, 0x30A5), (0xFF6A, 1, 1, 0x30A7),
  (0xFF6B, 1, 1, 0x30A9), (0xFF6C, 1, 1, 0x30E3), (0xFF6D, 1, 1, 0x30E5), (0xFF6E, 1, 1, 0x30E7),
  (0xFF6F, 1, 1, 0x30C3), (0xFF70, 1, 1, 0x30FC), (0xFF71, 1, 1, 0x30A2), (0xFF72, 1, 1, 0x30A4),
  (0xFF73, 1, 1, 0x30A6), (0xFF74, 1, 1, 0x30A8), (0xFF75, 2, 1, 0x30AA), (0xFF77, 1, 1, 0x30AD),
  (0xFF78, 1, 1, 0x30AF), (0xFF79, 1, 1, 0x30B1), (0xFF7A, 1, 1, 0x30B3), (0xFF7B, 1, 1, 0x30B5),
  (0xFF7C, 1, 1, 0x30B7), (0xFF7D, 1, 1, 0x30B9), (0xFF7E, 1, 1, 0x30BB), (0xFF7F, 1, 1, 0x30BD),
  (0xFF80, 1, 1, 0x30BF), (0xFF81, 1, 1, 0x30C1), (0xFF82, 1, 1, 0x30C4), (0xFF83, 1, 1, 0x30C6),
  (0xFF84, 1, 1, 0x30C8), (0xFF85, 6, 1, 0x30CA), (0xFF8B, 1, 1, 0x30D2), (0xFF8C, 1, 1, 0x30D5),
  (0xFF8D, 1, 1, 0x30D8), (0xFF8E, 1, 1, 0x30DB), (0xFF8F, 5, 1, 0x30DE), (0xFF94, 1, 1, 0x30E4),
  (0xFF95, 1, 1, 0x30E6), (0xFF96, 6, 1, 0x30E8), (0xFF9C, 1, 1, 0x30EF), (0xFF9D, 1, 1, 0x30F3),
  (0xFF9E, 2, 1, 0x3099), (0xFFA1, 2, 1, 0x1100), (0xFFA3, 1, 1, 0x11AA), (0xFFA4, 1, 1, 0x1102),
  (0xFFA5, 2, 1, 0x11AC), (0xFFA7, 3, 1, 0x1103), (0xFFAA, 6, 1, 0x11B0), (0xFFB0, 1, 1, 0x111A),
  (0xFFB1, 3, 1, 0x1106), (0xFFB4, 1, 1, 0x1121), (0xFFB5, 10, 1, 0x1109), (0xFFC2, 6, 1, 0x1161),
  (0xFFCA, 6, 1, 0x1167), (0xFFD2, 6, 1, 0x116D), (0xFFDA, 3, 1, 0x1173), (0xFFE0, 2, 1, 0xA2),
  (0xFFE2, 1, 1, 0xAC), (0xFFE4, 1, 1, 0xA6), (0xFFE5, 1, 1, 0xA5), (0xFFE6, 1, 1, 0x20A9),
  (0xFFE8, 1, 1, 0x2502), (0xFFE9, 4, 1, 0x2190), (0xFFED, 1, 1, 0x25A0), (0xFFEE, 1, 1, 0x25CB),
  (0x10400, 40, 1, 0x10428), (0x104B0, 36, 1, 0x104D8), (0x10570, 11, 1, 0x10597),
  (0x1057C, 15, 1, 0x105A3), (0x1058C, 7, 1, 0x105B3), (0x10594, 2, 1, 0x105BB),
  (0x10781, 2, 1, 0x2D0), (0x10783, 1, 1, 0xE6), (0x10784, 1, 1, 0x299), (0x10785, 1, 1, 0x253),
  (0x10787, 1, 1, 0x2A3), (0x10788, 1, 1, 0xAB66), (0x10789, 1, 1, 0x2A5), (0x1078A, 1, 1, 0x2A4),
  (0x1078B, 2, 1, 0x256), (0x1078D, 1, 1, 0x1D91), (0x1078E, 1, 1, 0x258), (0x1078F, 1, 1, 0x25E),
  (0x10790, 1, 1, 0x2A9), (0x10791, 1, 1, 0x264), (0x10792, 1, 1, 0x262), (0x10793, 1, 1, 0x260),
  (0x10794, 1, 1, 0x29B), (0x10795, 1, 1, 0x127), (0x10796, 1, 1, 0x29C), (0x10797, 1, 1, 0x267),
  (0x10798, 1, 1, 0x284), (0x10799, 2, 1, 0x2AA), (0x1079B, 1, 1, 0x26C), (0x1079C, 1, 1, 0x1DF04),
  (0x1079D, 1, 1, 0xA78E), (0x1079E, 1, 1, 0x26E), (0x1079F, 1, 1, 0x1DF05),
  (0x107A0, 1, 1, 0x28E), (0x107A1, 1, 1, 0x1DF06), (0x107A2, 1, 1, 0xF8), (0x107A3, 2, 1, 0x276),
  (0x107A5, 1, 1, 0x71), (0x107A6, 1, 1, 0x27A), (0x107A7, 1, 1, 0x1DF08), (0x107A8, 2, 1, 0x27D),
  (0x107AA, 1, 1, 0x280), (0x107AB, 1, 1, 0x2A8), (0x107AC, 1, 1, 0x2A6), (0x107AD, 1, 1, 0xAB67),
  (0x107AE, 1, 1, 0x2A7), (0x107AF, 1, 1, 0x288), (0x107B0, 1, 1, 0x2C71), (0x107B2, 1, 1, 0x28F),
  (0x107B3, 2, 1, 0x2A1), (0x107B5, 1, 1, 0x298), (0x107B6, 3, 1, 0x1C0), (0x107B9, 1, 1, 0x1DF0A),
  (0x107BA, 1, 1, 0x1DF1E), (0x10C80, 51, 1, 0x10CC0), (0x10D50, 22, 1, 0x10D70),
  (0x118A0, 32, 1, 0x118C0), (0x16E40, 32, 1, 0x16E60), (0x16EA0, 25, 1, 0x16EBB),
  (0x1CCD6, 26, 1, 0x61), (0x1CCF0, 10, 1, 0x30), (0x1D400, 26, 1, 0x61), (0x1D41A, 26, 1, 0x61),
  (0x1D434, 26, 1, 0x61), (0x1D44E, 7, 1, 0x61), (0x1D456, 18, 1, 0x69), (0x1D468, 26, 1, 0x61),
  (0x1D482, 26, 1, 0x61), (0x1D49C, 2, 2, 0x61), (0x1D49F, 1, 1, 0x64), (0x1D4A2, 1, 1, 0x67),
  (0x1D4A5, 2, 1, 0x6A), (0x1D4A9, 4, 1, 0x6E), (0x1D4AE, 8, 1, 0x73), (0x1D4B6, 4, 1, 0x61),
  (0x1D4BB, 2, 2, 0x66), (0x1D4BE, 6, 1, 0x69), (0x1D4C5, 11, 1, 0x70), (0x1D4D0, 26, 1, 0x61),
  (0x1D4EA, 26, 1, 0x61), (0x1D504, 2, 1, 0x61), (0x1D507, 4, 1, 0x64), (0x1D50D, 8, 1, 0x6A),
  (0x1D516, 7, 1, 0x73), (0x1D51E, 26, 1, 0x61), (0x1D538, 2, 1, 0x61), (0x1D53B, 4, 1, 0x64),
  (0x1D540, 5, 1, 0x69), (0x1D546, 1, 1, 0x6F), (0x1D54A, 7, 1, 0x73), (0x1D552, 26, 1, 0x61),
  (0x1D56C, 26, 1, 0x61), (0x1D586, 26, 1, 0x61), (0x1D5A0, 26, 1, 0x61), (0x1D5BA, 26, 1, 0x61),
  (0x1D5D4, 26, 1, 0x61), (0x1D5EE, 26, 1, 0x61), (0x1D608, 26, 1, 0x61), (0x1D622, 26, 1, 0x61),
  (0x1D63C, 26, 1, 0x61), (0x1D656, 26, 1, 0x61), (0x1D670, 26, 1, 0x61), (0x1D68A, 26, 1, 0x61),
  (0x1D6A4, 1, 1, 0x131), (0x1D6A5, 1, 1, 0x237), (0x1D6A8, 17, 1, 0x3B1), (0x1D6B9, 1, 1, 0x3B8),
  (0x1D6BA, 7, 1, 0x3C3), (0x1D6C1, 1, 1, 0x2207), (0x1D6C2, 17, 1, 0x3B1), (0x1D6D3, 1, 1, 0x3C3),
  (0x1D6D4, 7, 1, 0x3C3), (0x1D6DB, 1, 1, 0x2202), (0x1D6DC, 1, 1, 0x3B5), (0x1D6DD, 1, 1, 0x3B8),
  (0x1D6DE, 1, 1, 0x3BA), (0x1D6DF, 1, 1, 0x3C6), (0x1D6E0, 1, 1, 0x3C1), (0x1D6E1, 1, 1, 0x3C0),
  (0x1D6E2, 17, 1, 0x3B1), (0x1D6F3, 1, 1, 0x3B8), (0x1D6F4, 7, 1, 0x3C3), (0x1D6FB, 1, 1, 0x2207),
  (0x1D6FC, 17, 1, 0x3B1), (0x1D70D, 1, 1, 0x3C3), (0x1D70E, 7, 1, 0x3C3), (0x1D715, 1, 1, 0x2202),
  (0x1D716, 1, 1, 0x3B5), (0x1D717, 1, 1, 0x3B8), (0x1D718, 1, 1, 0x3BA), (0x1D719, 1, 1, 0x3C6),
  (0x1D71A, 1, 1, 0x3C1), (0x1D71B, 1, 1, 0x3C0), (0x1D71C, 17, 1, 0x3B1), (0x1D72D, 1, 1, 0x3B8),
  (0x1D72E, 7, 1, 0x3C3), (0x1D735, 1, 1, 0x2207), (0x1D736, 17, 1, 0x3B1), (0x1D747, 1, 1, 0x3C3),
  (0x1D748, 7, 1, 0x3C3), (0x1D74F, 1, 1, 0x2202), (0x1D750, 1, 1, 0x3B5), (0x1D751, 1, 1, 0x3B8),
  (0x1D752, 1, 1, 0x3BA), (0x1D753, 1, 1, 0x3C6), (0x1D754, 1, 1, 0x3C1), (0x1D755, 1, 1, 0x3C0),
  (0x1D756, 17, 1, 0x3B1), (0x1D767, 1, 1, 0x3B8), (0x1D768, 7, 1, 0x3C3), (0x1D76F, 1, 1, 0x2207),
  (0x1D770, 17, 1, 0x3B1), (0x1D781, 1, 1, 0x3C3), (0x1D782, 7, 1, 0x3C3), (0x1D789, 1, 1, 0x2202),
  (0x1D78A, 1, 1, 0x3B5), (0x1D78B, 1, 1, 0x3B8), (0x1D78C, 1, 1, 0x3BA), (0x1D78D, 1, 1, 0x3C6),
  (0x1D78E, 1, 1, 0x3C1), (0x1D78F, 1, 1, 0x3C0), (0x1D790, 17, 1, 0x3B1), (0x1D7A1, 1, 1, 0x3B8),
  (0x1D7A2, 7, 1, 0x3C3), (0x1D7A9, 1, 1, 0x2207), (0x1D7AA, 17, 1, 0x3B1), (0x1D7BB, 1, 1, 0x3C3),
  (0x1D7BC, 7, 1, 0x3C3), (0x1D7C3, 1, 1, 0x2202), (0x1D7C4, 1, 1, 0x3B5), (0x1D7C5, 1, 1, 0x3B8),
  (0x1D7C6, 1, 1, 0x3BA), (0x1D7C7, 1, 1, 0x3C6), (0x1D7C8, 1, 1, 0x3C1), (0x1D7C9, 1, 1, 0x3C0),
  (0x1D7CA, 1, 1, 0x3DD), (0x1D7CB, 1, 1, 0x3DD), (0x1D7CE, 10, 1, 0x30), (0x1D7D8, 10, 1, 0x30),
  (0x1D7E2, 10, 1, 0x30), (0x1D7EC, 10, 1, 0x30), (0x1D7F6, 10, 1, 0x30), (0x1E030, 9, 1, 0x430),
  (0x1E039, 3, 1, 0x43A), (0x1E03C, 11, 1, 0x43E), (0x1E047, 1, 1, 0x44B), (0x1E048, 2, 1, 0x44D),
  (0x1E04A, 1, 1, 0xA689), (0x1E04B, 1, 1, 0x4D9), (0x1E04C, 1, 1, 0x456), (0x1E04D, 1, 1, 0x458),
  (0x1E04E, 1, 1, 0x4E9), (0x1E04F, 1, 1, 0x4AF), (0x1E050, 1, 1, 0x4CF), (0x1E051, 9, 1, 0x430),
  (0x1E05A, 2, 1, 0x43A), (0x1E05C, 2, 1, 0x43E), (0x1E05E, 1, 1, 0x441), (0x1E05F, 6, 1, 0x443),
  (0x1E065, 2, 1, 0x44A), (0x1E067, 1, 1, 0x491), (0x1E068, 1, 1, 0x456), (0x1E069, 1, 1, 0x455),
  (0x1E06A, 1, 1, 0x45F), (0x1E06B, 1, 1, 0x4AB), (0x1E06C, 1, 1, 0xA651), (0x1E06D, 1, 1, 0x4B1),
  (0x1E900, 34, 1, 0x1E922), (0x1EE00, 2, 1, 0x627), (0x1EE02, 1, 1, 0x62C),
  (0x1EE03, 1, 1, 0x62F), (0x1EE05, 1, 1, 0x648), (0x1EE06, 1, 1, 0x632), (0x1EE07, 1, 1, 0x62D),
  (0x1EE08, 1, 1, 0x637), (0x1EE09, 1, 1, 0x64A), (0x1EE0A, 4, 1, 0x643), (0x1EE0E, 1, 1, 0x633),
  (0x1EE0F, 1, 1, 0x639), (0x1EE10, 1, 1, 0x641), (0x1EE11, 1, 1, 0x635), (0x1EE12, 1, 1, 0x642),
  (0x1EE13, 1, 1, 0x631), (0x1EE14, 1, 1, 0x634), (0x1EE15, 2, 1, 0x62A), (0x1EE17, 1, 1, 0x62E),
  (0x1EE18, 1, 1, 0x630), (0x1EE19, 1, 1, 0x636), (0x1EE1A, 1, 1, 0x638), (0x1EE1B, 1, 1, 0x63A),
  (0x1EE1C, 1, 1, 0x66E), (0x1EE1D, 1, 1, 0x6BA), (0x1EE1E, 1, 1, 0x6A1), (0x1EE1F, 1, 1, 0x66F),
  (0x1EE21, 1, 1, 0x628), (0x1EE22, 1, 1, 0x62C), (0x1EE24, 1, 1, 0x647), (0x1EE27, 1, 1, 0x62D),
  (0x1EE29, 1, 1, 0x64A), (0x1EE2A, 4, 1, 0x643), (0x1EE2E, 1, 1, 0x633), (0x1EE2F, 1, 1, 0x639),
  (0x1EE30, 1, 1, 0x641), (0x1EE31, 1, 1, 0x635), (0x1EE32, 1, 1, 0x642), (0x1EE34, 1, 1, 0x634),
  (0x1EE35, 2, 1, 0x62A), (0x1EE37, 1, 1, 0x62E), (0x1EE39, 1, 1, 0x636), (0x1EE3B, 1, 1, 0x63A),
  (0x1EE42, 1, 1, 0x62C), (0x1EE47, 1, 1, 0x62D), (0x1EE49, 1, 1, 0x64A), (0x1EE4B, 2, 2, 0x644),
  (0x1EE4E, 1, 1, 0x633), (0x1EE4F, 1, 1, 0x639), (0x1EE51, 1, 1, 0x635), (0x1EE52, 1, 1, 0x642),
  (0x1EE54, 1, 1, 0x634), (0x1EE57, 1, 1, 0x62E), (0x1EE59, 1, 1, 0x636), (0x1EE5B, 1, 1, 0x63A),
  (0x1EE5D, 1, 1, 0x6BA), (0x1EE5F, 1, 1, 0x66F), (0x1EE61, 1, 1, 0x628), (0x1EE62, 1, 1, 0x62C),
  (0x1EE64, 1, 1, 0x647), (0x1EE67, 1, 1, 0x62D), (0x1EE68, 1, 1, 0x637), (0x1EE69, 1, 1, 0x64A),
  (0x1EE6A, 2, 2, 0x643), (0x1EE6D, 1, 1, 0x646), (0x1EE6E, 1, 1, 0x633), (0x1EE6F, 1, 1, 0x639),
  (0x1EE70, 1, 1, 0x641), (0x1EE71, 1, 1, 0x635), (0x1EE72, 1, 1, 0x642), (0x1EE74, 1, 1, 0x634),
  (0x1EE75, 2, 1, 0x62A), (0x1EE77, 1, 1, 0x62E), (0x1EE79, 1, 1, 0x636), (0x1EE7A, 1, 1, 0x638),
  (0x1EE7B, 1, 1, 0x63A), (0x1EE7C, 1, 1, 0x66E), (0x1EE7E, 1, 1, 0x6A1), (0x1EE80, 2, 1, 0x627),
  (0x1EE82, 1, 1, 0x62C), (0x1EE83, 1, 1, 0x62F), (0x1EE84, 2, 1, 0x647), (0x1EE86, 1, 1, 0x632),
  (0x1EE87, 1, 1, 0x62D), (0x1EE88, 1, 1, 0x637), (0x1EE89, 1, 1, 0x64A), (0x1EE8B, 3, 1, 0x644),
  (0x1EE8E, 1, 1, 0x633), (0x1EE8F, 1, 1, 0x639), (0x1EE90, 1, 1, 0x641), (0x1EE91, 1, 1, 0x635),
  (0x1EE92, 1, 1, 0x642), (0x1EE93, 1, 1, 0x631), (0x1EE94, 1, 1, 0x634), (0x1EE95, 2, 1, 0x62A),
  (0x1EE97, 1, 1, 0x62E), (0x1EE98, 1, 1, 0x630), (0x1EE99, 1, 1, 0x636), (0x1EE9A, 1, 1, 0x638),
  (0x1EE9B, 1, 1, 0x63A), (0x1EEA1, 1, 1, 0x628), (0x1EEA2, 1, 1, 0x62C), (0x1EEA3, 1, 1, 0x62F),
  (0x1EEA5, 1, 1, 0x648), (0x1EEA6, 1, 1, 0x632), (0x1EEA7, 1, 1, 0x62D), (0x1EEA8, 1, 1, 0x637),
  (0x1EEA9, 1, 1, 0x64A), (0x1EEAB, 3, 1, 0x644), (0x1EEAE, 1, 1, 0x633), (0x1EEAF, 1, 1, 0x639),
  (0x1EEB0, 1, 1, 0x641), (0x1EEB1, 1, 1, 0x635), (0x1EEB2, 1, 1, 0x642), (0x1EEB3, 1, 1, 0x631),
  (0x1EEB4, 1, 1, 0x634), (0x1EEB5, 2, 1, 0x62A), (0x1EEB7, 1, 1, 0x62E), (0x1EEB8, 1, 1, 0x630),
  (0x1EEB9, 1, 1, 0x636), (0x1EEBA, 1, 1, 0x638), (0x1EEBB, 1, 1, 0x63A), (0x1F12B, 1, 1, 0x63),
  (0x1F12C, 1, 1, 0x72), (0x1F130, 26, 1, 0x61), (0x1F202, 1, 1, 0x30B5), (0x1F210, 1, 1, 0x624B),
  (0x1F211, 1, 1, 0x5B57), (0x1F212, 1, 1, 0x53CC), (0x1F213, 1, 1, 0x30C7),
  (0x1F214, 1, 1, 0x4E8C), (0x1F215, 1, 1, 0x591A), (0x1F216, 1, 1, 0x89E3),
  (0x1F217, 1, 1, 0x5929), (0x1F218, 1, 1, 0x4EA4), (0x1F219, 1, 1, 0x6620),
  (0x1F21A, 1, 1, 0x7121), (0x1F21B, 1, 1, 0x6599), (0x1F21C, 1, 1, 0x524D),
  (0x1F21D, 1, 1, 0x5F8C), (0x1F21E, 1, 1, 0x518D), (0x1F21F, 1, 1, 0x65B0),
  (0x1F220, 1, 1, 0x521D), (0x1F221, 1, 1, 0x7D42), (0x1F222, 1, 1, 0x751F),
  (0x1F223, 1, 1, 0x8CA9), (0x1F224, 1, 1, 0x58F0), (0x1F225, 1, 1, 0x5439),
  (0x1F226, 1, 1, 0x6F14), (0x1F227, 1, 1, 0x6295), (0x1F228, 1, 1, 0x6355),
  (0x1F229, 1, 1, 0x4E00), (0x1F22A, 1, 1, 0x4E09), (0x1F22B, 1, 1, 0x904A),
  (0x1F22C, 1, 1, 0x5DE6), (0x1F22D, 1, 1, 0x4E2D), (0x1F22E, 1, 1, 0x53F3),
  (0x1F22F, 1, 1, 0x6307), (0x1F230, 1, 1, 0x8D70), (0x1F231, 1, 1, 0x6253),
  (0x1F232, 1, 1, 0x7981), (0x1F233, 1, 1, 0x7A7A), (0x1F234, 1, 1, 0x5408),
  (0x1F235, 1, 1, 0x6E80), (0x1F236, 1, 1, 0x6709), (0x1F237, 1, 1, 0x6708),
  (0x1F238, 1, 1, 0x7533), (0x1F239, 1, 1, 0x5272), (0x1F23A, 1, 1, 0x55B6),
  (0x1F23B, 1, 1, 0x914D), (0x1F250, 1, 1, 0x5F97), (0x1F251, 1, 1, 0x53EF), (0x1FBF0, 10, 1, 0x30)]

set_option maxRecDepth 20000

/-- Code points that stand for several characters. -/
def expansions : Array (Nat × String) := #[
  (0xA8, " \u0308"), (0xAF, " \u0304"), (0xB4, " \u0301"), (0xB8, " \u0327"), (0xBC, "1⁄4"),
  (0xBD, "1⁄2"), (0xBE, "3⁄4"), (0x130, "i\u0307"), (0x132, "ij"), (0x133, "ij"), (0x13F, "l·"),
  (0x140, "l·"), (0x149, "ʼn"), (0x1C4, "dž"), (0x1C5, "dž"), (0x1C6, "dž"), (0x1C7, "lj"),
  (0x1C8, "lj"), (0x1C9, "lj"), (0x1CA, "nj"), (0x1CB, "nj"), (0x1CC, "nj"), (0x1F1, "dz"),
  (0x1F2, "dz"), (0x1F3, "dz"), (0x2D8, " \u0306"), (0x2D9, " \u0307"), (0x2DA, " \u030a"),
  (0x2DB, " \u0328"), (0x2DC, " \u0303"), (0x2DD, " \u030b"), (0x37A, " ι"), (0x384, " \u0301"),
  (0x385, " \u0308\u0301"), (0x587, "եւ"), (0x675, "\u0627\u0674"), (0x676, "\u0648\u0674"),
  (0x677, "\u06c7\u0674"), (0x678, "\u064a\u0674"), (0xE33, "\u0e4dา"), (0xEB3, "\u0ecdາ"),
  (0xEDC, "ຫນ"), (0xEDD, "ຫມ"), (0xF77, "\u0fb2\u0f71\u0f80"), (0xF79, "\u0fb3\u0f71\u0f80"),
  (0x1E9A, "aʾ"), (0x1F80, "ἀι"), (0x1F81, "ἁι"), (0x1F82, "ἂι"), (0x1F83, "ἃι"), (0x1F84, "ἄι"),
  (0x1F85, "ἅι"), (0x1F86, "ἆι"), (0x1F87, "ἇι"), (0x1F88, "ἀι"), (0x1F89, "ἁι"), (0x1F8A, "ἂι"),
  (0x1F8B, "ἃι"), (0x1F8C, "ἄι"), (0x1F8D, "ἅι"), (0x1F8E, "ἆι"), (0x1F8F, "ἇι"), (0x1F90, "ἠι"),
  (0x1F91, "ἡι"), (0x1F92, "ἢι"), (0x1F93, "ἣι"), (0x1F94, "ἤι"), (0x1F95, "ἥι"), (0x1F96, "ἦι"),
  (0x1F97, "ἧι"), (0x1F98, "ἠι"), (0x1F99, "ἡι"), (0x1F9A, "ἢι"), (0x1F9B, "ἣι"), (0x1F9C, "ἤι"),
  (0x1F9D, "ἥι"), (0x1F9E, "ἦι"), (0x1F9F, "ἧι"), (0x1FA0, "ὠι"), (0x1FA1, "ὡι"), (0x1FA2, "ὢι"),
  (0x1FA3, "ὣι"), (0x1FA4, "ὤι"), (0x1FA5, "ὥι"), (0x1FA6, "ὦι"), (0x1FA7, "ὧι"), (0x1FA8, "ὠι"),
  (0x1FA9, "ὡι"), (0x1FAA, "ὢι"), (0x1FAB, "ὣι"), (0x1FAC, "ὤι"), (0x1FAD, "ὥι"), (0x1FAE, "ὦι"),
  (0x1FAF, "ὧι"), (0x1FB2, "ὰι"), (0x1FB3, "αι"), (0x1FB4, "άι"), (0x1FB7, "ᾶι"), (0x1FBC, "αι"),
  (0x1FBD, " \u0313"), (0x1FBF, " \u0313"), (0x1FC0, " \u0342"), (0x1FC1, " \u0308\u0342"),
  (0x1FC2, "ὴι"), (0x1FC3, "ηι"), (0x1FC4, "ήι"), (0x1FC7, "ῆι"), (0x1FCC, "ηι"),
  (0x1FCD, " \u0313\u0300"), (0x1FCE, " \u0313\u0301"), (0x1FCF, " \u0313\u0342"),
  (0x1FDD, " \u0314\u0300"), (0x1FDE, " \u0314\u0301"), (0x1FDF, " \u0314\u0342"),
  (0x1FED, " \u0308\u0300"), (0x1FEE, " \u0308\u0301"), (0x1FF2, "ὼι"), (0x1FF3, "ωι"),
  (0x1FF4, "ώι"), (0x1FF7, "ῶι"), (0x1FFC, "ωι"), (0x1FFD, " \u0301"), (0x1FFE, " \u0314"),
  (0x2017, " \u0333"), (0x2033, "′′"), (0x2034, "′′′"), (0x2036, "‵‵"), (0x2037, "‵‵‵"),
  (0x203C, "!!"), (0x203E, " \u0305"), (0x2047, "??"), (0x2048, "?!"), (0x2049, "!?"),
  (0x2057, "′′′′"), (0x20A8, "rs"), (0x2100, "a/c"), (0x2101, "a/s"), (0x2103, "°c"),
  (0x2105, "c/o"), (0x2106, "c/u"), (0x2109, "°f"), (0x2116, "no"), (0x2120, "sm"),
  (0x2121, "tel"), (0x2122, "tm"), (0x213B, "fax"), (0x2150, "1⁄7"), (0x2151, "1⁄9"),
  (0x2152, "1⁄10"), (0x2153, "1⁄3"), (0x2154, "2⁄3"), (0x2155, "1⁄5"), (0x2156, "2⁄5"),
  (0x2157, "3⁄5"), (0x2158, "4⁄5"), (0x2159, "1⁄6"), (0x215A, "5⁄6"), (0x215B, "1⁄8"),
  (0x215C, "3⁄8"), (0x215D, "5⁄8"), (0x215E, "7⁄8"), (0x215F, "1⁄"), (0x2161, "ii"),
  (0x2162, "iii"), (0x2163, "iv"), (0x2165, "vi"), (0x2166, "vii"), (0x2167, "viii"),
  (0x2168, "ix"), (0x216A, "xi"), (0x216B, "xii"), (0x2171, "ii"), (0x2172, "iii"), (0x2173, "iv"),
  (0x2175, "vi"), (0x2176, "vii"), (0x2177, "viii"), (0x2178, "ix"), (0x217A, "xi"),
  (0x217B, "xii"), (0x2189, "0⁄3"), (0x222C, "∫∫"), (0x222D, "∫∫∫"), (0x222F, "∮∮"),
  (0x2230, "∮∮∮"), (0x2469, "10"), (0x246A, "11"), (0x246B, "12"), (0x246C, "13"), (0x246D, "14"),
  (0x246E, "15"), (0x246F, "16"), (0x2470, "17"), (0x2471, "18"), (0x2472, "19"), (0x2473, "20"),
  (0x2474, "(1)"), (0x2475, "(2)"), (0x2476, "(3)"), (0x2477, "(4)"), (0x2478, "(5)"),
  (0x2479, "(6)"), (0x247A, "(7)"), (0x247B, "(8)"), (0x247C, "(9)"), (0x247D, "(10)"),
  (0x247E, "(11)"), (0x247F, "(12)"), (0x2480, "(13)"), (0x2481, "(14)"), (0x2482, "(15)"),
  (0x2483, "(16)"), (0x2484, "(17)"), (0x2485, "(18)"), (0x2486, "(19)"), (0x2487, "(20)"),
  (0x249C, "(a)"), (0x249D, "(b)"), (0x249E, "(c)"), (0x249F, "(d)"), (0x24A0, "(e)"),
  (0x24A1, "(f)"), (0x24A2, "(g)"), (0x24A3, "(h)"), (0x24A4, "(i)"), (0x24A5, "(j)"),
  (0x24A6, "(k)"), (0x24A7, "(l)"), (0x24A8, "(m)"), (0x24A9, "(n)"), (0x24AA, "(o)"),
  (0x24AB, "(p)"), (0x24AC, "(q)"), (0x24AD, "(r)"), (0x24AE, "(s)"), (0x24AF, "(t)"),
  (0x24B0, "(u)"), (0x24B1, "(v)"), (0x24B2, "(w)"), (0x24B3, "(x)"), (0x24B4, "(y)"),
  (0x24B5, "(z)"), (0x2A0C, "∫∫∫∫"), (0x2A74, "::="), (0x2A75, "=="), (0x2A76, "==="),
  (0x309B, " \u3099"), (0x309C, " \u309a"), (0x309F, "より"), (0x30FF, "コト"), (0x3200, "(ᄀ)"),
  (0x3201, "(ᄂ)"), (0x3202, "(ᄃ)"), (0x3203, "(ᄅ)"), (0x3204, "(ᄆ)"), (0x3205, "(ᄇ)"),
  (0x3206, "(ᄉ)"), (0x3207, "(ᄋ)"), (0x3208, "(ᄌ)"), (0x3209, "(ᄎ)"), (0x320A, "(ᄏ)"),
  (0x320B, "(ᄐ)"), (0x320C, "(ᄑ)"), (0x320D, "(ᄒ)"), (0x320E, "(가)"), (0x320F, "(나)"),
  (0x3210, "(다)"), (0x3211, "(라)"), (0x3212, "(마)"), (0x3213, "(바)"), (0x3214, "(사)"),
  (0x3215, "(아)"), (0x3216, "(자)"), (0x3217, "(차)"), (0x3218, "(카)"), (0x3219, "(타)"),
  (0x321A, "(파)"), (0x321B, "(하)"), (0x321C, "(주)"), (0x321D, "(오전)"), (0x321E, "(오후)"),
  (0x3220, "(一)"), (0x3221, "(二)"), (0x3222, "(三)"), (0x3223, "(四)"), (0x3224, "(五)"),
  (0x3225, "(六)"), (0x3226, "(七)"), (0x3227, "(八)"), (0x3228, "(九)"), (0x3229, "(十)"),
  (0x322A, "(月)"), (0x322B, "(火)"), (0x322C, "(水)"), (0x322D, "(木)"), (0x322E, "(金)"),
  (0x322F, "(土)"), (0x3230, "(日)"), (0x3231, "(株)"), (0x3232, "(有)"), (0x3233, "(社)"),
  (0x3234, "(名)"), (0x3235, "(特)"), (0x3236, "(財)"), (0x3237, "(祝)"), (0x3238, "(労)"),
  (0x3239, "(代)"), (0x323A, "(呼)"), (0x323B, "(学)"), (0x323C, "(監)"), (0x323D, "(企)"),
  (0x323E, "(資)"), (0x323F, "(協)"), (0x3240, "(祭)"), (0x3241, "(休)"), (0x3242, "(自)"),
  (0x3243, "(至)"), (0x3250, "pte"), (0x3251, "21"), (0x3252, "22"), (0x3253, "23"), (0x3254, "24"),
  (0x3255, "25"), (0x3256, "26"), (0x3257, "27"), (0x3258, "28"), (0x3259, "29"), (0x325A, "30"),
  (0x325B, "31"), (0x325C, "32"), (0x325D, "33"), (0x325E, "34"), (0x325F, "35"), (0x327C, "참고"),
  (0x327D, "주의"), (0x32B1, "36"), (0x32B2, "37"), (0x32B3, "38"), (0x32B4, "39"), (0x32B5, "40"),
  (0x32B6, "41"), (0x32B7, "42"), (0x32B8, "43"), (0x32B9, "44"), (0x32BA, "45"), (0x32BB, "46"),
  (0x32BC, "47"), (0x32BD, "48"), (0x32BE, "49"), (0x32BF, "50"), (0x32C0, "1月"), (0x32C1, "2月"),
  (0x32C2, "3月"), (0x32C3, "4月"), (0x32C4, "5月"), (0x32C5, "6月"), (0x32C6, "7月"), (0x32C7, "8月"),
  (0x32C8, "9月"), (0x32C9, "10月"), (0x32CA, "11月"), (0x32CB, "12月"), (0x32CC, "hg"),
  (0x32CD, "erg"), (0x32CE, "ev"), (0x32CF, "ltd"), (0x32FF, "令和"), (0x3300, "アパート"),
  (0x3301, "アルファ"), (0x3302, "アンペア"), (0x3303, "アール"), (0x3304, "イニング"), (0x3305, "インチ"),
  (0x3306, "ウォン"), (0x3307, "エスクード"), (0x3308, "エーカー"), (0x3309, "オンス"), (0x330A, "オーム"),
  (0x330B, "カイリ"), (0x330C, "カラット"), (0x330D, "カロリー"), (0x330E, "ガロン"), (0x330F, "ガンマ"),
  (0x3310, "ギガ"), (0x3311, "ギニー"), (0x3312, "キュリー"), (0x3313, "ギルダー"), (0x3314, "キロ"),
  (0x3315, "キログラム"), (0x3316, "キロメートル"), (0x3317, "キロワット"), (0x3318, "グラム"), (0x3319, "グラムトン"),
  (0x331A, "クルゼイロ"), (0x331B, "クローネ"), (0x331C, "ケース"), (0x331D, "コルナ"), (0x331E, "コーポ"),
  (0x331F, "サイクル"), (0x3320, "サンチーム"), (0x3321, "シリング"), (0x3322, "センチ"), (0x3323, "セント"),
  (0x3324, "ダース"), (0x3325, "デシ"), (0x3326, "ドル"), (0x3327, "トン"), (0x3328, "ナノ"), (0x3329, "ノット"),
  (0x332A, "ハイツ"), (0x332B, "パーセント"), (0x332C, "パーツ"), (0x332D, "バーレル"), (0x332E, "ピアストル"),
  (0x332F, "ピクル"), (0x3330, "ピコ"), (0x3331, "ビル"), (0x3332, "ファラッド"), (0x3333, "フィート"),
  (0x3334, "ブッシェル"), (0x3335, "フラン"), (0x3336, "ヘクタール"), (0x3337, "ペソ"), (0x3338, "ペニヒ"),
  (0x3339, "ヘルツ"), (0x333A, "ペンス"), (0x333B, "ページ"), (0x333C, "ベータ"), (0x333D, "ポイント"),
  (0x333E, "ボルト"), (0x333F, "ホン"), (0x3340, "ポンド"), (0x3341, "ホール"), (0x3342, "ホーン"),
  (0x3343, "マイクロ"), (0x3344, "マイル"), (0x3345, "マッハ"), (0x3346, "マルク"), (0x3347, "マンション"),
  (0x3348, "ミクロン"), (0x3349, "ミリ"), (0x334A, "ミリバール"), (0x334B, "メガ"), (0x334C, "メガトン"),
  (0x334D, "メートル"), (0x334E, "ヤード"), (0x334F, "ヤール"), (0x3350, "ユアン"), (0x3351, "リットル"),
  (0x3352, "リラ"), (0x3353, "ルピー"), (0x3354, "ルーブル"), (0x3355, "レム"), (0x3356, "レントゲン"),
  (0x3357, "ワット"), (0x3358, "0点"), (0x3359, "1点"), (0x335A, "2点"), (0x335B, "3点"), (0x335C, "4点"),
  (0x335D, "5点"), (0x335E, "6点"), (0x335F, "7点"), (0x3360, "8点"), (0x3361, "9点"), (0x3362, "10点"),
  (0x3363, "11点"), (0x3364, "12点"), (0x3365, "13点"), (0x3366, "14点"), (0x3367, "15点"),
  (0x3368, "16点"), (0x3369, "17点"), (0x336A, "18点"), (0x336B, "19点"), (0x336C, "20点"),
  (0x336D, "21点"), (0x336E, "22点"), (0x336F, "23点"), (0x3370, "24点"), (0x3371, "hpa"),
  (0x3372, "da"), (0x3373, "au"), (0x3374, "bar"), (0x3375, "ov"), (0x3376, "pc"), (0x3377, "dm"),
  (0x3378, "dm2"), (0x3379, "dm3"), (0x337A, "iu"), (0x337B, "平成"), (0x337C, "昭和"), (0x337D, "大正"),
  (0x337E, "明治"), (0x337F, "株式会社"), (0x3380, "pa"), (0x3381, "na"), (0x3382, "μa"), (0x3383, "ma"),
  (0x3384, "ka"), (0x3385, "kb"), (0x3386, "mb"), (0x3387, "gb"), (0x3388, "cal"),
  (0x3389, "kcal"), (0x338A, "pf"), (0x338B, "nf"), (0x338C, "μf"), (0x338D, "μg"), (0x338E, "mg"),
  (0x338F, "kg"), (0x3390, "hz"), (0x3391, "khz"), (0x3392, "mhz"), (0x3393, "ghz"),
  (0x3394, "thz"), (0x3395, "μl"), (0x3396, "ml"), (0x3397, "dl"), (0x3398, "kl"), (0x3399, "fm"),
  (0x339A, "nm"), (0x339B, "μm"), (0x339C, "mm"), (0x339D, "cm"), (0x339E, "km"), (0x339F, "mm2"),
  (0x33A0, "cm2"), (0x33A1, "m2"), (0x33A2, "km2"), (0x33A3, "mm3"), (0x33A4, "cm3"),
  (0x33A5, "m3"), (0x33A6, "km3"), (0x33A7, "m∕s"), (0x33A8, "m∕s2"), (0x33A9, "pa"),
  (0x33AA, "kpa"), (0x33AB, "mpa"), (0x33AC, "gpa"), (0x33AD, "rad"), (0x33AE, "rad∕s"),
  (0x33AF, "rad∕s2"), (0x33B0, "ps"), (0x33B1, "ns"), (0x33B2, "μs"), (0x33B3, "ms"),
  (0x33B4, "pv"), (0x33B5, "nv"), (0x33B6, "μv"), (0x33B7, "mv"), (0x33B8, "kv"), (0x33B9, "mv"),
  (0x33BA, "pw"), (0x33BB, "nw"), (0x33BC, "μw"), (0x33BD, "mw"), (0x33BE, "kw"), (0x33BF, "mw"),
  (0x33C0, "kω"), (0x33C1, "mω"), (0x33C3, "bq"), (0x33C4, "cc"), (0x33C5, "cd"), (0x33C6, "c∕kg"),
  (0x33C8, "db"), (0x33C9, "gy"), (0x33CA, "ha"), (0x33CB, "hp"), (0x33CC, "in"), (0x33CD, "kk"),
  (0x33CE, "km"), (0x33CF, "kt"), (0x33D0, "lm"), (0x33D1, "ln"), (0x33D2, "log"), (0x33D3, "lx"),
  (0x33D4, "mb"), (0x33D5, "mil"), (0x33D6, "mol"), (0x33D7, "ph"), (0x33D9, "ppm"),
  (0x33DA, "pr"), (0x33DB, "sr"), (0x33DC, "sv"), (0x33DD, "wb"), (0x33DE, "v∕m"), (0x33DF, "a∕m"),
  (0x33E0, "1日"), (0x33E1, "2日"), (0x33E2, "3日"), (0x33E3, "4日"), (0x33E4, "5日"), (0x33E5, "6日"),
  (0x33E6, "7日"), (0x33E7, "8日"), (0x33E8, "9日"), (0x33E9, "10日"), (0x33EA, "11日"),
  (0x33EB, "12日"), (0x33EC, "13日"), (0x33ED, "14日"), (0x33EE, "15日"), (0x33EF, "16日"),
  (0x33F0, "17日"), (0x33F1, "18日"), (0x33F2, "19日"), (0x33F3, "20日"), (0x33F4, "21日"),
  (0x33F5, "22日"), (0x33F6, "23日"), (0x33F7, "24日"), (0x33F8, "25日"), (0x33F9, "26日"),
  (0x33FA, "27日"), (0x33FB, "28日"), (0x33FC, "29日"), (0x33FD, "30日"), (0x33FE, "31日"),
  (0x33FF, "gal"), (0xFB00, "ff"), (0xFB01, "fi"), (0xFB02, "fl"), (0xFB03, "ffi"),
  (0xFB04, "ffl"), (0xFB05, "st"), (0xFB06, "st"), (0xFB13, "մն"), (0xFB14, "մե"), (0xFB15, "մի"),
  (0xFB16, "վն"), (0xFB17, "մխ"), (0xFB4F, "\u05d0\u05dc"), (0xFBDD, "\u06c7\u0674"),
  (0xFBEA, "\u0626\u0627"), (0xFBEB, "\u0626\u0627"), (0xFBEC, "\u0626\u06d5"),
  (0xFBED, "\u0626\u06d5"), (0xFBEE, "\u0626\u0648"), (0xFBEF, "\u0626\u0648"),
  (0xFBF0, "\u0626\u06c7"), (0xFBF1, "\u0626\u06c7"), (0xFBF2, "\u0626\u06c6"),
  (0xFBF3, "\u0626\u06c6"), (0xFBF4, "\u0626\u06c8"), (0xFBF5, "\u0626\u06c8"),
  (0xFBF6, "\u0626\u06d0"), (0xFBF7, "\u0626\u06d0"), (0xFBF8, "\u0626\u06d0"),
  (0xFBF9, "\u0626\u0649"), (0xFBFA, "\u0626\u0649"), (0xFBFB, "\u0626\u0649"),
  (0xFC00, "\u0626\u062c"), (0xFC01, "\u0626\u062d"), (0xFC02, "\u0626\u0645"),
  (0xFC03, "\u0626\u0649"), (0xFC04, "\u0626\u064a"), (0xFC05, "\u0628\u062c"),
  (0xFC06, "\u0628\u062d"), (0xFC07, "\u0628\u062e"), (0xFC08, "\u0628\u0645"),
  (0xFC09, "\u0628\u0649"), (0xFC0A, "\u0628\u064a"), (0xFC0B, "\u062a\u062c"),
  (0xFC0C, "\u062a\u062d"), (0xFC0D, "\u062a\u062e"), (0xFC0E, "\u062a\u0645"),
  (0xFC0F, "\u062a\u0649"), (0xFC10, "\u062a\u064a"), (0xFC11, "\u062b\u062c"),
  (0xFC12, "\u062b\u0645"), (0xFC13, "\u062b\u0649"), (0xFC14, "\u062b\u064a"),
  (0xFC15, "\u062c\u062d"), (0xFC16, "\u062c\u0645"), (0xFC17, "\u062d\u062c"),
  (0xFC18, "\u062d\u0645"), (0xFC19, "\u062e\u062c"), (0xFC1A, "\u062e\u062d"),
  (0xFC1B, "\u062e\u0645"), (0xFC1C, "\u0633\u062c"), (0xFC1D, "\u0633\u062d"),
  (0xFC1E, "\u0633\u062e"), (0xFC1F, "\u0633\u0645"), (0xFC20, "\u0635\u062d"),
  (0xFC21, "\u0635\u0645"), (0xFC22, "\u0636\u062c"), (0xFC23, "\u0636\u062d"),
  (0xFC24, "\u0636\u062e"), (0xFC25, "\u0636\u0645"), (0xFC26, "\u0637\u062d"),
  (0xFC27, "\u0637\u0645"), (0xFC28, "\u0638\u0645"), (0xFC29, "\u0639\u062c"),
  (0xFC2A, "\u0639\u0645"), (0xFC2B, "\u063a\u062c"), (0xFC2C, "\u063a\u0645"),
  (0xFC2D, "\u0641\u062c"), (0xFC2E, "\u0641\u062d"), (0xFC2F, "\u0641\u062e"),
  (0xFC30, "\u0641\u0645"), (0xFC31, "\u0641\u0649"), (0xFC32, "\u0641\u064a"),
  (0xFC33, "\u0642\u062d"), (0xFC34, "\u0642\u0645"), (0xFC35, "\u0642\u0649"),
  (0xFC36, "\u0642\u064a"), (0xFC37, "\u0643\u0627"), (0xFC38, "\u0643\u062c"),
  (0xFC39, "\u0643\u062d"), (0xFC3A, "\u0643\u062e"), (0xFC3B, "\u0643\u0644"),
  (0xFC3C, "\u0643\u0645"), (0xFC3D, "\u0643\u0649"), (0xFC3E, "\u0643\u064a"),
  (0xFC3F, "\u0644\u062c"), (0xFC40, "\u0644\u062d"), (0xFC41, "\u0644\u062e"),
  (0xFC42, "\u0644\u0645"), (0xFC43, "\u0644\u0649"), (0xFC44, "\u0644\u064a"),
  (0xFC45, "\u0645\u062c"), (0xFC46, "\u0645\u062d"), (0xFC47, "\u0645\u062e"),
  (0xFC48, "\u0645\u0645"), (0xFC49, "\u0645\u0649"), (0xFC4A, "\u0645\u064a"),
  (0xFC4B, "\u0646\u062c"), (0xFC4C, "\u0646\u062d"), (0xFC4D, "\u0646\u062e"),
  (0xFC4E, "\u0646\u0645"), (0xFC4F, "\u0646\u0649"), (0xFC50, "\u0646\u064a"),
  (0xFC51, "\u0647\u062c"), (0xFC52, "\u0647\u0645"), (0xFC53, "\u0647\u0649"),
  (0xFC54, "\u0647\u064a"), (0xFC55, "\u064a\u062c"), (0xFC56, "\u064a\u062d"),
  (0xFC57, "\u064a\u062e"), (0xFC58, "\u064a\u0645"), (0xFC59, "\u064a\u0649"),
  (0xFC5A, "\u064a\u064a"), (0xFC5B, "\u0630\u0670"), (0xFC5C, "\u0631\u0670"),
  (0xFC5D, "\u0649\u0670"), (0xFC5E, " \u064c\u0651"), (0xFC5F, " \u064d\u0651"),
  (0xFC60, " \u064e\u0651"), (0xFC61, " \u064f\u0651"), (0xFC62, " \u0650\u0651"),
  (0xFC63, " \u0651\u0670"), (0xFC64, "\u0626\u0631"), (0xFC65, "\u0626\u0632"),
  (0xFC66, "\u0626\u0645"), (0xFC67, "\u0626\u0646"), (0xFC68, "\u0626\u0649"),
  (0xFC69, "\u0626\u064a"), (0xFC6A, "\u0628\u0631"), (0xFC6B, "\u0628\u0632"),
  (0xFC6C, "\u0628\u0645"), (0xFC6D, "\u0628\u0646"), (0xFC6E, "\u0628\u0649"),
  (0xFC6F, "\u0628\u064a"), (0xFC70, "\u062a\u0631"), (0xFC71, "\u062a\u0632"),
  (0xFC72, "\u062a\u0645"), (0xFC73, "\u062a\u0646"), (0xFC74, "\u062a\u0649"),
  (0xFC75, "\u062a\u064a"), (0xFC76, "\u062b\u0631"), (0xFC77, "\u062b\u0632"),
  (0xFC78, "\u062b\u0645"), (0xFC79, "\u062b\u0646"), (0xFC7A, "\u062b\u0649"),
  (0xFC7B, "\u062b\u064a"), (0xFC7C, "\u0641\u0649"), (0xFC7D, "\u0641\u064a"),
  (0xFC7E, "\u0642\u0649"), (0xFC7F, "\u0642\u064a"), (0xFC80, "\u0643\u0627"),
  (0xFC81, "\u0643\u0644"), (0xFC82, "\u0643\u0645"), (0xFC83, "\u0643\u0649"),
  (0xFC84, "\u0643\u064a"), (0xFC85, "\u0644\u0645"), (0xFC86, "\u0644\u0649"),
  (0xFC87, "\u0644\u064a"), (0xFC88, "\u0645\u0627"), (0xFC89, "\u0645\u0645"),
  (0xFC8A, "\u0646\u0631"), (0xFC8B, "\u0646\u0632"), (0xFC8C, "\u0646\u0645"),
  (0xFC8D, "\u0646\u0646"), (0xFC8E, "\u0646\u0649"), (0xFC8F, "\u0646\u064a"),
  (0xFC90, "\u0649\u0670"), (0xFC91, "\u064a\u0631"), (0xFC92, "\u064a\u0632"),
  (0xFC93, "\u064a\u0645"), (0xFC94, "\u064a\u0646"), (0xFC95, "\u064a\u0649"),
  (0xFC96, "\u064a\u064a"), (0xFC97, "\u0626\u062c"), (0xFC98, "\u0626\u062d"),
  (0xFC99, "\u0626\u062e"), (0xFC9A, "\u0626\u0645"), (0xFC9B, "\u0626\u0647"),
  (0xFC9C, "\u0628\u062c"), (0xFC9D, "\u0628\u062d"), (0xFC9E, "\u0628\u062e"),
  (0xFC9F, "\u0628\u0645"), (0xFCA0, "\u0628\u0647"), (0xFCA1, "\u062a\u062c"),
  (0xFCA2, "\u062a\u062d"), (0xFCA3, "\u062a\u062e"), (0xFCA4, "\u062a\u0645"),
  (0xFCA5, "\u062a\u0647"), (0xFCA6, "\u062b\u0645"), (0xFCA7, "\u062c\u062d"),
  (0xFCA8, "\u062c\u0645"), (0xFCA9, "\u062d\u062c"), (0xFCAA, "\u062d\u0645"),
  (0xFCAB, "\u062e\u062c"), (0xFCAC, "\u062e\u0645"), (0xFCAD, "\u0633\u062c"),
  (0xFCAE, "\u0633\u062d"), (0xFCAF, "\u0633\u062e"), (0xFCB0, "\u0633\u0645"),
  (0xFCB1, "\u0635\u062d"), (0xFCB2, "\u0635\u062e"), (0xFCB3, "\u0635\u0645"),
  (0xFCB4, "\u0636\u062c"), (0xFCB5, "\u0636\u062d"), (0xFCB6, "\u0636\u062e"),
  (0xFCB7, "\u0636\u0645"), (0xFCB8, "\u0637\u062d"), (0xFCB9, "\u0638\u0645"),
  (0xFCBA, "\u0639\u062c"), (0xFCBB, "\u0639\u0645"), (0xFCBC, "\u063a\u062c"),
  (0xFCBD, "\u063a\u0645"), (0xFCBE, "\u0641\u062c"), (0xFCBF, "\u0641\u062d"),
  (0xFCC0, "\u0641\u062e"), (0xFCC1, "\u0641\u0645"), (0xFCC2, "\u0642\u062d"),
  (0xFCC3, "\u0642\u0645"), (0xFCC4, "\u0643\u062c"), (0xFCC5, "\u0643\u062d"),
  (0xFCC6, "\u0643\u062e"), (0xFCC7, "\u0643\u0644"), (0xFCC8, "\u0643\u0645"),
  (0xFCC9, "\u0644\u062c"), (0xFCCA, "\u0644\u062d"), (0xFCCB, "\u0644\u062e"),
  (0xFCCC, "\u0644\u0645"), (0xFCCD, "\u0644\u0647"), (0xFCCE, "\u0645\u062c"),
  (0xFCCF, "\u0645\u062d"), (0xFCD0, "\u0645\u062e"), (0xFCD1, "\u0645\u0645"),
  (0xFCD2, "\u0646\u062c"), (0xFCD3, "\u0646\u062d"), (0xFCD4, "\u0646\u062e"),
  (0xFCD5, "\u0646\u0645"), (0xFCD6, "\u0646\u0647"), (0xFCD7, "\u0647\u062c"),
  (0xFCD8, "\u0647\u0645"), (0xFCD9, "\u0647\u0670"), (0xFCDA, "\u064a\u062c"),
  (0xFCDB, "\u064a\u062d"), (0xFCDC, "\u064a\u062e"), (0xFCDD, "\u064a\u0645"),
  (0xFCDE, "\u064a\u0647"), (0xFCDF, "\u0626\u0645"), (0xFCE0, "\u0626\u0647"),
  (0xFCE1, "\u0628\u0645"), (0xFCE2, "\u0628\u0647"), (0xFCE3, "\u062a\u0645"),
  (0xFCE4, "\u062a\u0647"), (0xFCE5, "\u062b\u0645"), (0xFCE6, "\u062b\u0647"),
  (0xFCE7, "\u0633\u0645"), (0xFCE8, "\u0633\u0647"), (0xFCE9, "\u0634\u0645"),
  (0xFCEA, "\u0634\u0647"), (0xFCEB, "\u0643\u0644"), (0xFCEC, "\u0643\u0645"),
  (0xFCED, "\u0644\u0645"), (0xFCEE, "\u0646\u0645"), (0xFCEF, "\u0646\u0647"),
  (0xFCF0, "\u064a\u0645"), (0xFCF1, "\u064a\u0647"), (0xFCF2, "\u0640\u064e\u0651"),
  (0xFCF3, "\u0640\u064f\u0651"), (0xFCF4, "\u0640\u0650\u0651"), (0xFCF5, "\u0637\u0649"),
  (0xFCF6, "\u0637\u064a"), (0xFCF7, "\u0639\u0649"), (0xFCF8, "\u0639\u064a"),
  (0xFCF9, "\u063a\u0649"), (0xFCFA, "\u063a\u064a"), (0xFCFB, "\u0633\u0649"),
  (0xFCFC, "\u0633\u064a"), (0xFCFD, "\u0634\u0649"), (0xFCFE, "\u0634\u064a"),
  (0xFCFF, "\u062d\u0649"), (0xFD00, "\u062d\u064a"), (0xFD01, "\u062c\u0649"),
  (0xFD02, "\u062c\u064a"), (0xFD03, "\u062e\u0649"), (0xFD04, "\u062e\u064a"),
  (0xFD05, "\u0635\u0649"), (0xFD06, "\u0635\u064a"), (0xFD07, "\u0636\u0649"),
  (0xFD08, "\u0636\u064a"), (0xFD09, "\u0634\u062c"), (0xFD0A, "\u0634\u062d"),
  (0xFD0B, "\u0634\u062e"), (0xFD0C, "\u0634\u0645"), (0xFD0D, "\u0634\u0631"),
  (0xFD0E, "\u0633\u0631"), (0xFD0F, "\u0635\u0631"), (0xFD10, "\u0636\u0631"),
  (0xFD11, "\u0637\u0649"), (0xFD12, "\u0637\u064a"), (0xFD13, "\u0639\u0649"),
  (0xFD14, "\u0639\u064a"), (0xFD15, "\u063a\u0649"), (0xFD16, "\u063a\u064a"),
  (0xFD17, "\u0633\u0649"), (0xFD18, "\u0633\u064a"), (0xFD19, "\u0634\u0649"),
  (0xFD1A, "\u0634\u064a"), (0xFD1B, "\u062d\u0649"), (0xFD1C, "\u062d\u064a"),
  (0xFD1D, "\u062c\u0649"), (0xFD1E, "\u062c\u064a"), (0xFD1F, "\u062e\u0649"),
  (0xFD20, "\u062e\u064a"), (0xFD21, "\u0635\u0649"), (0xFD22, "\u0635\u064a"),
  (0xFD23, "\u0636\u0649"), (0xFD24, "\u0636\u064a"), (0xFD25, "\u0634\u062c"),
  (0xFD26, "\u0634\u062d"), (0xFD27, "\u0634\u062e"), (0xFD28, "\u0634\u0645"),
  (0xFD29, "\u0634\u0631"), (0xFD2A, "\u0633\u0631"), (0xFD2B, "\u0635\u0631"),
  (0xFD2C, "\u0636\u0631"), (0xFD2D, "\u0634\u062c"), (0xFD2E, "\u0634\u062d"),
  (0xFD2F, "\u0634\u062e"), (0xFD30, "\u0634\u0645"), (0xFD31, "\u0633\u0647"),
  (0xFD32, "\u0634\u0647"), (0xFD33, "\u0637\u0645"), (0xFD34, "\u0633\u062c"),
  (0xFD35, "\u0633\u062d"), (0xFD36, "\u0633\u062e"), (0xFD37, "\u0634\u062c"),
  (0xFD38, "\u0634\u062d"), (0xFD39, "\u0634\u062e"), (0xFD3A, "\u0637\u0645"),
  (0xFD3B, "\u0638\u0645"), (0xFD3C, "\u0627\u064b"), (0xFD3D, "\u0627\u064b"),
  (0xFD50, "\u062a\u062c\u0645"), (0xFD51, "\u062a\u062d\u062c"), (0xFD52, "\u062a\u062d\u062c"),
  (0xFD53, "\u062a\u062d\u0645"), (0xFD54, "\u062a\u062e\u0645"), (0xFD55, "\u062a\u0645\u062c"),
  (0xFD56, "\u062a\u0645\u062d"), (0xFD57, "\u062a\u0645\u062e"), (0xFD58, "\u062c\u0645\u062d"),
  (0xFD59, "\u062c\u0645\u062d"), (0xFD5A, "\u062d\u0645\u064a"), (0xFD5B, "\u062d\u0645\u0649"),
  (0xFD5C, "\u0633\u062d\u062c"), (0xFD5D, "\u0633\u062c\u062d"), (0xFD5E, "\u0633\u062c\u0649"),
  (0xFD5F, "\u0633\u0645\u062d"), (0xFD60, "\u0633\u0645\u062d"), (0xFD61, "\u0633\u0645\u062c"),
  (0xFD62, "\u0633\u0645\u0645"), (0xFD63, "\u0633\u0645\u0645"), (0xFD64, "\u0635\u062d\u062d"),
  (0xFD65, "\u0635\u062d\u062d"), (0xFD66, "\u0635\u0645\u0645"), (0xFD67, "\u0634\u062d\u0645"),
  (0xFD68, "\u0634\u062d\u0645"), (0xFD69, "\u0634\u062c\u064a"), (0xFD6A, "\u0634\u0645\u062e"),
  (0xFD6B, "\u0634\u0645\u062e"), (0xFD6C, "\u0634\u0645\u0645"), (0xFD6D, "\u0634\u0645\u0645"),
  (0xFD6E, "\u0636\u062d\u0649"), (0xFD6F, "\u0636\u062e\u0645"), (0xFD70, "\u0636\u062e\u0645"),
  (0xFD71, "\u0637\u0645\u062d"), (0xFD72, "\u0637\u0645\u062d"), (0xFD73, "\u0637\u0645\u0645"),
  (0xFD74, "\u0637\u0645\u064a"), (0xFD75, "\u0639\u062c\u0645"), (0xFD76, "\u0639\u0645\u0645"),
  (0xFD77, "\u0639\u0645\u0645"), (0xFD78, "\u0639\u0645\u0649"), (0xFD79, "\u063a\u0645\u0645"),
  (0xFD7A, "\u063a\u0645\u064a"), (0xFD7B, "\u063a\u0645\u0649"), (0xFD7C, "\u0641\u062e\u0645"),
  (0xFD7D, "\u0641\u062e\u0645"), (0xFD7E, "\u0642\u0645\u062d"), (0xFD7F, "\u0642\u0645\u0645"),
  (0xFD80, "\u0644\u062d\u0645"), (0xFD81, "\u0644\u062d\u064a"), (0xFD82, "\u0644\u062d\u0649"),
  (0xFD83, "\u0644\u062c\u062c"), (0xFD84, "\u0644\u062c\u062c"), (0xFD85, "\u0644\u062e\u0645"),
  (0xFD86, "\u0644\u062e\u0645"), (0xFD87, "\u0644\u0645\u062d"), (0xFD88, "\u0644\u0645\u062d"),
  (0xFD89, "\u0645\u062d\u062c"), (0xFD8A, "\u0645\u062d\u0645"), (0xFD8B, "\u0645\u062d\u064a"),
  (0xFD8C, "\u0645\u062c\u062d"), (0xFD8D, "\u0645\u062c\u0645"), (0xFD8E, "\u0645\u062e\u062c"),
  (0xFD8F, "\u0645\u062e\u0645"), (0xFD92, "\u0645\u062c\u062e"), (0xFD93, "\u0647\u0645\u062c"),
  (0xFD94, "\u0647\u0645\u0645"), (0xFD95, "\u0646\u062d\u0645"), (0xFD96, "\u0646\u062d\u0649"),
  (0xFD97, "\u0646\u062c\u0645"), (0xFD98, "\u0646\u062c\u0645"), (0xFD99, "\u0646\u062c\u0649"),
  (0xFD9A, "\u0646\u0645\u064a"), (0xFD9B, "\u0646\u0645\u0649"), (0xFD9C, "\u064a\u0645\u0645"),
  (0xFD9D, "\u064a\u0645\u0645"), (0xFD9E, "\u0628\u062e\u064a"), (0xFD9F, "\u062a\u062c\u064a"),
  (0xFDA0, "\u062a\u062c\u0649"), (0xFDA1, "\u062a\u062e\u064a"), (0xFDA2, "\u062a\u062e\u0649"),
  (0xFDA3, "\u062a\u0645\u064a"), (0xFDA4, "\u062a\u0645\u0649"), (0xFDA5, "\u062c\u0645\u064a"),
  (0xFDA6, "\u062c\u062d\u0649"), (0xFDA7, "\u062c\u0645\u0649"), (0xFDA8, "\u0633\u062e\u0649"),
  (0xFDA9, "\u0635\u062d\u064a"), (0xFDAA, "\u0634\u062d\u064a"), (0xFDAB, "\u0636\u062d\u064a"),
  (0xFDAC, "\u0644\u062c\u064a"), (0xFDAD, "\u0644\u0645\u064a"), (0xFDAE, "\u064a\u062d\u064a"),
  (0xFDAF, "\u064a\u062c\u064a"), (0xFDB0, "\u064a\u0645\u064a"), (0xFDB1, "\u0645\u0645\u064a"),
  (0xFDB2, "\u0642\u0645\u064a"), (0xFDB3, "\u0646\u062d\u064a"), (0xFDB4, "\u0642\u0645\u062d"),
  (0xFDB5, "\u0644\u062d\u0645"), (0xFDB6, "\u0639\u0645\u064a"), (0xFDB7, "\u0643\u0645\u064a"),
  (0xFDB8, "\u0646\u062c\u062d"), (0xFDB9, "\u0645\u062e\u064a"), (0xFDBA, "\u0644\u062c\u0645"),
  (0xFDBB, "\u0643\u0645\u0645"), (0xFDBC, "\u0644\u062c\u0645"), (0xFDBD, "\u0646\u062c\u062d"),
  (0xFDBE, "\u062c\u062d\u064a"), (0xFDBF, "\u062d\u062c\u064a"), (0xFDC0, "\u0645\u062c\u064a"),
  (0xFDC1, "\u0641\u0645\u064a"), (0xFDC2, "\u0628\u062d\u064a"), (0xFDC3, "\u0643\u0645\u0645"),
  (0xFDC4, "\u0639\u062c\u0645"), (0xFDC5, "\u0635\u0645\u0645"), (0xFDC6, "\u0633\u062e\u064a"),
  (0xFDC7, "\u0646\u062c\u064a"), (0xFDF0, "\u0635\u0644\u06d2"), (0xFDF1, "\u0642\u0644\u06d2"),
  (0xFDF2, "\u0627\u0644\u0644\u0647"), (0xFDF3, "\u0627\u0643\u0628\u0631"),
  (0xFDF4, "\u0645\u062d\u0645\u062f"), (0xFDF5, "\u0635\u0644\u0639\u0645"),
  (0xFDF6, "\u0631\u0633\u0648\u0644"), (0xFDF7, "\u0639\u0644\u064a\u0647"),
  (0xFDF8, "\u0648\u0633\u0644\u0645"), (0xFDF9, "\u0635\u0644\u0649"),
  (0xFDFA,
   "\u0635\u0644\u0649 \u0627\u0644\u0644\u0647 \u0639\u0644\u064a\u0647 \u0648\u0633\u0644\u0645"),
  (0xFDFB, "\u062c\u0644 \u062c\u0644\u0627\u0644\u0647"), (0xFDFC, "\u0631\u06cc\u0627\u0644"),
  (0xFE49, " \u0305"), (0xFE4A, " \u0305"), (0xFE4B, " \u0305"), (0xFE4C, " \u0305"),
  (0xFE70, " \u064b"), (0xFE71, "\u0640\u064b"), (0xFE72, " \u064c"), (0xFE74, " \u064d"),
  (0xFE76, " \u064e"), (0xFE77, "\u0640\u064e"), (0xFE78, " \u064f"), (0xFE79, "\u0640\u064f"),
  (0xFE7A, " \u0650"), (0xFE7B, "\u0640\u0650"), (0xFE7C, " \u0651"), (0xFE7D, "\u0640\u0651"),
  (0xFE7E, " \u0652"), (0xFE7F, "\u0640\u0652"), (0xFEF5, "\u0644\u0622"),
  (0xFEF6, "\u0644\u0622"), (0xFEF7, "\u0644\u0623"), (0xFEF8, "\u0644\u0623"),
  (0xFEF9, "\u0644\u0625"), (0xFEFA, "\u0644\u0625"), (0xFEFB, "\u0644\u0627"),
  (0xFEFC, "\u0644\u0627"), (0xFFE3, " \u0304"), (0x1F101, "0,"), (0x1F102, "1,"), (0x1F103, "2,"),
  (0x1F104, "3,"), (0x1F105, "4,"), (0x1F106, "5,"), (0x1F107, "6,"), (0x1F108, "7,"),
  (0x1F109, "8,"), (0x1F10A, "9,"), (0x1F110, "(a)"), (0x1F111, "(b)"), (0x1F112, "(c)"),
  (0x1F113, "(d)"), (0x1F114, "(e)"), (0x1F115, "(f)"), (0x1F116, "(g)"), (0x1F117, "(h)"),
  (0x1F118, "(i)"), (0x1F119, "(j)"), (0x1F11A, "(k)"), (0x1F11B, "(l)"), (0x1F11C, "(m)"),
  (0x1F11D, "(n)"), (0x1F11E, "(o)"), (0x1F11F, "(p)"), (0x1F120, "(q)"), (0x1F121, "(r)"),
  (0x1F122, "(s)"), (0x1F123, "(t)"), (0x1F124, "(u)"), (0x1F125, "(v)"), (0x1F126, "(w)"),
  (0x1F127, "(x)"), (0x1F128, "(y)"), (0x1F129, "(z)"), (0x1F12A, "〔s〕"), (0x1F12D, "cd"),
  (0x1F12E, "wz"), (0x1F14A, "hv"), (0x1F14B, "mv"), (0x1F14C, "sd"), (0x1F14D, "ss"),
  (0x1F14E, "ppv"), (0x1F14F, "wc"), (0x1F16A, "mc"), (0x1F16B, "md"), (0x1F16C, "mr"),
  (0x1F190, "dj"), (0x1F200, "ほか"), (0x1F201, "ココ"), (0x1F240, "〔本〕"), (0x1F241, "〔三〕"),
  (0x1F242, "〔二〕"), (0x1F243, "〔安〕"), (0x1F244, "〔点〕"), (0x1F245, "〔打〕"), (0x1F246, "〔盗〕"),
  (0x1F247, "〔勝〕"), (0x1F248, "〔敗〕")]

end Unscramble.Url.Domain
