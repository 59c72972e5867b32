import TenantSync.Text.Unassigned

/-! # Letters and numbers

The characters that are alphabetic or stand for a number, in every script.  The ranges
pass over code points without a character. -/

namespace TenantSync

/-- The ranges of letters. -/
def alphabeticRanges : Ranges :=
  [(0x41, 0x5A), (0x61, 0x7A), (0xAA, 0xAA), (0xB5, 0xB5), (0xBA, 0xBA), (0xC0, 0xD6), (0xD8, 0xF6),
    (0xF8, 0x2C1), (0x2C6, 0x2D1), (0x2E0, 0x2E4), (0x2EC, 0x2EC), (0x2EE, 0x2EE), (0x345, 0x345),
    (0x363, 0x374), (0x376, 0x37D), (0x37F, 0x37F), (0x386, 0x386), (0x388, 0x3F5), (0x3F7, 0x481),
    (0x48A, 0x559), (0x560, 0x588), (0x5B0, 0x5BD), (0x5BF, 0x5BF), (0x5C1, 0x5C2), (0x5C4, 0x5C5),
    (0x5C7, 0x5F2), (0x610, 0x61A), (0x620, 0x657), (0x659, 0x65F), (0x66E, 0x6D3), (0x6D5, 0x6DC),
    (0x6E1, 0x6E8), (0x6ED, 0x6EF), (0x6FA, 0x6FC), (0x6FF, 0x6FF), (0x710, 0x73F), (0x74D, 0x7B1),
    (0x7CA, 0x7EA), (0x7F4, 0x7F5), (0x7FA, 0x7FA), (0x800, 0x817), (0x81A, 0x82C), (0x840, 0x858),
    (0x860, 0x887), (0x889, 0x88F), (0x897, 0x897), (0x8A0, 0x8C9), (0x8D4, 0x8DF), (0x8E3, 0x8E9),
    (0x8F0, 0x93B), (0x93D, 0x94C), (0x94E, 0x950), (0x955, 0x963), (0x971, 0x9B9), (0x9BD, 0x9CC),
    (0x9CE, 0x9E3), (0x9F0, 0x9F1), (0x9FC, 0x9FC), (0xA01, 0xA39), (0xA3E, 0xA4C), (0xA51, 0xA5E),
    (0xA70, 0xA75), (0xA81, 0xAB9), (0xABD, 0xACC), (0xAD0, 0xAE3), (0xAF9, 0xAFC), (0xB01, 0xB39),
    (0xB3D, 0xB4C), (0xB56, 0xB63), (0xB71, 0xB71), (0xB82, 0xBCC), (0xBD0, 0xBD7), (0xC00, 0xC39),
    (0xC3D, 0xC4C), (0xC55, 0xC63), (0xC80, 0xC83), (0xC85, 0xCB9), (0xCBD, 0xCCC), (0xCD5, 0xCE3),
    (0xCF1, 0xD3A), (0xD3D, 0xD4C), (0xD4E, 0xD4E), (0xD54, 0xD57), (0xD5F, 0xD63), (0xD7A, 0xDC6),
    (0xDCF, 0xDDF), (0xDF2, 0xDF3), (0xE01, 0xE3A), (0xE40, 0xE46), (0xE4D, 0xE4D), (0xE81, 0xEB9),
    (0xEBB, 0xEC6), (0xECD, 0xECD), (0xEDC, 0xF00), (0xF40, 0xF83), (0xF88, 0xFBC),
    (0x1000, 0x1036), (0x1038, 0x1038), (0x103B, 0x103F), (0x1050, 0x108F), (0x109A, 0x109D),
    (0x10A0, 0x10FA), (0x10FC, 0x135A), (0x1380, 0x138F), (0x13A0, 0x13FD), (0x1401, 0x166C),
    (0x166F, 0x167F), (0x1681, 0x169A), (0x16A0, 0x16EA), (0x16EE, 0x1713), (0x171F, 0x1733),
    (0x1740, 0x17B3), (0x17B6, 0x17C8), (0x17D7, 0x17D7), (0x17DC, 0x17DC), (0x1820, 0x1938),
    (0x1950, 0x19C9), (0x1A00, 0x1A1B), (0x1A20, 0x1A5E), (0x1A61, 0x1A74), (0x1AA7, 0x1AA7),
    (0x1ABF, 0x1AC0), (0x1ACC, 0x1ACE), (0x1B00, 0x1B33), (0x1B35, 0x1B43), (0x1B45, 0x1B4C),
    (0x1B80, 0x1BA9), (0x1BAC, 0x1BAF), (0x1BBA, 0x1BE5), (0x1BE7, 0x1BF1), (0x1C00, 0x1C36),
    (0x1C4D, 0x1C4F), (0x1C5A, 0x1C7D), (0x1C80, 0x1CBF), (0x1CE9, 0x1CEC), (0x1CEE, 0x1CF3),
    (0x1CF5, 0x1CF6), (0x1CFA, 0x1DBF), (0x1DD3, 0x1DF4), (0x1E00, 0x1FBC), (0x1FBE, 0x1FBE),
    (0x1FC2, 0x1FCC), (0x1FD0, 0x1FDB), (0x1FE0, 0x1FEC), (0x1FF2, 0x1FFC), (0x2071, 0x2071),
    (0x207F, 0x207F), (0x2090, 0x209C), (0x2102, 0x2102), (0x2107, 0x2107), (0x210A, 0x2113),
    (0x2115, 0x2115), (0x2119, 0x211D), (0x2124, 0x2124), (0x2126, 0x2126), (0x2128, 0x2128),
    (0x212A, 0x212D), (0x212F, 0x2139), (0x213C, 0x213F), (0x2145, 0x2149), (0x214E, 0x214E),
    (0x2160, 0x2188), (0x24B6, 0x24E9), (0x2C00, 0x2CE4), (0x2CEB, 0x2CEE), (0x2CF2, 0x2CF3),
    (0x2D00, 0x2D6F), (0x2D80, 0x2DFF), (0x2E2F, 0x2E2F), (0x3005, 0x3007), (0x3021, 0x3029),
    (0x3031, 0x3035), (0x3038, 0x303C), (0x3041, 0x3096), (0x309D, 0x309F), (0x30A1, 0x30FA),
    (0x30FC, 0x318E), (0x31A0, 0x31BF), (0x31F0, 0x31FF), (0x3400, 0x4DBF), (0x4E00, 0xA48C),
    (0xA4D0, 0xA4FD), (0xA500, 0xA60C), (0xA610, 0xA61F), (0xA62A, 0xA66E), (0xA674, 0xA67B),
    (0xA67F, 0xA6EF), (0xA717, 0xA71F), (0xA722, 0xA788), (0xA78B, 0xA805), (0xA807, 0xA827),
    (0xA840, 0xA873), (0xA880, 0xA8C3), (0xA8C5, 0xA8C5), (0xA8F2, 0xA8F7), (0xA8FB, 0xA8FB),
    (0xA8FD, 0xA8FF), (0xA90A, 0xA92A), (0xA930, 0xA952), (0xA960, 0xA9B2), (0xA9B4, 0xA9BF),
    (0xA9CF, 0xA9CF), (0xA9E0, 0xA9EF), (0xA9FA, 0xAA4D), (0xAA60, 0xAA76), (0xAA7A, 0xAABE),
    (0xAAC0, 0xAAC0), (0xAAC2, 0xAADD), (0xAAE0, 0xAAEF), (0xAAF2, 0xAAF5), (0xAB01, 0xAB5A),
    (0xAB5C, 0xAB69), (0xAB70, 0xABEA), (0xAC00, 0xD7FB), (0xF900, 0xFB28), (0xFB2A, 0xFBB1),
    (0xFBD3, 0xFD3D), (0xFD50, 0xFD8F), (0xFD92, 0xFDC7), (0xFDF0, 0xFDFB), (0xFE70, 0xFEFC),
    (0xFF21, 0xFF3A), (0xFF41, 0xFF5A), (0xFF66, 0xFFDC), (0x10000, 0x100FA), (0x10140, 0x10174),
    (0x10280, 0x102D0), (0x10300, 0x1031F), (0x1032D, 0x1039D), (0x103A0, 0x103CF),
    (0x103D1, 0x1049D), (0x104B0, 0x10563), (0x10570, 0x10855), (0x10860, 0x10876),
    (0x10880, 0x1089E), (0x108E0, 0x108F5), (0x10900, 0x10915), (0x10920, 0x10939),
    (0x10940, 0x109B7), (0x109BE, 0x109BF), (0x10A00, 0x10A35), (0x10A60, 0x10A7C),
    (0x10A80, 0x10A9C), (0x10AC0, 0x10AC7), (0x10AC9, 0x10AE4), (0x10B00, 0x10B35),
    (0x10B40, 0x10B55), (0x10B60, 0x10B72), (0x10B80, 0x10B91), (0x10C00, 0x10CF2),
    (0x10D00, 0x10D27), (0x10D4A, 0x10D69), (0x10D6F, 0x10D85), (0x10E80, 0x10EAC),
    (0x10EB0, 0x10EC7), (0x10EFA, 0x10EFC), (0x10F00, 0x10F1C), (0x10F27, 0x10F45),
    (0x10F70, 0x10F81), (0x10FB0, 0x10FC4), (0x10FE0, 0x11045), (0x11071, 0x11075),
    (0x11080, 0x110B8), (0x110C2, 0x110C2), (0x110D0, 0x110E8), (0x11100, 0x11132),
    (0x11144, 0x11172), (0x11176, 0x111BF), (0x111C1, 0x111C4), (0x111CE, 0x111CF),
    (0x111DA, 0x111DA), (0x111DC, 0x111DC), (0x11200, 0x11234), (0x11237, 0x11237),
    (0x1123E, 0x112A8), (0x112B0, 0x112E8), (0x11300, 0x11339), (0x1133D, 0x1134C),
    (0x11350, 0x11363), (0x11380, 0x113CD), (0x113D1, 0x113D1), (0x113D3, 0x113D3),
    (0x11400, 0x11441), (0x11443, 0x11445), (0x11447, 0x1144A), (0x1145F, 0x114C1),
    (0x114C4, 0x114C5), (0x114C7, 0x114C7), (0x11580, 0x115BE), (0x115D8, 0x1163E),
    (0x11640, 0x11640), (0x11644, 0x11644), (0x11680, 0x116B5), (0x116B8, 0x116B8),
    (0x11700, 0x1172A), (0x11740, 0x11838), (0x118A0, 0x118DF), (0x118FF, 0x1193C),
    (0x1193F, 0x11942), (0x119A0, 0x119DF), (0x119E1, 0x119E1), (0x119E3, 0x11A32),
    (0x11A35, 0x11A3E), (0x11A50, 0x11A97), (0x11A9D, 0x11A9D), (0x11AB0, 0x11AF8),
    (0x11B60, 0x11BE0), (0x11C00, 0x11C3E), (0x11C40, 0x11C40), (0x11C72, 0x11D41),
    (0x11D43, 0x11D43), (0x11D46, 0x11D47), (0x11D60, 0x11D96), (0x11D98, 0x11D98),
    (0x11DB0, 0x11DDB), (0x11EE0, 0x11EF6), (0x11F00, 0x11F40), (0x11FB0, 0x11FB0),
    (0x12000, 0x1246E), (0x12480, 0x12FF0), (0x13000, 0x1342F), (0x13441, 0x13446),
    (0x13460, 0x1612E), (0x16800, 0x16A5E), (0x16A70, 0x16ABE), (0x16AD0, 0x16AED),
    (0x16B00, 0x16B2F), (0x16B40, 0x16B43), (0x16B63, 0x16D6C), (0x16E40, 0x16E7F),
    (0x16EA0, 0x16FE1), (0x16FE3, 0x16FE3), (0x16FF0, 0x1BC99), (0x1BC9E, 0x1BC9E),
    (0x1D400, 0x1D6C0), (0x1D6C2, 0x1D6DA), (0x1D6DC, 0x1D6FA), (0x1D6FC, 0x1D714),
    (0x1D716, 0x1D734), (0x1D736, 0x1D74E), (0x1D750, 0x1D76E), (0x1D770, 0x1D788),
    (0x1D78A, 0x1D7A8), (0x1D7AA, 0x1D7C2), (0x1D7C4, 0x1D7CB), (0x1DF00, 0x1E12C),
    (0x1E137, 0x1E13D), (0x1E14E, 0x1E14E), (0x1E290, 0x1E2AD), (0x1E2C0, 0x1E2EB),
    (0x1E4D0, 0x1E4EB), (0x1E5D0, 0x1E5ED), (0x1E5F0, 0x1E5F0), (0x1E6C0, 0x1E8C4),
    (0x1E900, 0x1E943), (0x1E947, 0x1E947), (0x1E94B, 0x1E94B), (0x1EE00, 0x1EEBB),
    (0x1F130, 0x1F149), (0x1F150, 0x1F169), (0x1F170, 0x1F189), (0x20000, 0x33479)]

/-- The ranges of the numbers that are no letters. -/
def numericRanges : Ranges :=
  [(0x30, 0x39), (0xB2, 0xB3), (0xB9, 0xB9), (0xBC, 0xBE), (0x660, 0x669), (0x6F0, 0x6F9),
    (0x7C0, 0x7C9), (0x966, 0x96F), (0x9E6, 0x9EF), (0x9F4, 0x9F9), (0xA66, 0xA6F), (0xAE6, 0xAEF),
    (0xB66, 0xB6F), (0xB72, 0xB77), (0xBE6, 0xBF2), (0xC66, 0xC6F), (0xC78, 0xC7E), (0xCE6, 0xCEF),
    (0xD58, 0xD5E), (0xD66, 0xD78), (0xDE6, 0xDEF), (0xE50, 0xE59), (0xED0, 0xED9), (0xF20, 0xF33),
    (0x1040, 0x1049), (0x1090, 0x1099), (0x1369, 0x137C), (0x17E0, 0x17F9), (0x1810, 0x1819),
    (0x1946, 0x194F), (0x19D0, 0x19DA), (0x1A80, 0x1A99), (0x1B50, 0x1B59), (0x1BB0, 0x1BB9),
    (0x1C40, 0x1C49), (0x1C50, 0x1C59), (0x2070, 0x2070), (0x2074, 0x2079), (0x2080, 0x2089),
    (0x2150, 0x215F), (0x2189, 0x2189), (0x2460, 0x249B), (0x24EA, 0x24FF), (0x2776, 0x2793),
    (0x2CFD, 0x2CFD), (0x3192, 0x3195), (0x3220, 0x3229), (0x3248, 0x324F), (0x3251, 0x325F),
    (0x3280, 0x3289), (0x32B1, 0x32BF), (0xA620, 0xA629), (0xA830, 0xA835), (0xA8D0, 0xA8D9),
    (0xA900, 0xA909), (0xA9D0, 0xA9D9), (0xA9F0, 0xA9F9), (0xAA50, 0xAA59), (0xABF0, 0xABF9),
    (0xFF10, 0xFF19), (0x10107, 0x10133), (0x10175, 0x10178), (0x1018A, 0x1018B),
    (0x102E1, 0x102FB), (0x10320, 0x10323), (0x104A0, 0x104A9), (0x10858, 0x1085F),
    (0x10879, 0x1087F), (0x108A7, 0x108AF), (0x108FB, 0x108FF), (0x10916, 0x1091B),
    (0x109BC, 0x109BD), (0x109C0, 0x109FF), (0x10A40, 0x10A48), (0x10A7D, 0x10A7E),
    (0x10A9D, 0x10A9F), (0x10AEB, 0x10AEF), (0x10B58, 0x10B5F), (0x10B78, 0x10B7F),
    (0x10BA9, 0x10BAF), (0x10CFA, 0x10CFF), (0x10D30, 0x10D49), (0x10E60, 0x10E7E),
    (0x10F1D, 0x10F26), (0x10F51, 0x10F54), (0x10FC5, 0x10FCB), (0x11052, 0x1106F),
    (0x110F0, 0x110F9), (0x11136, 0x1113F), (0x111D0, 0x111D9), (0x111E1, 0x111F4),
    (0x112F0, 0x112F9), (0x11450, 0x11459), (0x114D0, 0x114D9), (0x11650, 0x11659),
    (0x116C0, 0x116E3), (0x11730, 0x1173B), (0x118E0, 0x118F2), (0x11950, 0x11959),
    (0x11BF0, 0x11BF9), (0x11C50, 0x11C6C), (0x11D50, 0x11D59), (0x11DA0, 0x11DA9),
    (0x11DE0, 0x11DE9), (0x11F50, 0x11F59), (0x11FC0, 0x11FD4), (0x16130, 0x16139),
    (0x16A60, 0x16A69), (0x16AC0, 0x16AC9), (0x16B50, 0x16B61), (0x16D70, 0x16D79),
    (0x16E80, 0x16E96), (0x1CCF0, 0x1CCF9), (0x1D2C0, 0x1D2F3), (0x1D360, 0x1D378),
    (0x1D7CE, 0x1D7FF), (0x1E140, 0x1E149), (0x1E2F0, 0x1E2F9), (0x1E4F0, 0x1E4F9),
    (0x1E5F1, 0x1E5FA), (0x1E8C7, 0x1E8CF), (0x1E950, 0x1E959), (0x1EC71, 0x1ECAB),
    (0x1ECAD, 0x1ECAF), (0x1ECB1, 0x1ED2D), (0x1ED2F, 0x1ED3D), (0x1F100, 0x1F10C),
    (0x1FBF0, 0x1FBF9)]

/-- Whether a character is a letter. -/
def isAlphabetic (c : Char) : Bool := alphabeticRanges.holds c && !isUnassigned c

/-- Whether a character is a letter or a number. -/
def isAlphanumeric (c : Char) : Bool :=
  (alphabeticRanges.holds c || numericRanges.holds c) && !isUnassigned c

end TenantSync
