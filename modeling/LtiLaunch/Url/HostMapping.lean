import LtiLaunch.Unicode.CodePointSet

/-!
# How a host name is read

The part of the mapping of international host names that decides whether a name is accepted: which
code points are refused or dropped, which stand for ASCII characters, and which are never the result
of a mapping.
-/

namespace LtiLaunch.Url.HostMapping

open Unicode

/-- Code points beyond ASCII that may not stand in a host name, or that stand for an ASCII
character that may not. The signs `<` and `>` may, before a stroke. -/
def refused : CodePointSet := .ofChanges
   [0x80, 0xA1, 0xA8, 0xA9, 0xAF, 0xB0, 0xB4, 0xB5, 0xB8, 0xB9, 0x2D8, 0x2DE, 0x378, 0x37B, 0x380,
    0x386, 0x38B, 0x38C, 0x38D, 0x38E, 0x3A2, 0x3A3, 0x530, 0x531, 0x557, 0x559, 0x58B, 0x58D,
    0x590, 0x591, 0x5C8, 0x5D0, 0x5EB, 0x5EF, 0x5F5, 0x606, 0x61C, 0x61D, 0x6DD, 0x6DE, 0x70E,
    0x710, 0x74B, 0x74D, 0x7B2, 0x7C0, 0x7FB, 0x7FD, 0x82E, 0x830, 0x83F, 0x840, 0x85C, 0x85E,
    0x85F, 0x860, 0x86B, 0x870, 0x890, 0x897, 0x8E2, 0x8E3, 0x984, 0x985, 0x98D, 0x98F, 0x991,
    0x993, 0x9A9, 0x9AA, 0x9B1, 0x9B2, 0x9B3, 0x9B6, 0x9BA, 0x9BC, 0x9C5, 0x9C7, 0x9C9, 0x9CB,
    0x9CF, 0x9D7, 0x9D8, 0x9DC, 0x9DE, 0x9DF, 0x9E4, 0x9E6, 0x9FF, 0xA01, 0xA04, 0xA05, 0xA0B,
    0xA0F, 0xA11, 0xA13, 0xA29, 0xA2A, 0xA31, 0xA32, 0xA34, 0xA35, 0xA37, 0xA38, 0xA3A, 0xA3C,
    0xA3D, 0xA3E, 0xA43, 0xA47, 0xA49, 0xA4B, 0xA4E, 0xA51, 0xA52, 0xA59, 0xA5D, 0xA5E, 0xA5F,
    0xA66, 0xA77, 0xA81, 0xA84, 0xA85, 0xA8E, 0xA8F, 0xA92, 0xA93, 0xAA9, 0xAAA, 0xAB1, 0xAB2,
    0xAB4, 0xAB5, 0xABA, 0xABC, 0xAC6, 0xAC7, 0xACA, 0xACB, 0xACE, 0xAD0, 0xAD1, 0xAE0, 0xAE4,
    0xAE6, 0xAF2, 0xAF9, 0xB00, 0xB01, 0xB04, 0xB05, 0xB0D, 0xB0F, 0xB11, 0xB13, 0xB29, 0xB2A,
    0xB31, 0xB32, 0xB34, 0xB35, 0xB3A, 0xB3C, 0xB45, 0xB47, 0xB49, 0xB4B, 0xB4E, 0xB55, 0xB58,
    0xB5C, 0xB5E, 0xB5F, 0xB64, 0xB66, 0xB78, 0xB82, 0xB84, 0xB85, 0xB8B, 0xB8E, 0xB91, 0xB92,
    0xB96, 0xB99, 0xB9B, 0xB9C, 0xB9D, 0xB9E, 0xBA0, 0xBA3, 0xBA5, 0xBA8, 0xBAB, 0xBAE, 0xBBA,
    0xBBE, 0xBC3, 0xBC6, 0xBC9, 0xBCA, 0xBCE, 0xBD0, 0xBD1, 0xBD7, 0xBD8, 0xBE6, 0xBFB, 0xC00,
    0xC0D, 0xC0E, 0xC11, 0xC12, 0xC29, 0xC2A, 0xC3A, 0xC3C, 0xC45, 0xC46, 0xC49, 0xC4A, 0xC4E,
    0xC55, 0xC57, 0xC58, 0xC5B, 0xC5C, 0xC5E, 0xC60, 0xC64, 0xC66, 0xC70, 0xC77, 0xC8D, 0xC8E,
    0xC91, 0xC92, 0xCA9, 0xCAA, 0xCB4, 0xCB5, 0xCBA, 0xCBC, 0xCC5, 0xCC6, 0xCC9, 0xCCA, 0xCCE,
    0xCD5, 0xCD7, 0xCDC, 0xCDF, 0xCE0, 0xCE4, 0xCE6, 0xCF0, 0xCF1, 0xCF4, 0xD00, 0xD0D, 0xD0E,
    0xD11, 0xD12, 0xD45, 0xD46, 0xD49, 0xD4A, 0xD50, 0xD54, 0xD64, 0xD66, 0xD80, 0xD81, 0xD84,
    0xD85, 0xD97, 0xD9A, 0xDB2, 0xDB3, 0xDBC, 0xDBD, 0xDBE, 0xDC0, 0xDC7, 0xDCA, 0xDCB, 0xDCF,
    0xDD5, 0xDD6, 0xDD7, 0xDD8, 0xDE0, 0xDE6, 0xDF0, 0xDF2, 0xDF5, 0xE01, 0xE3B, 0xE3F, 0xE5C,
    0xE81, 0xE83, 0xE84, 0xE85, 0xE86, 0xE8B, 0xE8C, 0xEA4, 0xEA5, 0xEA6, 0xEA7, 0xEBE, 0xEC0,
    0xEC5, 0xEC6, 0xEC7, 0xEC8, 0xECF, 0xED0, 0xEDA, 0xEDC, 0xEE0, 0xF00, 0xF48, 0xF49, 0xF6D,
    0xF71, 0xF98, 0xF99, 0xFBD, 0xFBE, 0xFCD, 0xFCE, 0xFDB, 0x1000, 0x10C6, 0x10C7, 0x10C8, 0x10CD,
    0x10CE, 0x10D0, 0x1249, 0x124A, 0x124E, 0x1250, 0x1257, 0x1258, 0x1259, 0x125A, 0x125E, 0x1260,
    0x1289, 0x128A, 0x128E, 0x1290, 0x12B1, 0x12B2, 0x12B6, 0x12B8, 0x12BF, 0x12C0, 0x12C1, 0x12C2,
    0x12C6, 0x12C8, 0x12D7, 0x12D8, 0x1311, 0x1312, 0x1316, 0x1318, 0x135B, 0x135D, 0x137D, 0x1380,
    0x139A, 0x13A0, 0x13F6, 0x13F8, 0x13FE, 0x1400, 0x1680, 0x1681, 0x169D, 0x16A0, 0x16F9, 0x1700,
    0x1716, 0x171F, 0x1737, 0x1740, 0x1754, 0x1760, 0x176D, 0x176E, 0x1771, 0x1772, 0x1774, 0x1780,
    0x17DE, 0x17E0, 0x17EA, 0x17F0, 0x17FA, 0x1800, 0x181A, 0x1820, 0x1879, 0x1880, 0x18AB, 0x18B0,
    0x18F6, 0x1900, 0x191F, 0x1920, 0x192C, 0x1930, 0x193C, 0x1940, 0x1941, 0x1944, 0x196E, 0x1970,
    0x1975, 0x1980, 0x19AC, 0x19B0, 0x19CA, 0x19D0, 0x19DB, 0x19DE, 0x1A1C, 0x1A1E, 0x1A5F, 0x1A60,
    0x1A7D, 0x1A7F, 0x1A8A, 0x1A90, 0x1A9A, 0x1AA0, 0x1AAE, 0x1AB0, 0x1ADE, 0x1AE0, 0x1AEC, 0x1B00,
    0x1B4D, 0x1B4E, 0x1BF4, 0x1BFC, 0x1C38, 0x1C3B, 0x1C4A, 0x1C4D, 0x1C8B, 0x1C90, 0x1CBB, 0x1CBD,
    0x1CC8, 0x1CD0, 0x1CFB, 0x1D00, 0x1F16, 0x1F18, 0x1F1E, 0x1F20, 0x1F46, 0x1F48, 0x1F4E, 0x1F50,
    0x1F58, 0x1F59, 0x1F5A, 0x1F5B, 0x1F5C, 0x1F5D, 0x1F5E, 0x1F5F, 0x1F7E, 0x1F80, 0x1FB5, 0x1FB6,
    0x1FBD, 0x1FBE, 0x1FBF, 0x1FC2, 0x1FC5, 0x1FC6, 0x1FCD, 0x1FD0, 0x1FD4, 0x1FD6, 0x1FDC, 0x1FE0,
    0x1FED, 0x1FEF, 0x1FF0, 0x1FF2, 0x1FF5, 0x1FF6, 0x1FFD, 0x200B, 0x200E, 0x2010, 0x2017, 0x2018,
    0x2024, 0x2027, 0x2028, 0x2030, 0x203E, 0x203F, 0x2047, 0x204A, 0x205F, 0x2060, 0x2065, 0x206A,
    0x2072, 0x2074, 0x208F, 0x2090, 0x209D, 0x20A0, 0x20C2, 0x20D0, 0x20F1, 0x2102, 0x2105, 0x2107,
    0x218C, 0x2190, 0x242A, 0x2440, 0x244B, 0x2460, 0x2488, 0x249C, 0x2A74, 0x2A75, 0x2B74, 0x2B76,
    0x2CF4, 0x2CF9, 0x2D26, 0x2D27, 0x2D28, 0x2D2D, 0x2D2E, 0x2D30, 0x2D68, 0x2D6F, 0x2D71, 0x2D7F,
    0x2D97, 0x2DA0, 0x2DA7, 0x2DA8, 0x2DAF, 0x2DB0, 0x2DB7, 0x2DB8, 0x2DBF, 0x2DC0, 0x2DC7, 0x2DC8,
    0x2DCF, 0x2DD0, 0x2DD7, 0x2DD8, 0x2DDF, 0x2DE0, 0x2E5E, 0x2E80, 0x2E9A, 0x2E9B, 0x2EF4, 0x2F00,
    0x2FD6, 0x3001, 0x3040, 0x3041, 0x3097, 0x3099, 0x309B, 0x309D, 0x3100, 0x3105, 0x3130, 0x3131,
    0x318F, 0x3190, 0x31E6, 0x31F0, 0x321F, 0x3220, 0x33C2, 0x33C3, 0x33C7, 0x33C8, 0x33D8, 0x33D9,
    0xA48D, 0xA490, 0xA4C7, 0xA4D0, 0xA62C, 0xA640, 0xA6F8, 0xA700, 0xA7DD, 0xA7F1, 0xA82D, 0xA830,
    0xA83A, 0xA840, 0xA878, 0xA880, 0xA8C6, 0xA8CE, 0xA8DA, 0xA8E0, 0xA954, 0xA95F, 0xA97D, 0xA980,
    0xA9CE, 0xA9CF, 0xA9DA, 0xA9DE, 0xA9FF, 0xAA00, 0xAA37, 0xAA40, 0xAA4E, 0xAA50, 0xAA5A, 0xAA5C,
    0xAAC3, 0xAADB, 0xAAF7, 0xAB01, 0xAB07, 0xAB09, 0xAB0F, 0xAB11, 0xAB17, 0xAB20, 0xAB27, 0xAB28,
    0xAB2F, 0xAB30, 0xAB6C, 0xAB70, 0xABEE, 0xABF0, 0xABFA, 0xAC00, 0xD7A4, 0xD7B0, 0xD7C7, 0xD7CB,
    0xD7FC, 0xF900, 0xFA6E, 0xFA70, 0xFADA, 0xFB00, 0xFB07, 0xFB13, 0xFB18, 0xFB1D, 0xFB37, 0xFB38,
    0xFB3D, 0xFB3E, 0xFB3F, 0xFB40, 0xFB42, 0xFB43, 0xFB45, 0xFB46, 0xFC5E, 0xFC64, 0xFDD0, 0xFDF0,
    0xFDFA, 0xFDFC, 0xFE12, 0xFE14, 0xFE16, 0xFE17, 0xFE19, 0xFE20, 0xFE30, 0xFE31, 0xFE47, 0xFE4D,
    0xFE52, 0xFE54, 0xFE55, 0xFE57, 0xFE5F, 0xFE60, 0xFE67, 0xFE69, 0xFE6A, 0xFE71, 0xFE72, 0xFE73,
    0xFE74, 0xFE77, 0xFE78, 0xFE79, 0xFE7A, 0xFE7B, 0xFE7C, 0xFE7D, 0xFE7E, 0xFE7F, 0xFEFD, 0xFEFF,
    0xFF00, 0xFF01, 0xFF03, 0xFF04, 0xFF05, 0xFF06, 0xFF0F, 0xFF10, 0xFF1A, 0xFF1B, 0xFF1F, 0xFF21,
    0xFF3B, 0xFF3F, 0xFF5C, 0xFF5D, 0xFFBF, 0xFFC2, 0xFFC8, 0xFFCA, 0xFFD0, 0xFFD2, 0xFFD8, 0xFFDA,
    0xFFDD, 0xFFE0, 0xFFE3, 0xFFE4, 0xFFE7, 0xFFE8, 0xFFEF, 0x10000, 0x1000C, 0x1000D, 0x10027,
    0x10028, 0x1003B, 0x1003C, 0x1003E, 0x1003F, 0x1004E, 0x10050, 0x1005E, 0x10080, 0x100FB,
    0x10100, 0x10103, 0x10107, 0x10134, 0x10137, 0x1018F, 0x10190, 0x1019D, 0x101A0, 0x101A1,
    0x101D0, 0x101FE, 0x10280, 0x1029D, 0x102A0, 0x102D1, 0x102E0, 0x102FC, 0x10300, 0x10324,
    0x1032D, 0x1034B, 0x10350, 0x1037B, 0x10380, 0x1039E, 0x1039F, 0x103C4, 0x103C8, 0x103D6,
    0x10400, 0x1049E, 0x104A0, 0x104AA, 0x104B0, 0x104D4, 0x104D8, 0x104FC, 0x10500, 0x10528,
    0x10530, 0x10564, 0x1056F, 0x1057B, 0x1057C, 0x1058B, 0x1058C, 0x10593, 0x10594, 0x10596,
    0x10597, 0x105A2, 0x105A3, 0x105B2, 0x105B3, 0x105BA, 0x105BB, 0x105BD, 0x105C0, 0x105F4,
    0x10600, 0x10737, 0x10740, 0x10756, 0x10760, 0x10768, 0x10780, 0x10786, 0x10787, 0x107B1,
    0x107B2, 0x107BB, 0x10800, 0x10806, 0x10808, 0x10809, 0x1080A, 0x10836, 0x10837, 0x10839,
    0x1083C, 0x1083D, 0x1083F, 0x10856, 0x10857, 0x1089F, 0x108A7, 0x108B0, 0x108E0, 0x108F3,
    0x108F4, 0x108F6, 0x108FB, 0x1091C, 0x1091F, 0x1093A, 0x1093F, 0x1095A, 0x10980, 0x109B8,
    0x109BC, 0x109D0, 0x109D2, 0x10A04, 0x10A05, 0x10A07, 0x10A0C, 0x10A14, 0x10A15, 0x10A18,
    0x10A19, 0x10A36, 0x10A38, 0x10A3B, 0x10A3F, 0x10A49, 0x10A50, 0x10A59, 0x10A60, 0x10AA0,
    0x10AC0, 0x10AE7, 0x10AEB, 0x10AF7, 0x10B00, 0x10B36, 0x10B39, 0x10B56, 0x10B58, 0x10B73,
    0x10B78, 0x10B92, 0x10B99, 0x10B9D, 0x10BA9, 0x10BB0, 0x10C00, 0x10C49, 0x10C80, 0x10CB3,
    0x10CC0, 0x10CF3, 0x10CFA, 0x10D28, 0x10D30, 0x10D3A, 0x10D40, 0x10D66, 0x10D69, 0x10D86,
    0x10D8E, 0x10D90, 0x10E60, 0x10E7F, 0x10E80, 0x10EAA, 0x10EAB, 0x10EAE, 0x10EB0, 0x10EB2,
    0x10EC2, 0x10EC8, 0x10ED0, 0x10ED9, 0x10EFA, 0x10F28, 0x10F30, 0x10F5A, 0x10F70, 0x10F8A,
    0x10FB0, 0x10FCC, 0x10FE0, 0x10FF7, 0x11000, 0x1104E, 0x11052, 0x11076, 0x1107F, 0x110BD,
    0x110BE, 0x110C3, 0x110D0, 0x110E9, 0x110F0, 0x110FA, 0x11100, 0x11135, 0x11136, 0x11148,
    0x11150, 0x11177, 0x11180, 0x111E0, 0x111E1, 0x111F5, 0x11200, 0x11212, 0x11213, 0x11242,
    0x11280, 0x11287, 0x11288, 0x11289, 0x1128A, 0x1128E, 0x1128F, 0x1129E, 0x1129F, 0x112AA,
    0x112B0, 0x112EB, 0x112F0, 0x112FA, 0x11300, 0x11304, 0x11305, 0x1130D, 0x1130F, 0x11311,
    0x11313, 0x11329, 0x1132A, 0x11331, 0x11332, 0x11334, 0x11335, 0x1133A, 0x1133B, 0x11345,
    0x11347, 0x11349, 0x1134B, 0x1134E, 0x11350, 0x11351, 0x11357, 0x11358, 0x1135D, 0x11364,
    0x11366, 0x1136D, 0x11370, 0x11375, 0x11380, 0x1138A, 0x1138B, 0x1138C, 0x1138E, 0x1138F,
    0x11390, 0x113B6, 0x113B7, 0x113C1, 0x113C2, 0x113C3, 0x113C5, 0x113C6, 0x113C7, 0x113CB,
    0x113CC, 0x113D6, 0x113D7, 0x113D9, 0x113E1, 0x113E3, 0x11400, 0x1145C, 0x1145D, 0x11462,
    0x11480, 0x114C8, 0x114D0, 0x114DA, 0x11580, 0x115B6, 0x115B8, 0x115DE, 0x11600, 0x11645,
    0x11650, 0x1165A, 0x11660, 0x1166D, 0x11680, 0x116BA, 0x116C0, 0x116CA, 0x116D0, 0x116E4,
    0x11700, 0x1171B, 0x1171D, 0x1172C, 0x11730, 0x11747, 0x11800, 0x1183C, 0x118A0, 0x118F3,
    0x118FF, 0x11907, 0x11909, 0x1190A, 0x1190C, 0x11914, 0x11915, 0x11917, 0x11918, 0x11936,
    0x11937, 0x11939, 0x1193B, 0x11947, 0x11950, 0x1195A, 0x119A0, 0x119A8, 0x119AA, 0x119D8,
    0x119DA, 0x119E5, 0x11A00, 0x11A48, 0x11A50, 0x11AA3, 0x11AB0, 0x11AF9, 0x11B00, 0x11B0A,
    0x11B60, 0x11B68, 0x11BC0, 0x11BE2, 0x11BF0, 0x11BFA, 0x11C00, 0x11C09, 0x11C0A, 0x11C37,
    0x11C38, 0x11C46, 0x11C50, 0x11C6D, 0x11C70, 0x11C90, 0x11C92, 0x11CA8, 0x11CA9, 0x11CB7,
    0x11D00, 0x11D07, 0x11D08, 0x11D0A, 0x11D0B, 0x11D37, 0x11D3A, 0x11D3B, 0x11D3C, 0x11D3E,
    0x11D3F, 0x11D48, 0x11D50, 0x11D5A, 0x11D60, 0x11D66, 0x11D67, 0x11D69, 0x11D6A, 0x11D8F,
    0x11D90, 0x11D92, 0x11D93, 0x11D99, 0x11DA0, 0x11DAA, 0x11DB0, 0x11DDC, 0x11DE0, 0x11DEA,
    0x11EE0, 0x11EF9, 0x11F00, 0x11F11, 0x11F12, 0x11F3B, 0x11F3E, 0x11F5B, 0x11FB0, 0x11FB1,
    0x11FC0, 0x11FF2, 0x11FFF, 0x1239A, 0x12400, 0x1246F, 0x12470, 0x12475, 0x12480, 0x12544,
    0x12F90, 0x12FF3, 0x13000, 0x13430, 0x13440, 0x13456, 0x13460, 0x143FB, 0x14400, 0x14647,
    0x16100, 0x1613A, 0x16800, 0x16A39, 0x16A40, 0x16A5F, 0x16A60, 0x16A6A, 0x16A6E, 0x16ABF,
    0x16AC0, 0x16ACA, 0x16AD0, 0x16AEE, 0x16AF0, 0x16AF6, 0x16B00, 0x16B46, 0x16B50, 0x16B5A,
    0x16B5B, 0x16B62, 0x16B63, 0x16B78, 0x16B7D, 0x16B90, 0x16D40, 0x16D7A, 0x16E40, 0x16E9B,
    0x16EA0, 0x16EB9, 0x16EBB, 0x16ED4, 0x16F00, 0x16F4B, 0x16F4F, 0x16F88, 0x16F8F, 0x16FA0,
    0x16FE0, 0x16FE5, 0x16FF0, 0x16FF7, 0x17000, 0x18CD6, 0x18CFF, 0x18D1F, 0x18D80, 0x18DF3,
    0x1AFF0, 0x1AFF4, 0x1AFF5, 0x1AFFC, 0x1AFFD, 0x1AFFF, 0x1B000, 0x1B123, 0x1B132, 0x1B133,
    0x1B150, 0x1B153, 0x1B155, 0x1B156, 0x1B164, 0x1B168, 0x1B170, 0x1B2FC, 0x1BC00, 0x1BC6B,
    0x1BC70, 0x1BC7D, 0x1BC80, 0x1BC89, 0x1BC90, 0x1BC9A, 0x1BC9C, 0x1BCA4, 0x1CC00, 0x1CCFD,
    0x1CD00, 0x1CEB4, 0x1CEBA, 0x1CED1, 0x1CEE0, 0x1CEF1, 0x1CF00, 0x1CF2E, 0x1CF30, 0x1CF47,
    0x1CF50, 0x1CFC4, 0x1D000, 0x1D0F6, 0x1D100, 0x1D127, 0x1D129, 0x1D1EB, 0x1D200, 0x1D246,
    0x1D2C0, 0x1D2D4, 0x1D2E0, 0x1D2F4, 0x1D300, 0x1D357, 0x1D360, 0x1D379, 0x1D400, 0x1D455,
    0x1D456, 0x1D49D, 0x1D49E, 0x1D4A0, 0x1D4A2, 0x1D4A3, 0x1D4A5, 0x1D4A7, 0x1D4A9, 0x1D4AD,
    0x1D4AE, 0x1D4BA, 0x1D4BB, 0x1D4BC, 0x1D4BD, 0x1D4C4, 0x1D4C5, 0x1D506, 0x1D507, 0x1D50B,
    0x1D50D, 0x1D515, 0x1D516, 0x1D51D, 0x1D51E, 0x1D53A, 0x1D53B, 0x1D53F, 0x1D540, 0x1D545,
    0x1D546, 0x1D547, 0x1D54A, 0x1D551, 0x1D552, 0x1D6A6, 0x1D6A8, 0x1D7CC, 0x1D7CE, 0x1DA8C,
    0x1DA9B, 0x1DAA0, 0x1DAA1, 0x1DAB0, 0x1DF00, 0x1DF1F, 0x1DF25, 0x1DF2B, 0x1E000, 0x1E007,
    0x1E008, 0x1E019, 0x1E01B, 0x1E022, 0x1E023, 0x1E025, 0x1E026, 0x1E02B, 0x1E030, 0x1E06E,
    0x1E08F, 0x1E090, 0x1E100, 0x1E12D, 0x1E130, 0x1E13E, 0x1E140, 0x1E14A, 0x1E14E, 0x1E150,
    0x1E290, 0x1E2AF, 0x1E2C0, 0x1E2FA, 0x1E2FF, 0x1E300, 0x1E4D0, 0x1E4FA, 0x1E5D0, 0x1E5FB,
    0x1E5FF, 0x1E600, 0x1E6C0, 0x1E6DF, 0x1E6E0, 0x1E6F6, 0x1E6FE, 0x1E700, 0x1E7E0, 0x1E7E7,
    0x1E7E8, 0x1E7EC, 0x1E7ED, 0x1E7EF, 0x1E7F0, 0x1E7FF, 0x1E800, 0x1E8C5, 0x1E8C7, 0x1E8D7,
    0x1E900, 0x1E94C, 0x1E950, 0x1E95A, 0x1E95E, 0x1E960, 0x1EC71, 0x1ECB5, 0x1ED01, 0x1ED3E,
    0x1EE00, 0x1EE04, 0x1EE05, 0x1EE20, 0x1EE21, 0x1EE23, 0x1EE24, 0x1EE25, 0x1EE27, 0x1EE28,
    0x1EE29, 0x1EE33, 0x1EE34, 0x1EE38, 0x1EE39, 0x1EE3A, 0x1EE3B, 0x1EE3C, 0x1EE42, 0x1EE43,
    0x1EE47, 0x1EE48, 0x1EE49, 0x1EE4A, 0x1EE4B, 0x1EE4C, 0x1EE4D, 0x1EE50, 0x1EE51, 0x1EE53,
    0x1EE54, 0x1EE55, 0x1EE57, 0x1EE58, 0x1EE59, 0x1EE5A, 0x1EE5B, 0x1EE5C, 0x1EE5D, 0x1EE5E,
    0x1EE5F, 0x1EE60, 0x1EE61, 0x1EE63, 0x1EE64, 0x1EE65, 0x1EE67, 0x1EE6B, 0x1EE6C, 0x1EE73,
    0x1EE74, 0x1EE78, 0x1EE79, 0x1EE7D, 0x1EE7E, 0x1EE7F, 0x1EE80, 0x1EE8A, 0x1EE8B, 0x1EE9C,
    0x1EEA1, 0x1EEA4, 0x1EEA5, 0x1EEAA, 0x1EEAB, 0x1EEBC, 0x1EEF0, 0x1EEF2, 0x1F000, 0x1F02C,
    0x1F030, 0x1F094, 0x1F0A0, 0x1F0AF, 0x1F0B1, 0x1F0C0, 0x1F0C1, 0x1F0D0, 0x1F0D1, 0x1F0F6,
    0x1F101, 0x1F1AE, 0x1F1E6, 0x1F203, 0x1F210, 0x1F23C, 0x1F240, 0x1F249, 0x1F250, 0x1F252,
    0x1F260, 0x1F266, 0x1F300, 0x1F6D9, 0x1F6DC, 0x1F6ED, 0x1F6F0, 0x1F6FD, 0x1F700, 0x1F7DA,
    0x1F7E0, 0x1F7EC, 0x1F7F0, 0x1F7F1, 0x1F800, 0x1F80C, 0x1F810, 0x1F848, 0x1F850, 0x1F85A,
    0x1F860, 0x1F888, 0x1F890, 0x1F8AE, 0x1F8B0, 0x1F8BC, 0x1F8C0, 0x1F8C2, 0x1F8D0, 0x1F8D9,
    0x1F900, 0x1FA58, 0x1FA60, 0x1FA6E, 0x1FA70, 0x1FA7D, 0x1FA80, 0x1FA8B, 0x1FA8E, 0x1FAC7,
    0x1FAC8, 0x1FAC9, 0x1FACD, 0x1FADD, 0x1FADF, 0x1FAEB, 0x1FAEF, 0x1FAF9, 0x1FB00, 0x1FB93,
    0x1FB94, 0x1FBFB, 0x20000, 0x2A6E0, 0x2A700, 0x2B81E, 0x2B820, 0x2CEAE, 0x2CEB0, 0x2EBE1,
    0x2EBF0, 0x2EE5E, 0x2F800, 0x2FA1E, 0x30000, 0x3134B, 0x31350, 0x3347A, 0xE0100, 0xE01F0]

/-- Code points that are left out of a host name. -/
def dropped : CodePointSet := .ofChanges
   [0xAD, 0xAE, 0x34F, 0x350, 0x115F, 0x1161, 0x17B4, 0x17B6, 0x180B, 0x1810, 0x200B, 0x200C,
    0x2060, 0x2065, 0x206A, 0x2070, 0x3164, 0x3165, 0xFE00, 0xFE10, 0xFEFF, 0xFF00, 0xFFA0, 0xFFA1,
    0x1BCA0, 0x1BCA4, 0x1D173, 0x1D17B, 0xE0100, 0xE01F0]

/-- Code points beyond ASCII that stand for others, among those that are neither refused nor
dropped. -/
def mapped : CodePointSet := .ofChanges
   [0xAA, 0xAB, 0xB2, 0xB6, 0xB9, 0xBB, 0xBC, 0xBF, 0xC0, 0xD7, 0xD8, 0xDF, 0x100, 0x101, 0x102,
    0x103, 0x104, 0x105, 0x106, 0x107, 0x108, 0x109, 0x10A, 0x10B, 0x10C, 0x10D, 0x10E, 0x10F,
    0x110, 0x111, 0x112, 0x113, 0x114, 0x115, 0x116, 0x117, 0x118, 0x119, 0x11A, 0x11B, 0x11C,
    0x11D, 0x11E, 0x11F, 0x120, 0x121, 0x122, 0x123, 0x124, 0x125, 0x126, 0x127, 0x128, 0x129,
    0x12A, 0x12B, 0x12C, 0x12D, 0x12E, 0x12F, 0x130, 0x131, 0x132, 0x135, 0x136, 0x137, 0x139,
    0x13A, 0x13B, 0x13C, 0x13D, 0x13E, 0x13F, 0x142, 0x143, 0x144, 0x145, 0x146, 0x147, 0x148,
    0x149, 0x14B, 0x14C, 0x14D, 0x14E, 0x14F, 0x150, 0x151, 0x152, 0x153, 0x154, 0x155, 0x156,
    0x157, 0x158, 0x159, 0x15A, 0x15B, 0x15C, 0x15D, 0x15E, 0x15F, 0x160, 0x161, 0x162, 0x163,
    0x164, 0x165, 0x166, 0x167, 0x168, 0x169, 0x16A, 0x16B, 0x16C, 0x16D, 0x16E, 0x16F, 0x170,
    0x171, 0x172, 0x173, 0x174, 0x175, 0x176, 0x177, 0x178, 0x17A, 0x17B, 0x17C, 0x17D, 0x17E,
    0x17F, 0x180, 0x181, 0x183, 0x184, 0x185, 0x186, 0x188, 0x189, 0x18C, 0x18E, 0x192, 0x193,
    0x195, 0x196, 0x199, 0x19C, 0x19E, 0x19F, 0x1A1, 0x1A2, 0x1A3, 0x1A4, 0x1A5, 0x1A6, 0x1A8,
    0x1A9, 0x1AA, 0x1AC, 0x1AD, 0x1AE, 0x1B0, 0x1B1, 0x1B4, 0x1B5, 0x1B6, 0x1B7, 0x1B9, 0x1BC,
    0x1BD, 0x1C4, 0x1CE, 0x1CF, 0x1D0, 0x1D1, 0x1D2, 0x1D3, 0x1D4, 0x1D5, 0x1D6, 0x1D7, 0x1D8,
    0x1D9, 0x1DA, 0x1DB, 0x1DC, 0x1DE, 0x1DF, 0x1E0, 0x1E1, 0x1E2, 0x1E3, 0x1E4, 0x1E5, 0x1E6,
    0x1E7, 0x1E8, 0x1E9, 0x1EA, 0x1EB, 0x1EC, 0x1ED, 0x1EE, 0x1EF, 0x1F1, 0x1F5, 0x1F6, 0x1F9,
    0x1FA, 0x1FB, 0x1FC, 0x1FD, 0x1FE, 0x1FF, 0x200, 0x201, 0x202, 0x203, 0x204, 0x205, 0x206,
    0x207, 0x208, 0x209, 0x20A, 0x20B, 0x20C, 0x20D, 0x20E, 0x20F, 0x210, 0x211, 0x212, 0x213,
    0x214, 0x215, 0x216, 0x217, 0x218, 0x219, 0x21A, 0x21B, 0x21C, 0x21D, 0x21E, 0x21F, 0x220,
    0x221, 0x222, 0x223, 0x224, 0x225, 0x226, 0x227, 0x228, 0x229, 0x22A, 0x22B, 0x22C, 0x22D,
    0x22E, 0x22F, 0x230, 0x231, 0x232, 0x233, 0x23A, 0x23C, 0x23D, 0x23F, 0x241, 0x242, 0x243,
    0x247, 0x248, 0x249, 0x24A, 0x24B, 0x24C, 0x24D, 0x24E, 0x24F, 0x2B0, 0x2B9, 0x2E0, 0x2E5,
    0x340, 0x342, 0x343, 0x346, 0x370, 0x371, 0x372, 0x373, 0x374, 0x375, 0x376, 0x377, 0x37E,
    0x390, 0x391, 0x3AC, 0x3CF, 0x3D7, 0x3D8, 0x3D9, 0x3DA, 0x3DB, 0x3DC, 0x3DD, 0x3DE, 0x3DF,
    0x3E0, 0x3E1, 0x3E2, 0x3E3, 0x3E4, 0x3E5, 0x3E6, 0x3E7, 0x3E8, 0x3E9, 0x3EA, 0x3EB, 0x3EC,
    0x3ED, 0x3EE, 0x3EF, 0x3F0, 0x3F3, 0x3F4, 0x3F6, 0x3F7, 0x3F8, 0x3F9, 0x3FB, 0x3FD, 0x430,
    0x460, 0x461, 0x462, 0x463, 0x464, 0x465, 0x466, 0x467, 0x468, 0x469, 0x46A, 0x46B, 0x46C,
    0x46D, 0x46E, 0x46F, 0x470, 0x471, 0x472, 0x473, 0x474, 0x475, 0x476, 0x477, 0x478, 0x479,
    0x47A, 0x47B, 0x47C, 0x47D, 0x47E, 0x47F, 0x480, 0x481, 0x48A, 0x48B, 0x48C, 0x48D, 0x48E,
    0x48F, 0x490, 0x491, 0x492, 0x493, 0x494, 0x495, 0x496, 0x497, 0x498, 0x499, 0x49A, 0x49B,
    0x49C, 0x49D, 0x49E, 0x49F, 0x4A0, 0x4A1, 0x4A2, 0x4A3, 0x4A4, 0x4A5, 0x4A6, 0x4A7, 0x4A8,
    0x4A9, 0x4AA, 0x4AB, 0x4AC, 0x4AD, 0x4AE, 0x4AF, 0x4B0, 0x4B1, 0x4B2, 0x4B3, 0x4B4, 0x4B5,
    0x4B6, 0x4B7, 0x4B8, 0x4B9, 0x4BA, 0x4BB, 0x4BC, 0x4BD, 0x4BE, 0x4BF, 0x4C0, 0x4C2, 0x4C3,
    0x4C4, 0x4C5, 0x4C6, 0x4C7, 0x4C8, 0x4C9, 0x4CA, 0x4CB, 0x4CC, 0x4CD, 0x4CE, 0x4D0, 0x4D1,
    0x4D2, 0x4D3, 0x4D4, 0x4D5, 0x4D6, 0x4D7, 0x4D8, 0x4D9, 0x4DA, 0x4DB, 0x4DC, 0x4DD, 0x4DE,
    0x4DF, 0x4E0, 0x4E1, 0x4E2, 0x4E3, 0x4E4, 0x4E5, 0x4E6, 0x4E7, 0x4E8, 0x4E9, 0x4EA, 0x4EB,
    0x4EC, 0x4ED, 0x4EE, 0x4EF, 0x4F0, 0x4F1, 0x4F2, 0x4F3, 0x4F4, 0x4F5, 0x4F6, 0x4F7, 0x4F8,
    0x4F9, 0x4FA, 0x4FB, 0x4FC, 0x4FD, 0x4FE, 0x4FF, 0x500, 0x501, 0x502, 0x503, 0x504, 0x505,
    0x506, 0x507, 0x508, 0x509, 0x50A, 0x50B, 0x50C, 0x50D, 0x50E, 0x50F, 0x510, 0x511, 0x512,
    0x513, 0x514, 0x515, 0x516, 0x517, 0x518, 0x519, 0x51A, 0x51B, 0x51C, 0x51D, 0x51E, 0x51F,
    0x520, 0x521, 0x522, 0x523, 0x524, 0x525, 0x526, 0x527, 0x528, 0x529, 0x52A, 0x52B, 0x52C,
    0x52D, 0x52E, 0x52F, 0x531, 0x559, 0x587, 0x588, 0x675, 0x679, 0x958, 0x960, 0x9DC, 0x9E0,
    0xA33, 0xA35, 0xA36, 0xA38, 0xA59, 0xA5C, 0xA5E, 0xA66, 0xB5C, 0xB5F, 0xE33, 0xE34, 0xEB3,
    0xEB4, 0xEDC, 0xEDE, 0xF0C, 0xF0D, 0xF43, 0xF44, 0xF4D, 0xF4E, 0xF52, 0xF53, 0xF57, 0xF58,
    0xF5C, 0xF5D, 0xF69, 0xF6A, 0xF73, 0xF74, 0xF75, 0xF7A, 0xF81, 0xF82, 0xF93, 0xF94, 0xF9D,
    0xF9E, 0xFA2, 0xFA3, 0xFA7, 0xFA8, 0xFAC, 0xFAD, 0xFB9, 0xFBA, 0x10A0, 0x10D0, 0x10FC, 0x10FD,
    0x13F8, 0x1400, 0x1C80, 0x1C8A, 0x1C90, 0x1CC0, 0x1D2C, 0x1D2F, 0x1D30, 0x1D3B, 0x1D3C, 0x1D4E,
    0x1D4F, 0x1D6B, 0x1D78, 0x1D79, 0x1D9B, 0x1DC0, 0x1E00, 0x1E01, 0x1E02, 0x1E03, 0x1E04, 0x1E05,
    0x1E06, 0x1E07, 0x1E08, 0x1E09, 0x1E0A, 0x1E0B, 0x1E0C, 0x1E0D, 0x1E0E, 0x1E0F, 0x1E10, 0x1E11,
    0x1E12, 0x1E13, 0x1E14, 0x1E15, 0x1E16, 0x1E17, 0x1E18, 0x1E19, 0x1E1A, 0x1E1B, 0x1E1C, 0x1E1D,
    0x1E1E, 0x1E1F, 0x1E20, 0x1E21, 0x1E22, 0x1E23, 0x1E24, 0x1E25, 0x1E26, 0x1E27, 0x1E28, 0x1E29,
    0x1E2A, 0x1E2B, 0x1E2C, 0x1E2D, 0x1E2E, 0x1E2F, 0x1E30, 0x1E31, 0x1E32, 0x1E33, 0x1E34, 0x1E35,
    0x1E36, 0x1E37, 0x1E38, 0x1E39, 0x1E3A, 0x1E3B, 0x1E3C, 0x1E3D, 0x1E3E, 0x1E3F, 0x1E40, 0x1E41,
    0x1E42, 0x1E43, 0x1E44, 0x1E45, 0x1E46, 0x1E47, 0x1E48, 0x1E49, 0x1E4A, 0x1E4B, 0x1E4C, 0x1E4D,
    0x1E4E, 0x1E4F, 0x1E50, 0x1E51, 0x1E52, 0x1E53, 0x1E54, 0x1E55, 0x1E56, 0x1E57, 0x1E58, 0x1E59,
    0x1E5A, 0x1E5B, 0x1E5C, 0x1E5D, 0x1E5E, 0x1E5F, 0x1E60, 0x1E61, 0x1E62, 0x1E63, 0x1E64, 0x1E65,
    0x1E66, 0x1E67, 0x1E68, 0x1E69, 0x1E6A, 0x1E6B, 0x1E6C, 0x1E6D, 0x1E6E, 0x1E6F, 0x1E70, 0x1E71,
    0x1E72, 0x1E73, 0x1E74, 0x1E75, 0x1E76, 0x1E77, 0x1E78, 0x1E79, 0x1E7A, 0x1E7B, 0x1E7C, 0x1E7D,
    0x1E7E, 0x1E7F, 0x1E80, 0x1E81, 0x1E82, 0x1E83, 0x1E84, 0x1E85, 0x1E86, 0x1E87, 0x1E88, 0x1E89,
    0x1E8A, 0x1E8B, 0x1E8C, 0x1E8D, 0x1E8E, 0x1E8F, 0x1E90, 0x1E91, 0x1E92, 0x1E93, 0x1E94, 0x1E95,
    0x1E9A, 0x1E9C, 0x1E9E, 0x1E9F, 0x1EA0, 0x1EA1, 0x1EA2, 0x1EA3, 0x1EA4, 0x1EA5, 0x1EA6, 0x1EA7,
    0x1EA8, 0x1EA9, 0x1EAA, 0x1EAB, 0x1EAC, 0x1EAD, 0x1EAE, 0x1EAF, 0x1EB0, 0x1EB1, 0x1EB2, 0x1EB3,
    0x1EB4, 0x1EB5, 0x1EB6, 0x1EB7, 0x1EB8, 0x1EB9, 0x1EBA, 0x1EBB, 0x1EBC, 0x1EBD, 0x1EBE, 0x1EBF,
    0x1EC0, 0x1EC1, 0x1EC2, 0x1EC3, 0x1EC4, 0x1EC5, 0x1EC6, 0x1EC7, 0x1EC8, 0x1EC9, 0x1ECA, 0x1ECB,
    0x1ECC, 0x1ECD, 0x1ECE, 0x1ECF, 0x1ED0, 0x1ED1, 0x1ED2, 0x1ED3, 0x1ED4, 0x1ED5, 0x1ED6, 0x1ED7,
    0x1ED8, 0x1ED9, 0x1EDA, 0x1EDB, 0x1EDC, 0x1EDD, 0x1EDE, 0x1EDF, 0x1EE0, 0x1EE1, 0x1EE2, 0x1EE3,
    0x1EE4, 0x1EE5, 0x1EE6, 0x1EE7, 0x1EE8, 0x1EE9, 0x1EEA, 0x1EEB, 0x1EEC, 0x1EED, 0x1EEE, 0x1EEF,
    0x1EF0, 0x1EF1, 0x1EF2, 0x1EF3, 0x1EF4, 0x1EF5, 0x1EF6, 0x1EF7, 0x1EF8, 0x1EF9, 0x1EFA, 0x1EFB,
    0x1EFC, 0x1EFD, 0x1EFE, 0x1EFF, 0x1F08, 0x1F10, 0x1F18, 0x1F20, 0x1F28, 0x1F30, 0x1F38, 0x1F40,
    0x1F48, 0x1F50, 0x1F59, 0x1F60, 0x1F68, 0x1F70, 0x1F71, 0x1F72, 0x1F73, 0x1F74, 0x1F75, 0x1F76,
    0x1F77, 0x1F78, 0x1F79, 0x1F7A, 0x1F7B, 0x1F7C, 0x1F7D, 0x1FB0, 0x1FB2, 0x1FB6, 0x1FB7, 0x1FC6,
    0x1FC7, 0x1FD0, 0x1FD3, 0x1FD6, 0x1FD8, 0x1FE0, 0x1FE3, 0x1FE4, 0x1FE8, 0x1FF6, 0x1FF7, 0x200C,
    0x2011, 0x2012, 0x2033, 0x2035, 0x2036, 0x2038, 0x203C, 0x203D, 0x2057, 0x2058, 0x2070, 0x20A0,
    0x20A8, 0x20A9, 0x2102, 0x2104, 0x2107, 0x2108, 0x2109, 0x2114, 0x2115, 0x2117, 0x2119, 0x211E,
    0x2120, 0x2123, 0x2124, 0x2125, 0x2126, 0x2127, 0x2128, 0x2129, 0x212A, 0x212E, 0x212F, 0x213A,
    0x213B, 0x2141, 0x2145, 0x214A, 0x2150, 0x2180, 0x2183, 0x2184, 0x2189, 0x218A, 0x222C, 0x222E,
    0x222F, 0x2231, 0x2329, 0x232B, 0x2460, 0x24EB, 0x2A0C, 0x2A0D, 0x2A75, 0x2A77, 0x2ADC, 0x2ADD,
    0x2C00, 0x2C30, 0x2C60, 0x2C61, 0x2C62, 0x2C65, 0x2C67, 0x2C68, 0x2C69, 0x2C6A, 0x2C6B, 0x2C6C,
    0x2C6D, 0x2C71, 0x2C72, 0x2C73, 0x2C75, 0x2C76, 0x2C7C, 0x2C81, 0x2C82, 0x2C83, 0x2C84, 0x2C85,
    0x2C86, 0x2C87, 0x2C88, 0x2C89, 0x2C8A, 0x2C8B, 0x2C8C, 0x2C8D, 0x2C8E, 0x2C8F, 0x2C90, 0x2C91,
    0x2C92, 0x2C93, 0x2C94, 0x2C95, 0x2C96, 0x2C97, 0x2C98, 0x2C99, 0x2C9A, 0x2C9B, 0x2C9C, 0x2C9D,
    0x2C9E, 0x2C9F, 0x2CA0, 0x2CA1, 0x2CA2, 0x2CA3, 0x2CA4, 0x2CA5, 0x2CA6, 0x2CA7, 0x2CA8, 0x2CA9,
    0x2CAA, 0x2CAB, 0x2CAC, 0x2CAD, 0x2CAE, 0x2CAF, 0x2CB0, 0x2CB1, 0x2CB2, 0x2CB3, 0x2CB4, 0x2CB5,
    0x2CB6, 0x2CB7, 0x2CB8, 0x2CB9, 0x2CBA, 0x2CBB, 0x2CBC, 0x2CBD, 0x2CBE, 0x2CBF, 0x2CC0, 0x2CC1,
    0x2CC2, 0x2CC3, 0x2CC4, 0x2CC5, 0x2CC6, 0x2CC7, 0x2CC8, 0x2CC9, 0x2CCA, 0x2CCB, 0x2CCC, 0x2CCD,
    0x2CCE, 0x2CCF, 0x2CD0, 0x2CD1, 0x2CD2, 0x2CD3, 0x2CD4, 0x2CD5, 0x2CD6, 0x2CD7, 0x2CD8, 0x2CD9,
    0x2CDA, 0x2CDB, 0x2CDC, 0x2CDD, 0x2CDE, 0x2CDF, 0x2CE0, 0x2CE1, 0x2CE2, 0x2CE3, 0x2CEB, 0x2CEC,
    0x2CED, 0x2CEE, 0x2CF2, 0x2CF3, 0x2D6F, 0x2D70, 0x2E9F, 0x2EA0, 0x2EF3, 0x3001, 0x3002, 0x3003,
    0x3036, 0x3037, 0x3038, 0x303B, 0x309F, 0x30A0, 0x30FF, 0x3105, 0x3131, 0x3190, 0x3192, 0x31A0,
    0x3200, 0x3248, 0x3250, 0x327F, 0x3280, 0x3400, 0xA640, 0xA641, 0xA642, 0xA643, 0xA644, 0xA645,
    0xA646, 0xA647, 0xA648, 0xA649, 0xA64A, 0xA64B, 0xA64C, 0xA64D, 0xA64E, 0xA64F, 0xA650, 0xA651,
    0xA652, 0xA653, 0xA654, 0xA655, 0xA656, 0xA657, 0xA658, 0xA659, 0xA65A, 0xA65B, 0xA65C, 0xA65D,
    0xA65E, 0xA65F, 0xA660, 0xA661, 0xA662, 0xA663, 0xA664, 0xA665, 0xA666, 0xA667, 0xA668, 0xA669,
    0xA66A, 0xA66B, 0xA66C, 0xA66D, 0xA680, 0xA681, 0xA682, 0xA683, 0xA684, 0xA685, 0xA686, 0xA687,
    0xA688, 0xA689, 0xA68A, 0xA68B, 0xA68C, 0xA68D, 0xA68E, 0xA68F, 0xA690, 0xA691, 0xA692, 0xA693,
    0xA694, 0xA695, 0xA696, 0xA697, 0xA698, 0xA699, 0xA69A, 0xA69B, 0xA69C, 0xA69E, 0xA722, 0xA723,
    0xA724, 0xA725, 0xA726, 0xA727, 0xA728, 0xA729, 0xA72A, 0xA72B, 0xA72C, 0xA72D, 0xA72E, 0xA72F,
    0xA732, 0xA733, 0xA734, 0xA735, 0xA736, 0xA737, 0xA738, 0xA739, 0xA73A, 0xA73B, 0xA73C, 0xA73D,
    0xA73E, 0xA73F, 0xA740, 0xA741, 0xA742, 0xA743, 0xA744, 0xA745, 0xA746, 0xA747, 0xA748, 0xA749,
    0xA74A, 0xA74B, 0xA74C, 0xA74D, 0xA74E, 0xA74F, 0xA750, 0xA751, 0xA752, 0xA753, 0xA754, 0xA755,
    0xA756, 0xA757, 0xA758, 0xA759, 0xA75A, 0xA75B, 0xA75C, 0xA75D, 0xA75E, 0xA75F, 0xA760, 0xA761,
    0xA762, 0xA763, 0xA764, 0xA765, 0xA766, 0xA767, 0xA768, 0xA769, 0xA76A, 0xA76B, 0xA76C, 0xA76D,
    0xA76E, 0xA76F, 0xA770, 0xA771, 0xA779, 0xA77A, 0xA77B, 0xA77C, 0xA77D, 0xA77F, 0xA780, 0xA781,
    0xA782, 0xA783, 0xA784, 0xA785, 0xA786, 0xA787, 0xA78B, 0xA78C, 0xA78D, 0xA78E, 0xA790, 0xA791,
    0xA792, 0xA793, 0xA796, 0xA797, 0xA798, 0xA799, 0xA79A, 0xA79B, 0xA79C, 0xA79D, 0xA79E, 0xA79F,
    0xA7A0, 0xA7A1, 0xA7A2, 0xA7A3, 0xA7A4, 0xA7A5, 0xA7A6, 0xA7A7, 0xA7A8, 0xA7A9, 0xA7AA, 0xA7AF,
    0xA7B0, 0xA7B5, 0xA7B6, 0xA7B7, 0xA7B8, 0xA7B9, 0xA7BA, 0xA7BB, 0xA7BC, 0xA7BD, 0xA7BE, 0xA7BF,
    0xA7C0, 0xA7C1, 0xA7C2, 0xA7C3, 0xA7C4, 0xA7C8, 0xA7C9, 0xA7CA, 0xA7CB, 0xA7CD, 0xA7CE, 0xA7CF,
    0xA7D0, 0xA7D1, 0xA7D2, 0xA7D3, 0xA7D4, 0xA7D5, 0xA7D6, 0xA7D7, 0xA7D8, 0xA7D9, 0xA7DA, 0xA7DB,
    0xA7DC, 0xA7F6, 0xA7F8, 0xA7FA, 0xAB5C, 0xAB60, 0xAB69, 0xAB6A, 0xAB70, 0xABC0, 0xF900, 0xFA0E,
    0xFA10, 0xFA11, 0xFA12, 0xFA13, 0xFA15, 0xFA1F, 0xFA20, 0xFA21, 0xFA22, 0xFA23, 0xFA25, 0xFA27,
    0xFA2A, 0xFB1E, 0xFB1F, 0xFBB2, 0xFBD3, 0xFD3E, 0xFD50, 0xFD90, 0xFD92, 0xFDC8, 0xFDF0, 0xFDFD,
    0xFE10, 0xFE20, 0xFE31, 0xFE45, 0xFE4D, 0xFE73, 0xFE77, 0x10000, 0x10400, 0x10428, 0x104B0,
    0x104D8, 0x10570, 0x10597, 0x10781, 0x10800, 0x10C80, 0x10CC0, 0x10D50, 0x10D69, 0x118A0,
    0x118C0, 0x16E40, 0x16E60, 0x16EA0, 0x16EBB, 0x1CCD6, 0x1CCFA, 0x1D15E, 0x1D165, 0x1D1BB,
    0x1D1C1, 0x1D400, 0x1D800, 0x1E030, 0x1E08F, 0x1E900, 0x1E922, 0x1EE00, 0x1EEF0, 0x1F101,
    0x1F10B, 0x1F110, 0x1F12F, 0x1F130, 0x1F150, 0x1F16A, 0x1F16D, 0x1F190, 0x1F191, 0x1F200,
    0x1F260, 0x1FBF0, 0x1FBFA, 0x2F800, 0x30000]

/-- Code points in a row that stand for ASCII characters in a row. A row that comes to `z` or `9`
goes on with `a` or `0`. -/
structure AsciiRow where
  start : Nat
  length : Nat
  first : Char

def asciiRows : List AsciiRow :=
  [⟨0xAA, 1, 'a'⟩, ⟨0xB2, 2, '2'⟩, ⟨0xB9, 1, '1'⟩, ⟨0xBA, 1, 'o'⟩, ⟨0x17F, 1, 's'⟩, ⟨0x2B0, 1, 'h'⟩,
   ⟨0x2B2, 1, 'j'⟩, ⟨0x2B3, 1, 'r'⟩, ⟨0x2B7, 1, 'w'⟩, ⟨0x2B8, 1, 'y'⟩, ⟨0x2E1, 1, 'l'⟩,
   ⟨0x2E2, 1, 's'⟩, ⟨0x2E3, 1, 'x'⟩, ⟨0x37E, 1, ';'⟩, ⟨0x1D2C, 1, 'a'⟩, ⟨0x1D2E, 1, 'b'⟩,
   ⟨0x1D30, 2, 'd'⟩, ⟨0x1D33, 8, 'g'⟩, ⟨0x1D3C, 1, 'o'⟩, ⟨0x1D3E, 1, 'p'⟩, ⟨0x1D3F, 1, 'r'⟩,
   ⟨0x1D40, 2, 't'⟩, ⟨0x1D42, 1, 'w'⟩, ⟨0x1D43, 1, 'a'⟩, ⟨0x1D47, 1, 'b'⟩, ⟨0x1D48, 2, 'd'⟩,
   ⟨0x1D4D, 1, 'g'⟩, ⟨0x1D4F, 1, 'k'⟩, ⟨0x1D50, 1, 'm'⟩, ⟨0x1D52, 1, 'o'⟩, ⟨0x1D56, 1, 'p'⟩,
   ⟨0x1D57, 2, 't'⟩, ⟨0x1D5B, 1, 'v'⟩, ⟨0x1D62, 1, 'i'⟩, ⟨0x1D63, 1, 'r'⟩, ⟨0x1D64, 2, 'u'⟩,
   ⟨0x1D9C, 1, 'c'⟩, ⟨0x1DA0, 1, 'f'⟩, ⟨0x1DBB, 1, 'z'⟩, ⟨0x1FEF, 1, '\x60'⟩, ⟨0x2070, 1, '0'⟩,
   ⟨0x2071, 1, 'i'⟩, ⟨0x2074, 6, '4'⟩, ⟨0x207A, 1, '+'⟩, ⟨0x207C, 1, '='⟩, ⟨0x207D, 2, '('⟩,
   ⟨0x207F, 1, 'n'⟩, ⟨0x2080, 10, '0'⟩, ⟨0x208A, 1, '+'⟩, ⟨0x208C, 1, '='⟩, ⟨0x208D, 2, '('⟩,
   ⟨0x2090, 1, 'a'⟩, ⟨0x2091, 1, 'e'⟩, ⟨0x2092, 1, 'o'⟩, ⟨0x2093, 1, 'x'⟩, ⟨0x2095, 1, 'h'⟩,
   ⟨0x2096, 4, 'k'⟩, ⟨0x209A, 1, 'p'⟩, ⟨0x209B, 2, 's'⟩, ⟨0x2102, 1, 'c'⟩, ⟨0x210A, 2, 'g'⟩,
   ⟨0x210C, 1, 'h'⟩, ⟨0x210D, 1, 'h'⟩, ⟨0x210E, 1, 'h'⟩, ⟨0x2110, 1, 'i'⟩, ⟨0x2111, 1, 'i'⟩,
   ⟨0x2112, 1, 'l'⟩, ⟨0x2113, 1, 'l'⟩, ⟨0x2115, 1, 'n'⟩, ⟨0x2119, 3, 'p'⟩, ⟨0x211C, 1, 'r'⟩,
   ⟨0x211D, 1, 'r'⟩, ⟨0x2124, 1, 'z'⟩, ⟨0x2128, 1, 'z'⟩, ⟨0x212A, 1, 'k'⟩, ⟨0x212C, 2, 'b'⟩,
   ⟨0x212F, 1, 'e'⟩, ⟨0x2130, 2, 'e'⟩, ⟨0x2133, 1, 'm'⟩, ⟨0x2134, 1, 'o'⟩, ⟨0x2139, 1, 'i'⟩,
   ⟨0x2145, 1, 'd'⟩, ⟨0x2146, 2, 'd'⟩, ⟨0x2148, 2, 'i'⟩, ⟨0x2160, 1, 'i'⟩, ⟨0x2164, 1, 'v'⟩,
   ⟨0x2169, 1, 'x'⟩, ⟨0x216C, 1, 'l'⟩, ⟨0x216D, 2, 'c'⟩, ⟨0x216F, 1, 'm'⟩, ⟨0x2170, 1, 'i'⟩,
   ⟨0x2174, 1, 'v'⟩, ⟨0x2179, 1, 'x'⟩, ⟨0x217C, 1, 'l'⟩, ⟨0x217D, 2, 'c'⟩, ⟨0x217F, 1, 'm'⟩,
   ⟨0x2460, 9, '1'⟩, ⟨0x24B6, 52, 'a'⟩, ⟨0x24EA, 1, '0'⟩, ⟨0x2C7C, 1, 'j'⟩, ⟨0x2C7D, 1, 'v'⟩,
   ⟨0x3002, 1, '.'⟩, ⟨0xA7F1, 1, 's'⟩, ⟨0xA7F2, 1, 'c'⟩, ⟨0xA7F3, 1, 'f'⟩, ⟨0xA7F4, 1, 'q'⟩,
   ⟨0xFB29, 1, '+'⟩, ⟨0xFE10, 1, ','⟩, ⟨0xFE14, 1, ';'⟩, ⟨0xFE15, 1, '!'⟩, ⟨0xFE33, 1, '_'⟩,
   ⟨0xFE34, 1, '_'⟩, ⟨0xFE35, 2, '('⟩, ⟨0xFE37, 1, '\x7b'⟩, ⟨0xFE38, 1, '\x7d'⟩, ⟨0xFE4D, 1, '_'⟩,
   ⟨0xFE4E, 1, '_'⟩, ⟨0xFE4F, 1, '_'⟩, ⟨0xFE50, 1, ','⟩, ⟨0xFE54, 1, ';'⟩, ⟨0xFE57, 1, '!'⟩,
   ⟨0xFE59, 2, '('⟩, ⟨0xFE5B, 1, '\x7b'⟩, ⟨0xFE5C, 1, '\x7d'⟩, ⟨0xFE60, 1, '&'⟩, ⟨0xFE61, 2, '*'⟩,
   ⟨0xFE63, 1, '-'⟩, ⟨0xFE64, 1, '<'⟩, ⟨0xFE65, 1, '>'⟩, ⟨0xFE66, 1, '='⟩, ⟨0xFE69, 1, '$'⟩,
   ⟨0xFF01, 2, '!'⟩, ⟨0xFF04, 1, '$'⟩, ⟨0xFF06, 9, '&'⟩, ⟨0xFF10, 10, '0'⟩, ⟨0xFF1B, 4, ';'⟩,
   ⟨0xFF21, 26, 'a'⟩, ⟨0xFF3F, 29, '_'⟩, ⟨0xFF5D, 2, '\x7d'⟩, ⟨0xFF61, 1, '.'⟩, ⟨0x107A5, 1, 'q'⟩,
   ⟨0x1CCD6, 26, 'a'⟩, ⟨0x1CCF0, 10, '0'⟩, ⟨0x1D400, 85, 'a'⟩, ⟨0x1D456, 71, 'i'⟩,
   ⟨0x1D49E, 2, 'c'⟩, ⟨0x1D4A2, 1, 'g'⟩, ⟨0x1D4A5, 2, 'j'⟩, ⟨0x1D4A9, 4, 'n'⟩, ⟨0x1D4AE, 12, 's'⟩,
   ⟨0x1D4BB, 1, 'f'⟩, ⟨0x1D4BD, 7, 'h'⟩, ⟨0x1D4C5, 65, 'p'⟩, ⟨0x1D507, 4, 'd'⟩, ⟨0x1D50D, 8, 'j'⟩,
   ⟨0x1D516, 7, 's'⟩, ⟨0x1D51E, 28, 'a'⟩, ⟨0x1D53B, 4, 'd'⟩, ⟨0x1D540, 5, 'i'⟩, ⟨0x1D546, 1, 'o'⟩,
   ⟨0x1D54A, 7, 's'⟩, ⟨0x1D552, 338, 'a'⟩, ⟨0x1D7CE, 50, '0'⟩, ⟨0x1F12B, 1, 'c'⟩, ⟨0x1F12C, 1, 'r'⟩,
   ⟨0x1F130, 26, 'a'⟩, ⟨0x1FBF0, 10, '0'⟩]

/-- Code points that stand for texts with an ASCII character in them, with a mark in front, or with
marks or what takes up marks at their end. -/
def words : List (Nat × String) :=
  [(0xBC, "1\u20444"), (0xBD, "1\u20442"), (0xBE, "3\u20444"), (0xC0, "\u00e0"), (0xC1, "\u00e1"),
   (0xC2, "\u00e2"), (0xC3, "\u00e3"), (0xC4, "\u00e4"), (0xC5, "\u00e5"), (0xC6, "\u00e6"),
   (0xC7, "\u00e7"), (0xC8, "\u00e8"), (0xC9, "\u00e9"), (0xCA, "\u00ea"), (0xCB, "\u00eb"),
   (0xCC, "\u00ec"), (0xCD, "\u00ed"), (0xCE, "\u00ee"), (0xCF, "\u00ef"), (0xD1, "\u00f1"),
   (0xD2, "\u00f2"), (0xD3, "\u00f3"), (0xD4, "\u00f4"), (0xD5, "\u00f5"), (0xD6, "\u00f6"),
   (0xD8, "\u00f8"), (0xD9, "\u00f9"), (0xDA, "\u00fa"), (0xDB, "\u00fb"), (0xDC, "\u00fc"),
   (0xDD, "\u00fd"), (0x100, "\u0101"), (0x102, "\u0103"), (0x104, "\u0105"), (0x106, "\u0107"),
   (0x108, "\u0109"), (0x10A, "\u010b"), (0x10C, "\u010d"), (0x10E, "\u010f"), (0x112, "\u0113"),
   (0x114, "\u0115"), (0x116, "\u0117"), (0x118, "\u0119"), (0x11A, "\u011b"), (0x11C, "\u011d"),
   (0x11E, "\u011f"), (0x120, "\u0121"), (0x122, "\u0123"), (0x124, "\u0125"), (0x128, "\u0129"),
   (0x12A, "\u012b"), (0x12C, "\u012d"), (0x12E, "\u012f"), (0x130, "i\u0307"), (0x132, "ij"),
   (0x133, "ij"), (0x134, "\u0135"), (0x136, "\u0137"), (0x139, "\u013a"), (0x13B, "\u013c"),
   (0x13D, "\u013e"), (0x13F, "l\u00b7"), (0x140, "l\u00b7"), (0x143, "\u0144"), (0x145, "\u0146"),
   (0x147, "\u0148"), (0x149, "\u02bcn"), (0x14C, "\u014d"), (0x14E, "\u014f"), (0x150, "\u0151"),
   (0x154, "\u0155"), (0x156, "\u0157"), (0x158, "\u0159"), (0x15A, "\u015b"), (0x15C, "\u015d"),
   (0x15E, "\u015f"), (0x160, "\u0161"), (0x162, "\u0163"), (0x164, "\u0165"), (0x168, "\u0169"),
   (0x16A, "\u016b"), (0x16C, "\u016d"), (0x16E, "\u016f"), (0x170, "\u0171"), (0x172, "\u0173"),
   (0x174, "\u0175"), (0x176, "\u0177"), (0x178, "\u00ff"), (0x179, "\u017a"), (0x17B, "\u017c"),
   (0x17D, "\u017e"), (0x1A0, "\u01a1"), (0x1AF, "\u01b0"), (0x1B7, "\u0292"), (0x1C4, "d\u017e"),
   (0x1C5, "d\u017e"), (0x1C6, "d\u017e"), (0x1C7, "lj"), (0x1C8, "lj"), (0x1C9, "lj"),
   (0x1CA, "nj"), (0x1CB, "nj"), (0x1CC, "nj"), (0x1CD, "\u01ce"), (0x1CF, "\u01d0"),
   (0x1D1, "\u01d2"), (0x1D3, "\u01d4"), (0x1D5, "\u01d6"), (0x1D7, "\u01d8"), (0x1D9, "\u01da"),
   (0x1DB, "\u01dc"), (0x1DE, "\u01df"), (0x1E0, "\u01e1"), (0x1E2, "\u01e3"), (0x1E6, "\u01e7"),
   (0x1E8, "\u01e9"), (0x1EA, "\u01eb"), (0x1EC, "\u01ed"), (0x1EE, "\u01ef"), (0x1F1, "dz"),
   (0x1F2, "dz"), (0x1F3, "dz"), (0x1F4, "\u01f5"), (0x1F8, "\u01f9"), (0x1FA, "\u01fb"),
   (0x1FC, "\u01fd"), (0x1FE, "\u01ff"), (0x200, "\u0201"), (0x202, "\u0203"), (0x204, "\u0205"),
   (0x206, "\u0207"), (0x208, "\u0209"), (0x20A, "\u020b"), (0x20C, "\u020d"), (0x20E, "\u020f"),
   (0x210, "\u0211"), (0x212, "\u0213"), (0x214, "\u0215"), (0x216, "\u0217"), (0x218, "\u0219"),
   (0x21A, "\u021b"), (0x21E, "\u021f"), (0x226, "\u0227"), (0x228, "\u0229"), (0x22A, "\u022b"),
   (0x22C, "\u022d"), (0x22E, "\u022f"), (0x230, "\u0231"), (0x232, "\u0233"), (0x340, "\u0300"),
   (0x341, "\u0301"), (0x343, "\u0313"), (0x344, "\u0308\u0301"), (0x345, "\u03b9"),
   (0x386, "\u03ac"), (0x388, "\u03ad"), (0x389, "\u03ae"), (0x38A, "\u03af"), (0x38C, "\u03cc"),
   (0x38E, "\u03cd"), (0x38F, "\u03ce"), (0x391, "\u03b1"), (0x395, "\u03b5"), (0x397, "\u03b7"),
   (0x399, "\u03b9"), (0x39F, "\u03bf"), (0x3A1, "\u03c1"), (0x3A5, "\u03c5"), (0x3A9, "\u03c9"),
   (0x3AA, "\u03ca"), (0x3AB, "\u03cb"), (0x3D2, "\u03c5"), (0x3D3, "\u03cd"), (0x3D4, "\u03cb"),
   (0x3F1, "\u03c1"), (0x3F5, "\u03b5"), (0x400, "\u0450"), (0x401, "\u0451"), (0x403, "\u0453"),
   (0x406, "\u0456"), (0x407, "\u0457"), (0x40C, "\u045c"), (0x40D, "\u045d"), (0x40E, "\u045e"),
   (0x410, "\u0430"), (0x413, "\u0433"), (0x415, "\u0435"), (0x416, "\u0436"), (0x417, "\u0437"),
   (0x418, "\u0438"), (0x419, "\u0439"), (0x41A, "\u043a"), (0x41E, "\u043e"), (0x423, "\u0443"),
   (0x427, "\u0447"), (0x42B, "\u044b"), (0x42D, "\u044d"), (0x474, "\u0475"), (0x476, "\u0477"),
   (0x4C1, "\u04c2"), (0x4D0, "\u04d1"), (0x4D2, "\u04d3"), (0x4D6, "\u04d7"), (0x4D8, "\u04d9"),
   (0x4DA, "\u04db"), (0x4DC, "\u04dd"), (0x4DE, "\u04df"), (0x4E2, "\u04e3"), (0x4E4, "\u04e5"),
   (0x4E6, "\u04e7"), (0x4E8, "\u04e9"), (0x4EA, "\u04eb"), (0x4EC, "\u04ed"), (0x4EE, "\u04ef"),
   (0x4F0, "\u04f1"), (0x4F2, "\u04f3"), (0x4F4, "\u04f5"), (0x4F8, "\u04f9"),
   (0xE33, "\u0e4d\u0e32"), (0xEB3, "\u0ecd\u0eb2"), (0xF73, "\u0f71\u0f72"),
   (0xF75, "\u0f71\u0f74"), (0xF76, "\u0fb2\u0f80"), (0xF77, "\u0fb2\u0f71\u0f80"),
   (0xF78, "\u0fb3\u0f80"), (0xF79, "\u0fb3\u0f71\u0f80"), (0xF81, "\u0f71\u0f80"),
   (0x1C82, "\u043e"), (0x1D2D, "\u00e6"), (0x1D68, "\u03c1"), (0x1DBE, "\u0292"),
   (0x1E00, "\u1e01"), (0x1E02, "\u1e03"), (0x1E04, "\u1e05"), (0x1E06, "\u1e07"),
   (0x1E08, "\u1e09"), (0x1E0A, "\u1e0b"), (0x1E0C, "\u1e0d"), (0x1E0E, "\u1e0f"),
   (0x1E10, "\u1e11"), (0x1E12, "\u1e13"), (0x1E14, "\u1e15"), (0x1E16, "\u1e17"),
   (0x1E18, "\u1e19"), (0x1E1A, "\u1e1b"), (0x1E1C, "\u1e1d"), (0x1E1E, "\u1e1f"),
   (0x1E20, "\u1e21"), (0x1E22, "\u1e23"), (0x1E24, "\u1e25"), (0x1E26, "\u1e27"),
   (0x1E28, "\u1e29"), (0x1E2A, "\u1e2b"), (0x1E2C, "\u1e2d"), (0x1E2E, "\u1e2f"),
   (0x1E30, "\u1e31"), (0x1E32, "\u1e33"), (0x1E34, "\u1e35"), (0x1E36, "\u1e37"),
   (0x1E38, "\u1e39"), (0x1E3A, "\u1e3b"), (0x1E3C, "\u1e3d"), (0x1E3E, "\u1e3f"),
   (0x1E40, "\u1e41"), (0x1E42, "\u1e43"), (0x1E44, "\u1e45"), (0x1E46, "\u1e47"),
   (0x1E48, "\u1e49"), (0x1E4A, "\u1e4b"), (0x1E4C, "\u1e4d"), (0x1E4E, "\u1e4f"),
   (0x1E50, "\u1e51"), (0x1E52, "\u1e53"), (0x1E54, "\u1e55"), (0x1E56, "\u1e57"),
   (0x1E58, "\u1e59"), (0x1E5A, "\u1e5b"), (0x1E5C, "\u1e5d"), (0x1E5E, "\u1e5f"),
   (0x1E60, "\u1e61"), (0x1E62, "\u1e63"), (0x1E64, "\u1e65"), (0x1E66, "\u1e67"),
   (0x1E68, "\u1e69"), (0x1E6A, "\u1e6b"), (0x1E6C, "\u1e6d"), (0x1E6E, "\u1e6f"),
   (0x1E70, "\u1e71"), (0x1E72, "\u1e73"), (0x1E74, "\u1e75"), (0x1E76, "\u1e77"),
   (0x1E78, "\u1e79"), (0x1E7A, "\u1e7b"), (0x1E7C, "\u1e7d"), (0x1E7E, "\u1e7f"),
   (0x1E80, "\u1e81"), (0x1E82, "\u1e83"), (0x1E84, "\u1e85"), (0x1E86, "\u1e87"),
   (0x1E88, "\u1e89"), (0x1E8A, "\u1e8b"), (0x1E8C, "\u1e8d"), (0x1E8E, "\u1e8f"),
   (0x1E90, "\u1e91"), (0x1E92, "\u1e93"), (0x1E94, "\u1e95"), (0x1E9A, "a\u02be"),
   (0x1E9B, "\u1e61"), (0x1EA0, "\u1ea1"), (0x1EA2, "\u1ea3"), (0x1EA4, "\u1ea5"),
   (0x1EA6, "\u1ea7"), (0x1EA8, "\u1ea9"), (0x1EAA, "\u1eab"), (0x1EAC, "\u1ead"),
   (0x1EAE, "\u1eaf"), (0x1EB0, "\u1eb1"), (0x1EB2, "\u1eb3"), (0x1EB4, "\u1eb5"),
   (0x1EB6, "\u1eb7"), (0x1EB8, "\u1eb9"), (0x1EBA, "\u1ebb"), (0x1EBC, "\u1ebd"),
   (0x1EBE, "\u1ebf"), (0x1EC0, "\u1ec1"), (0x1EC2, "\u1ec3"), (0x1EC4, "\u1ec5"),
   (0x1EC6, "\u1ec7"), (0x1EC8, "\u1ec9"), (0x1ECA, "\u1ecb"), (0x1ECC, "\u1ecd"),
   (0x1ECE, "\u1ecf"), (0x1ED0, "\u1ed1"), (0x1ED2, "\u1ed3"), (0x1ED4, "\u1ed5"),
   (0x1ED6, "\u1ed7"), (0x1ED8, "\u1ed9"), (0x1EDA, "\u1edb"), (0x1EDC, "\u1edd"),
   (0x1EDE, "\u1edf"), (0x1EE0, "\u1ee1"), (0x1EE2, "\u1ee3"), (0x1EE4, "\u1ee5"),
   (0x1EE6, "\u1ee7"), (0x1EE8, "\u1ee9"), (0x1EEA, "\u1eeb"), (0x1EEC, "\u1eed"),
   (0x1EEE, "\u1eef"), (0x1EF0, "\u1ef1"), (0x1EF2, "\u1ef3"), (0x1EF4, "\u1ef5"),
   (0x1EF6, "\u1ef7"), (0x1EF8, "\u1ef9"), (0x1F08, "\u1f00"), (0x1F09, "\u1f01"),
   (0x1F0A, "\u1f02"), (0x1F0B, "\u1f03"), (0x1F0C, "\u1f04"), (0x1F0D, "\u1f05"),
   (0x1F0E, "\u1f06"), (0x1F0F, "\u1f07"), (0x1F18, "\u1f10"), (0x1F19, "\u1f11"),
   (0x1F1A, "\u1f12"), (0x1F1B, "\u1f13"), (0x1F1C, "\u1f14"), (0x1F1D, "\u1f15"),
   (0x1F28, "\u1f20"), (0x1F29, "\u1f21"), (0x1F2A, "\u1f22"), (0x1F2B, "\u1f23"),
   (0x1F2C, "\u1f24"), (0x1F2D, "\u1f25"), (0x1F2E, "\u1f26"), (0x1F2F, "\u1f27"),
   (0x1F38, "\u1f30"), (0x1F39, "\u1f31"), (0x1F3A, "\u1f32"), (0x1F3B, "\u1f33"),
   (0x1F3C, "\u1f34"), (0x1F3D, "\u1f35"), (0x1F3E, "\u1f36"), (0x1F3F, "\u1f37"),
   (0x1F48, "\u1f40"), (0x1F49, "\u1f41"), (0x1F4A, "\u1f42"), (0x1F4B, "\u1f43"),
   (0x1F4C, "\u1f44"), (0x1F4D, "\u1f45"), (0x1F59, "\u1f51"), (0x1F5B, "\u1f53"),
   (0x1F5D, "\u1f55"), (0x1F5F, "\u1f57"), (0x1F68, "\u1f60"), (0x1F69, "\u1f61"),
   (0x1F6A, "\u1f62"), (0x1F6B, "\u1f63"), (0x1F6C, "\u1f64"), (0x1F6D, "\u1f65"),
   (0x1F6E, "\u1f66"), (0x1F6F, "\u1f67"), (0x1F71, "\u03ac"), (0x1F73, "\u03ad"),
   (0x1F75, "\u03ae"), (0x1F77, "\u03af"), (0x1F79, "\u03cc"), (0x1F7B, "\u03cd"),
   (0x1F7D, "\u03ce"), (0x1F80, "\u1f00\u03b9"), (0x1F81, "\u1f01\u03b9"), (0x1F82, "\u1f02\u03b9"),
   (0x1F83, "\u1f03\u03b9"), (0x1F84, "\u1f04\u03b9"), (0x1F85, "\u1f05\u03b9"),
   (0x1F86, "\u1f06\u03b9"), (0x1F87, "\u1f07\u03b9"), (0x1F88, "\u1f00\u03b9"),
   (0x1F89, "\u1f01\u03b9"), (0x1F8A, "\u1f02\u03b9"), (0x1F8B, "\u1f03\u03b9"),
   (0x1F8C, "\u1f04\u03b9"), (0x1F8D, "\u1f05\u03b9"), (0x1F8E, "\u1f06\u03b9"),
   (0x1F8F, "\u1f07\u03b9"), (0x1F90, "\u1f20\u03b9"), (0x1F91, "\u1f21\u03b9"),
   (0x1F92, "\u1f22\u03b9"), (0x1F93, "\u1f23\u03b9"), (0x1F94, "\u1f24\u03b9"),
   (0x1F95, "\u1f25\u03b9"), (0x1F96, "\u1f26\u03b9"), (0x1F97, "\u1f27\u03b9"),
   (0x1F98, "\u1f20\u03b9"), (0x1F99, "\u1f21\u03b9"), (0x1F9A, "\u1f22\u03b9"),
   (0x1F9B, "\u1f23\u03b9"), (0x1F9C, "\u1f24\u03b9"), (0x1F9D, "\u1f25\u03b9"),
   (0x1F9E, "\u1f26\u03b9"), (0x1F9F, "\u1f27\u03b9"), (0x1FA0, "\u1f60\u03b9"),
   (0x1FA1, "\u1f61\u03b9"), (0x1FA2, "\u1f62\u03b9"), (0x1FA3, "\u1f63\u03b9"),
   (0x1FA4, "\u1f64\u03b9"), (0x1FA5, "\u1f65\u03b9"), (0x1FA6, "\u1f66\u03b9"),
   (0x1FA7, "\u1f67\u03b9"), (0x1FA8, "\u1f60\u03b9"), (0x1FA9, "\u1f61\u03b9"),
   (0x1FAA, "\u1f62\u03b9"), (0x1FAB, "\u1f63\u03b9"), (0x1FAC, "\u1f64\u03b9"),
   (0x1FAD, "\u1f65\u03b9"), (0x1FAE, "\u1f66\u03b9"), (0x1FAF, "\u1f67\u03b9"),
   (0x1FB2, "\u1f70\u03b9"), (0x1FB3, "\u03b1\u03b9"), (0x1FB4, "\u03ac\u03b9"),
   (0x1FB7, "\u1fb6\u03b9"), (0x1FB8, "\u1fb0"), (0x1FB9, "\u1fb1"), (0x1FBA, "\u1f70"),
   (0x1FBB, "\u03ac"), (0x1FBC, "\u03b1\u03b9"), (0x1FBE, "\u03b9"), (0x1FC2, "\u1f74\u03b9"),
   (0x1FC3, "\u03b7\u03b9"), (0x1FC4, "\u03ae\u03b9"), (0x1FC7, "\u1fc6\u03b9"), (0x1FC8, "\u1f72"),
   (0x1FC9, "\u03ad"), (0x1FCA, "\u1f74"), (0x1FCB, "\u03ae"), (0x1FCC, "\u03b7\u03b9"),
   (0x1FD3, "\u0390"), (0x1FD8, "\u1fd0"), (0x1FD9, "\u1fd1"), (0x1FDA, "\u1f76"),
   (0x1FDB, "\u03af"), (0x1FE3, "\u03b0"), (0x1FE8, "\u1fe0"), (0x1FE9, "\u1fe1"),
   (0x1FEA, "\u1f7a"), (0x1FEB, "\u03cd"), (0x1FEC, "\u1fe5"), (0x1FF2, "\u1f7c\u03b9"),
   (0x1FF3, "\u03c9\u03b9"), (0x1FF4, "\u03ce\u03b9"), (0x1FF7, "\u1ff6\u03b9"), (0x1FF8, "\u1f78"),
   (0x1FF9, "\u03cc"), (0x1FFA, "\u1f7c"), (0x1FFB, "\u03ce"), (0x1FFC, "\u03c9\u03b9"),
   (0x203C, "!!"), (0x20A8, "rs"), (0x2103, "\u00b0c"), (0x2109, "\u00b0f"), (0x2116, "no"),
   (0x2120, "sm"), (0x2121, "tel"), (0x2122, "tm"), (0x2126, "\u03c9"), (0x212B, "\u00e5"),
   (0x213B, "fax"), (0x2150, "1\u20447"), (0x2151, "1\u20449"), (0x2152, "1\u204410"),
   (0x2153, "1\u20443"), (0x2154, "2\u20443"), (0x2155, "1\u20445"), (0x2156, "2\u20445"),
   (0x2157, "3\u20445"), (0x2158, "4\u20445"), (0x2159, "1\u20446"), (0x215A, "5\u20446"),
   (0x215B, "1\u20448"), (0x215C, "3\u20448"), (0x215D, "5\u20448"), (0x215E, "7\u20448"),
   (0x215F, "1\u2044"), (0x2161, "ii"), (0x2162, "iii"), (0x2163, "iv"), (0x2165, "vi"),
   (0x2166, "vii"), (0x2167, "viii"), (0x2168, "ix"), (0x216A, "xi"), (0x216B, "xii"),
   (0x2171, "ii"), (0x2172, "iii"), (0x2173, "iv"), (0x2175, "vi"), (0x2176, "vii"),
   (0x2177, "viii"), (0x2178, "ix"), (0x217A, "xi"), (0x217B, "xii"), (0x2189, "0\u20443"),
   (0x2469, "10"), (0x246A, "11"), (0x246B, "12"), (0x246C, "13"), (0x246D, "14"), (0x246E, "15"),
   (0x246F, "16"), (0x2470, "17"), (0x2471, "18"), (0x2472, "19"), (0x2473, "20"), (0x2474, "(1)"),
   (0x2475, "(2)"), (0x2476, "(3)"), (0x2477, "(4)"), (0x2478, "(5)"), (0x2479, "(6)"),
   (0x247A, "(7)"), (0x247B, "(8)"), (0x247C, "(9)"), (0x247D, "(10)"), (0x247E, "(11)"),
   (0x247F, "(12)"), (0x2480, "(13)"), (0x2481, "(14)"), (0x2482, "(15)"), (0x2483, "(16)"),
   (0x2484, "(17)"), (0x2485, "(18)"), (0x2486, "(19)"), (0x2487, "(20)"), (0x249C, "(a)"),
   (0x249D, "(b)"), (0x249E, "(c)"), (0x249F, "(d)"), (0x24A0, "(e)"), (0x24A1, "(f)"),
   (0x24A2, "(g)"), (0x24A3, "(h)"), (0x24A4, "(i)"), (0x24A5, "(j)"), (0x24A6, "(k)"),
   (0x24A7, "(l)"), (0x24A8, "(m)"), (0x24A9, "(n)"), (0x24AA, "(o)"), (0x24AB, "(p)"),
   (0x24AC, "(q)"), (0x24AD, "(r)"), (0x24AE, "(s)"), (0x24AF, "(t)"), (0x24B0, "(u)"),
   (0x24B1, "(v)"), (0x24B2, "(w)"), (0x24B3, "(x)"), (0x24B4, "(y)"), (0x24B5, "(z)"),
   (0x2A75, "=="), (0x2A76, "==="), (0x3200, "(\u1100)"), (0x3201, "(\u1102)"),
   (0x3202, "(\u1103)"), (0x3203, "(\u1105)"), (0x3204, "(\u1106)"), (0x3205, "(\u1107)"),
   (0x3206, "(\u1109)"), (0x3207, "(\u110b)"), (0x3208, "(\u110c)"), (0x3209, "(\u110e)"),
   (0x320A, "(\u110f)"), (0x320B, "(\u1110)"), (0x320C, "(\u1111)"), (0x320D, "(\u1112)"),
   (0x320E, "(\uac00)"), (0x320F, "(\ub098)"), (0x3210, "(\ub2e4)"), (0x3211, "(\ub77c)"),
   (0x3212, "(\ub9c8)"), (0x3213, "(\ubc14)"), (0x3214, "(\uc0ac)"), (0x3215, "(\uc544)"),
   (0x3216, "(\uc790)"), (0x3217, "(\ucc28)"), (0x3218, "(\uce74)"), (0x3219, "(\ud0c0)"),
   (0x321A, "(\ud30c)"), (0x321B, "(\ud558)"), (0x321C, "(\uc8fc)"), (0x321D, "(\uc624\uc804)"),
   (0x321E, "(\uc624\ud6c4)"), (0x3220, "(\u4e00)"), (0x3221, "(\u4e8c)"), (0x3222, "(\u4e09)"),
   (0x3223, "(\u56db)"), (0x3224, "(\u4e94)"), (0x3225, "(\u516d)"), (0x3226, "(\u4e03)"),
   (0x3227, "(\u516b)"), (0x3228, "(\u4e5d)"), (0x3229, "(\u5341)"), (0x322A, "(\u6708)"),
   (0x322B, "(\u706b)"), (0x322C, "(\u6c34)"), (0x322D, "(\u6728)"), (0x322E, "(\u91d1)"),
   (0x322F, "(\u571f)"), (0x3230, "(\u65e5)"), (0x3231, "(\u682a)"), (0x3232, "(\u6709)"),
   (0x3233, "(\u793e)"), (0x3234, "(\u540d)"), (0x3235, "(\u7279)"), (0x3236, "(\u8ca1)"),
   (0x3237, "(\u795d)"), (0x3238, "(\u52b4)"), (0x3239, "(\u4ee3)"), (0x323A, "(\u547c)"),
   (0x323B, "(\u5b66)"), (0x323C, "(\u76e3)"), (0x323D, "(\u4f01)"), (0x323E, "(\u8cc7)"),
   (0x323F, "(\u5354)"), (0x3240, "(\u796d)"), (0x3241, "(\u4f11)"), (0x3242, "(\u81ea)"),
   (0x3243, "(\u81f3)"), (0x3250, "pte"), (0x3251, "21"), (0x3252, "22"), (0x3253, "23"),
   (0x3254, "24"), (0x3255, "25"), (0x3256, "26"), (0x3257, "27"), (0x3258, "28"), (0x3259, "29"),
   (0x325A, "30"), (0x325B, "31"), (0x325C, "32"), (0x325D, "33"), (0x325E, "34"), (0x325F, "35"),
   (0x32B1, "36"), (0x32B2, "37"), (0x32B3, "38"), (0x32B4, "39"), (0x32B5, "40"), (0x32B6, "41"),
   (0x32B7, "42"), (0x32B8, "43"), (0x32B9, "44"), (0x32BA, "45"), (0x32BB, "46"), (0x32BC, "47"),
   (0x32BD, "48"), (0x32BE, "49"), (0x32BF, "50"), (0x32C0, "1\u6708"), (0x32C1, "2\u6708"),
   (0x32C2, "3\u6708"), (0x32C3, "4\u6708"), (0x32C4, "5\u6708"), (0x32C5, "6\u6708"),
   (0x32C6, "7\u6708"), (0x32C7, "8\u6708"), (0x32C8, "9\u6708"), (0x32C9, "10\u6708"),
   (0x32CA, "11\u6708"), (0x32CB, "12\u6708"), (0x32CC, "hg"), (0x32CD, "erg"), (0x32CE, "ev"),
   (0x32CF, "ltd"), (0x3358, "0\u70b9"), (0x3359, "1\u70b9"), (0x335A, "2\u70b9"),
   (0x335B, "3\u70b9"), (0x335C, "4\u70b9"), (0x335D, "5\u70b9"), (0x335E, "6\u70b9"),
   (0x335F, "7\u70b9"), (0x3360, "8\u70b9"), (0x3361, "9\u70b9"), (0x3362, "10\u70b9"),
   (0x3363, "11\u70b9"), (0x3364, "12\u70b9"), (0x3365, "13\u70b9"), (0x3366, "14\u70b9"),
   (0x3367, "15\u70b9"), (0x3368, "16\u70b9"), (0x3369, "17\u70b9"), (0x336A, "18\u70b9"),
   (0x336B, "19\u70b9"), (0x336C, "20\u70b9"), (0x336D, "21\u70b9"), (0x336E, "22\u70b9"),
   (0x336F, "23\u70b9"), (0x3370, "24\u70b9"), (0x3371, "hpa"), (0x3372, "da"), (0x3373, "au"),
   (0x3374, "bar"), (0x3375, "ov"), (0x3376, "pc"), (0x3377, "dm"), (0x3378, "dm2"),
   (0x3379, "dm3"), (0x337A, "iu"), (0x3380, "pa"), (0x3381, "na"), (0x3382, "\u03bca"),
   (0x3383, "ma"), (0x3384, "ka"), (0x3385, "kb"), (0x3386, "mb"), (0x3387, "gb"), (0x3388, "cal"),
   (0x3389, "kcal"), (0x338A, "pf"), (0x338B, "nf"), (0x338C, "\u03bcf"), (0x338D, "\u03bcg"),
   (0x338E, "mg"), (0x338F, "kg"), (0x3390, "hz"), (0x3391, "khz"), (0x3392, "mhz"),
   (0x3393, "ghz"), (0x3394, "thz"), (0x3395, "\u03bcl"), (0x3396, "ml"), (0x3397, "dl"),
   (0x3398, "kl"), (0x3399, "fm"), (0x339A, "nm"), (0x339B, "\u03bcm"), (0x339C, "mm"),
   (0x339D, "cm"), (0x339E, "km"), (0x339F, "mm2"), (0x33A0, "cm2"), (0x33A1, "m2"),
   (0x33A2, "km2"), (0x33A3, "mm3"), (0x33A4, "cm3"), (0x33A5, "m3"), (0x33A6, "km3"),
   (0x33A7, "m\u2215s"), (0x33A8, "m\u2215s2"), (0x33A9, "pa"), (0x33AA, "kpa"), (0x33AB, "mpa"),
   (0x33AC, "gpa"), (0x33AD, "rad"), (0x33AE, "rad\u2215s"), (0x33AF, "rad\u2215s2"),
   (0x33B0, "ps"), (0x33B1, "ns"), (0x33B2, "\u03bcs"), (0x33B3, "ms"), (0x33B4, "pv"),
   (0x33B5, "nv"), (0x33B6, "\u03bcv"), (0x33B7, "mv"), (0x33B8, "kv"), (0x33B9, "mv"),
   (0x33BA, "pw"), (0x33BB, "nw"), (0x33BC, "\u03bcw"), (0x33BD, "mw"), (0x33BE, "kw"),
   (0x33BF, "mw"), (0x33C0, "k\u03c9"), (0x33C1, "m\u03c9"), (0x33C3, "bq"), (0x33C4, "cc"),
   (0x33C5, "cd"), (0x33C6, "c\u2215kg"), (0x33C8, "db"), (0x33C9, "gy"), (0x33CA, "ha"),
   (0x33CB, "hp"), (0x33CC, "in"), (0x33CD, "kk"), (0x33CE, "km"), (0x33CF, "kt"), (0x33D0, "lm"),
   (0x33D1, "ln"), (0x33D2, "log"), (0x33D3, "lx"), (0x33D4, "mb"), (0x33D5, "mil"),
   (0x33D6, "mol"), (0x33D7, "ph"), (0x33D9, "ppm"), (0x33DA, "pr"), (0x33DB, "sr"), (0x33DC, "sv"),
   (0x33DD, "wb"), (0x33DE, "v\u2215m"), (0x33DF, "a\u2215m"), (0x33E0, "1\u65e5"),
   (0x33E1, "2\u65e5"), (0x33E2, "3\u65e5"), (0x33E3, "4\u65e5"), (0x33E4, "5\u65e5"),
   (0x33E5, "6\u65e5"), (0x33E6, "7\u65e5"), (0x33E7, "8\u65e5"), (0x33E8, "9\u65e5"),
   (0x33E9, "10\u65e5"), (0x33EA, "11\u65e5"), (0x33EB, "12\u65e5"), (0x33EC, "13\u65e5"),
   (0x33ED, "14\u65e5"), (0x33EE, "15\u65e5"), (0x33EF, "16\u65e5"), (0x33F0, "17\u65e5"),
   (0x33F1, "18\u65e5"), (0x33F2, "19\u65e5"), (0x33F3, "20\u65e5"), (0x33F4, "21\u65e5"),
   (0x33F5, "22\u65e5"), (0x33F6, "23\u65e5"), (0x33F7, "24\u65e5"), (0x33F8, "25\u65e5"),
   (0x33F9, "26\u65e5"), (0x33FA, "27\u65e5"), (0x33FB, "28\u65e5"), (0x33FC, "29\u65e5"),
   (0x33FD, "30\u65e5"), (0x33FE, "31\u65e5"), (0x33FF, "gal"), (0xFB00, "ff"), (0xFB01, "fi"),
   (0xFB02, "fl"), (0xFB03, "ffi"), (0xFB04, "ffl"), (0xFB05, "st"), (0xFB06, "st"),
   (0xFB1D, "\u05d9\u05b4"), (0xFB1F, "\u05f2\u05b7"), (0xFB2A, "\u05e9\u05c1"),
   (0xFB2B, "\u05e9\u05c2"), (0xFB2C, "\u05e9\u05bc\u05c1"), (0xFB2D, "\u05e9\u05bc\u05c2"),
   (0xFB2E, "\u05d0\u05b7"), (0xFB2F, "\u05d0\u05b8"), (0xFB30, "\u05d0\u05bc"),
   (0xFB31, "\u05d1\u05bc"), (0xFB32, "\u05d2\u05bc"), (0xFB33, "\u05d3\u05bc"),
   (0xFB34, "\u05d4\u05bc"), (0xFB35, "\u05d5\u05bc"), (0xFB36, "\u05d6\u05bc"),
   (0xFB38, "\u05d8\u05bc"), (0xFB39, "\u05d9\u05bc"), (0xFB3A, "\u05da\u05bc"),
   (0xFB3B, "\u05db\u05bc"), (0xFB3C, "\u05dc\u05bc"), (0xFB3E, "\u05de\u05bc"),
   (0xFB40, "\u05e0\u05bc"), (0xFB41, "\u05e1\u05bc"), (0xFB43, "\u05e3\u05bc"),
   (0xFB44, "\u05e4\u05bc"), (0xFB46, "\u05e6\u05bc"), (0xFB47, "\u05e7\u05bc"),
   (0xFB48, "\u05e8\u05bc"), (0xFB49, "\u05e9\u05bc"), (0xFB4A, "\u05ea\u05bc"),
   (0xFB4B, "\u05d5\u05b9"), (0xFB4C, "\u05d1\u05bf"), (0xFB4D, "\u05db\u05bf"),
   (0xFB4E, "\u05e4\u05bf"), (0xFBA4, "\u06c0"), (0xFBA5, "\u06c0"), (0xFBA6, "\u06c1"),
   (0xFBA7, "\u06c1"), (0xFBA8, "\u06c1"), (0xFBA9, "\u06c1"), (0xFBAE, "\u06d2"),
   (0xFBAF, "\u06d2"), (0xFBB0, "\u06d3"), (0xFBB1, "\u06d3"), (0xFBEA, "\u0626\u0627"),
   (0xFBEB, "\u0626\u0627"), (0xFBEC, "\u0626\u06d5"), (0xFBED, "\u0626\u06d5"),
   (0xFBEE, "\u0626\u0648"), (0xFBEF, "\u0626\u0648"), (0xFC04, "\u0626\u064a"),
   (0xFC0A, "\u0628\u064a"), (0xFC10, "\u062a\u064a"), (0xFC14, "\u062b\u064a"),
   (0xFC32, "\u0641\u064a"), (0xFC36, "\u0642\u064a"), (0xFC37, "\u0643\u0627"),
   (0xFC3E, "\u0643\u064a"), (0xFC44, "\u0644\u064a"), (0xFC4A, "\u0645\u064a"),
   (0xFC50, "\u0646\u064a"), (0xFC54, "\u0647\u064a"), (0xFC5A, "\u064a\u064a"),
   (0xFC5B, "\u0630\u0670"), (0xFC5C, "\u0631\u0670"), (0xFC5D, "\u0649\u0670"),
   (0xFC69, "\u0626\u064a"), (0xFC6F, "\u0628\u064a"), (0xFC75, "\u062a\u064a"),
   (0xFC7B, "\u062b\u064a"), (0xFC7D, "\u0641\u064a"), (0xFC7F, "\u0642\u064a"),
   (0xFC80, "\u0643\u0627"), (0xFC84, "\u0643\u064a"), (0xFC87, "\u0644\u064a"),
   (0xFC88, "\u0645\u0627"), (0xFC8F, "\u0646\u064a"), (0xFC90, "\u0649\u0670"),
   (0xFC96, "\u064a\u064a"), (0xFCD9, "\u0647\u0670"), (0xFCF2, "\u0640\u064e\u0651"),
   (0xFCF3, "\u0640\u064f\u0651"), (0xFCF4, "\u0640\u0650\u0651"), (0xFCF6, "\u0637\u064a"),
   (0xFCF8, "\u0639\u064a"), (0xFCFA, "\u063a\u064a"), (0xFCFC, "\u0633\u064a"),
   (0xFCFE, "\u0634\u064a"), (0xFD00, "\u062d\u064a"), (0xFD02, "\u062c\u064a"),
   (0xFD04, "\u062e\u064a"), (0xFD06, "\u0635\u064a"), (0xFD08, "\u0636\u064a"),
   (0xFD12, "\u0637\u064a"), (0xFD14, "\u0639\u064a"), (0xFD16, "\u063a\u064a"),
   (0xFD18, "\u0633\u064a"), (0xFD1A, "\u0634\u064a"), (0xFD1C, "\u062d\u064a"),
   (0xFD1E, "\u062c\u064a"), (0xFD20, "\u062e\u064a"), (0xFD22, "\u0635\u064a"),
   (0xFD24, "\u0636\u064a"), (0xFD3C, "\u0627\u064b"), (0xFD3D, "\u0627\u064b"),
   (0xFD5A, "\u062d\u0645\u064a"), (0xFD69, "\u0634\u062c\u064a"), (0xFD74, "\u0637\u0645\u064a"),
   (0xFD7A, "\u063a\u0645\u064a"), (0xFD81, "\u0644\u062d\u064a"), (0xFD8B, "\u0645\u062d\u064a"),
   (0xFD9A, "\u0646\u0645\u064a"), (0xFD9E, "\u0628\u062e\u064a"), (0xFD9F, "\u062a\u062c\u064a"),
   (0xFDA1, "\u062a\u062e\u064a"), (0xFDA3, "\u062a\u0645\u064a"), (0xFDA5, "\u062c\u0645\u064a"),
   (0xFDA9, "\u0635\u062d\u064a"), (0xFDAA, "\u0634\u062d\u064a"), (0xFDAB, "\u0636\u062d\u064a"),
   (0xFDAC, "\u0644\u062c\u064a"), (0xFDAD, "\u0644\u0645\u064a"), (0xFDAE, "\u064a\u062d\u064a"),
   (0xFDAF, "\u064a\u062c\u064a"), (0xFDB0, "\u064a\u0645\u064a"), (0xFDB1, "\u0645\u0645\u064a"),
   (0xFDB2, "\u0642\u0645\u064a"), (0xFDB3, "\u0646\u062d\u064a"), (0xFDB6, "\u0639\u0645\u064a"),
   (0xFDB7, "\u0643\u0645\u064a"), (0xFDB9, "\u0645\u062e\u064a"), (0xFDBE, "\u062c\u062d\u064a"),
   (0xFDBF, "\u062d\u062c\u064a"), (0xFDC0, "\u0645\u062c\u064a"), (0xFDC1, "\u0641\u0645\u064a"),
   (0xFDC2, "\u0628\u062d\u064a"), (0xFDC6, "\u0633\u062e\u064a"), (0xFDC7, "\u0646\u062c\u064a"),
   (0xFDF0, "\u0635\u0644\u06d2"), (0xFDF1, "\u0642\u0644\u06d2"), (0xFE71, "\u0640\u064b"),
   (0xFE77, "\u0640\u064e"), (0xFE79, "\u0640\u064f"), (0xFE7B, "\u0640\u0650"),
   (0xFE7D, "\u0640\u0651"), (0xFE7F, "\u0640\u0652"), (0xFE81, "\u0622"), (0xFE82, "\u0622"),
   (0xFE83, "\u0623"), (0xFE84, "\u0623"), (0xFE85, "\u0624"), (0xFE86, "\u0624"),
   (0xFE87, "\u0625"), (0xFE88, "\u0625"), (0xFE89, "\u0626"), (0xFE8A, "\u0626"),
   (0xFE8B, "\u0626"), (0xFE8C, "\u0626"), (0xFE8D, "\u0627"), (0xFE8E, "\u0627"),
   (0xFEED, "\u0648"), (0xFEEE, "\u0648"), (0xFEF1, "\u064a"), (0xFEF2, "\u064a"),
   (0xFEF3, "\u064a"), (0xFEF4, "\u064a"), (0xFEF5, "\u0644\u0622"), (0xFEF6, "\u0644\u0622"),
   (0xFEF7, "\u0644\u0623"), (0xFEF8, "\u0644\u0623"), (0xFEF9, "\u0644\u0625"),
   (0xFEFA, "\u0644\u0625"), (0xFEFB, "\u0644\u0627"), (0xFEFC, "\u0644\u0627"), (0xFF9E, "\u3099"),
   (0xFF9F, "\u309a"), (0x10783, "\u00e6"), (0x107A2, "\u00f8"), (0x1D15E, "𝅗𝅥"), (0x1D15F, "𝅘𝅥"),
   (0x1D160, "𝅘𝅥𝅮"), (0x1D161, "𝅘𝅥𝅯"), (0x1D162, "𝅘𝅥𝅰"), (0x1D163, "𝅘𝅥𝅱"), (0x1D164, "𝅘𝅥𝅲"),
   (0x1D1BB, "𝆹𝅥"), (0x1D1BC, "𝆺𝅥"), (0x1D1BD, "𝆹𝅥𝅮"), (0x1D1BE, "𝆺𝅥𝅮"), (0x1D1BF, "𝆹𝅥𝅯"),
   (0x1D1C0, "𝆺𝅥𝅯"), (0x1D6A8, "\u03b1"), (0x1D6AC, "\u03b5"), (0x1D6AE, "\u03b7"),
   (0x1D6B0, "\u03b9"), (0x1D6B6, "\u03bf"), (0x1D6B8, "\u03c1"), (0x1D6BC, "\u03c5"),
   (0x1D6C0, "\u03c9"), (0x1D6C2, "\u03b1"), (0x1D6C6, "\u03b5"), (0x1D6C8, "\u03b7"),
   (0x1D6CA, "\u03b9"), (0x1D6D0, "\u03bf"), (0x1D6D2, "\u03c1"), (0x1D6D6, "\u03c5"),
   (0x1D6DA, "\u03c9"), (0x1D6DC, "\u03b5"), (0x1D6E0, "\u03c1"), (0x1D6E2, "\u03b1"),
   (0x1D6E6, "\u03b5"), (0x1D6E8, "\u03b7"), (0x1D6EA, "\u03b9"), (0x1D6F0, "\u03bf"),
   (0x1D6F2, "\u03c1"), (0x1D6F6, "\u03c5"), (0x1D6FA, "\u03c9"), (0x1D6FC, "\u03b1"),
   (0x1D700, "\u03b5"), (0x1D702, "\u03b7"), (0x1D704, "\u03b9"), (0x1D70A, "\u03bf"),
   (0x1D70C, "\u03c1"), (0x1D710, "\u03c5"), (0x1D714, "\u03c9"), (0x1D716, "\u03b5"),
   (0x1D71A, "\u03c1"), (0x1D71C, "\u03b1"), (0x1D720, "\u03b5"), (0x1D722, "\u03b7"),
   (0x1D724, "\u03b9"), (0x1D72A, "\u03bf"), (0x1D72C, "\u03c1"), (0x1D730, "\u03c5"),
   (0x1D734, "\u03c9"), (0x1D736, "\u03b1"), (0x1D73A, "\u03b5"), (0x1D73C, "\u03b7"),
   (0x1D73E, "\u03b9"), (0x1D744, "\u03bf"), (0x1D746, "\u03c1"), (0x1D74A, "\u03c5"),
   (0x1D74E, "\u03c9"), (0x1D750, "\u03b5"), (0x1D754, "\u03c1"), (0x1D756, "\u03b1"),
   (0x1D75A, "\u03b5"), (0x1D75C, "\u03b7"), (0x1D75E, "\u03b9"), (0x1D764, "\u03bf"),
   (0x1D766, "\u03c1"), (0x1D76A, "\u03c5"), (0x1D76E, "\u03c9"), (0x1D770, "\u03b1"),
   (0x1D774, "\u03b5"), (0x1D776, "\u03b7"), (0x1D778, "\u03b9"), (0x1D77E, "\u03bf"),
   (0x1D780, "\u03c1"), (0x1D784, "\u03c5"), (0x1D788, "\u03c9"), (0x1D78A, "\u03b5"),
   (0x1D78E, "\u03c1"), (0x1D790, "\u03b1"), (0x1D794, "\u03b5"), (0x1D796, "\u03b7"),
   (0x1D798, "\u03b9"), (0x1D79E, "\u03bf"), (0x1D7A0, "\u03c1"), (0x1D7A4, "\u03c5"),
   (0x1D7A8, "\u03c9"), (0x1D7AA, "\u03b1"), (0x1D7AE, "\u03b5"), (0x1D7B0, "\u03b7"),
   (0x1D7B2, "\u03b9"), (0x1D7B8, "\u03bf"), (0x1D7BA, "\u03c1"), (0x1D7BE, "\u03c5"),
   (0x1D7C2, "\u03c9"), (0x1D7C4, "\u03b5"), (0x1D7C8, "\u03c1"), (0x1E030, "\u0430"),
   (0x1E033, "\u0433"), (0x1E035, "\u0435"), (0x1E036, "\u0436"), (0x1E037, "\u0437"),
   (0x1E038, "\u0438"), (0x1E039, "\u043a"), (0x1E03C, "\u043e"), (0x1E041, "\u0443"),
   (0x1E045, "\u0447"), (0x1E047, "\u044b"), (0x1E048, "\u044d"), (0x1E04B, "\u04d9"),
   (0x1E04C, "\u0456"), (0x1E04E, "\u04e9"), (0x1E051, "\u0430"), (0x1E054, "\u0433"),
   (0x1E056, "\u0435"), (0x1E057, "\u0436"), (0x1E058, "\u0437"), (0x1E059, "\u0438"),
   (0x1E05A, "\u043a"), (0x1E05C, "\u043e"), (0x1E05F, "\u0443"), (0x1E063, "\u0447"),
   (0x1E066, "\u044b"), (0x1E068, "\u0456"), (0x1EE00, "\u0627"), (0x1EE05, "\u0648"),
   (0x1EE09, "\u064a"), (0x1EE29, "\u064a"), (0x1EE49, "\u064a"), (0x1EE69, "\u064a"),
   (0x1EE80, "\u0627"), (0x1EE85, "\u0648"), (0x1EE89, "\u064a"), (0x1EEA5, "\u0648"),
   (0x1EEA9, "\u064a"), (0x1F101, "0,"), (0x1F102, "1,"), (0x1F103, "2,"), (0x1F104, "3,"),
   (0x1F105, "4,"), (0x1F106, "5,"), (0x1F107, "6,"), (0x1F108, "7,"), (0x1F109, "8,"),
   (0x1F10A, "9,"), (0x1F110, "(a)"), (0x1F111, "(b)"), (0x1F112, "(c)"), (0x1F113, "(d)"),
   (0x1F114, "(e)"), (0x1F115, "(f)"), (0x1F116, "(g)"), (0x1F117, "(h)"), (0x1F118, "(i)"),
   (0x1F119, "(j)"), (0x1F11A, "(k)"), (0x1F11B, "(l)"), (0x1F11C, "(m)"), (0x1F11D, "(n)"),
   (0x1F11E, "(o)"), (0x1F11F, "(p)"), (0x1F120, "(q)"), (0x1F121, "(r)"), (0x1F122, "(s)"),
   (0x1F123, "(t)"), (0x1F124, "(u)"), (0x1F125, "(v)"), (0x1F126, "(w)"), (0x1F127, "(x)"),
   (0x1F128, "(y)"), (0x1F129, "(z)"), (0x1F12A, "\u3014s\u3015"), (0x1F12D, "cd"), (0x1F12E, "wz"),
   (0x1F14A, "hv"), (0x1F14B, "mv"), (0x1F14C, "sd"), (0x1F14D, "ss"), (0x1F14E, "ppv"),
   (0x1F14F, "wc"), (0x1F16A, "mc"), (0x1F16B, "md"), (0x1F16C, "mr"), (0x1F190, "dj")]

end LtiLaunch.Url.HostMapping
