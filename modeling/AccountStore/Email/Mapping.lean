import AccountStore.Text.Images
import AccountStore.Text.Ranges

/-!
What the characters of a host name stand for.

Letters become lower case, compatibility forms (full-width, circled, ligatures) become the
characters that they are forms of, some characters are dropped and some refused. The result of the
mapping is not mapped any further.
-/

namespace AccountStore.Email
open Text

/-- Characters that a host name drops: soft hyphens, joiners, variation selectors. -/
def ignoredRanges : Ranges :=
  [(0xAD, 0xAD), (0x34F, 0x34F), (0x180B, 0x180D), (0x200B, 0x200B), (0x2060, 0x2060),
   (0x2064, 0x2064), (0xFE00, 0xFE0F), (0xFEFF, 0xFEFF), (0x1BCA0, 0x1BCA3), (0xE0100, 0xE01EF)]

/-- Characters that no host name may hold. A range may reach over characters that are dropped or
mapped; those are told apart first. -/
def disallowedRanges : Ranges :=
  [(0x80, 0x9F), (0x378, 0x379), (0x380, 0x38D), (0x3A2, 0x3A2), (0x4C0, 0x4C0), (0x530, 0x558),
   (0x58B, 0x58C), (0x590, 0x590), (0x5C8, 0x5CF), (0x5EB, 0x5EE), (0x5F5, 0x605), (0x61C, 0x61D),
   (0x6DD, 0x6DD), (0x70E, 0x70F), (0x74B, 0x74C), (0x7B2, 0x7BF), (0x7FB, 0x7FC), (0x82E, 0x82F),
   (0x83F, 0x83F), (0x85C, 0x85D), (0x85F, 0x85F), (0x86B, 0x89F), (0x8B5, 0x8B5), (0x8C8, 0x8D2),
   (0x8E2, 0x8E2), (0x984, 0x984), (0x98D, 0x98E), (0x991, 0x992), (0x9A9, 0x9A9), (0x9B1, 0x9B1),
   (0x9B3, 0x9B5), (0x9BA, 0x9BB), (0x9C5, 0x9C6), (0x9C9, 0x9CA), (0x9CF, 0x9D6), (0x9D8, 0x9DE),
   (0x9E4, 0x9E5), (0x9FF, 0xA00), (0xA04, 0xA04), (0xA0B, 0xA0E), (0xA11, 0xA12), (0xA29, 0xA29),
   (0xA31, 0xA31), (0xA34, 0xA34), (0xA37, 0xA37), (0xA3A, 0xA3B), (0xA3D, 0xA3D), (0xA43, 0xA46),
   (0xA49, 0xA4A), (0xA4E, 0xA50), (0xA52, 0xA58), (0xA5D, 0xA65), (0xA77, 0xA80), (0xA84, 0xA84),
   (0xA8E, 0xA8E), (0xA92, 0xA92), (0xAA9, 0xAA9), (0xAB1, 0xAB1), (0xAB4, 0xAB4), (0xABA, 0xABB),
   (0xAC6, 0xAC6), (0xACA, 0xACA), (0xACE, 0xACF), (0xAD1, 0xADF), (0xAE4, 0xAE5), (0xAF2, 0xAF8),
   (0xB00, 0xB00), (0xB04, 0xB04), (0xB0D, 0xB0E), (0xB11, 0xB12), (0xB29, 0xB29), (0xB31, 0xB31),
   (0xB34, 0xB34), (0xB3A, 0xB3B), (0xB45, 0xB46), (0xB49, 0xB4A), (0xB4E, 0xB54), (0xB58, 0xB5E),
   (0xB64, 0xB65), (0xB78, 0xB81), (0xB84, 0xB84), (0xB8B, 0xB8D), (0xB91, 0xB91), (0xB96, 0xB98),
   (0xB9B, 0xB9B), (0xB9D, 0xB9D), (0xBA0, 0xBA2), (0xBA5, 0xBA7), (0xBAB, 0xBAD), (0xBBA, 0xBBD),
   (0xBC3, 0xBC5), (0xBC9, 0xBC9), (0xBCE, 0xBCF), (0xBD1, 0xBD6), (0xBD8, 0xBE5), (0xBFB, 0xBFF),
   (0xC0D, 0xC0D), (0xC11, 0xC11), (0xC29, 0xC29), (0xC3A, 0xC3C), (0xC45, 0xC45), (0xC49, 0xC49),
   (0xC4E, 0xC54), (0xC57, 0xC57), (0xC5B, 0xC5F), (0xC64, 0xC65), (0xC70, 0xC76), (0xC8D, 0xC8D),
   (0xC91, 0xC91), (0xCA9, 0xCA9), (0xCB4, 0xCB4), (0xCBA, 0xCBB), (0xCC5, 0xCC5), (0xCC9, 0xCC9),
   (0xCCE, 0xCD4), (0xCD7, 0xCDD), (0xCDF, 0xCDF), (0xCE4, 0xCE5), (0xCF0, 0xCF0), (0xCF3, 0xCFF),
   (0xD0D, 0xD0D), (0xD11, 0xD11), (0xD45, 0xD45), (0xD49, 0xD49), (0xD50, 0xD53), (0xD64, 0xD65),
   (0xD80, 0xD80), (0xD84, 0xD84), (0xD97, 0xD99), (0xDB2, 0xDB2), (0xDBC, 0xDBC), (0xDBE, 0xDBF),
   (0xDC7, 0xDC9), (0xDCB, 0xDCE), (0xDD5, 0xDD5), (0xDD7, 0xDD7), (0xDE0, 0xDE5), (0xDF0, 0xDF1),
   (0xDF5, 0xE00), (0xE3B, 0xE3E), (0xE5C, 0xE80), (0xE83, 0xE83), (0xE85, 0xE85), (0xE8B, 0xE8B),
   (0xEA4, 0xEA4), (0xEA6, 0xEA6), (0xEBE, 0xEBF), (0xEC5, 0xEC5), (0xEC7, 0xEC7), (0xECE, 0xECF),
   (0xEDA, 0xEDB), (0xEE0, 0xEFF), (0xF48, 0xF48), (0xF6D, 0xF70), (0xF98, 0xF98), (0xFBD, 0xFBD),
   (0xFCD, 0xFCD), (0xFDB, 0xFFF), (0x10A0, 0x10CF), (0x115F, 0x1160), (0x1249, 0x1249),
   (0x124E, 0x124F), (0x1257, 0x1257), (0x1259, 0x1259), (0x125E, 0x125F), (0x1289, 0x1289),
   (0x128E, 0x128F), (0x12B1, 0x12B1), (0x12B6, 0x12B7), (0x12BF, 0x12BF), (0x12C1, 0x12C1),
   (0x12C6, 0x12C7), (0x12D7, 0x12D7), (0x1311, 0x1311), (0x1316, 0x1317), (0x135B, 0x135C),
   (0x137D, 0x137F), (0x139A, 0x139F), (0x13F6, 0x13FF), (0x1680, 0x1680), (0x169D, 0x169F),
   (0x16F9, 0x16FF), (0x170D, 0x170D), (0x1715, 0x171F), (0x1737, 0x173F), (0x1754, 0x175F),
   (0x176D, 0x176D), (0x1771, 0x1771), (0x1774, 0x177F), (0x17B4, 0x17B5), (0x17DE, 0x17DF),
   (0x17EA, 0x17EF), (0x17FA, 0x17FF), (0x1806, 0x1806), (0x180E, 0x180F), (0x181A, 0x181F),
   (0x1879, 0x187F), (0x18AB, 0x18AF), (0x18F6, 0x18FF), (0x191F, 0x191F), (0x192C, 0x192F),
   (0x193C, 0x193F), (0x1941, 0x1943), (0x196E, 0x196F), (0x1975, 0x197F), (0x19AC, 0x19AF),
   (0x19CA, 0x19CF), (0x19DB, 0x19DD), (0x1A1C, 0x1A1D), (0x1A5F, 0x1A5F), (0x1A7D, 0x1A7E),
   (0x1A8A, 0x1A8F), (0x1A9A, 0x1A9F), (0x1AAE, 0x1AAF), (0x1AC1, 0x1AFF), (0x1B4C, 0x1B4F),
   (0x1B7D, 0x1B7F), (0x1BF4, 0x1BFB), (0x1C38, 0x1C3A), (0x1C4A, 0x1C4C), (0x1C89, 0x1CBC),
   (0x1CC8, 0x1CCF), (0x1CFB, 0x1CFF), (0x1DFA, 0x1DFA), (0x1F16, 0x1F1F), (0x1F46, 0x1F4F),
   (0x1F58, 0x1F5E), (0x1F7E, 0x1F7F), (0x1FB5, 0x1FB5), (0x1FC5, 0x1FC5), (0x1FD4, 0x1FD5),
   (0x1FDC, 0x1FDC), (0x1FF0, 0x1FF5), (0x1FFF, 0x1FFF), (0x200E, 0x200F), (0x2024, 0x2026),
   (0x2028, 0x202E), (0x2061, 0x209F), (0x20C0, 0x20CF), (0x20F1, 0x20FF), (0x2132, 0x2132),
   (0x2183, 0x2183), (0x218C, 0x218F), (0x2427, 0x243F), (0x244B, 0x249B), (0x2B74, 0x2B75),
   (0x2B96, 0x2B96), (0x2C2F, 0x2C2F), (0x2C5F, 0x2C5F), (0x2CF4, 0x2CF8), (0x2D26, 0x2D26),
   (0x2D28, 0x2D2C), (0x2D2E, 0x2D2F), (0x2D68, 0x2D6E), (0x2D71, 0x2D7E), (0x2D97, 0x2D9F),
   (0x2DA7, 0x2DA7), (0x2DAF, 0x2DAF), (0x2DB7, 0x2DB7), (0x2DBF, 0x2DBF), (0x2DC7, 0x2DC7),
   (0x2DCF, 0x2DCF), (0x2DD7, 0x2DD7), (0x2DDF, 0x2DDF), (0x2E53, 0x2E7F), (0x2E9A, 0x2E9A),
   (0x2EF4, 0x2FFF), (0x3040, 0x3040), (0x3097, 0x3098), (0x3100, 0x3104), (0x3130, 0x318F),
   (0x31E4, 0x31EF), (0x321F, 0x321F), (0x33C2, 0x33D8), (0x9FFD, 0x9FFF), (0xA48D, 0xA48F),
   (0xA4C7, 0xA4CF), (0xA62C, 0xA63F), (0xA6F8, 0xA6FF), (0xA7C0, 0xA7C1), (0xA7CB, 0xA7F4),
   (0xA82D, 0xA82F), (0xA83A, 0xA83F), (0xA878, 0xA87F), (0xA8C6, 0xA8CD), (0xA8DA, 0xA8DF),
   (0xA954, 0xA95E), (0xA97D, 0xA97F), (0xA9CE, 0xA9CE), (0xA9DA, 0xA9DD), (0xA9FF, 0xA9FF),
   (0xAA37, 0xAA3F), (0xAA4E, 0xAA4F), (0xAA5A, 0xAA5B), (0xAAC3, 0xAADA), (0xAAF7, 0xAB00),
   (0xAB07, 0xAB08), (0xAB0F, 0xAB10), (0xAB17, 0xAB1F), (0xAB27, 0xAB27), (0xAB2F, 0xAB2F),
   (0xAB6C, 0xAB6F), (0xABEE, 0xABEF), (0xABFA, 0xABFF), (0xD7A4, 0xD7AF), (0xD7C7, 0xD7CA),
   (0xD7FC, 0xF8FF), (0xFA6E, 0xFB1C), (0xFB37, 0xFB45), (0xFBC2, 0xFBD2), (0xFD40, 0xFDEF),
   (0xFDFE, 0xFE1F), (0xFE30, 0xFE30), (0xFE52, 0xFE6F), (0xFE75, 0xFFFF), (0x1000C, 0x1000C),
   (0x10027, 0x10027), (0x1003B, 0x1003B), (0x1003E, 0x1003E), (0x1004E, 0x1004F),
   (0x1005E, 0x1007F), (0x100FB, 0x100FF), (0x10103, 0x10106), (0x10134, 0x10136),
   (0x1018F, 0x1018F), (0x1019D, 0x1019F), (0x101A1, 0x101CF), (0x101FE, 0x1027F),
   (0x1029D, 0x1029F), (0x102D1, 0x102DF), (0x102FC, 0x102FF), (0x10324, 0x1032C),
   (0x1034B, 0x1034F), (0x1037B, 0x1037F), (0x1039E, 0x1039E), (0x103C4, 0x103C7),
   (0x103D6, 0x103FF), (0x1049E, 0x1049F), (0x104AA, 0x104D7), (0x104FC, 0x104FF),
   (0x10528, 0x1052F), (0x10564, 0x1056E), (0x10570, 0x105FF), (0x10737, 0x1073F),
   (0x10756, 0x1075F), (0x10768, 0x107FF), (0x10806, 0x10807), (0x10809, 0x10809),
   (0x10836, 0x10836), (0x10839, 0x1083B), (0x1083D, 0x1083E), (0x10856, 0x10856),
   (0x1089F, 0x108A6), (0x108B0, 0x108DF), (0x108F3, 0x108F3), (0x108F6, 0x108FA),
   (0x1091C, 0x1091E), (0x1093A, 0x1093E), (0x10940, 0x1097F), (0x109B8, 0x109BB),
   (0x109D0, 0x109D1), (0x10A04, 0x10A04), (0x10A07, 0x10A0B), (0x10A14, 0x10A14),
   (0x10A18, 0x10A18), (0x10A36, 0x10A37), (0x10A3B, 0x10A3E), (0x10A49, 0x10A4F),
   (0x10A59, 0x10A5F), (0x10AA0, 0x10ABF), (0x10AE7, 0x10AEA), (0x10AF7, 0x10AFF),
   (0x10B36, 0x10B38), (0x10B56, 0x10B57), (0x10B73, 0x10B77), (0x10B92, 0x10B98),
   (0x10B9D, 0x10BA8), (0x10BB0, 0x10BFF), (0x10C49, 0x10CBF), (0x10CF3, 0x10CF9),
   (0x10D28, 0x10D2F), (0x10D3A, 0x10E5F), (0x10E7F, 0x10E7F), (0x10EAA, 0x10EAA),
   (0x10EAE, 0x10EAF), (0x10EB2, 0x10EFF), (0x10F28, 0x10F2F), (0x10F5A, 0x10FAF),
   (0x10FCC, 0x10FDF), (0x10FF7, 0x10FFF), (0x1104E, 0x11051), (0x11070, 0x1107E),
   (0x110BD, 0x110BD), (0x110C2, 0x110CF), (0x110E9, 0x110EF), (0x110FA, 0x110FF),
   (0x11135, 0x11135), (0x11148, 0x1114F), (0x11177, 0x1117F), (0x111E0, 0x111E0),
   (0x111F5, 0x111FF), (0x11212, 0x11212), (0x1123F, 0x1127F), (0x11287, 0x11287),
   (0x11289, 0x11289), (0x1128E, 0x1128E), (0x1129E, 0x1129E), (0x112AA, 0x112AF),
   (0x112EB, 0x112EF), (0x112FA, 0x112FF), (0x11304, 0x11304), (0x1130D, 0x1130E),
   (0x11311, 0x11312), (0x11329, 0x11329), (0x11331, 0x11331), (0x11334, 0x11334),
   (0x1133A, 0x1133A), (0x11345, 0x11346), (0x11349, 0x1134A), (0x1134E, 0x1134F),
   (0x11351, 0x11356), (0x11358, 0x1135C), (0x11364, 0x11365), (0x1136D, 0x1136F),
   (0x11375, 0x113FF), (0x1145C, 0x1145C), (0x11462, 0x1147F), (0x114C8, 0x114CF),
   (0x114DA, 0x1157F), (0x115B6, 0x115B7), (0x115DE, 0x115FF), (0x11645, 0x1164F),
   (0x1165A, 0x1165F), (0x1166D, 0x1167F), (0x116B9, 0x116BF), (0x116CA, 0x116FF),
   (0x1171B, 0x1171C), (0x1172C, 0x1172F), (0x11740, 0x117FF), (0x1183C, 0x1189F),
   (0x118F3, 0x118FE), (0x11907, 0x11908), (0x1190A, 0x1190B), (0x11914, 0x11914),
   (0x11917, 0x11917), (0x11936, 0x11936), (0x11939, 0x1193A), (0x11947, 0x1194F),
   (0x1195A, 0x1199F), (0x119A8, 0x119A9), (0x119D8, 0x119D9), (0x119E5, 0x119FF),
   (0x11A48, 0x11A4F), (0x11AA3, 0x11ABF), (0x11AF9, 0x11BFF), (0x11C09, 0x11C09),
   (0x11C37, 0x11C37), (0x11C46, 0x11C4F), (0x11C6D, 0x11C6F), (0x11C90, 0x11C91),
   (0x11CA8, 0x11CA8), (0x11CB7, 0x11CFF), (0x11D07, 0x11D07), (0x11D0A, 0x11D0A),
   (0x11D37, 0x11D39), (0x11D3B, 0x11D3B), (0x11D3E, 0x11D3E), (0x11D48, 0x11D4F),
   (0x11D5A, 0x11D5F), (0x11D66, 0x11D66), (0x11D69, 0x11D69), (0x11D8F, 0x11D8F),
   (0x11D92, 0x11D92), (0x11D99, 0x11D9F), (0x11DAA, 0x11EDF), (0x11EF9, 0x11FAF),
   (0x11FB1, 0x11FBF), (0x11FF2, 0x11FFE), (0x1239A, 0x123FF), (0x1246F, 0x1246F),
   (0x12475, 0x1247F), (0x12544, 0x12FFF), (0x1342F, 0x143FF), (0x14647, 0x167FF),
   (0x16A39, 0x16A3F), (0x16A5F, 0x16A5F), (0x16A6A, 0x16A6D), (0x16A70, 0x16ACF),
   (0x16AEE, 0x16AEF), (0x16AF6, 0x16AFF), (0x16B46, 0x16B4F), (0x16B5A, 0x16B5A),
   (0x16B62, 0x16B62), (0x16B78, 0x16B7C), (0x16B90, 0x16E3F), (0x16E9B, 0x16EFF),
   (0x16F4B, 0x16F4E), (0x16F88, 0x16F8E), (0x16FA0, 0x16FDF), (0x16FE5, 0x16FEF),
   (0x16FF2, 0x16FFF), (0x187F8, 0x187FF), (0x18CD6, 0x18CFF), (0x18D09, 0x1AFFF),
   (0x1B11F, 0x1B14F), (0x1B153, 0x1B163), (0x1B168, 0x1B16F), (0x1B2FC, 0x1BBFF),
   (0x1BC6B, 0x1BC6F), (0x1BC7D, 0x1BC7F), (0x1BC89, 0x1BC8F), (0x1BC9A, 0x1BC9B),
   (0x1BCA4, 0x1CFFF), (0x1D0F6, 0x1D0FF), (0x1D127, 0x1D128), (0x1D173, 0x1D17A),
   (0x1D1E9, 0x1D1FF), (0x1D246, 0x1D2DF), (0x1D2F4, 0x1D2FF), (0x1D357, 0x1D35F),
   (0x1D379, 0x1D7CD), (0x1DA8C, 0x1DA9A), (0x1DAA0, 0x1DAA0), (0x1DAB0, 0x1DFFF),
   (0x1E007, 0x1E007), (0x1E019, 0x1E01A), (0x1E022, 0x1E022), (0x1E025, 0x1E025),
   (0x1E02B, 0x1E0FF), (0x1E12D, 0x1E12F), (0x1E13E, 0x1E13F), (0x1E14A, 0x1E14D),
   (0x1E150, 0x1E2BF), (0x1E2FA, 0x1E2FE), (0x1E300, 0x1E7FF), (0x1E8C5, 0x1E8C6),
   (0x1E8D7, 0x1E8FF), (0x1E94C, 0x1E94F), (0x1E95A, 0x1E95D), (0x1E960, 0x1EC70),
   (0x1ECB5, 0x1ED00), (0x1ED3E, 0x1EEEF), (0x1EEF2, 0x1EFFF), (0x1F02C, 0x1F02F),
   (0x1F094, 0x1F09F), (0x1F0AF, 0x1F0B0), (0x1F0C0, 0x1F0C0), (0x1F0D0, 0x1F0D0),
   (0x1F0F6, 0x1F100), (0x1F1AE, 0x1F1E5), (0x1F203, 0x1F25F), (0x1F266, 0x1F2FF),
   (0x1F6D8, 0x1F6DF), (0x1F6ED, 0x1F6EF), (0x1F6FD, 0x1F6FF), (0x1F774, 0x1F77F),
   (0x1F7D9, 0x1F7DF), (0x1F7EC, 0x1F7FF), (0x1F80C, 0x1F80F), (0x1F848, 0x1F84F),
   (0x1F85A, 0x1F85F), (0x1F888, 0x1F88F), (0x1F8AE, 0x1F8AF), (0x1F8B2, 0x1F8FF),
   (0x1F979, 0x1F979), (0x1F9CC, 0x1F9CC), (0x1FA54, 0x1FA5F), (0x1FA6E, 0x1FA6F),
   (0x1FA75, 0x1FA77), (0x1FA7B, 0x1FA7F), (0x1FA87, 0x1FA8F), (0x1FAA9, 0x1FAAF),
   (0x1FAB7, 0x1FABF), (0x1FAC3, 0x1FACF), (0x1FAD7, 0x1FAFF), (0x1FB93, 0x1FB93),
   (0x1FBCB, 0x1FFFF), (0x2A6DE, 0x2A6FF), (0x2B735, 0x2B73F), (0x2B81E, 0x2B81F),
   (0x2CEA2, 0x2CEAF), (0x2EBE1, 0x2FFFF), (0x3134B, 0x10FFFF)]

/-- The characters that stand for others. -/
def mappings : Images :=
  [(0xA0, "\u00a0 |¨ \u0308|ªa|¯ \u0304|²2|³3|´ \u0301|µμ|¸ \u0327|¹1|ºo|¼1⁄4|½1⁄2|¾3⁄4|Àà"),
   (0xC1, "Áá|Ââ|Ãã|Ää|Åå|Ææ|Çç|Èè|Éé|Êê|Ëë|Ìì|Íí|Îî|Ïï|Ðð|Ññ|Òò|Óó|Ôô|Õõ|Öö|Øø|Ùù|Úú|Ûû|Üü"),
   (0xDD, "Ýý|Þþ|Āā|Ăă|Ąą|Ćć|Ĉĉ|Ċċ|Čč|Ďď|Đđ|Ēē|Ĕĕ|Ėė|Ęę|Ěě|Ĝĝ|Ğğ|Ġġ|Ģģ|Ĥĥ|Ħħ|Ĩĩ|Īī|Ĭĭ|Įį"),
   (0x130, "İi\u0307|Ĳij|ĳij|Ĵĵ|Ķķ|Ĺĺ|Ļļ|Ľľ|Ŀl·|ŀl·|Łł|Ńń|Ņņ|Ňň|ŉʼn|Ŋŋ|Ōō|Ŏŏ|Őő|Œœ|Ŕŕ|Ŗŗ|Řř"),
   (0x15A, "Śś|Ŝŝ|Şş|Šš|Ţţ|Ťť|Ŧŧ|Ũũ|Ūū|Ŭŭ|Ůů|Űű|Ųų|Ŵŵ|Ŷŷ|Ÿÿ|Źź|Żż|Žž|ſs|Ɓɓ|Ƃƃ|Ƅƅ|Ɔɔ|Ƈƈ|Ɖɖ|Ɗɗ"),
   (0x18B, "Ƌƌ|Ǝǝ|Əə|Ɛɛ|Ƒƒ|Ɠɠ|Ɣɣ|Ɩɩ|Ɨɨ|Ƙƙ|Ɯɯ|Ɲɲ|Ɵɵ|Ơơ|Ƣƣ|Ƥƥ|Ʀʀ|Ƨƨ|Ʃʃ|Ƭƭ|Ʈʈ|Ưư|Ʊʊ|Ʋʋ|Ƴƴ|Ƶƶ|Ʒʒ"),
   (0x1B8, "Ƹƹ|Ƽƽ|Ǆdž|ǅdž|ǆdž|Ǉlj|ǈlj|ǉlj|Ǌnj|ǋnj|ǌnj|Ǎǎ|Ǐǐ|Ǒǒ|Ǔǔ|Ǖǖ|Ǘǘ|Ǚǚ|Ǜǜ|Ǟǟ|Ǡǡ|Ǣǣ|Ǥǥ|Ǧǧ"),
   (0x1E8, "Ǩǩ|Ǫǫ|Ǭǭ|Ǯǯ|Ǳdz|ǲdz|ǳdz|Ǵǵ|Ƕƕ|Ƿƿ|Ǹǹ|Ǻǻ|Ǽǽ|Ǿǿ|Ȁȁ|Ȃȃ|Ȅȅ|Ȇȇ|Ȉȉ|Ȋȋ|Ȍȍ|Ȏȏ|Ȑȑ|Ȓȓ|Ȕȕ|Ȗȗ"),
   (0x218, "Șș|Țț|Ȝȝ|Ȟȟ|Ƞƞ|Ȣȣ|Ȥȥ|Ȧȧ|Ȩȩ|Ȫȫ|Ȭȭ|Ȯȯ|Ȱȱ|Ȳȳ|Ⱥⱥ|Ȼȼ|Ƚƚ|Ⱦⱦ|Ɂɂ|Ƀƀ|Ʉʉ|Ʌʌ|Ɇɇ|Ɉɉ|Ɋɋ|Ɍɍ|Ɏɏ"),
   (0x2B0, "ʰh|ʱɦ|ʲj|ʳr|ʴɹ|ʵɻ|ʶʁ|ʷw|ʸy|˘ \u0306|˙ \u0307|˚ \u030a|˛ \u0328|˜ \u0303|˝ \u030b"),
   (0x2E0, "ˠɣ|ˡl|ˢs|ˣx|ˤʕ|\u0340\u0300|\u0341\u0301|\u0343\u0313|\u0344\u0308\u0301|\u0345ι"),
   (0x370, "Ͱͱ|Ͳͳ|\u0374ʹ|Ͷͷ|ͺ ι|\u037e;|Ϳϳ|΄ \u0301|΅ \u0308\u0301|Άά|\u0387·|Έέ|Ήή|Ίί|Όό"),
   (0x38E, "Ύύ|Ώώ|Αα|Ββ|Γγ|Δδ|Εε|Ζζ|Ηη|Θθ|Ιι|Κκ|Λλ|Μμ|Νν|Ξξ|Οο|Ππ|Ρρ|Σσ|Ττ|Υυ|Φφ|Χχ|Ψψ|Ωω|Ϊϊ"),
   (0x3AB, "Ϋϋ|Ϗϗ|ϐβ|ϑθ|ϒυ|ϓύ|ϔϋ|ϕφ|ϖπ|Ϙϙ|Ϛϛ|Ϝϝ|Ϟϟ|Ϡϡ|Ϣϣ|Ϥϥ|Ϧϧ|Ϩϩ|Ϫϫ|Ϭϭ|Ϯϯ|ϰκ|ϱρ|ϲσ|ϴθ|ϵε|Ϸϸ"),
   (0x3F9, "Ϲσ|Ϻϻ|Ͻͻ|Ͼͼ|Ͽͽ|Ѐѐ|Ёё|Ђђ|Ѓѓ|Єє|Ѕѕ|Іі|Її|Јј|Љљ|Њњ|Ћћ|Ќќ|Ѝѝ|Ўў|Џџ|Аа|Бб|Вв|Гг|Дд|Ее"),
   (0x416, "Жж|Зз|Ии|Йй|Кк|Лл|Мм|Нн|Оо|Пп|Рр|Сс|Тт|Уу|Фф|Хх|Цц|Чч|Шш|Щщ|Ъъ|Ыы|Ьь|Ээ|Юю|Яя|Ѡѡ"),
   (0x462, "Ѣѣ|Ѥѥ|Ѧѧ|Ѩѩ|Ѫѫ|Ѭѭ|Ѯѯ|Ѱѱ|Ѳѳ|Ѵѵ|Ѷѷ|Ѹѹ|Ѻѻ|Ѽѽ|Ѿѿ|Ҁҁ|Ҋҋ|Ҍҍ|Ҏҏ|Ґґ|Ғғ|Ҕҕ|Җҗ|Ҙҙ|Ққ|Ҝҝ|Ҟҟ"),
   (0x4A0, "Ҡҡ|Ңң|Ҥҥ|Ҧҧ|Ҩҩ|Ҫҫ|Ҭҭ|Үү|Ұұ|Ҳҳ|Ҵҵ|Ҷҷ|Ҹҹ|Һһ|Ҽҽ|Ҿҿ|Ӂӂ|Ӄӄ|Ӆӆ|Ӈӈ|Ӊӊ|Ӌӌ|Ӎӎ|Ӑӑ|Ӓӓ|Ӕӕ|Ӗӗ"),
   (0x4D8, "Әә|Ӛӛ|Ӝӝ|Ӟӟ|Ӡӡ|Ӣӣ|Ӥӥ|Ӧӧ|Өө|Ӫӫ|Ӭӭ|Ӯӯ|Ӱӱ|Ӳӳ|Ӵӵ|Ӷӷ|Ӹӹ|Ӻӻ|Ӽӽ|Ӿӿ|Ԁԁ|Ԃԃ|Ԅԅ|Ԇԇ|Ԉԉ|Ԋԋ|Ԍԍ"),
   (0x50E, "Ԏԏ|Ԑԑ|Ԓԓ|Ԕԕ|Ԗԗ|Ԙԙ|Ԛԛ|Ԝԝ|Ԟԟ|Ԡԡ|Ԣԣ|Ԥԥ|Ԧԧ|Ԩԩ|Ԫԫ|Ԭԭ|Ԯԯ|Աա|Բբ|Գգ|Դդ|Եե|Զզ|Էէ|Ըը|Թթ|Ժժ"),
   (0x53B, "Իի|Լլ|Խխ|Ծծ|Կկ|Հհ|Ձձ|Ղղ|Ճճ|Մմ|Յյ|Նն|Շշ|Ոո|Չչ|Պպ|Ջջ|Ռռ|Սս|Վվ|Տտ|Րր|Ցց|Ււ|Փփ|Քք|Օօ"),
   (0x556, "Ֆֆ|ևեւ|ٵاٴ|ٶوٴ|ٷۇٴ|ٸيٴ|\u0958क\u093c|\u0959ख\u093c|\u095aग\u093c|\u095bज\u093c"),
   (0x95C, "\u095cड\u093c|\u095dढ\u093c|\u095eफ\u093c|\u095fय\u093c|\u09dcড\u09bc"),
   (0x9DD, "\u09ddঢ\u09bc|\u09dfয\u09bc|\u0a33ਲ\u0a3c|\u0a36ਸ\u0a3c|\u0a59ਖ\u0a3c"),
   (0xA5A, "\u0a5aਗ\u0a3c|\u0a5bਜ\u0a3c|\u0a5eਫ\u0a3c|\u0b5cଡ\u0b3c|\u0b5dଢ\u0b3c|ำ\u0e4dา"),
   (0xEB3, "ຳ\u0ecdາ|ໜຫນ|ໝຫມ|༌་|\u0f43ག\u0fb7|\u0f4dཌ\u0fb7|\u0f52ད\u0fb7|\u0f57བ\u0fb7"),
   (0xF5C, "\u0f5cཛ\u0fb7|\u0f69ཀ\u0fb5|\u0f73\u0f71\u0f72|\u0f75\u0f71\u0f74"),
   (0xF76, "\u0f76\u0fb2\u0f80|\u0f77\u0fb2\u0f71\u0f80|\u0f78\u0fb3\u0f80"),
   (0xF79, "\u0f79\u0fb3\u0f71\u0f80|\u0f81\u0f71\u0f80|\u0f93\u0f92\u0fb7"),
   (0xF9D, "\u0f9d\u0f9c\u0fb7|\u0fa2\u0fa1\u0fb7|\u0fa7\u0fa6\u0fb7|\u0fac\u0fab\u0fb7"),
   (0xFB9, "\u0fb9\u0f90\u0fb5|Ⴧⴧ|Ⴭⴭ|ჼნ|ᏸᏰ|ᏹᏱ|ᏺᏲ|ᏻᏳ|ᏼᏴ|ᏽᏵ|ᲀв|ᲁд|ᲂо|ᲃс|ᲄт|ᲅт|ᲆъ|ᲇѣ|ᲈꙋ|Აა|Ბბ"),
   (0x1C92, "Გგ|Დდ|Ეე|Ვვ|Ზზ|Თთ|Იი|Კკ|Ლლ|Მმ|Ნნ|Ოო|Პპ|Ჟჟ|Რრ|Სს|Ტტ|Უუ|Ფფ|Ქქ|Ღღ|Ყყ|Შშ|Ჩჩ|Ცც|Ძძ|Წწ"),
   (0x1CAD, "Ჭჭ|Ხხ|Ჯჯ|Ჰჰ|Ჱჱ|Ჲჲ|Ჳჳ|Ჴჴ|Ჵჵ|Ჶჶ|Ჷჷ|Ჸჸ|Ჹჹ|Ჺჺ|Ჽჽ|Ჾჾ|Ჿჿ|ᴬa|ᴭæ|ᴮb|ᴰd|ᴱe|ᴲǝ|ᴳg|ᴴh|ᴵi|ᴶj"),
   (0x1D37, "ᴷk|ᴸl|ᴹm|ᴺn|ᴼo|ᴽȣ|ᴾp|ᴿr|ᵀt|ᵁu|ᵂw|ᵃa|ᵄɐ|ᵅɑ|ᵆᴂ|ᵇb|ᵈd|ᵉe|ᵊə|ᵋɛ|ᵌɜ|ᵍg|ᵏk|ᵐm|ᵑŋ|ᵒo|ᵓɔ"),
   (0x1D54, "ᵔᴖ|ᵕᴗ|ᵖp|ᵗt|ᵘu|ᵙᴝ|ᵚɯ|ᵛv|ᵜᴥ|ᵝβ|ᵞγ|ᵟδ|ᵠφ|ᵡχ|ᵢi|ᵣr|ᵤu|ᵥv|ᵦβ|ᵧγ|ᵨρ|ᵩφ|ᵪχ|ᵸн|ᶛɒ|ᶜc|ᶝɕ"),
   (0x1D9E, "ᶞð|ᶟɜ|ᶠf|ᶡɟ|ᶢɡ|ᶣɥ|ᶤɨ|ᶥɩ|ᶦɪ|ᶧᵻ|ᶨʝ|ᶩɭ|ᶪᶅ|ᶫʟ|ᶬɱ|ᶭɰ|ᶮɲ|ᶯɳ|ᶰɴ|ᶱɵ|ᶲɸ|ᶳʂ|ᶴʃ|ᶵƫ|ᶶʉ|ᶷʊ|ᶸᴜ"),
   (0x1DB9, "ᶹʋ|ᶺʌ|ᶻz|ᶼʐ|ᶽʑ|ᶾʒ|ᶿθ|Ḁḁ|Ḃḃ|Ḅḅ|Ḇḇ|Ḉḉ|Ḋḋ|Ḍḍ|Ḏḏ|Ḑḑ|Ḓḓ|Ḕḕ|Ḗḗ|Ḙḙ|Ḛḛ|Ḝḝ|Ḟḟ|Ḡḡ|Ḣḣ|Ḥḥ|Ḧḧ"),
   (0x1E28, "Ḩḩ|Ḫḫ|Ḭḭ|Ḯḯ|Ḱḱ|Ḳḳ|Ḵḵ|Ḷḷ|Ḹḹ|Ḻḻ|Ḽḽ|Ḿḿ|Ṁṁ|Ṃṃ|Ṅṅ|Ṇṇ|Ṉṉ|Ṋṋ|Ṍṍ|Ṏṏ|Ṑṑ|Ṓṓ|Ṕṕ|Ṗṗ|Ṙṙ|Ṛṛ|Ṝṝ"),
   (0x1E5E, "Ṟṟ|Ṡṡ|Ṣṣ|Ṥṥ|Ṧṧ|Ṩṩ|Ṫṫ|Ṭṭ|Ṯṯ|Ṱṱ|Ṳṳ|Ṵṵ|Ṷṷ|Ṹṹ|Ṻṻ|Ṽṽ|Ṿṿ|Ẁẁ|Ẃẃ|Ẅẅ|Ẇẇ|Ẉẉ|Ẋẋ|Ẍẍ|Ẏẏ|Ẑẑ|Ẓẓ"),
   (0x1E94, "Ẕẕ|ẚaʾ|ẛṡ|ẞss|Ạạ|Ảả|Ấấ|Ầầ|Ẩẩ|Ẫẫ|Ậậ|Ắắ|Ằằ|Ẳẳ|Ẵẵ|Ặặ|Ẹẹ|Ẻẻ|Ẽẽ|Ếế|Ềề|Ểể|Ễễ|Ệệ|Ỉỉ|Ịị"),
   (0x1ECC, "Ọọ|Ỏỏ|Ốố|Ồồ|Ổổ|Ỗỗ|Ộộ|Ớớ|Ờờ|Ởở|Ỡỡ|Ợợ|Ụụ|Ủủ|Ứứ|Ừừ|Ửử|Ữữ|Ựự|Ỳỳ|Ỵỵ|Ỷỷ|Ỹỹ|Ỻỻ|Ỽỽ|Ỿỿ|Ἀἀ"),
   (0x1F09, "Ἁἁ|Ἂἂ|Ἃἃ|Ἄἄ|Ἅἅ|Ἆἆ|Ἇἇ|Ἐἐ|Ἑἑ|Ἒἒ|Ἓἓ|Ἔἔ|Ἕἕ|Ἠἠ|Ἡἡ|Ἢἢ|Ἣἣ|Ἤἤ|Ἥἥ|Ἦἦ|Ἧἧ|Ἰἰ|Ἱἱ|Ἲἲ|Ἳἳ|Ἴἴ|Ἵἵ"),
   (0x1F3E, "Ἶἶ|Ἷἷ|Ὀὀ|Ὁὁ|Ὂὂ|Ὃὃ|Ὄὄ|Ὅὅ|Ὑὑ|Ὓὓ|Ὕὕ|Ὗὗ|Ὠὠ|Ὡὡ|Ὢὢ|Ὣὣ|Ὤὤ|Ὥὥ|Ὦὦ|Ὧὧ|\u1f71ά|\u1f73έ"),
   (0x1F75, "\u1f75ή|\u1f77ί|\u1f79ό|\u1f7bύ|\u1f7dώ|ᾀἀι|ᾁἁι|ᾂἂι|ᾃἃι|ᾄἄι|ᾅἅι|ᾆἆι|ᾇἇι|ᾈἀι|ᾉἁι"),
   (0x1F8A, "ᾊἂι|ᾋἃι|ᾌἄι|ᾍἅι|ᾎἆι|ᾏἇι|ᾐἠι|ᾑἡι|ᾒἢι|ᾓἣι|ᾔἤι|ᾕἥι|ᾖἦι|ᾗἧι|ᾘἠι|ᾙἡι|ᾚἢι|ᾛἣι|ᾜἤι|ᾝἥι"),
   (0x1F9E, "ᾞἦι|ᾟἧι|ᾠὠι|ᾡὡι|ᾢὢι|ᾣὣι|ᾤὤι|ᾥὥι|ᾦὦι|ᾧὧι|ᾨὠι|ᾩὡι|ᾪὢι|ᾫὣι|ᾬὤι|ᾭὥι|ᾮὦι|ᾯὧι|ᾲὰι|ᾳαι"),
   (0x1FB4, "ᾴάι|ᾷᾶι|Ᾰᾰ|Ᾱᾱ|Ὰὰ|\u1fbbά|ᾼαι|᾽ \u0313|\u1fbeι|᾿ \u0313|῀ \u0342|῁ \u0308\u0342"),
   (0x1FC2, "ῂὴι|ῃηι|ῄήι|ῇῆι|Ὲὲ|\u1fc9έ|Ὴὴ|\u1fcbή|ῌηι|῍ \u0313\u0300|῎ \u0313\u0301"),
   (0x1FCF, "῏ \u0313\u0342|\u1fd3ΐ|Ῐῐ|Ῑῑ|Ὶὶ|\u1fdbί|῝ \u0314\u0300|῞ \u0314\u0301"),
   (0x1FDF, "῟ \u0314\u0342|\u1fe3ΰ|Ῠῠ|Ῡῡ|Ὺὺ|\u1febύ|Ῥῥ|῭ \u0308\u0300|\u1fee \u0308\u0301"),
   (0x1FEF, "\u1fef\x60|ῲὼι|ῳωι|ῴώι|ῷῶι|Ὸὸ|\u1ff9ό|Ὼὼ|\u1ffbώ|ῼωι|\u1ffd \u0301|῾ \u0314"),
   (0x2000, "\u2000 |\u2001 |\u2002 |\u2003 |\u2004 |\u2005 |\u2006 |\u2007 |\u2008 |\u2009 "),
   (0x200A, "\u200a |‑‐|‗ \u0333|\u202f |″′′|‴′′′|‶‵‵|‷‵‵‵|‼!!|‾ \u0305|⁇??|⁈?!|⁉!?|⁗′′′′"),
   (0x205F, "\u205f |⁰0|ⁱi|⁴4|⁵5|⁶6|⁷7|⁸8|⁹9|⁺+|⁻−|⁼=|⁽(|⁾)|ⁿn|₀0|₁1|₂2|₃3|₄4|₅5|₆6|₇7|₈8|₉9"),
   (0x208A, "₊+|₋−|₌=|₍(|₎)|ₐa|ₑe|ₒo|ₓx|ₔə|ₕh|ₖk|ₗl|ₘm|ₙn|ₚp|ₛs|ₜt|₨rs|℀a\x2fc|℁a\x2fs|ℂc|℃°c"),
   (0x2105, "℅c\x2fo|℆c\x2fu|ℇɛ|℉°f|ℊg|ℋh|ℌh|ℍh|ℎh|ℏħ|ℐi|ℑi|ℒl|ℓl|ℕn|№no|ℙp|ℚq|ℛr|ℜr|ℝr|℠sm"),
   (0x2121, "℡tel|™tm|ℤz|\u2126ω|ℨz|\u212ak|\u212bå|ℬb|ℭc|ℯe|ℰe|ℱf|ℳm|ℴo|ℵא|ℶב|ℷג|ℸד|ℹi|℻fax"),
   (0x213C, "ℼπ|ℽγ|ℾγ|ℿπ|⅀∑|ⅅd|ⅆd|ⅇe|ⅈi|ⅉj|⅐1⁄7|⅑1⁄9|⅒1⁄10|⅓1⁄3|⅔2⁄3|⅕1⁄5|⅖2⁄5|⅗3⁄5|⅘4⁄5|⅙1⁄6"),
   (0x215A, "⅚5⁄6|⅛1⁄8|⅜3⁄8|⅝5⁄8|⅞7⁄8|⅟1⁄|Ⅰi|Ⅱii|Ⅲiii|Ⅳiv|Ⅴv|Ⅵvi|Ⅶvii|Ⅷviii|Ⅸix|Ⅹx|Ⅺxi|Ⅻxii"),
   (0x216C, "Ⅼl|Ⅽc|Ⅾd|Ⅿm|ⅰi|ⅱii|ⅲiii|ⅳiv|ⅴv|ⅵvi|ⅶvii|ⅷviii|ⅸix|ⅹx|ⅺxi|ⅻxii|ⅼl|ⅽc|ⅾd|ⅿm|↉0⁄3"),
   (0x222C, "∬∫∫|∭∫∫∫|∯∮∮|∰∮∮∮|\u2329〈|\u232a〉|①1|②2|③3|④4|⑤5|⑥6|⑦7|⑧8|⑨9|⑩10|⑪11|⑫12|⑬13|⑭14"),
   (0x246E, "⑮15|⑯16|⑰17|⑱18|⑲19|⑳20|⑴(1)|⑵(2)|⑶(3)|⑷(4)|⑸(5)|⑹(6)|⑺(7)|⑻(8)|⑼(9)|⑽(10)|⑾(11)"),
   (0x247F, "⑿(12)|⒀(13)|⒁(14)|⒂(15)|⒃(16)|⒄(17)|⒅(18)|⒆(19)|⒇(20)|⒜(a)|⒝(b)|⒞(c)|⒟(d)|⒠(e)"),
   (0x24A1, "⒡(f)|⒢(g)|⒣(h)|⒤(i)|⒥(j)|⒦(k)|⒧(l)|⒨(m)|⒩(n)|⒪(o)|⒫(p)|⒬(q)|⒭(r)|⒮(s)|⒯(t)|⒰(u)"),
   (0x24B1, "⒱(v)|⒲(w)|⒳(x)|⒴(y)|⒵(z)|Ⓐa|Ⓑb|Ⓒc|Ⓓd|Ⓔe|Ⓕf|Ⓖg|Ⓗh|Ⓘi|Ⓙj|Ⓚk|Ⓛl|Ⓜm|Ⓝn|Ⓞo|Ⓟp|Ⓠq|Ⓡr"),
   (0x24C8, "Ⓢs|Ⓣt|Ⓤu|Ⓥv|Ⓦw|Ⓧx|Ⓨy|Ⓩz|ⓐa|ⓑb|ⓒc|ⓓd|ⓔe|ⓕf|ⓖg|ⓗh|ⓘi|ⓙj|ⓚk|ⓛl|ⓜm|ⓝn|ⓞo|ⓟp|ⓠq|ⓡr|ⓢs"),
   (0x24E3, "ⓣt|ⓤu|ⓥv|ⓦw|ⓧx|ⓨy|ⓩz|⓪0|⨌∫∫∫∫|⩴::=|⩵==|⩶===|\u2adc⫝\u0338|Ⰰⰰ|Ⰱⰱ|Ⰲⰲ|Ⰳⰳ|Ⰴⰴ|Ⰵⰵ|Ⰶⰶ"),
   (0x2C07, "Ⰷⰷ|Ⰸⰸ|Ⰹⰹ|Ⰺⰺ|Ⰻⰻ|Ⰼⰼ|Ⰽⰽ|Ⰾⰾ|Ⰿⰿ|Ⱀⱀ|Ⱁⱁ|Ⱂⱂ|Ⱃⱃ|Ⱄⱄ|Ⱅⱅ|Ⱆⱆ|Ⱇⱇ|Ⱈⱈ|Ⱉⱉ|Ⱊⱊ|Ⱋⱋ|Ⱌⱌ|Ⱍⱍ|Ⱎⱎ|Ⱏⱏ|Ⱐⱐ|Ⱑⱑ"),
   (0x2C22, "Ⱒⱒ|Ⱓⱓ|Ⱔⱔ|Ⱕⱕ|Ⱖⱖ|Ⱗⱗ|Ⱘⱘ|Ⱙⱙ|Ⱚⱚ|Ⱛⱛ|Ⱜⱜ|Ⱝⱝ|Ⱞⱞ|Ⱡⱡ|Ɫɫ|Ᵽᵽ|Ɽɽ|Ⱨⱨ|Ⱪⱪ|Ⱬⱬ|Ɑɑ|Ɱɱ|Ɐɐ|Ɒɒ|Ⱳⱳ|Ⱶⱶ|ⱼj"),
   (0x2C7D, "ⱽv|Ȿȿ|Ɀɀ|Ⲁⲁ|Ⲃⲃ|Ⲅⲅ|Ⲇⲇ|Ⲉⲉ|Ⲋⲋ|Ⲍⲍ|Ⲏⲏ|Ⲑⲑ|Ⲓⲓ|Ⲕⲕ|Ⲗⲗ|Ⲙⲙ|Ⲛⲛ|Ⲝⲝ|Ⲟⲟ|Ⲡⲡ|Ⲣⲣ|Ⲥⲥ|Ⲧⲧ|Ⲩⲩ|Ⲫⲫ|Ⲭⲭ|Ⲯⲯ"),
   (0x2CB0, "Ⲱⲱ|Ⲳⲳ|Ⲵⲵ|Ⲷⲷ|Ⲹⲹ|Ⲻⲻ|Ⲽⲽ|Ⲿⲿ|Ⳁⳁ|Ⳃⳃ|Ⳅⳅ|Ⳇⳇ|Ⳉⳉ|Ⳋⳋ|Ⳍⳍ|Ⳏⳏ|Ⳑⳑ|Ⳓⳓ|Ⳕⳕ|Ⳗⳗ|Ⳙⳙ|Ⳛⳛ|Ⳝⳝ|Ⳟⳟ|Ⳡⳡ|Ⳣⳣ|Ⳬⳬ"),
   (0x2CED, "Ⳮⳮ|Ⳳⳳ|ⵯⵡ|⺟母|⻳龟|⼀一|⼁丨|⼂丶|⼃丿|⼄乙|⼅亅|⼆二|⼇亠|⼈人|⼉儿|⼊入|⼋八|⼌冂|⼍冖|⼎冫|⼏几|⼐凵|⼑刀|⼒力|⼓勹|⼔匕|⼕匚"),
   (0x2F16, "⼖匸|⼗十|⼘卜|⼙卩|⼚厂|⼛厶|⼜又|⼝口|⼞囗|⼟土|⼠士|⼡夂|⼢夊|⼣夕|⼤大|⼥女|⼦子|⼧宀|⼨寸|⼩小|⼪尢|⼫尸|⼬屮|⼭山|⼮巛|⼯工|⼰己"),
   (0x2F31, "⼱巾|⼲干|⼳幺|⼴广|⼵廴|⼶廾|⼷弋|⼸弓|⼹彐|⼺彡|⼻彳|⼼心|⼽戈|⼾戶|⼿手|⽀支|⽁攴|⽂文|⽃斗|⽄斤|⽅方|⽆无|⽇日|⽈曰|⽉月|⽊木|⽋欠"),
   (0x2F4C, "⽌止|⽍歹|⽎殳|⽏毋|⽐比|⽑毛|⽒氏|⽓气|⽔水|⽕火|⽖爪|⽗父|⽘爻|⽙爿|⽚片|⽛牙|⽜牛|⽝犬|⽞玄|⽟玉|⽠瓜|⽡瓦|⽢甘|⽣生|⽤用|⽥田|⽦疋"),
   (0x2F67, "⽧疒|⽨癶|⽩白|⽪皮|⽫皿|⽬目|⽭矛|⽮矢|⽯石|⽰示|⽱禸|⽲禾|⽳穴|⽴立|⽵竹|⽶米|⽷糸|⽸缶|⽹网|⽺羊|⽻羽|⽼老|⽽而|⽾耒|⽿耳|⾀聿|⾁肉"),
   (0x2F82, "⾂臣|⾃自|⾄至|⾅臼|⾆舌|⾇舛|⾈舟|⾉艮|⾊色|⾋艸|⾌虍|⾍虫|⾎血|⾏行|⾐衣|⾑襾|⾒見|⾓角|⾔言|⾕谷|⾖豆|⾗豕|⾘豸|⾙貝|⾚赤|⾛走|⾜足"),
   (0x2F9D, "⾝身|⾞車|⾟辛|⾠辰|⾡辵|⾢邑|⾣酉|⾤釆|⾥里|⾦金|⾧長|⾨門|⾩阜|⾪隶|⾫隹|⾬雨|⾭靑|⾮非|⾯面|⾰革|⾱韋|⾲韭|⾳音|⾴頁|⾵風|⾶飛|⾷食"),
   (0x2FB8, "⾸首|⾹香|⾺馬|⾻骨|⾼高|⾽髟|⾾鬥|⾿鬯|⿀鬲|⿁鬼|⿂魚|⿃鳥|⿄鹵|⿅鹿|⿆麥|⿇麻|⿈黃|⿉黍|⿊黑|⿋黹|⿌黽|⿍鼎|⿎鼓|⿏鼠|⿐鼻|⿑齊|⿒齒"),
   (0x2FD3, "⿓龍|⿔龜|⿕龠|\u3000 |。.|〶〒|〸十|〹卄|〺卅|゛ \u3099|゜ \u309a|ゟより|ヿコト|ㄱᄀ|ㄲᄁ|ㄳᆪ|ㄴᄂ|ㄵᆬ|ㄶᆭ|ㄷᄃ"),
   (0x3138, "ㄸᄄ|ㄹᄅ|ㄺᆰ|ㄻᆱ|ㄼᆲ|ㄽᆳ|ㄾᆴ|ㄿᆵ|ㅀᄚ|ㅁᄆ|ㅂᄇ|ㅃᄈ|ㅄᄡ|ㅅᄉ|ㅆᄊ|ㅇᄋ|ㅈᄌ|ㅉᄍ|ㅊᄎ|ㅋᄏ|ㅌᄐ|ㅍᄑ|ㅎᄒ|ㅏᅡ|ㅐᅢ|ㅑᅣ|ㅒᅤ"),
   (0x3153, "ㅓᅥ|ㅔᅦ|ㅕᅧ|ㅖᅨ|ㅗᅩ|ㅘᅪ|ㅙᅫ|ㅚᅬ|ㅛᅭ|ㅜᅮ|ㅝᅯ|ㅞᅰ|ㅟᅱ|ㅠᅲ|ㅡᅳ|ㅢᅴ|ㅣᅵ|ㅥᄔ|ㅦᄕ|ㅧᇇ|ㅨᇈ|ㅩᇌ|ㅪᇎ|ㅫᇓ|ㅬᇗ|ㅭᇙ|ㅮᄜ"),
   (0x316F, "ㅯᇝ|ㅰᇟ|ㅱᄝ|ㅲᄞ|ㅳᄠ|ㅴᄢ|ㅵᄣ|ㅶᄧ|ㅷᄩ|ㅸᄫ|ㅹᄬ|ㅺᄭ|ㅻᄮ|ㅼᄯ|ㅽᄲ|ㅾᄶ|ㅿᅀ|ㆀᅇ|ㆁᅌ|ㆂᇱ|ㆃᇲ|ㆄᅗ|ㆅᅘ|ㆆᅙ|ㆇᆄ|ㆈᆅ|ㆉᆈ"),
   (0x318A, "ㆊᆑ|ㆋᆒ|ㆌᆔ|ㆍᆞ|ㆎᆡ|㆒一|㆓二|㆔三|㆕四|㆖上|㆗中|㆘下|㆙甲|㆚乙|㆛丙|㆜丁|㆝天|㆞地|㆟人|㈀(ᄀ)|㈁(ᄂ)|㈂(ᄃ)|㈃(ᄅ)"),
   (0x3204, "㈄(ᄆ)|㈅(ᄇ)|㈆(ᄉ)|㈇(ᄋ)|㈈(ᄌ)|㈉(ᄎ)|㈊(ᄏ)|㈋(ᄐ)|㈌(ᄑ)|㈍(ᄒ)|㈎(가)|㈏(나)|㈐(다)|㈑(라)|㈒(마)|㈓(바)"),
   (0x3214, "㈔(사)|㈕(아)|㈖(자)|㈗(차)|㈘(카)|㈙(타)|㈚(파)|㈛(하)|㈜(주)|㈝(오전)|㈞(오후)|㈠(一)|㈡(二)|㈢(三)|㈣(四)"),
   (0x3224, "㈤(五)|㈥(六)|㈦(七)|㈧(八)|㈨(九)|㈩(十)|㈪(月)|㈫(火)|㈬(水)|㈭(木)|㈮(金)|㈯(土)|㈰(日)|㈱(株)|㈲(有)|㈳(社)"),
   (0x3234, "㈴(名)|㈵(特)|㈶(財)|㈷(祝)|㈸(労)|㈹(代)|㈺(呼)|㈻(学)|㈼(監)|㈽(企)|㈾(資)|㈿(協)|㉀(祭)|㉁(休)|㉂(自)|㉃(至)"),
   (0x3244, "㉄問|㉅幼|㉆文|㉇箏|㉐pte|㉑21|㉒22|㉓23|㉔24|㉕25|㉖26|㉗27|㉘28|㉙29|㉚30|㉛31|㉜32|㉝33|㉞34|㉟35|㉠ᄀ"),
   (0x3261, "㉡ᄂ|㉢ᄃ|㉣ᄅ|㉤ᄆ|㉥ᄇ|㉦ᄉ|㉧ᄋ|㉨ᄌ|㉩ᄎ|㉪ᄏ|㉫ᄐ|㉬ᄑ|㉭ᄒ|㉮가|㉯나|㉰다|㉱라|㉲마|㉳바|㉴사|㉵아|㉶자|㉷차|㉸카|㉹타|㉺파|㉻하"),
   (0x327C, "㉼참고|㉽주의|㉾우|㊀一|㊁二|㊂三|㊃四|㊄五|㊅六|㊆七|㊇八|㊈九|㊉十|㊊月|㊋火|㊌水|㊍木|㊎金|㊏土|㊐日|㊑株|㊒有|㊓社|㊔名|㊕特|㊖財"),
   (0x3297, "㊗祝|㊘労|㊙秘|㊚男|㊛女|㊜適|㊝優|㊞印|㊟注|㊠項|㊡休|㊢写|㊣正|㊤上|㊥中|㊦下|㊧左|㊨右|㊩医|㊪宗|㊫学|㊬監|㊭企|㊮資|㊯協|㊰夜"),
   (0x32B1, "㊱36|㊲37|㊳38|㊴39|㊵40|㊶41|㊷42|㊸43|㊹44|㊺45|㊻46|㊼47|㊽48|㊾49|㊿50|㋀1月|㋁2月|㋂3月|㋃4月|㋄5月"),
   (0x32C5, "㋅6月|㋆7月|㋇8月|㋈9月|㋉10月|㋊11月|㋋12月|㋌hg|㋍erg|㋎ev|㋏ltd|㋐ア|㋑イ|㋒ウ|㋓エ|㋔オ|㋕カ|㋖キ|㋗ク|㋘ケ|㋙コ"),
   (0x32DA, "㋚サ|㋛シ|㋜ス|㋝セ|㋞ソ|㋟タ|㋠チ|㋡ツ|㋢テ|㋣ト|㋤ナ|㋥ニ|㋦ヌ|㋧ネ|㋨ノ|㋩ハ|㋪ヒ|㋫フ|㋬ヘ|㋭ホ|㋮マ|㋯ミ|㋰ム|㋱メ|㋲モ|㋳ヤ|㋴ユ"),
   (0x32F5, "㋵ヨ|㋶ラ|㋷リ|㋸ル|㋹レ|㋺ロ|㋻ワ|㋼ヰ|㋽ヱ|㋾ヲ|㋿令和|㌀アパート|㌁アルファ|㌂アンペア|㌃アール|㌄イニング|㌅インチ|㌆ウォン|㌇エスクード"),
   (0x3308, "㌈エーカー|㌉オンス|㌊オーム|㌋カイリ|㌌カラット|㌍カロリー|㌎ガロン|㌏ガンマ|㌐ギガ|㌑ギニー|㌒キュリー|㌓ギルダー|㌔キロ|㌕キログラム"),
   (0x3316, "㌖キロメートル|㌗キロワット|㌘グラム|㌙グラムトン|㌚クルゼイロ|㌛クローネ|㌜ケース|㌝コルナ|㌞コーポ|㌟サイクル|㌠サンチーム|㌡シリング|㌢センチ"),
   (0x3323, "㌣セント|㌤ダース|㌥デシ|㌦ドル|㌧トン|㌨ナノ|㌩ノット|㌪ハイツ|㌫パーセント|㌬パーツ|㌭バーレル|㌮ピアストル|㌯ピクル|㌰ピコ|㌱ビル|㌲ファラッド"),
   (0x3333, "㌳フィート|㌴ブッシェル|㌵フラン|㌶ヘクタール|㌷ペソ|㌸ペニヒ|㌹ヘルツ|㌺ペンス|㌻ページ|㌼ベータ|㌽ポイント|㌾ボルト|㌿ホン|㍀ポンド|㍁ホール"),
   (0x3342, "㍂ホーン|㍃マイクロ|㍄マイル|㍅マッハ|㍆マルク|㍇マンション|㍈ミクロン|㍉ミリ|㍊ミリバール|㍋メガ|㍌メガトン|㍍メートル|㍎ヤード|㍏ヤール|㍐ユアン"),
   (0x3351, "㍑リットル|㍒リラ|㍓ルピー|㍔ルーブル|㍕レム|㍖レントゲン|㍗ワット|㍘0点|㍙1点|㍚2点|㍛3点|㍜4点|㍝5点|㍞6点|㍟7点|㍠8点|㍡9点"),
   (0x3362, "㍢10点|㍣11点|㍤12点|㍥13点|㍦14点|㍧15点|㍨16点|㍩17点|㍪18点|㍫19点|㍬20点|㍭21点|㍮22点|㍯23点|㍰24点|㍱hpa"),
   (0x3372, "㍲da|㍳au|㍴bar|㍵ov|㍶pc|㍷dm|㍸dm2|㍹dm3|㍺iu|㍻平成|㍼昭和|㍽大正|㍾明治|㍿株式会社|㎀pa|㎁na|㎂μa|㎃ma|㎄ka"),
   (0x3385, "㎅kb|㎆mb|㎇gb|㎈cal|㎉kcal|㎊pf|㎋nf|㎌μf|㎍μg|㎎mg|㎏kg|㎐hz|㎑khz|㎒mhz|㎓ghz|㎔thz|㎕μl|㎖ml"),
   (0x3397, "㎗dl|㎘kl|㎙fm|㎚nm|㎛μm|㎜mm|㎝cm|㎞km|㎟mm2|㎠cm2|㎡m2|㎢km2|㎣mm3|㎤cm3|㎥m3|㎦km3|㎧m∕s|㎨m∕s2"),
   (0x33A9, "㎩pa|㎪kpa|㎫mpa|㎬gpa|㎭rad|㎮rad∕s|㎯rad∕s2|㎰ps|㎱ns|㎲μs|㎳ms|㎴pv|㎵nv|㎶μv|㎷mv|㎸kv|㎹mv"),
   (0x33BA, "㎺pw|㎻nw|㎼μw|㎽mw|㎾kw|㎿mw|㏀kω|㏁mω|㏃bq|㏄cc|㏅cd|㏆c∕kg|㏈db|㏉gy|㏊ha|㏋hp|㏌in|㏍kk|㏎km"),
   (0x33CF, "㏏kt|㏐lm|㏑ln|㏒log|㏓lx|㏔mb|㏕mil|㏖mol|㏗ph|㏙ppm|㏚pr|㏛sr|㏜sv|㏝wb|㏞v∕m|㏟a∕m|㏠1日|㏡2日"),
   (0x33E2, "㏢3日|㏣4日|㏤5日|㏥6日|㏦7日|㏧8日|㏨9日|㏩10日|㏪11日|㏫12日|㏬13日|㏭14日|㏮15日|㏯16日|㏰17日|㏱18日|㏲19日"),
   (0x33F3, "㏳20日|㏴21日|㏵22日|㏶23日|㏷24日|㏸25日|㏹26日|㏺27日|㏻28日|㏼29日|㏽30日|㏾31日|㏿gal|Ꙁꙁ|Ꙃꙃ|Ꙅꙅ|Ꙇꙇ|Ꙉꙉ"),
   (0xA64A, "Ꙋꙋ|Ꙍꙍ|Ꙏꙏ|Ꙑꙑ|Ꙓꙓ|Ꙕꙕ|Ꙗꙗ|Ꙙꙙ|Ꙛꙛ|Ꙝꙝ|Ꙟꙟ|Ꙡꙡ|Ꙣꙣ|Ꙥꙥ|Ꙧꙧ|Ꙩꙩ|Ꙫꙫ|Ꙭꙭ|Ꚁꚁ|Ꚃꚃ|Ꚅꚅ|Ꚇꚇ|Ꚉꚉ|Ꚋꚋ|Ꚍꚍ|Ꚏꚏ|Ꚑꚑ"),
   (0xA692, "Ꚓꚓ|Ꚕꚕ|Ꚗꚗ|Ꚙꚙ|Ꚛꚛ|ꚜъ|ꚝь|Ꜣꜣ|Ꜥꜥ|Ꜧꜧ|Ꜩꜩ|Ꜫꜫ|Ꜭꜭ|Ꜯꜯ|Ꜳꜳ|Ꜵꜵ|Ꜷꜷ|Ꜹꜹ|Ꜻꜻ|Ꜽꜽ|Ꜿꜿ|Ꝁꝁ|Ꝃꝃ|Ꝅꝅ|Ꝇꝇ|Ꝉꝉ|Ꝋꝋ"),
   (0xA74C, "Ꝍꝍ|Ꝏꝏ|Ꝑꝑ|Ꝓꝓ|Ꝕꝕ|Ꝗꝗ|Ꝙꝙ|Ꝛꝛ|Ꝝꝝ|Ꝟꝟ|Ꝡꝡ|Ꝣꝣ|Ꝥꝥ|Ꝧꝧ|Ꝩꝩ|Ꝫꝫ|Ꝭꝭ|Ꝯꝯ|ꝰꝯ|Ꝺꝺ|Ꝼꝼ|Ᵹᵹ|Ꝿꝿ|Ꞁꞁ|Ꞃꞃ|Ꞅꞅ|Ꞇꞇ"),
   (0xA78B, "Ꞌꞌ|Ɥɥ|Ꞑꞑ|Ꞓꞓ|Ꞗꞗ|Ꞙꞙ|Ꞛꞛ|Ꞝꞝ|Ꞟꞟ|Ꞡꞡ|Ꞣꞣ|Ꞥꞥ|Ꞧꞧ|Ꞩꞩ|Ɦɦ|Ɜɜ|Ɡɡ|Ɬɬ|Ɪɪ|Ʞʞ|Ʇʇ|Ʝʝ|Ꭓꭓ|Ꞵꞵ|Ꞷꞷ|Ꞹꞹ|Ꞻꞻ"),
   (0xA7BC, "Ꞽꞽ|Ꞿꞿ|Ꟃꟃ|Ꞔꞔ|Ʂʂ|Ᶎᶎ|Ꟈꟈ|Ꟊꟊ|Ꟶꟶ|ꟸħ|ꟹœ|ꭜꜧ|ꭝꬷ|ꭞɫ|ꭟꭒ|ꭩʍ|ꭰᎠ|ꭱᎡ|ꭲᎢ|ꭳᎣ|ꭴᎤ|ꭵᎥ|ꭶᎦ|ꭷᎧ|ꭸᎨ|ꭹᎩ|ꭺᎪ"),
   (0xAB7B, "ꭻᎫ|ꭼᎬ|ꭽᎭ|ꭾᎮ|ꭿᎯ|ꮀᎰ|ꮁᎱ|ꮂᎲ|ꮃᎳ|ꮄᎴ|ꮅᎵ|ꮆᎶ|ꮇᎷ|ꮈᎸ|ꮉᎹ|ꮊᎺ|ꮋᎻ|ꮌᎼ|ꮍᎽ|ꮎᎾ|ꮏᎿ|ꮐᏀ|ꮑᏁ|ꮒᏂ|ꮓᏃ|ꮔᏄ|ꮕᏅ"),
   (0xAB96, "ꮖᏆ|ꮗᏇ|ꮘᏈ|ꮙᏉ|ꮚᏊ|ꮛᏋ|ꮜᏌ|ꮝᏍ|ꮞᏎ|ꮟᏏ|ꮠᏐ|ꮡᏑ|ꮢᏒ|ꮣᏓ|ꮤᏔ|ꮥᏕ|ꮦᏖ|ꮧᏗ|ꮨᏘ|ꮩᏙ|ꮪᏚ|ꮫᏛ|ꮬᏜ|ꮭᏝ|ꮮᏞ|ꮯᏟ|ꮰᏠ"),
   (0xABB1, "ꮱᏡ|ꮲᏢ|ꮳᏣ|ꮴᏤ|ꮵᏥ|ꮶᏦ|ꮷᏧ|ꮸᏨ|ꮹᏩ|ꮺᏪ|ꮻᏫ|ꮼᏬ|ꮽᏭ|ꮾᏮ|ꮿᏯ|\uf900豈|\uf901更|\uf902車|\uf903賈"),
   (0xF904, "\uf904滑|\uf905串|\uf906句|\uf907龜|\uf908龜|\uf909契|\uf90a金|\uf90b喇|\uf90c奈|\uf90d懶"),
   (0xF90E, "\uf90e癩|\uf90f羅|\uf910蘿|\uf911螺|\uf912裸|\uf913邏|\uf914樂|\uf915洛|\uf916烙|\uf917珞"),
   (0xF918, "\uf918落|\uf919酪|\uf91a駱|\uf91b亂|\uf91c卵|\uf91d欄|\uf91e爛|\uf91f蘭|\uf920鸞|\uf921嵐"),
   (0xF922, "\uf922濫|\uf923藍|\uf924襤|\uf925拉|\uf926臘|\uf927蠟|\uf928廊|\uf929朗|\uf92a浪|\uf92b狼"),
   (0xF92C, "\uf92c郎|\uf92d來|\uf92e冷|\uf92f勞|\uf930擄|\uf931櫓|\uf932爐|\uf933盧|\uf934老|\uf935蘆"),
   (0xF936, "\uf936虜|\uf937路|\uf938露|\uf939魯|\uf93a鷺|\uf93b碌|\uf93c祿|\uf93d綠|\uf93e菉|\uf93f錄"),
   (0xF940, "\uf940鹿|\uf941論|\uf942壟|\uf943弄|\uf944籠|\uf945聾|\uf946牢|\uf947磊|\uf948賂|\uf949雷"),
   (0xF94A, "\uf94a壘|\uf94b屢|\uf94c樓|\uf94d淚|\uf94e漏|\uf94f累|\uf950縷|\uf951陋|\uf952勒|\uf953肋"),
   (0xF954, "\uf954凜|\uf955凌|\uf956稜|\uf957綾|\uf958菱|\uf959陵|\uf95a讀|\uf95b拏|\uf95c樂|\uf95d諾"),
   (0xF95E, "\uf95e丹|\uf95f寧|\uf960怒|\uf961率|\uf962異|\uf963北|\uf964磻|\uf965便|\uf966復|\uf967不"),
   (0xF968, "\uf968泌|\uf969數|\uf96a索|\uf96b參|\uf96c塞|\uf96d省|\uf96e葉|\uf96f說|\uf970殺|\uf971辰"),
   (0xF972, "\uf972沈|\uf973拾|\uf974若|\uf975掠|\uf976略|\uf977亮|\uf978兩|\uf979凉|\uf97a梁|\uf97b糧"),
   (0xF97C, "\uf97c良|\uf97d諒|\uf97e量|\uf97f勵|\uf980呂|\uf981女|\uf982廬|\uf983旅|\uf984濾|\uf985礪"),
   (0xF986, "\uf986閭|\uf987驪|\uf988麗|\uf989黎|\uf98a力|\uf98b曆|\uf98c歷|\uf98d轢|\uf98e年|\uf98f憐"),
   (0xF990, "\uf990戀|\uf991撚|\uf992漣|\uf993煉|\uf994璉|\uf995秊|\uf996練|\uf997聯|\uf998輦|\uf999蓮"),
   (0xF99A, "\uf99a連|\uf99b鍊|\uf99c列|\uf99d劣|\uf99e咽|\uf99f烈|\uf9a0裂|\uf9a1說|\uf9a2廉|\uf9a3念"),
   (0xF9A4, "\uf9a4捻|\uf9a5殮|\uf9a6簾|\uf9a7獵|\uf9a8令|\uf9a9囹|\uf9aa寧|\uf9ab嶺|\uf9ac怜|\uf9ad玲"),
   (0xF9AE, "\uf9ae瑩|\uf9af羚|\uf9b0聆|\uf9b1鈴|\uf9b2零|\uf9b3靈|\uf9b4領|\uf9b5例|\uf9b6禮|\uf9b7醴"),
   (0xF9B8, "\uf9b8隸|\uf9b9惡|\uf9ba了|\uf9bb僚|\uf9bc寮|\uf9bd尿|\uf9be料|\uf9bf樂|\uf9c0燎|\uf9c1療"),
   (0xF9C2, "\uf9c2蓼|\uf9c3遼|\uf9c4龍|\uf9c5暈|\uf9c6阮|\uf9c7劉|\uf9c8杻|\uf9c9柳|\uf9ca流|\uf9cb溜"),
   (0xF9CC, "\uf9cc琉|\uf9cd留|\uf9ce硫|\uf9cf紐|\uf9d0類|\uf9d1六|\uf9d2戮|\uf9d3陸|\uf9d4倫|\uf9d5崙"),
   (0xF9D6, "\uf9d6淪|\uf9d7輪|\uf9d8律|\uf9d9慄|\uf9da栗|\uf9db率|\uf9dc隆|\uf9dd利|\uf9de吏|\uf9df履"),
   (0xF9E0, "\uf9e0易|\uf9e1李|\uf9e2梨|\uf9e3泥|\uf9e4理|\uf9e5痢|\uf9e6罹|\uf9e7裏|\uf9e8裡|\uf9e9里"),
   (0xF9EA, "\uf9ea離|\uf9eb匿|\uf9ec溺|\uf9ed吝|\uf9ee燐|\uf9ef璘|\uf9f0藺|\uf9f1隣|\uf9f2鱗|\uf9f3麟"),
   (0xF9F4, "\uf9f4林|\uf9f5淋|\uf9f6臨|\uf9f7立|\uf9f8笠|\uf9f9粒|\uf9fa狀|\uf9fb炙|\uf9fc識|\uf9fd什"),
   (0xF9FE, "\uf9fe茶|\uf9ff刺|\ufa00切|\ufa01度|\ufa02拓|\ufa03糖|\ufa04宅|\ufa05洞|\ufa06暴|\ufa07輻"),
   (0xFA08, "\ufa08行|\ufa09降|\ufa0a見|\ufa0b廓|\ufa0c兀|\ufa0d嗀|\ufa10塚|\ufa12晴|\ufa15凞|\ufa16猪"),
   (0xFA17, "\ufa17益|\ufa18礼|\ufa19神|\ufa1a祥|\ufa1b福|\ufa1c靖|\ufa1d精|\ufa1e羽|\ufa20蘒|\ufa22諸"),
   (0xFA25, "\ufa25逸|\ufa26都|\ufa2a飯|\ufa2b飼|\ufa2c館|\ufa2d鶴|\ufa2e郞|\ufa2f隷|\ufa30侮|\ufa31僧"),
   (0xFA32, "\ufa32免|\ufa33勉|\ufa34勤|\ufa35卑|\ufa36喝|\ufa37嘆|\ufa38器|\ufa39塀|\ufa3a墨|\ufa3b層"),
   (0xFA3C, "\ufa3c屮|\ufa3d悔|\ufa3e慨|\ufa3f憎|\ufa40懲|\ufa41敏|\ufa42既|\ufa43暑|\ufa44梅|\ufa45海"),
   (0xFA46, "\ufa46渚|\ufa47漢|\ufa48煮|\ufa49爫|\ufa4a琢|\ufa4b碑|\ufa4c社|\ufa4d祉|\ufa4e祈|\ufa4f祐"),
   (0xFA50, "\ufa50祖|\ufa51祝|\ufa52禍|\ufa53禎|\ufa54穀|\ufa55突|\ufa56節|\ufa57練|\ufa58縉|\ufa59繁"),
   (0xFA5A, "\ufa5a署|\ufa5b者|\ufa5c臭|\ufa5d艹|\ufa5e艹|\ufa5f著|\ufa60褐|\ufa61視|\ufa62謁|\ufa63謹"),
   (0xFA64, "\ufa64賓|\ufa65贈|\ufa66辶|\ufa67逸|\ufa68難|\ufa69響|\ufa6a頻|\ufa6b恵|\ufa6c𤋮|\ufa6d舘"),
   (0xFA70, "\ufa70並|\ufa71况|\ufa72全|\ufa73侀|\ufa74充|\ufa75冀|\ufa76勇|\ufa77勺|\ufa78喝|\ufa79啕"),
   (0xFA7A, "\ufa7a喙|\ufa7b嗢|\ufa7c塚|\ufa7d墳|\ufa7e奄|\ufa7f奔|\ufa80婢|\ufa81嬨|\ufa82廒|\ufa83廙"),
   (0xFA84, "\ufa84彩|\ufa85徭|\ufa86惘|\ufa87慎|\ufa88愈|\ufa89憎|\ufa8a慠|\ufa8b懲|\ufa8c戴|\ufa8d揄"),
   (0xFA8E, "\ufa8e搜|\ufa8f摒|\ufa90敖|\ufa91晴|\ufa92朗|\ufa93望|\ufa94杖|\ufa95歹|\ufa96殺|\ufa97流"),
   (0xFA98, "\ufa98滛|\ufa99滋|\ufa9a漢|\ufa9b瀞|\ufa9c煮|\ufa9d瞧|\ufa9e爵|\ufa9f犯|\ufaa0猪|\ufaa1瑱"),
   (0xFAA2, "\ufaa2甆|\ufaa3画|\ufaa4瘝|\ufaa5瘟|\ufaa6益|\ufaa7盛|\ufaa8直|\ufaa9睊|\ufaaa着|\ufaab磌"),
   (0xFAAC, "\ufaac窱|\ufaad節|\ufaae类|\ufaaf絛|\ufab0練|\ufab1缾|\ufab2者|\ufab3荒|\ufab4華|\ufab5蝹"),
   (0xFAB6, "\ufab6襁|\ufab7覆|\ufab8視|\ufab9調|\ufaba諸|\ufabb請|\ufabc謁|\ufabd諾|\ufabe諭|\ufabf謹"),
   (0xFAC0, "\ufac0變|\ufac1贈|\ufac2輸|\ufac3遲|\ufac4醙|\ufac5鉶|\ufac6陼|\ufac7難|\ufac8靖|\ufac9韛"),
   (0xFACA, "\ufaca響|\ufacb頋|\ufacc頻|\ufacd鬒|\uface龜|\ufacf𢡊|\ufad0𢡄|\ufad1𣏕|\ufad2㮝|\ufad3䀘"),
   (0xFAD4, "\ufad4䀹|\ufad5𥉉|\ufad6𥳐|\ufad7𧻓|\ufad8齃|\ufad9龎|ﬀff|ﬁfi|ﬂfl|ﬃffi|ﬄffl|ﬅst|ﬆst"),
   (0xFB13, "ﬓմն|ﬔմե|ﬕմի|ﬖվն|ﬗմխ|\ufb1dי\u05b4|\ufb1fײ\u05b7|ﬠע|ﬡא|ﬢד|ﬣה|ﬤכ|ﬥל|ﬦם|ﬧר|ﬨת|﬩+"),
   (0xFB2A, "\ufb2aש\u05c1|\ufb2bש\u05c2|\ufb2cש\u05bc\u05c1|\ufb2dש\u05bc\u05c2"),
   (0xFB2E, "\ufb2eא\u05b7|\ufb2fא\u05b8|\ufb30א\u05bc|\ufb31ב\u05bc|\ufb32ג\u05bc"),
   (0xFB33, "\ufb33ד\u05bc|\ufb34ה\u05bc|\ufb35ו\u05bc|\ufb36ז\u05bc|\ufb38ט\u05bc"),
   (0xFB39, "\ufb39י\u05bc|\ufb3aך\u05bc|\ufb3bכ\u05bc|\ufb3cל\u05bc|\ufb3eמ\u05bc"),
   (0xFB40, "\ufb40נ\u05bc|\ufb41ס\u05bc|\ufb43ף\u05bc|\ufb44פ\u05bc|\ufb46צ\u05bc"),
   (0xFB47, "\ufb47ק\u05bc|\ufb48ר\u05bc|\ufb49ש\u05bc|\ufb4aת\u05bc|\ufb4bו\u05b9"),
   (0xFB4C, "\ufb4cב\u05bf|\ufb4dכ\u05bf|\ufb4eפ\u05bf|ﭏאל|ﭐٱ|ﭑٱ|ﭒٻ|ﭓٻ|ﭔٻ|ﭕٻ|ﭖپ|ﭗپ|ﭘپ|ﭙپ|ﭚڀ"),
   (0xFB5B, "ﭛڀ|ﭜڀ|ﭝڀ|ﭞٺ|ﭟٺ|ﭠٺ|ﭡٺ|ﭢٿ|ﭣٿ|ﭤٿ|ﭥٿ|ﭦٹ|ﭧٹ|ﭨٹ|ﭩٹ|ﭪڤ|ﭫڤ|ﭬڤ|ﭭڤ|ﭮڦ|ﭯڦ|ﭰڦ|ﭱڦ|ﭲڄ|ﭳڄ|ﭴڄ|ﭵڄ"),
   (0xFB76, "ﭶڃ|ﭷڃ|ﭸڃ|ﭹڃ|ﭺچ|ﭻچ|ﭼچ|ﭽچ|ﭾڇ|ﭿڇ|ﮀڇ|ﮁڇ|ﮂڍ|ﮃڍ|ﮄڌ|ﮅڌ|ﮆڎ|ﮇڎ|ﮈڈ|ﮉڈ|ﮊژ|ﮋژ|ﮌڑ|ﮍڑ|ﮎک|ﮏک|ﮐک"),
   (0xFB91, "ﮑک|ﮒگ|ﮓگ|ﮔگ|ﮕگ|ﮖڳ|ﮗڳ|ﮘڳ|ﮙڳ|ﮚڱ|ﮛڱ|ﮜڱ|ﮝڱ|ﮞں|ﮟں|ﮠڻ|ﮡڻ|ﮢڻ|ﮣڻ|ﮤۀ|ﮥۀ|ﮦہ|ﮧہ|ﮨہ|ﮩہ|ﮪھ|ﮫھ"),
   (0xFBAC, "ﮬھ|ﮭھ|ﮮے|ﮯے|ﮰۓ|ﮱۓ|ﯓڭ|ﯔڭ|ﯕڭ|ﯖڭ|ﯗۇ|ﯘۇ|ﯙۆ|ﯚۆ|ﯛۈ|ﯜۈ|ﯝۇٴ|ﯞۋ|ﯟۋ|ﯠۅ|ﯡۅ|ﯢۉ|ﯣۉ|ﯤې|ﯥې|ﯦې"),
   (0xFBE7, "ﯧې|ﯨى|ﯩى|ﯪئا|ﯫئا|ﯬئە|ﯭئە|ﯮئو|ﯯئو|ﯰئۇ|ﯱئۇ|ﯲئۆ|ﯳئۆ|ﯴئۈ|ﯵئۈ|ﯶئې|ﯷئې|ﯸئې|ﯹئى|ﯺئى|ﯻئى"),
   (0xFBFC, "ﯼی|ﯽی|ﯾی|ﯿی|ﰀئج|ﰁئح|ﰂئم|ﰃئى|ﰄئي|ﰅبج|ﰆبح|ﰇبخ|ﰈبم|ﰉبى|ﰊبي|ﰋتج|ﰌتح|ﰍتخ|ﰎتم|ﰏتى|ﰐتي"),
   (0xFC11, "ﰑثج|ﰒثم|ﰓثى|ﰔثي|ﰕجح|ﰖجم|ﰗحج|ﰘحم|ﰙخج|ﰚخح|ﰛخم|ﰜسج|ﰝسح|ﰞسخ|ﰟسم|ﰠصح|ﰡصم|ﰢضج|ﰣضح|ﰤضخ"),
   (0xFC25, "ﰥضم|ﰦطح|ﰧطم|ﰨظم|ﰩعج|ﰪعم|ﰫغج|ﰬغم|ﰭفج|ﰮفح|ﰯفخ|ﰰفم|ﰱفى|ﰲفي|ﰳقح|ﰴقم|ﰵقى|ﰶقي|ﰷكا|ﰸكج"),
   (0xFC39, "ﰹكح|ﰺكخ|ﰻكل|ﰼكم|ﰽكى|ﰾكي|ﰿلج|ﱀلح|ﱁلخ|ﱂلم|ﱃلى|ﱄلي|ﱅمج|ﱆمح|ﱇمخ|ﱈمم|ﱉمى|ﱊمي|ﱋنج|ﱌنح"),
   (0xFC4D, "ﱍنخ|ﱎنم|ﱏنى|ﱐني|ﱑهج|ﱒهم|ﱓهى|ﱔهي|ﱕيج|ﱖيح|ﱗيخ|ﱘيم|ﱙيى|ﱚيي|ﱛذ\u0670|ﱜر\u0670"),
   (0xFC5D, "ﱝى\u0670|ﱞ \u064c\u0651|ﱟ \u064d\u0651|ﱠ \u064e\u0651|ﱡ \u064f\u0651"),
   (0xFC62, "ﱢ \u0650\u0651|ﱣ \u0651\u0670|ﱤئر|ﱥئز|ﱦئم|ﱧئن|ﱨئى|ﱩئي|ﱪبر|ﱫبز|ﱬبم|ﱭبن|ﱮبى|ﱯبي"),
   (0xFC70, "ﱰتر|ﱱتز|ﱲتم|ﱳتن|ﱴتى|ﱵتي|ﱶثر|ﱷثز|ﱸثم|ﱹثن|ﱺثى|ﱻثي|ﱼفى|ﱽفي|ﱾقى|ﱿقي|ﲀكا|ﲁكل|ﲂكم|ﲃكى"),
   (0xFC84, "ﲄكي|ﲅلم|ﲆلى|ﲇلي|ﲈما|ﲉمم|ﲊنر|ﲋنز|ﲌنم|ﲍنن|ﲎنى|ﲏني|ﲐى\u0670|ﲑير|ﲒيز|ﲓيم|ﲔين|ﲕيى|ﲖيي"),
   (0xFC97, "ﲗئج|ﲘئح|ﲙئخ|ﲚئم|ﲛئه|ﲜبج|ﲝبح|ﲞبخ|ﲟبم|ﲠبه|ﲡتج|ﲢتح|ﲣتخ|ﲤتم|ﲥته|ﲦثم|ﲧجح|ﲨجم|ﲩحج|ﲪحم"),
   (0xFCAB, "ﲫخج|ﲬخم|ﲭسج|ﲮسح|ﲯسخ|ﲰسم|ﲱصح|ﲲصخ|ﲳصم|ﲴضج|ﲵضح|ﲶضخ|ﲷضم|ﲸطح|ﲹظم|ﲺعج|ﲻعم|ﲼغج|ﲽغم|ﲾفج"),
   (0xFCBF, "ﲿفح|ﳀفخ|ﳁفم|ﳂقح|ﳃقم|ﳄكج|ﳅكح|ﳆكخ|ﳇكل|ﳈكم|ﳉلج|ﳊلح|ﳋلخ|ﳌلم|ﳍله|ﳎمج|ﳏمح|ﳐمخ|ﳑمم|ﳒنج"),
   (0xFCD3, "ﳓنح|ﳔنخ|ﳕنم|ﳖنه|ﳗهج|ﳘهم|ﳙه\u0670|ﳚيج|ﳛيح|ﳜيخ|ﳝيم|ﳞيه|ﳟئم|ﳠئه|ﳡبم|ﳢبه|ﳣتم|ﳤته|ﳥثم"),
   (0xFCE6, "ﳦثه|ﳧسم|ﳨسه|ﳩشم|ﳪشه|ﳫكل|ﳬكم|ﳭلم|ﳮنم|ﳯنه|ﳰيم|ﳱيه|ﳲـ\u064e\u0651|ﳳـ\u064f\u0651"),
   (0xFCF4, "ﳴـ\u0650\u0651|ﳵطى|ﳶطي|ﳷعى|ﳸعي|ﳹغى|ﳺغي|ﳻسى|ﳼسي|ﳽشى|ﳾشي|ﳿحى|ﴀحي|ﴁجى|ﴂجي|ﴃخى|ﴄخي"),
   (0xFD05, "ﴅصى|ﴆصي|ﴇضى|ﴈضي|ﴉشج|ﴊشح|ﴋشخ|ﴌشم|ﴍشر|ﴎسر|ﴏصر|ﴐضر|ﴑطى|ﴒطي|ﴓعى|ﴔعي|ﴕغى|ﴖغي|ﴗسى|ﴘسي"),
   (0xFD19, "ﴙشى|ﴚشي|ﴛحى|ﴜحي|ﴝجى|ﴞجي|ﴟخى|ﴠخي|ﴡصى|ﴢصي|ﴣضى|ﴤضي|ﴥشج|ﴦشح|ﴧشخ|ﴨشم|ﴩشر|ﴪسر|ﴫصر|ﴬضر"),
   (0xFD2D, "ﴭشج|ﴮشح|ﴯشخ|ﴰشم|ﴱسه|ﴲشه|ﴳطم|ﴴسج|ﴵسح|ﴶسخ|ﴷشج|ﴸشح|ﴹشخ|ﴺطم|ﴻظم|ﴼا\u064b|ﴽا\u064b"),
   (0xFD50, "ﵐتجم|ﵑتحج|ﵒتحج|ﵓتحم|ﵔتخم|ﵕتمج|ﵖتمح|ﵗتمخ|ﵘجمح|ﵙجمح|ﵚحمي|ﵛحمى|ﵜسحج|ﵝسجح|ﵞسجى|ﵟسمح"),
   (0xFD60, "ﵠسمح|ﵡسمج|ﵢسمم|ﵣسمم|ﵤصحح|ﵥصحح|ﵦصمم|ﵧشحم|ﵨشحم|ﵩشجي|ﵪشمخ|ﵫشمخ|ﵬشمم|ﵭشمم|ﵮضحى|ﵯضخم"),
   (0xFD70, "ﵰضخم|ﵱطمح|ﵲطمح|ﵳطمم|ﵴطمي|ﵵعجم|ﵶعمم|ﵷعمم|ﵸعمى|ﵹغمم|ﵺغمي|ﵻغمى|ﵼفخم|ﵽفخم|ﵾقمح|ﵿقمم"),
   (0xFD80, "ﶀلحم|ﶁلحي|ﶂلحى|ﶃلجج|ﶄلجج|ﶅلخم|ﶆلخم|ﶇلمح|ﶈلمح|ﶉمحج|ﶊمحم|ﶋمحي|ﶌمجح|ﶍمجم|ﶎمخج|ﶏمخم"),
   (0xFD92, "ﶒمجخ|ﶓهمج|ﶔهمم|ﶕنحم|ﶖنحى|ﶗنجم|ﶘنجم|ﶙنجى|ﶚنمي|ﶛنمى|ﶜيمم|ﶝيمم|ﶞبخي|ﶟتجي|ﶠتجى|ﶡتخي"),
   (0xFDA2, "ﶢتخى|ﶣتمي|ﶤتمى|ﶥجمي|ﶦجحى|ﶧجمى|ﶨسخى|ﶩصحي|ﶪشحي|ﶫضحي|ﶬلجي|ﶭلمي|ﶮيحي|ﶯيجي|ﶰيمي|ﶱممي"),
   (0xFDB2, "ﶲقمي|ﶳنحي|ﶴقمح|ﶵلحم|ﶶعمي|ﶷكمي|ﶸنجح|ﶹمخي|ﶺلجم|ﶻكمم|ﶼلجم|ﶽنجح|ﶾجحي|ﶿحجي|ﷀمجي|ﷁفمي"),
   (0xFDC2, "ﷂبحي|ﷃكمم|ﷄعجم|ﷅصمم|ﷆسخي|ﷇنجي|ﷰصلے|ﷱقلے|ﷲالله|ﷳاكبر|ﷴمحمد|ﷵصلعم|ﷶرسول|ﷷعليه"),
   (0xFDF8, "ﷸوسلم|ﷹصلى|ﷺصلى الله عليه وسلم|ﷻجل جلاله|﷼ریال|︐,|︑、|︓:|︔;|︕!|︖?|︗〖|︘〗|︱—|︲–|︳_"),
   (0xFE34, "︴_|︵(|︶)|︷\x7b|︸\x7d|︹〔|︺〕|︻【|︼】|︽《|︾》|︿〈|﹀〉|﹁「|﹂」|﹃『|﹄』|﹇[|﹈]|﹉ \u0305|﹊ \u0305"),
   (0xFE4B, "﹋ \u0305|﹌ \u0305|﹍_|﹎_|﹏_|﹐,|﹑、|﹔;|﹕:|﹖?|﹗!|﹘—|﹙(|﹚)|﹛\x7b|﹜\x7d|﹝〔|﹞〕|﹟\x23|﹠&"),
   (0xFE61, "﹡*|﹢+|﹣\x2d|﹤<|﹥>|﹦=|﹨\\|﹩$|﹪%|﹫@|ﹰ \u064b|ﹱـ\u064b|ﹲ \u064c|ﹴ \u064d|ﹶ \u064e"),
   (0xFE77, "ﹷـ\u064e|ﹸ \u064f|ﹹـ\u064f|ﹺ \u0650|ﹻـ\u0650|ﹼ \u0651|ﹽـ\u0651|ﹾ \u0652|ﹿـ\u0652"),
   (0xFE80, "ﺀء|ﺁآ|ﺂآ|ﺃأ|ﺄأ|ﺅؤ|ﺆؤ|ﺇإ|ﺈإ|ﺉئ|ﺊئ|ﺋئ|ﺌئ|ﺍا|ﺎا|ﺏب|ﺐب|ﺑب|ﺒب|ﺓة|ﺔة|ﺕت|ﺖت|ﺗت|ﺘت|ﺙث|ﺚث"),
   (0xFE9B, "ﺛث|ﺜث|ﺝج|ﺞج|ﺟج|ﺠج|ﺡح|ﺢح|ﺣح|ﺤح|ﺥخ|ﺦخ|ﺧخ|ﺨخ|ﺩد|ﺪد|ﺫذ|ﺬذ|ﺭر|ﺮر|ﺯز|ﺰز|ﺱس|ﺲس|ﺳس|ﺴس|ﺵش"),
   (0xFEB6, "ﺶش|ﺷش|ﺸش|ﺹص|ﺺص|ﺻص|ﺼص|ﺽض|ﺾض|ﺿض|ﻀض|ﻁط|ﻂط|ﻃط|ﻄط|ﻅظ|ﻆظ|ﻇظ|ﻈظ|ﻉع|ﻊع|ﻋع|ﻌع|ﻍغ|ﻎغ|ﻏغ|ﻐغ"),
   (0xFED1, "ﻑف|ﻒف|ﻓف|ﻔف|ﻕق|ﻖق|ﻗق|ﻘق|ﻙك|ﻚك|ﻛك|ﻜك|ﻝل|ﻞل|ﻟل|ﻠل|ﻡم|ﻢم|ﻣم|ﻤم|ﻥن|ﻦن|ﻧن|ﻨن|ﻩه|ﻪه|ﻫه"),
   (0xFEEC, "ﻬه|ﻭو|ﻮو|ﻯى|ﻰى|ﻱي|ﻲي|ﻳي|ﻴي|ﻵلآ|ﻶلآ|ﻷلأ|ﻸلأ|ﻹلإ|ﻺلإ|ﻻلا|ﻼلا|｟⦅|｠⦆|｡.|｢「|｣」|､、|･・"),
   (0xFF66, "ｦヲ|ｧァ|ｨィ|ｩゥ|ｪェ|ｫォ|ｬャ|ｭュ|ｮョ|ｯッ|ｰー|ｱア|ｲイ|ｳウ|ｴエ|ｵオ|ｶカ|ｷキ|ｸク|ｹケ|ｺコ|ｻサ|ｼシ|ｽス|ｾセ|ｿソ|ﾀタ"),
   (0xFF81, "ﾁチ|ﾂツ|ﾃテ|ﾄト|ﾅナ|ﾆニ|ﾇヌ|ﾈネ|ﾉノ|ﾊハ|ﾋヒ|ﾌフ|ﾍヘ|ﾎホ|ﾏマ|ﾐミ|ﾑム|ﾒメ|ﾓモ|ﾔヤ|ﾕユ|ﾖヨ|ﾗラ|ﾘリ|ﾙル|ﾚレ|ﾛロ"),
   (0xFF9C, "ﾜワ|ﾝン|ﾞ\u3099|ﾟ\u309a|ﾡᄀ|ﾢᄁ|ﾣᆪ|ﾤᄂ|ﾥᆬ|ﾦᆭ|ﾧᄃ|ﾨᄄ|ﾩᄅ|ﾪᆰ|ﾫᆱ|ﾬᆲ|ﾭᆳ|ﾮᆴ|ﾯᆵ|ﾰᄚ|ﾱᄆ|ﾲᄇ|ﾳᄈ"),
   (0xFFB4, "ﾴᄡ|ﾵᄉ|ﾶᄊ|ﾷᄋ|ﾸᄌ|ﾹᄍ|ﾺᄎ|ﾻᄏ|ﾼᄐ|ﾽᄑ|ﾾᄒ|ￂᅡ|ￃᅢ|ￄᅣ|ￅᅤ|ￆᅥ|ￇᅦ|ￊᅧ|ￋᅨ|ￌᅩ|ￍᅪ|ￎᅫ|ￏᅬ|ￒᅭ|ￓᅮ|ￔᅯ|ￕᅰ"),
   (0xFFD6, "ￖᅱ|ￗᅲ|ￚᅳ|ￛᅴ|ￜᅵ|￠¢|￡£|￢¬|￣ \u0304|￤¦|￥¥|￦₩|￨│|￩←|￪↑|￫→|￬↓|￭■|￮○|𐐀𐐨|𐐁𐐩|𐐂𐐪|𐐃𐐫|𐐄𐐬|𐐅𐐭"),
   (0x10406, "𐐆𐐮|𐐇𐐯|𐐈𐐰|𐐉𐐱|𐐊𐐲|𐐋𐐳|𐐌𐐴|𐐍𐐵|𐐎𐐶|𐐏𐐷|𐐐𐐸|𐐑𐐹|𐐒𐐺|𐐓𐐻|𐐔𐐼|𐐕𐐽|𐐖𐐾|𐐗𐐿|𐐘𐑀|𐐙𐑁|𐐚𐑂|𐐛𐑃|𐐜𐑄|𐐝𐑅|𐐞𐑆|𐐟𐑇|𐐠𐑈"),
   (0x10421, "𐐡𐑉|𐐢𐑊|𐐣𐑋|𐐤𐑌|𐐥𐑍|𐐦𐑎|𐐧𐑏|𐒰𐓘|𐒱𐓙|𐒲𐓚|𐒳𐓛|𐒴𐓜|𐒵𐓝|𐒶𐓞|𐒷𐓟|𐒸𐓠|𐒹𐓡|𐒺𐓢|𐒻𐓣|𐒼𐓤|𐒽𐓥|𐒾𐓦|𐒿𐓧|𐓀𐓨|𐓁𐓩|𐓂𐓪|𐓃𐓫"),
   (0x104C4, "𐓄𐓬|𐓅𐓭|𐓆𐓮|𐓇𐓯|𐓈𐓰|𐓉𐓱|𐓊𐓲|𐓋𐓳|𐓌𐓴|𐓍𐓵|𐓎𐓶|𐓏𐓷|𐓐𐓸|𐓑𐓹|𐓒𐓺|𐓓𐓻|𐲀𐳀|𐲁𐳁|𐲂𐳂|𐲃𐳃|𐲄𐳄|𐲅𐳅|𐲆𐳆|𐲇𐳇|𐲈𐳈|𐲉𐳉|𐲊𐳊"),
   (0x10C8B, "𐲋𐳋|𐲌𐳌|𐲍𐳍|𐲎𐳎|𐲏𐳏|𐲐𐳐|𐲑𐳑|𐲒𐳒|𐲓𐳓|𐲔𐳔|𐲕𐳕|𐲖𐳖|𐲗𐳗|𐲘𐳘|𐲙𐳙|𐲚𐳚|𐲛𐳛|𐲜𐳜|𐲝𐳝|𐲞𐳞|𐲟𐳟|𐲠𐳠|𐲡𐳡|𐲢𐳢|𐲣𐳣|𐲤𐳤|𐲥𐳥"),
   (0x10CA6, "𐲦𐳦|𐲧𐳧|𐲨𐳨|𐲩𐳩|𐲪𐳪|𐲫𐳫|𐲬𐳬|𐲭𐳭|𐲮𐳮|𐲯𐳯|𐲰𐳰|𐲱𐳱|𐲲𐳲|𑢠𑣀|𑢡𑣁|𑢢𑣂|𑢣𑣃|𑢤𑣄|𑢥𑣅|𑢦𑣆|𑢧𑣇|𑢨𑣈|𑢩𑣉|𑢪𑣊|𑢫𑣋|𑢬𑣌|𑢭𑣍"),
   (0x118AE, "𑢮𑣎|𑢯𑣏|𑢰𑣐|𑢱𑣑|𑢲𑣒|𑢳𑣓|𑢴𑣔|𑢵𑣕|𑢶𑣖|𑢷𑣗|𑢸𑣘|𑢹𑣙|𑢺𑣚|𑢻𑣛|𑢼𑣜|𑢽𑣝|𑢾𑣞|𑢿𑣟|𖹀𖹠|𖹁𖹡|𖹂𖹢|𖹃𖹣|𖹄𖹤|𖹅𖹥|𖹆𖹦|𖹇𖹧|𖹈𖹨"),
   (0x16E49, "𖹉𖹩|𖹊𖹪|𖹋𖹫|𖹌𖹬|𖹍𖹭|𖹎𖹮|𖹏𖹯|𖹐𖹰|𖹑𖹱|𖹒𖹲|𖹓𖹳|𖹔𖹴|𖹕𖹵|𖹖𖹶|𖹗𖹷|𖹘𖹸|𖹙𖹹|𖹚𖹺|𖹛𖹻|𖹜𖹼|𖹝𖹽|𖹞𖹾|𖹟𖹿|𝅗𝅥𝅗𝅥|𝅘𝅥𝅘𝅥"),
   (0x1D160, "𝅘𝅥𝅮𝅘𝅥𝅮|𝅘𝅥𝅯𝅘𝅥𝅯|𝅘𝅥𝅰𝅘𝅥𝅰|𝅘𝅥𝅱𝅘𝅥𝅱|𝅘𝅥𝅲𝅘𝅥𝅲|𝆹𝅥𝆹𝅥|𝆺𝅥𝆺𝅥|𝆹𝅥𝅮𝆹𝅥𝅮|𝆺𝅥𝅮𝆺𝅥𝅮|𝆹𝅥𝅯𝆹𝅥𝅯|𝆺𝅥𝅯𝆺𝅥𝅯|𝐀a|𝐁b|𝐂c|𝐃d|𝐄e|𝐅f|𝐆g|𝐇h|𝐈i"),
   (0x1D409, "𝐉j|𝐊k|𝐋l|𝐌m|𝐍n|𝐎o|𝐏p|𝐐q|𝐑r|𝐒s|𝐓t|𝐔u|𝐕v|𝐖w|𝐗x|𝐘y|𝐙z|𝐚a|𝐛b|𝐜c|𝐝d|𝐞e|𝐟f|𝐠g|𝐡h|𝐢i|𝐣j"),
   (0x1D424, "𝐤k|𝐥l|𝐦m|𝐧n|𝐨o|𝐩p|𝐪q|𝐫r|𝐬s|𝐭t|𝐮u|𝐯v|𝐰w|𝐱x|𝐲y|𝐳z|𝐴a|𝐵b|𝐶c|𝐷d|𝐸e|𝐹f|𝐺g|𝐻h|𝐼i|𝐽j|𝐾k"),
   (0x1D43F, "𝐿l|𝑀m|𝑁n|𝑂o|𝑃p|𝑄q|𝑅r|𝑆s|𝑇t|𝑈u|𝑉v|𝑊w|𝑋x|𝑌y|𝑍z|𝑎a|𝑏b|𝑐c|𝑑d|𝑒e|𝑓f|𝑔g|𝑖i|𝑗j|𝑘k|𝑙l|𝑚m"),
   (0x1D45B, "𝑛n|𝑜o|𝑝p|𝑞q|𝑟r|𝑠s|𝑡t|𝑢u|𝑣v|𝑤w|𝑥x|𝑦y|𝑧z|𝑨a|𝑩b|𝑪c|𝑫d|𝑬e|𝑭f|𝑮g|𝑯h|𝑰i|𝑱j|𝑲k|𝑳l|𝑴m|𝑵n"),
   (0x1D476, "𝑶o|𝑷p|𝑸q|𝑹r|𝑺s|𝑻t|𝑼u|𝑽v|𝑾w|𝑿x|𝒀y|𝒁z|𝒂a|𝒃b|𝒄c|𝒅d|𝒆e|𝒇f|𝒈g|𝒉h|𝒊i|𝒋j|𝒌k|𝒍l|𝒎m|𝒏n|𝒐o"),
   (0x1D491, "𝒑p|𝒒q|𝒓r|𝒔s|𝒕t|𝒖u|𝒗v|𝒘w|𝒙x|𝒚y|𝒛z|𝒜a|𝒞c|𝒟d|𝒢g|𝒥j|𝒦k|𝒩n|𝒪o|𝒫p|𝒬q|𝒮s|𝒯t|𝒰u|𝒱v|𝒲w|𝒳x"),
   (0x1D4B4, "𝒴y|𝒵z|𝒶a|𝒷b|𝒸c|𝒹d|𝒻f|𝒽h|𝒾i|𝒿j|𝓀k|𝓁l|𝓂m|𝓃n|𝓅p|𝓆q|𝓇r|𝓈s|𝓉t|𝓊u|𝓋v|𝓌w|𝓍x|𝓎y|𝓏z|𝓐a|𝓑b"),
   (0x1D4D2, "𝓒c|𝓓d|𝓔e|𝓕f|𝓖g|𝓗h|𝓘i|𝓙j|𝓚k|𝓛l|𝓜m|𝓝n|𝓞o|𝓟p|𝓠q|𝓡r|𝓢s|𝓣t|𝓤u|𝓥v|𝓦w|𝓧x|𝓨y|𝓩z|𝓪a|𝓫b|𝓬c"),
   (0x1D4ED, "𝓭d|𝓮e|𝓯f|𝓰g|𝓱h|𝓲i|𝓳j|𝓴k|𝓵l|𝓶m|𝓷n|𝓸o|𝓹p|𝓺q|𝓻r|𝓼s|𝓽t|𝓾u|𝓿v|𝔀w|𝔁x|𝔂y|𝔃z|𝔄a|𝔅b|𝔇d|𝔈e"),
   (0x1D509, "𝔉f|𝔊g|𝔍j|𝔎k|𝔏l|𝔐m|𝔑n|𝔒o|𝔓p|𝔔q|𝔖s|𝔗t|𝔘u|𝔙v|𝔚w|𝔛x|𝔜y|𝔞a|𝔟b|𝔠c|𝔡d|𝔢e|𝔣f|𝔤g|𝔥h|𝔦i|𝔧j"),
   (0x1D528, "𝔨k|𝔩l|𝔪m|𝔫n|𝔬o|𝔭p|𝔮q|𝔯r|𝔰s|𝔱t|𝔲u|𝔳v|𝔴w|𝔵x|𝔶y|𝔷z|𝔸a|𝔹b|𝔻d|𝔼e|𝔽f|𝔾g|𝕀i|𝕁j|𝕂k|𝕃l|𝕄m"),
   (0x1D546, "𝕆o|𝕊s|𝕋t|𝕌u|𝕍v|𝕎w|𝕏x|𝕐y|𝕒a|𝕓b|𝕔c|𝕕d|𝕖e|𝕗f|𝕘g|𝕙h|𝕚i|𝕛j|𝕜k|𝕝l|𝕞m|𝕟n|𝕠o|𝕡p|𝕢q|𝕣r|𝕤s"),
   (0x1D565, "𝕥t|𝕦u|𝕧v|𝕨w|𝕩x|𝕪y|𝕫z|𝕬a|𝕭b|𝕮c|𝕯d|𝕰e|𝕱f|𝕲g|𝕳h|𝕴i|𝕵j|𝕶k|𝕷l|𝕸m|𝕹n|𝕺o|𝕻p|𝕼q|𝕽r|𝕾s|𝕿t"),
   (0x1D580, "𝖀u|𝖁v|𝖂w|𝖃x|𝖄y|𝖅z|𝖆a|𝖇b|𝖈c|𝖉d|𝖊e|𝖋f|𝖌g|𝖍h|𝖎i|𝖏j|𝖐k|𝖑l|𝖒m|𝖓n|𝖔o|𝖕p|𝖖q|𝖗r|𝖘s|𝖙t|𝖚u"),
   (0x1D59B, "𝖛v|𝖜w|𝖝x|𝖞y|𝖟z|𝖠a|𝖡b|𝖢c|𝖣d|𝖤e|𝖥f|𝖦g|𝖧h|𝖨i|𝖩j|𝖪k|𝖫l|𝖬m|𝖭n|𝖮o|𝖯p|𝖰q|𝖱r|𝖲s|𝖳t|𝖴u|𝖵v"),
   (0x1D5B6, "𝖶w|𝖷x|𝖸y|𝖹z|𝖺a|𝖻b|𝖼c|𝖽d|𝖾e|𝖿f|𝗀g|𝗁h|𝗂i|𝗃j|𝗄k|𝗅l|𝗆m|𝗇n|𝗈o|𝗉p|𝗊q|𝗋r|𝗌s|𝗍t|𝗎u|𝗏v|𝗐w"),
   (0x1D5D1, "𝗑x|𝗒y|𝗓z|𝗔a|𝗕b|𝗖c|𝗗d|𝗘e|𝗙f|𝗚g|𝗛h|𝗜i|𝗝j|𝗞k|𝗟l|𝗠m|𝗡n|𝗢o|𝗣p|𝗤q|𝗥r|𝗦s|𝗧t|𝗨u|𝗩v|𝗪w|𝗫x"),
   (0x1D5EC, "𝗬y|𝗭z|𝗮a|𝗯b|𝗰c|𝗱d|𝗲e|𝗳f|𝗴g|𝗵h|𝗶i|𝗷j|𝗸k|𝗹l|𝗺m|𝗻n|𝗼o|𝗽p|𝗾q|𝗿r|𝘀s|𝘁t|𝘂u|𝘃v|𝘄w|𝘅x|𝘆y"),
   (0x1D607, "𝘇z|𝘈a|𝘉b|𝘊c|𝘋d|𝘌e|𝘍f|𝘎g|𝘏h|𝘐i|𝘑j|𝘒k|𝘓l|𝘔m|𝘕n|𝘖o|𝘗p|𝘘q|𝘙r|𝘚s|𝘛t|𝘜u|𝘝v|𝘞w|𝘟x|𝘠y|𝘡z"),
   (0x1D622, "𝘢a|𝘣b|𝘤c|𝘥d|𝘦e|𝘧f|𝘨g|𝘩h|𝘪i|𝘫j|𝘬k|𝘭l|𝘮m|𝘯n|𝘰o|𝘱p|𝘲q|𝘳r|𝘴s|𝘵t|𝘶u|𝘷v|𝘸w|𝘹x|𝘺y|𝘻z|𝘼a"),
   (0x1D63D, "𝘽b|𝘾c|𝘿d|𝙀e|𝙁f|𝙂g|𝙃h|𝙄i|𝙅j|𝙆k|𝙇l|𝙈m|𝙉n|𝙊o|𝙋p|𝙌q|𝙍r|𝙎s|𝙏t|𝙐u|𝙑v|𝙒w|𝙓x|𝙔y|𝙕z|𝙖a|𝙗b"),
   (0x1D658, "𝙘c|𝙙d|𝙚e|𝙛f|𝙜g|𝙝h|𝙞i|𝙟j|𝙠k|𝙡l|𝙢m|𝙣n|𝙤o|𝙥p|𝙦q|𝙧r|𝙨s|𝙩t|𝙪u|𝙫v|𝙬w|𝙭x|𝙮y|𝙯z|𝙰a|𝙱b|𝙲c"),
   (0x1D673, "𝙳d|𝙴e|𝙵f|𝙶g|𝙷h|𝙸i|𝙹j|𝙺k|𝙻l|𝙼m|𝙽n|𝙾o|𝙿p|𝚀q|𝚁r|𝚂s|𝚃t|𝚄u|𝚅v|𝚆w|𝚇x|𝚈y|𝚉z|𝚊a|𝚋b|𝚌c|𝚍d"),
   (0x1D68E, "𝚎e|𝚏f|𝚐g|𝚑h|𝚒i|𝚓j|𝚔k|𝚕l|𝚖m|𝚗n|𝚘o|𝚙p|𝚚q|𝚛r|𝚜s|𝚝t|𝚞u|𝚟v|𝚠w|𝚡x|𝚢y|𝚣z|𝚤ı|𝚥ȷ|𝚨α|𝚩β|𝚪γ"),
   (0x1D6AB, "𝚫δ|𝚬ε|𝚭ζ|𝚮η|𝚯θ|𝚰ι|𝚱κ|𝚲λ|𝚳μ|𝚴ν|𝚵ξ|𝚶ο|𝚷π|𝚸ρ|𝚹θ|𝚺σ|𝚻τ|𝚼υ|𝚽φ|𝚾χ|𝚿ψ|𝛀ω|𝛁∇|𝛂α|𝛃β|𝛄γ|𝛅δ"),
   (0x1D6C6, "𝛆ε|𝛇ζ|𝛈η|𝛉θ|𝛊ι|𝛋κ|𝛌λ|𝛍μ|𝛎ν|𝛏ξ|𝛐ο|𝛑π|𝛒ρ|𝛓σ|𝛔σ|𝛕τ|𝛖υ|𝛗φ|𝛘χ|𝛙ψ|𝛚ω|𝛛∂|𝛜ε|𝛝θ|𝛞κ|𝛟φ|𝛠ρ"),
   (0x1D6E1, "𝛡π|𝛢α|𝛣β|𝛤γ|𝛥δ|𝛦ε|𝛧ζ|𝛨η|𝛩θ|𝛪ι|𝛫κ|𝛬λ|𝛭μ|𝛮ν|𝛯ξ|𝛰ο|𝛱π|𝛲ρ|𝛳θ|𝛴σ|𝛵τ|𝛶υ|𝛷φ|𝛸χ|𝛹ψ|𝛺ω|𝛻∇"),
   (0x1D6FC, "𝛼α|𝛽β|𝛾γ|𝛿δ|𝜀ε|𝜁ζ|𝜂η|𝜃θ|𝜄ι|𝜅κ|𝜆λ|𝜇μ|𝜈ν|𝜉ξ|𝜊ο|𝜋π|𝜌ρ|𝜍σ|𝜎σ|𝜏τ|𝜐υ|𝜑φ|𝜒χ|𝜓ψ|𝜔ω|𝜕∂|𝜖ε"),
   (0x1D717, "𝜗θ|𝜘κ|𝜙φ|𝜚ρ|𝜛π|𝜜α|𝜝β|𝜞γ|𝜟δ|𝜠ε|𝜡ζ|𝜢η|𝜣θ|𝜤ι|𝜥κ|𝜦λ|𝜧μ|𝜨ν|𝜩ξ|𝜪ο|𝜫π|𝜬ρ|𝜭θ|𝜮σ|𝜯τ|𝜰υ|𝜱φ"),
   (0x1D732, "𝜲χ|𝜳ψ|𝜴ω|𝜵∇|𝜶α|𝜷β|𝜸γ|𝜹δ|𝜺ε|𝜻ζ|𝜼η|𝜽θ|𝜾ι|𝜿κ|𝝀λ|𝝁μ|𝝂ν|𝝃ξ|𝝄ο|𝝅π|𝝆ρ|𝝇σ|𝝈σ|𝝉τ|𝝊υ|𝝋φ|𝝌χ"),
   (0x1D74D, "𝝍ψ|𝝎ω|𝝏∂|𝝐ε|𝝑θ|𝝒κ|𝝓φ|𝝔ρ|𝝕π|𝝖α|𝝗β|𝝘γ|𝝙δ|𝝚ε|𝝛ζ|𝝜η|𝝝θ|𝝞ι|𝝟κ|𝝠λ|𝝡μ|𝝢ν|𝝣ξ|𝝤ο|𝝥π|𝝦ρ|𝝧θ"),
   (0x1D768, "𝝨σ|𝝩τ|𝝪υ|𝝫φ|𝝬χ|𝝭ψ|𝝮ω|𝝯∇|𝝰α|𝝱β|𝝲γ|𝝳δ|𝝴ε|𝝵ζ|𝝶η|𝝷θ|𝝸ι|𝝹κ|𝝺λ|𝝻μ|𝝼ν|𝝽ξ|𝝾ο|𝝿π|𝞀ρ|𝞁σ|𝞂σ"),
   (0x1D783, "𝞃τ|𝞄υ|𝞅φ|𝞆χ|𝞇ψ|𝞈ω|𝞉∂|𝞊ε|𝞋θ|𝞌κ|𝞍φ|𝞎ρ|𝞏π|𝞐α|𝞑β|𝞒γ|𝞓δ|𝞔ε|𝞕ζ|𝞖η|𝞗θ|𝞘ι|𝞙κ|𝞚λ|𝞛μ|𝞜ν|𝞝ξ"),
   (0x1D79E, "𝞞ο|𝞟π|𝞠ρ|𝞡θ|𝞢σ|𝞣τ|𝞤υ|𝞥φ|𝞦χ|𝞧ψ|𝞨ω|𝞩∇|𝞪α|𝞫β|𝞬γ|𝞭δ|𝞮ε|𝞯ζ|𝞰η|𝞱θ|𝞲ι|𝞳κ|𝞴λ|𝞵μ|𝞶ν|𝞷ξ|𝞸ο"),
   (0x1D7B9, "𝞹π|𝞺ρ|𝞻σ|𝞼σ|𝞽τ|𝞾υ|𝞿φ|𝟀χ|𝟁ψ|𝟂ω|𝟃∂|𝟄ε|𝟅θ|𝟆κ|𝟇φ|𝟈ρ|𝟉π|𝟊ϝ|𝟋ϝ|𝟎0|𝟏1|𝟐2|𝟑3|𝟒4|𝟓5|𝟔6|𝟕7"),
   (0x1D7D6, "𝟖8|𝟗9|𝟘0|𝟙1|𝟚2|𝟛3|𝟜4|𝟝5|𝟞6|𝟟7|𝟠8|𝟡9|𝟢0|𝟣1|𝟤2|𝟥3|𝟦4|𝟧5|𝟨6|𝟩7|𝟪8|𝟫9|𝟬0|𝟭1|𝟮2|𝟯3|𝟰4"),
   (0x1D7F1, "𝟱5|𝟲6|𝟳7|𝟴8|𝟵9|𝟶0|𝟷1|𝟸2|𝟹3|𝟺4|𝟻5|𝟼6|𝟽7|𝟾8|𝟿9|𞤀𞤢|𞤁𞤣|𞤂𞤤|𞤃𞤥|𞤄𞤦|𞤅𞤧|𞤆𞤨|𞤇𞤩|𞤈𞤪|𞤉𞤫|𞤊𞤬|𞤋𞤭"),
   (0x1E90C, "𞤌𞤮|𞤍𞤯|𞤎𞤰|𞤏𞤱|𞤐𞤲|𞤑𞤳|𞤒𞤴|𞤓𞤵|𞤔𞤶|𞤕𞤷|𞤖𞤸|𞤗𞤹|𞤘𞤺|𞤙𞤻|𞤚𞤼|𞤛𞤽|𞤜𞤾|𞤝𞤿|𞤞𞥀|𞤟𞥁|𞤠𞥂|𞤡𞥃|𞸀ا|𞸁ب|𞸂ج|𞸃د|𞸅و"),
   (0x1EE06, "𞸆ز|𞸇ح|𞸈ط|𞸉ي|𞸊ك|𞸋ل|𞸌م|𞸍ن|𞸎س|𞸏ع|𞸐ف|𞸑ص|𞸒ق|𞸓ر|𞸔ش|𞸕ت|𞸖ث|𞸗خ|𞸘ذ|𞸙ض|𞸚ظ|𞸛غ|𞸜ٮ|𞸝ں|𞸞ڡ|𞸟ٯ|𞸡ب"),
   (0x1EE22, "𞸢ج|𞸤ه|𞸧ح|𞸩ي|𞸪ك|𞸫ل|𞸬م|𞸭ن|𞸮س|𞸯ع|𞸰ف|𞸱ص|𞸲ق|𞸴ش|𞸵ت|𞸶ث|𞸷خ|𞸹ض|𞸻غ|𞹂ج|𞹇ح|𞹉ي|𞹋ل|𞹍ن|𞹎س|𞹏ع|𞹑ص"),
   (0x1EE52, "𞹒ق|𞹔ش|𞹗خ|𞹙ض|𞹛غ|𞹝ں|𞹟ٯ|𞹡ب|𞹢ج|𞹤ه|𞹧ح|𞹨ط|𞹩ي|𞹪ك|𞹬م|𞹭ن|𞹮س|𞹯ع|𞹰ف|𞹱ص|𞹲ق|𞹴ش|𞹵ت|𞹶ث|𞹷خ|𞹹ض|𞹺ظ"),
   (0x1EE7B, "𞹻غ|𞹼ٮ|𞹾ڡ|𞺀ا|𞺁ب|𞺂ج|𞺃د|𞺄ه|𞺅و|𞺆ز|𞺇ح|𞺈ط|𞺉ي|𞺋ل|𞺌م|𞺍ن|𞺎س|𞺏ع|𞺐ف|𞺑ص|𞺒ق|𞺓ر|𞺔ش|𞺕ت|𞺖ث|𞺗خ|𞺘ذ"),
   (0x1EE99, "𞺙ض|𞺚ظ|𞺛غ|𞺡ب|𞺢ج|𞺣د|𞺥و|𞺦ز|𞺧ح|𞺨ط|𞺩ي|𞺫ل|𞺬م|𞺭ن|𞺮س|𞺯ع|𞺰ف|𞺱ص|𞺲ق|𞺳ر|𞺴ش|𞺵ت|𞺶ث|𞺷خ|𞺸ذ|𞺹ض|𞺺ظ"),
   (0x1EEBB, "𞺻غ|🄁0,|🄂1,|🄃2,|🄄3,|🄅4,|🄆5,|🄇6,|🄈7,|🄉8,|🄊9,|🄐(a)|🄑(b)|🄒(c)|🄓(d)|🄔(e)|🄕(f)|🄖(g)"),
   (0x1F117, "🄗(h)|🄘(i)|🄙(j)|🄚(k)|🄛(l)|🄜(m)|🄝(n)|🄞(o)|🄟(p)|🄠(q)|🄡(r)|🄢(s)|🄣(t)|🄤(u)|🄥(v)|🄦(w)"),
   (0x1F127, "🄧(x)|🄨(y)|🄩(z)|🄪〔s〕|🄫c|🄬r|🄭cd|🄮wz|🄰a|🄱b|🄲c|🄳d|🄴e|🄵f|🄶g|🄷h|🄸i|🄹j|🄺k|🄻l|🄼m|🄽n|🄾o"),
   (0x1F13F, "🄿p|🅀q|🅁r|🅂s|🅃t|🅄u|🅅v|🅆w|🅇x|🅈y|🅉z|🅊hv|🅋mv|🅌sd|🅍ss|🅎ppv|🅏wc|🅪mc|🅫md|🅬mr|🆐dj|🈀ほか"),
   (0x1F201, "🈁ココ|🈂サ|🈐手|🈑字|🈒双|🈓デ|🈔二|🈕多|🈖解|🈗天|🈘交|🈙映|🈚無|🈛料|🈜前|🈝後|🈞再|🈟新|🈠初|🈡終|🈢生|🈣販|🈤声|🈥吹|🈦演|🈧投"),
   (0x1F228, "🈨捕|🈩一|🈪三|🈫遊|🈬左|🈭中|🈮右|🈯指|🈰走|🈱打|🈲禁|🈳空|🈴合|🈵満|🈶有|🈷月|🈸申|🈹割|🈺営|🈻配|🉀〔本〕|🉁〔三〕|🉂〔二〕|🉃〔安〕"),
   (0x1F244, "🉄〔点〕|🉅〔打〕|🉆〔盗〕|🉇〔勝〕|🉈〔敗〕|🉐得|🉑可|🯰0|🯱1|🯲2|🯳3|🯴4|🯵5|🯶6|🯷7|🯸8|🯹9|丽丽|丸丸|乁乁|𠄢𠄢|你你|侮侮"),
   (0x2F806, "侻侻|倂倂|偺偺|備備|僧僧|像像|㒞㒞|𠘺𠘺|免免|兔兔|兤兤|具具|𠔜𠔜|㒹㒹|內內|再再|𠕋𠕋|冗冗|冤冤|仌仌|冬冬|况况|𩇟𩇟|凵凵|刃刃|㓟㓟|刻刻"),
   (0x2F821, "剆剆|割割|剷剷|㔕㔕|勇勇|勉勉|勤勤|勺勺|包包|匆匆|北北|卉卉|卑卑|博博|即即|卽卽|卿卿|卿卿|卿卿|𠨬𠨬|灰灰|及及|叟叟|𠭣𠭣|叫叫|叱叱|吆吆"),
   (0x2F83C, "咞咞|吸吸|呈呈|周周|咢咢|哶哶|唐唐|啓啓|啣啣|善善|善善|喙喙|喫喫|喳喳|嗂嗂|圖圖|嘆嘆|圗圗|噑噑|噴噴|切切|壮壮|城城|埴埴|堍堍|型型|堲堲"),
   (0x2F857, "報報|墬墬|𡓤𡓤|売売|壷壷|夆夆|多多|夢夢|奢奢|𡚨𡚨|𡛪𡛪|姬姬|娛娛|娧娧|姘姘|婦婦|㛮㛮|嬈嬈|嬾嬾|嬾嬾|𡧈𡧈|寃寃|寘寘|寧寧|寳寳|𡬘𡬘|寿寿"),
   (0x2F873, "将将|尢尢|㞁㞁|屠屠|屮屮|峀峀|岍岍|𡷤𡷤|嵃嵃|𡷦𡷦|嵮嵮|嵫嵫|嵼嵼|巡巡|巢巢|㠯㠯|巽巽|帨帨|帽帽|幩幩|㡢㡢|𢆃𢆃|㡼㡼|庰庰|庳庳|庶庶|廊廊"),
   (0x2F88F, "𪎒𪎒|廾廾|𢌱𢌱|𢌱𢌱|舁舁|弢弢|弢弢|㣇㣇|𣊸𣊸|𦇚𦇚|形形|彫彫|㣣㣣|徚徚|忍忍|志志|忹忹|悁悁|㤺㤺|㤜㤜|悔悔|𢛔𢛔|惇惇|慈慈|慌慌|慎慎|慌慌"),
   (0x2F8AA, "慺慺|憎憎|憲憲|憤憤|憯憯|懞懞|懲懲|懶懶|成成|戛戛|扝扝|抱抱|拔拔|捐捐|𢬌𢬌|挽挽|拼拼|捨捨|掃掃|揤揤|𢯱𢯱|搢搢|揅揅|掩掩|㨮㨮|摩摩|摾摾"),
   (0x2F8C5, "撝撝|摷摷|㩬㩬|敏敏|敬敬|𣀊𣀊|旣旣|書書|晉晉|㬙㬙|暑暑|㬈㬈|㫤㫤|冒冒|冕冕|最最|暜暜|肭肭|䏙䏙|朗朗|望望|朡朡|杞杞|杓杓|𣏃𣏃|㭉㭉|柺柺"),
   (0x2F8E0, "枅枅|桒桒|梅梅|𣑭𣑭|梎梎|栟栟|椔椔|㮝㮝|楂楂|榣榣|槪槪|檨檨|𣚣𣚣|櫛櫛|㰘㰘|次次|𣢧𣢧|歔歔|㱎㱎|歲歲|殟殟|殺殺|殻殻|𣪍𣪍|𡴋𡴋|𣫺𣫺|汎汎"),
   (0x2F8FB, "𣲼𣲼|沿沿|泍泍|汧汧|洖洖|派派|海海|流流|浩浩|浸浸|涅涅|𣴞𣴞|洴洴|港港|湮湮|㴳㴳|滋滋|滇滇|𣻑𣻑|淹淹|潮潮|𣽞𣽞|𣾎𣾎|濆濆|瀹瀹|瀞瀞|瀛瀛"),
   (0x2F916, "㶖㶖|灊灊|災災|灷灷|炭炭|𠔥𠔥|煅煅|𤉣𤉣|熜熜|爨爨|爵爵|牐牐|𤘈𤘈|犀犀|犕犕|𤜵𤜵|𤠔𤠔|獺獺|王王|㺬㺬|玥玥|㺸㺸|㺸㺸|瑇瑇|瑜瑜|瑱瑱|璅璅"),
   (0x2F932, "瓊瓊|㼛㼛|甤甤|𤰶𤰶|甾甾|𤲒𤲒|異異|𢆟𢆟|瘐瘐|𤾡𤾡|𤾸𤾸|𥁄𥁄|㿼㿼|䀈䀈|直直|𥃳𥃳|𥃲𥃲|𥄙𥄙|𥄳𥄳|眞眞|真真|真真|睊睊|䀹䀹|瞋瞋|䁆䁆|䂖䂖"),
   (0x2F94D, "𥐝𥐝|硎硎|碌碌|磌磌|䃣䃣|𥘦𥘦|祖祖|𥚚𥚚|𥛅𥛅|福福|秫秫|䄯䄯|穀穀|穊穊|穏穏|𥥼𥥼|𥪧𥪧|𥪧𥪧|䈂䈂|𥮫𥮫|篆篆|築築|䈧䈧|𥲀𥲀|糒糒|䊠䊠|糨糨"),
   (0x2F969, "糣糣|紀紀|𥾆𥾆|絣絣|䌁䌁|緇緇|縂縂|繅繅|䌴䌴|𦈨𦈨|𦉇𦉇|䍙䍙|𦋙𦋙|罺罺|𦌾𦌾|羕羕|翺翺|者者|𦓚𦓚|𦔣𦔣|聠聠|𦖨𦖨|聰聰|𣍟𣍟|䏕䏕|育育|脃脃"),
   (0x2F984, "䐋䐋|脾脾|媵媵|𦞧𦞧|𦞵𦞵|𣎓𣎓|𣎜𣎜|舁舁|舄舄|辞辞|䑫䑫|芑芑|芋芋|芝芝|劳劳|花花|芳芳|芽芽|苦苦|𦬼𦬼|若若|茝茝|荣荣|莭莭|茣茣|莽莽|菧菧"),
   (0x2F99F, "著著|荓荓|菊菊|菌菌|菜菜|𦰶𦰶|𦵫𦵫|𦳕𦳕|䔫䔫|蓱蓱|蓳蓳|蔖蔖|𧏊𧏊|蕤蕤|𦼬𦼬|䕝䕝|䕡䕡|𦾱𦾱|𧃒𧃒|䕫䕫|虐虐|虜虜|虧虧|虩虩|蚩蚩|蚈蚈|蜎蜎"),
   (0x2F9BA, "蛢蛢|蝹蝹|蜨蜨|蝫蝫|螆螆|蟡蟡|蠁蠁|䗹䗹|衠衠|衣衣|𧙧𧙧|裗裗|裞裞|䘵䘵|裺裺|㒻㒻|𧢮𧢮|𧥦𧥦|䚾䚾|䛇䛇|誠誠|諭諭|變變|豕豕|𧲨𧲨|貫貫|賁賁"),
   (0x2F9D6, "贛贛|起起|𧼯𧼯|𠠄𠠄|跋跋|趼趼|跰跰|𠣞𠣞|軔軔|輸輸|𨗒𨗒|𨗭𨗭|邔邔|郱郱|鄑鄑|𨜮𨜮|鄛鄛|鈸鈸|鋗鋗|鋘鋘|鉼鉼|鏹鏹|鐕鐕|𨯺𨯺|開開|䦕䦕|閷閷"),
   (0x2F9F1, "𨵷𨵷|䧦䧦|雃雃|嶲嶲|霣霣|𩅅𩅅|𩈚𩈚|䩮䩮|䩶䩶|韠韠|𩐊𩐊|䪲䪲|𩒖𩒖|頋頋|頋頋|頩頩|𩖶𩖶|飢飢|䬳䬳|餩餩|馧馧|駂駂|駾駾|䯎䯎|𩬰𩬰|鬒鬒|鱀鱀"),
   (0x2FA0C, "鳽鳽|䳎䳎|䳭䳭|鵧鵧|𪃎𪃎|䳸䳸|𪄅𪄅|𪈎𪈎|𪊑𪊑|麻麻|䵖䵖|黹黹|黾黾|鼅鼅|鼏鼏|鼖鼖|鼻鼻|𪘀𪘀")]

/-- The full-width forms of the visible ASCII characters; they keep the order of those. -/
def isFullWidth (c : Char) : Bool :=
  0xFF01 ≤ c.toNat && c.toNat ≤ 0xFF5E

/-- What a character of a host name stands for; none if no host name may hold it. -/
def mapCharacter? (c : Char) : Option (List Char) :=
  if c.toNat < 128 then some [c.toLower]
  else if isFullWidth c then some [(Char.ofNat (c.toNat - 0xFEE0)).toLower]
  else if ignoredRanges.has c then some []
  else match mappings.image? c with
    | some image => some image
    | none => if disallowedRanges.has c then none else some [c]

/-- Maps a whole host name; none if it holds a refused character. -/
def mapCharacters? : List Char → Option (List Char)
  | [] => some []
  | c :: rest => do return (← mapCharacter? c) ++ (← mapCharacters? rest)

/-- The character stands for itself. -/
def isPlain (c : Char) : Bool :=
  mapCharacter? c == some [c]

example : ignoredRanges.ascending ∧ disallowedRanges.ascending := by decide +kernel

example : mapCharacters? "A\uff22\u00ad\u00c7\u00df".toList = some "ab\u00e7\u00df".toList ∧
    mapCharacter? '\u0378' = none ∧ isPlain '\u00e7' ∧ ¬isPlain '\u00c7' := by decide +kernel

end AccountStore.Email
