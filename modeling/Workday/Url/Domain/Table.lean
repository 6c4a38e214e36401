import Workday.Text

/-!
# Characters of domain names

What becomes of a character of a domain name before it is looked up: it is kept, left out,
replaced, or the name is refused. Upper case, compatibility forms and the other full stops are
replaced. These are the tables of the standard for internationalized names in applications
(UTS 46, without the transitional rules); replacements are listed for the blocks up to the general
symbols and for the half and full width forms.
-/

set_option autoImplicit false

namespace Workday.Url.Domain

open Workday.Text (Runs)

/-- Characters that no domain name holds. -/
def refused : Runs := ⟨[
  0x80, 0xA0, 0x378, 0x37A, 0x380, 0x384, 0x38B, 0x38C, 0x38D, 0x38E, 0x3A2, 0x3A3, 0x530, 0x531,
  0x557, 0x559, 0x58B, 0x58D, 0x590, 0x591, 0x5C8, 0x5D0, 0x5EB, 0x5EF, 0x5F5, 0x606, 0x61C,
  0x61D, 0x6DD, 0x6DE, 0x70E, 0x710, 0x74B, 0x74D, 0x7B2, 0x7C0, 0x7FB, 0x7FD, 0x82E, 0x830,
  0x83F, 0x840, 0x85C, 0x85E, 0x85F, 0x860, 0x86B, 0x870, 0x890, 0x897, 0x8E2, 0x8E3, 0x984,
  0x985, 0x98D, 0x98F, 0x991, 0x993, 0x9A9, 0x9AA, 0x9B1, 0x9B2, 0x9B3, 0x9B6, 0x9BA, 0x9BC,
  0x9C5, 0x9C7, 0x9C9, 0x9CB, 0x9CF, 0x9D7, 0x9D8, 0x9DC, 0x9DE, 0x9DF, 0x9E4, 0x9E6, 0x9FF,
  0xA01, 0xA04, 0xA05, 0xA0B, 0xA0F, 0xA11, 0xA13, 0xA29, 0xA2A, 0xA31, 0xA32, 0xA34, 0xA35,
  0xA37, 0xA38, 0xA3A, 0xA3C, 0xA3D, 0xA3E, 0xA43, 0xA47, 0xA49, 0xA4B, 0xA4E, 0xA51, 0xA52,
  0xA59, 0xA5D, 0xA5E, 0xA5F, 0xA66, 0xA77, 0xA81, 0xA84, 0xA85, 0xA8E, 0xA8F, 0xA92, 0xA93,
  0xAA9, 0xAAA, 0xAB1, 0xAB2, 0xAB4, 0xAB5, 0xABA, 0xABC, 0xAC6, 0xAC7, 0xACA, 0xACB, 0xACE,
  0xAD0, 0xAD1, 0xAE0, 0xAE4, 0xAE6, 0xAF2, 0xAF9, 0xB00, 0xB01, 0xB04, 0xB05, 0xB0D, 0xB0F,
  0xB11, 0xB13, 0xB29, 0xB2A, 0xB31, 0xB32, 0xB34, 0xB35, 0xB3A, 0xB3C, 0xB45, 0xB47, 0xB49,
  0xB4B, 0xB4E, 0xB55, 0xB58, 0xB5C, 0xB5E, 0xB5F, 0xB64, 0xB66, 0xB78, 0xB82, 0xB84, 0xB85,
  0xB8B, 0xB8E, 0xB91, 0xB92, 0xB96, 0xB99, 0xB9B, 0xB9C, 0xB9D, 0xB9E, 0xBA0, 0xBA3, 0xBA5,
  0xBA8, 0xBAB, 0xBAE, 0xBBA, 0xBBE, 0xBC3, 0xBC6, 0xBC9, 0xBCA, 0xBCE, 0xBD0, 0xBD1, 0xBD7,
  0xBD8, 0xBE6, 0xBFB, 0xC00, 0xC0D, 0xC0E, 0xC11, 0xC12, 0xC29, 0xC2A, 0xC3A, 0xC3C, 0xC45,
  0xC46, 0xC49, 0xC4A, 0xC4E, 0xC55, 0xC57, 0xC58, 0xC5B, 0xC5C, 0xC5E, 0xC60, 0xC64, 0xC66,
  0xC70, 0xC77, 0xC8D, 0xC8E, 0xC91, 0xC92, 0xCA9, 0xCAA, 0xCB4, 0xCB5, 0xCBA, 0xCBC, 0xCC5,
  0xCC6, 0xCC9, 0xCCA, 0xCCE, 0xCD5, 0xCD7, 0xCDC, 0xCDF, 0xCE0, 0xCE4, 0xCE6, 0xCF0, 0xCF1,
  0xCF4, 0xD00, 0xD0D, 0xD0E, 0xD11, 0xD12, 0xD45, 0xD46, 0xD49, 0xD4A, 0xD50, 0xD54, 0xD64,
  0xD66, 0xD80, 0xD81, 0xD84, 0xD85, 0xD97, 0xD9A, 0xDB2, 0xDB3, 0xDBC, 0xDBD, 0xDBE, 0xDC0,
  0xDC7, 0xDCA, 0xDCB, 0xDCF, 0xDD5, 0xDD6, 0xDD7, 0xDD8, 0xDE0, 0xDE6, 0xDF0, 0xDF2, 0xDF5,
  0xE01, 0xE3B, 0xE3F, 0xE5C, 0xE81, 0xE83, 0xE84, 0xE85, 0xE86, 0xE8B, 0xE8C, 0xEA4, 0xEA5,
  0xEA6, 0xEA7, 0xEBE, 0xEC0, 0xEC5, 0xEC6, 0xEC7, 0xEC8, 0xECF, 0xED0, 0xEDA, 0xEDC, 0xEE0,
  0xF00, 0xF48, 0xF49, 0xF6D, 0xF71, 0xF98, 0xF99, 0xFBD, 0xFBE, 0xFCD, 0xFCE, 0xFDB, 0x1000,
  0x10C6, 0x10C7, 0x10C8, 0x10CD, 0x10CE, 0x10D0, 0x1249, 0x124A, 0x124E, 0x1250, 0x1257, 0x1258,
  0x1259, 0x125A, 0x125E, 0x1260, 0x1289, 0x128A, 0x128E, 0x1290, 0x12B1, 0x12B2, 0x12B6, 0x12B8,
  0x12BF, 0x12C0, 0x12C1, 0x12C2, 0x12C6, 0x12C8, 0x12D7, 0x12D8, 0x1311, 0x1312, 0x1316, 0x1318,
  0x135B, 0x135D, 0x137D, 0x1380, 0x139A, 0x13A0, 0x13F6, 0x13F8, 0x13FE, 0x1400, 0x1680, 0x1681,
  0x169D, 0x16A0, 0x16F9, 0x1700, 0x1716, 0x171F, 0x1737, 0x1740, 0x1754, 0x1760, 0x176D, 0x176E,
  0x1771, 0x1772, 0x1774, 0x1780, 0x17DE, 0x17E0, 0x17EA, 0x17F0, 0x17FA, 0x1800, 0x181A, 0x1820,
  0x1879, 0x1880, 0x18AB, 0x18B0, 0x18F6, 0x1900, 0x191F, 0x1920, 0x192C, 0x1930, 0x193C, 0x1940,
  0x1941, 0x1944, 0x196E, 0x1970, 0x1975, 0x1980, 0x19AC, 0x19B0, 0x19CA, 0x19D0, 0x19DB, 0x19DE,
  0x1A1C, 0x1A1E, 0x1A5F, 0x1A60, 0x1A7D, 0x1A7F, 0x1A8A, 0x1A90, 0x1A9A, 0x1AA0, 0x1AAE, 0x1AB0,
  0x1ADE, 0x1AE0, 0x1AEC, 0x1B00, 0x1B4D, 0x1B4E, 0x1BF4, 0x1BFC, 0x1C38, 0x1C3B, 0x1C4A, 0x1C4D,
  0x1C8B, 0x1C90, 0x1CBB, 0x1CBD, 0x1CC8, 0x1CD0, 0x1CFB, 0x1D00, 0x1F16, 0x1F18, 0x1F1E, 0x1F20,
  0x1F46, 0x1F48, 0x1F4E, 0x1F50, 0x1F58, 0x1F59, 0x1F5A, 0x1F5B, 0x1F5C, 0x1F5D, 0x1F5E, 0x1F5F,
  0x1F7E, 0x1F80, 0x1FB5, 0x1FB6, 0x1FC5, 0x1FC6, 0x1FD4, 0x1FD6, 0x1FDC, 0x1FDD, 0x1FF0, 0x1FF2,
  0x1FF5, 0x1FF6, 0x1FFF, 0x2000, 0x200E, 0x2010, 0x2024, 0x2027, 0x2028, 0x202F, 0x2065, 0x206A,
  0x2072, 0x2074, 0x208F, 0x2090, 0x209D, 0x20A0, 0x20C2, 0x20D0, 0x20F1, 0x2100, 0x218C, 0x2190,
  0x242A, 0x2440, 0x244B, 0x2460, 0x2488, 0x249C, 0x2B74, 0x2B76, 0x2CF4, 0x2CF9, 0x2D26, 0x2D27,
  0x2D28, 0x2D2D, 0x2D2E, 0x2D30, 0x2D68, 0x2D6F, 0x2D71, 0x2D7F, 0x2D97, 0x2DA0, 0x2DA7, 0x2DA8,
  0x2DAF, 0x2DB0, 0x2DB7, 0x2DB8, 0x2DBF, 0x2DC0, 0x2DC7, 0x2DC8, 0x2DCF, 0x2DD0, 0x2DD7, 0x2DD8,
  0x2DDF, 0x2DE0, 0x2E5E, 0x2E80, 0x2E9A, 0x2E9B, 0x2EF4, 0x2F00, 0x2FD6, 0x3000, 0x3040, 0x3041,
  0x3097, 0x3099, 0x3100, 0x3105, 0x3130, 0x3131, 0x318F, 0x3190, 0x31E6, 0x31F0, 0x321F, 0x3220,
  0x33C2, 0x33C3, 0x33C7, 0x33C8, 0x33D8, 0x33D9, 0xA48D, 0xA490, 0xA4C7, 0xA4D0, 0xA62C, 0xA640,
  0xA6F8, 0xA700, 0xA7DD, 0xA7F1, 0xA82D, 0xA830, 0xA83A, 0xA840, 0xA878, 0xA880, 0xA8C6, 0xA8CE,
  0xA8DA, 0xA8E0, 0xA954, 0xA95F, 0xA97D, 0xA980, 0xA9CE, 0xA9CF, 0xA9DA, 0xA9DE, 0xA9FF, 0xAA00,
  0xAA37, 0xAA40, 0xAA4E, 0xAA50, 0xAA5A, 0xAA5C, 0xAAC3, 0xAADB, 0xAAF7, 0xAB01, 0xAB07, 0xAB09,
  0xAB0F, 0xAB11, 0xAB17, 0xAB20, 0xAB27, 0xAB28, 0xAB2F, 0xAB30, 0xAB6C, 0xAB70, 0xABEE, 0xABF0,
  0xABFA, 0xAC00, 0xD7A4, 0xD7B0, 0xD7C7, 0xD7CB, 0xD7FC, 0xF900, 0xFA6E, 0xFA70, 0xFADA, 0xFB00,
  0xFB07, 0xFB13, 0xFB18, 0xFB1D, 0xFB37, 0xFB38, 0xFB3D, 0xFB3E, 0xFB3F, 0xFB40, 0xFB42, 0xFB43,
  0xFB45, 0xFB46, 0xFDD0, 0xFDF0, 0xFE12, 0xFE13, 0xFE19, 0xFE20, 0xFE30, 0xFE31, 0xFE52, 0xFE54,
  0xFE67, 0xFE68, 0xFE6C, 0xFE70, 0xFE75, 0xFE76, 0xFEFD, 0xFEFF, 0xFF00, 0xFF01, 0xFFBF, 0xFFC2,
  0xFFC8, 0xFFCA, 0xFFD0, 0xFFD2, 0xFFD8, 0xFFDA, 0xFFDD, 0xFFE0, 0xFFE7, 0xFFE8, 0xFFEF,
  0x10000, 0x1000C, 0x1000D, 0x10027, 0x10028, 0x1003B, 0x1003C, 0x1003E, 0x1003F, 0x1004E,
  0x10050, 0x1005E, 0x10080, 0x100FB, 0x10100, 0x10103, 0x10107, 0x10134, 0x10137, 0x1018F,
  0x10190, 0x1019D, 0x101A0, 0x101A1, 0x101D0, 0x101FE, 0x10280, 0x1029D, 0x102A0, 0x102D1,
  0x102E0, 0x102FC, 0x10300, 0x10324, 0x1032D, 0x1034B, 0x10350, 0x1037B, 0x10380, 0x1039E,
  0x1039F, 0x103C4, 0x103C8, 0x103D6, 0x10400, 0x1049E, 0x104A0, 0x104AA, 0x104B0, 0x104D4,
  0x104D8, 0x104FC, 0x10500, 0x10528, 0x10530, 0x10564, 0x1056F, 0x1057B, 0x1057C, 0x1058B,
  0x1058C, 0x10593, 0x10594, 0x10596, 0x10597, 0x105A2, 0x105A3, 0x105B2, 0x105B3, 0x105BA,
  0x105BB, 0x105BD, 0x105C0, 0x105F4, 0x10600, 0x10737, 0x10740, 0x10756, 0x10760, 0x10768,
  0x10780, 0x10786, 0x10787, 0x107B1, 0x107B2, 0x107BB, 0x10800, 0x10806, 0x10808, 0x10809,
  0x1080A, 0x10836, 0x10837, 0x10839, 0x1083C, 0x1083D, 0x1083F, 0x10856, 0x10857, 0x1089F,
  0x108A7, 0x108B0, 0x108E0, 0x108F3, 0x108F4, 0x108F6, 0x108FB, 0x1091C, 0x1091F, 0x1093A,
  0x1093F, 0x1095A, 0x10980, 0x109B8, 0x109BC, 0x109D0, 0x109D2, 0x10A04, 0x10A05, 0x10A07,
  0x10A0C, 0x10A14, 0x10A15, 0x10A18, 0x10A19, 0x10A36, 0x10A38, 0x10A3B, 0x10A3F, 0x10A49,
  0x10A50, 0x10A59, 0x10A60, 0x10AA0, 0x10AC0, 0x10AE7, 0x10AEB, 0x10AF7, 0x10B00, 0x10B36,
  0x10B39, 0x10B56, 0x10B58, 0x10B73, 0x10B78, 0x10B92, 0x10B99, 0x10B9D, 0x10BA9, 0x10BB0,
  0x10C00, 0x10C49, 0x10C80, 0x10CB3, 0x10CC0, 0x10CF3, 0x10CFA, 0x10D28, 0x10D30, 0x10D3A,
  0x10D40, 0x10D66, 0x10D69, 0x10D86, 0x10D8E, 0x10D90, 0x10E60, 0x10E7F, 0x10E80, 0x10EAA,
  0x10EAB, 0x10EAE, 0x10EB0, 0x10EB2, 0x10EC2, 0x10EC8, 0x10ED0, 0x10ED9, 0x10EFA, 0x10F28,
  0x10F30, 0x10F5A, 0x10F70, 0x10F8A, 0x10FB0, 0x10FCC, 0x10FE0, 0x10FF7, 0x11000, 0x1104E,
  0x11052, 0x11076, 0x1107F, 0x110BD, 0x110BE, 0x110C3, 0x110D0, 0x110E9, 0x110F0, 0x110FA,
  0x11100, 0x11135, 0x11136, 0x11148, 0x11150, 0x11177, 0x11180, 0x111E0, 0x111E1, 0x111F5,
  0x11200, 0x11212, 0x11213, 0x11242, 0x11280, 0x11287, 0x11288, 0x11289, 0x1128A, 0x1128E,
  0x1128F, 0x1129E, 0x1129F, 0x112AA, 0x112B0, 0x112EB, 0x112F0, 0x112FA, 0x11300, 0x11304,
  0x11305, 0x1130D, 0x1130F, 0x11311, 0x11313, 0x11329, 0x1132A, 0x11331, 0x11332, 0x11334,
  0x11335, 0x1133A, 0x1133B, 0x11345, 0x11347, 0x11349, 0x1134B, 0x1134E, 0x11350, 0x11351,
  0x11357, 0x11358, 0x1135D, 0x11364, 0x11366, 0x1136D, 0x11370, 0x11375, 0x11380, 0x1138A,
  0x1138B, 0x1138C, 0x1138E, 0x1138F, 0x11390, 0x113B6, 0x113B7, 0x113C1, 0x113C2, 0x113C3,
  0x113C5, 0x113C6, 0x113C7, 0x113CB, 0x113CC, 0x113D6, 0x113D7, 0x113D9, 0x113E1, 0x113E3,
  0x11400, 0x1145C, 0x1145D, 0x11462, 0x11480, 0x114C8, 0x114D0, 0x114DA, 0x11580, 0x115B6,
  0x115B8, 0x115DE, 0x11600, 0x11645, 0x11650, 0x1165A, 0x11660, 0x1166D, 0x11680, 0x116BA,
  0x116C0, 0x116CA, 0x116D0, 0x116E4, 0x11700, 0x1171B, 0x1171D, 0x1172C, 0x11730, 0x11747,
  0x11800, 0x1183C, 0x118A0, 0x118F3, 0x118FF, 0x11907, 0x11909, 0x1190A, 0x1190C, 0x11914,
  0x11915, 0x11917, 0x11918, 0x11936, 0x11937, 0x11939, 0x1193B, 0x11947, 0x11950, 0x1195A,
  0x119A0, 0x119A8, 0x119AA, 0x119D8, 0x119DA, 0x119E5, 0x11A00, 0x11A48, 0x11A50, 0x11AA3,
  0x11AB0, 0x11AF9, 0x11B00, 0x11B0A, 0x11B60, 0x11B68, 0x11BC0, 0x11BE2, 0x11BF0, 0x11BFA,
  0x11C00, 0x11C09, 0x11C0A, 0x11C37, 0x11C38, 0x11C46, 0x11C50, 0x11C6D, 0x11C70, 0x11C90,
  0x11C92, 0x11CA8, 0x11CA9, 0x11CB7, 0x11D00, 0x11D07, 0x11D08, 0x11D0A, 0x11D0B, 0x11D37,
  0x11D3A, 0x11D3B, 0x11D3C, 0x11D3E, 0x11D3F, 0x11D48, 0x11D50, 0x11D5A, 0x11D60, 0x11D66,
  0x11D67, 0x11D69, 0x11D6A, 0x11D8F, 0x11D90, 0x11D92, 0x11D93, 0x11D99, 0x11DA0, 0x11DAA,
  0x11DB0, 0x11DDC, 0x11DE0, 0x11DEA, 0x11EE0, 0x11EF9, 0x11F00, 0x11F11, 0x11F12, 0x11F3B,
  0x11F3E, 0x11F5B, 0x11FB0, 0x11FB1, 0x11FC0, 0x11FF2, 0x11FFF, 0x1239A, 0x12400, 0x1246F,
  0x12470, 0x12475, 0x12480, 0x12544, 0x12F90, 0x12FF3, 0x13000, 0x13430, 0x13440, 0x13456,
  0x13460, 0x143FB, 0x14400, 0x14647, 0x16100, 0x1613A, 0x16800, 0x16A39, 0x16A40, 0x16A5F,
  0x16A60, 0x16A6A, 0x16A6E, 0x16ABF, 0x16AC0, 0x16ACA, 0x16AD0, 0x16AEE, 0x16AF0, 0x16AF6,
  0x16B00, 0x16B46, 0x16B50, 0x16B5A, 0x16B5B, 0x16B62, 0x16B63, 0x16B78, 0x16B7D, 0x16B90,
  0x16D40, 0x16D7A, 0x16E40, 0x16E9B, 0x16EA0, 0x16EB9, 0x16EBB, 0x16ED4, 0x16F00, 0x16F4B,
  0x16F4F, 0x16F88, 0x16F8F, 0x16FA0, 0x16FE0, 0x16FE5, 0x16FF0, 0x16FF7, 0x17000, 0x18CD6,
  0x18CFF, 0x18D1F, 0x18D80, 0x18DF3, 0x1AFF0, 0x1AFF4, 0x1AFF5, 0x1AFFC, 0x1AFFD, 0x1AFFF,
  0x1B000, 0x1B123, 0x1B132, 0x1B133, 0x1B150, 0x1B153, 0x1B155, 0x1B156, 0x1B164, 0x1B168,
  0x1B170, 0x1B2FC, 0x1BC00, 0x1BC6B, 0x1BC70, 0x1BC7D, 0x1BC80, 0x1BC89, 0x1BC90, 0x1BC9A,
  0x1BC9C, 0x1BCA4, 0x1CC00, 0x1CCFD, 0x1CD00, 0x1CEB4, 0x1CEBA, 0x1CED1, 0x1CEE0, 0x1CEF1,
  0x1CF00, 0x1CF2E, 0x1CF30, 0x1CF47, 0x1CF50, 0x1CFC4, 0x1D000, 0x1D0F6, 0x1D100, 0x1D127,
  0x1D129, 0x1D1EB, 0x1D200, 0x1D246, 0x1D2C0, 0x1D2D4, 0x1D2E0, 0x1D2F4, 0x1D300, 0x1D357,
  0x1D360, 0x1D379, 0x1D400, 0x1D455, 0x1D456, 0x1D49D, 0x1D49E, 0x1D4A0, 0x1D4A2, 0x1D4A3,
  0x1D4A5, 0x1D4A7, 0x1D4A9, 0x1D4AD, 0x1D4AE, 0x1D4BA, 0x1D4BB, 0x1D4BC, 0x1D4BD, 0x1D4C4,
  0x1D4C5, 0x1D506, 0x1D507, 0x1D50B, 0x1D50D, 0x1D515, 0x1D516, 0x1D51D, 0x1D51E, 0x1D53A,
  0x1D53B, 0x1D53F, 0x1D540, 0x1D545, 0x1D546, 0x1D547, 0x1D54A, 0x1D551, 0x1D552, 0x1D6A6,
  0x1D6A8, 0x1D7CC, 0x1D7CE, 0x1DA8C, 0x1DA9B, 0x1DAA0, 0x1DAA1, 0x1DAB0, 0x1DF00, 0x1DF1F,
  0x1DF25, 0x1DF2B, 0x1E000, 0x1E007, 0x1E008, 0x1E019, 0x1E01B, 0x1E022, 0x1E023, 0x1E025,
  0x1E026, 0x1E02B, 0x1E030, 0x1E06E, 0x1E08F, 0x1E090, 0x1E100, 0x1E12D, 0x1E130, 0x1E13E,
  0x1E140, 0x1E14A, 0x1E14E, 0x1E150, 0x1E290, 0x1E2AF, 0x1E2C0, 0x1E2FA, 0x1E2FF, 0x1E300,
  0x1E4D0, 0x1E4FA, 0x1E5D0, 0x1E5FB, 0x1E5FF, 0x1E600, 0x1E6C0, 0x1E6DF, 0x1E6E0, 0x1E6F6,
  0x1E6FE, 0x1E700, 0x1E7E0, 0x1E7E7, 0x1E7E8, 0x1E7EC, 0x1E7ED, 0x1E7EF, 0x1E7F0, 0x1E7FF,
  0x1E800, 0x1E8C5, 0x1E8C7, 0x1E8D7, 0x1E900, 0x1E94C, 0x1E950, 0x1E95A, 0x1E95E, 0x1E960,
  0x1EC71, 0x1ECB5, 0x1ED01, 0x1ED3E, 0x1EE00, 0x1EE04, 0x1EE05, 0x1EE20, 0x1EE21, 0x1EE23,
  0x1EE24, 0x1EE25, 0x1EE27, 0x1EE28, 0x1EE29, 0x1EE33, 0x1EE34, 0x1EE38, 0x1EE39, 0x1EE3A,
  0x1EE3B, 0x1EE3C, 0x1EE42, 0x1EE43, 0x1EE47, 0x1EE48, 0x1EE49, 0x1EE4A, 0x1EE4B, 0x1EE4C,
  0x1EE4D, 0x1EE50, 0x1EE51, 0x1EE53, 0x1EE54, 0x1EE55, 0x1EE57, 0x1EE58, 0x1EE59, 0x1EE5A,
  0x1EE5B, 0x1EE5C, 0x1EE5D, 0x1EE5E, 0x1EE5F, 0x1EE60, 0x1EE61, 0x1EE63, 0x1EE64, 0x1EE65,
  0x1EE67, 0x1EE6B, 0x1EE6C, 0x1EE73, 0x1EE74, 0x1EE78, 0x1EE79, 0x1EE7D, 0x1EE7E, 0x1EE7F,
  0x1EE80, 0x1EE8A, 0x1EE8B, 0x1EE9C, 0x1EEA1, 0x1EEA4, 0x1EEA5, 0x1EEAA, 0x1EEAB, 0x1EEBC,
  0x1EEF0, 0x1EEF2, 0x1F000, 0x1F02C, 0x1F030, 0x1F094, 0x1F0A0, 0x1F0AF, 0x1F0B1, 0x1F0C0,
  0x1F0C1, 0x1F0D0, 0x1F0D1, 0x1F0F6, 0x1F101, 0x1F1AE, 0x1F1E6, 0x1F203, 0x1F210, 0x1F23C,
  0x1F240, 0x1F249, 0x1F250, 0x1F252, 0x1F260, 0x1F266, 0x1F300, 0x1F6D9, 0x1F6DC, 0x1F6ED,
  0x1F6F0, 0x1F6FD, 0x1F700, 0x1F7DA, 0x1F7E0, 0x1F7EC, 0x1F7F0, 0x1F7F1, 0x1F800, 0x1F80C,
  0x1F810, 0x1F848, 0x1F850, 0x1F85A, 0x1F860, 0x1F888, 0x1F890, 0x1F8AE, 0x1F8B0, 0x1F8BC,
  0x1F8C0, 0x1F8C2, 0x1F8D0, 0x1F8D9, 0x1F900, 0x1FA58, 0x1FA60, 0x1FA6E, 0x1FA70, 0x1FA7D,
  0x1FA80, 0x1FA8B, 0x1FA8E, 0x1FAC7, 0x1FAC8, 0x1FAC9, 0x1FACD, 0x1FADD, 0x1FADF, 0x1FAEB,
  0x1FAEF, 0x1FAF9, 0x1FB00, 0x1FB93, 0x1FB94, 0x1FBFB, 0x20000, 0x2A6E0, 0x2A700, 0x2B81E,
  0x2B820, 0x2CEAE, 0x2CEB0, 0x2EBE1, 0x2EBF0, 0x2EE5E, 0x2F800, 0x2FA1E, 0x30000, 0x3134B,
  0x31350, 0x3347A, 0xE0100, 0xE01F0, 0x110000]⟩

/-- Characters that are left out. -/
def leftOut : Runs := ⟨[
  0xAD, 0xAE, 0x34F, 0x350, 0x115F, 0x1161, 0x17B4, 0x17B6, 0x180B, 0x1810, 0x200B, 0x200C,
  0x2060, 0x2065, 0x206A, 0x2070, 0x3164, 0x3165, 0xFE00, 0xFE10, 0xFEFF, 0xFF00, 0xFFA0, 0xFFA1,
  0x1BCA0, 0x1BCA4, 0x1D173, 0x1D17B, 0xE0100, 0xE01F0]⟩

/-- Combining marks, with which no label begins. -/
def marks : Runs := ⟨[
  0x300, 0x370, 0x483, 0x48A, 0x591, 0x5BE, 0x5BF, 0x5C0, 0x5C1, 0x5C3, 0x5C4, 0x5C6, 0x5C7,
  0x5C8, 0x610, 0x61B, 0x64B, 0x660, 0x670, 0x671, 0x6D6, 0x6DD, 0x6DF, 0x6E5, 0x6E7, 0x6E9,
  0x6EA, 0x6EE, 0x711, 0x712, 0x730, 0x74B, 0x7A6, 0x7B1, 0x7EB, 0x7F4, 0x7FD, 0x7FE, 0x816,
  0x81A, 0x81B, 0x824, 0x825, 0x828, 0x829, 0x82E, 0x859, 0x85C, 0x898, 0x8A0, 0x8CA, 0x8E2,
  0x8E3, 0x904, 0x93A, 0x93D, 0x93E, 0x950, 0x951, 0x958, 0x962, 0x964, 0x981, 0x984, 0x9BC,
  0x9BD, 0x9BE, 0x9C5, 0x9C7, 0x9C9, 0x9CB, 0x9CE, 0x9D7, 0x9D8, 0x9E2, 0x9E4, 0x9FE, 0x9FF,
  0xA01, 0xA04, 0xA3C, 0xA3D, 0xA3E, 0xA43, 0xA47, 0xA49, 0xA4B, 0xA4E, 0xA51, 0xA52, 0xA70,
  0xA72, 0xA75, 0xA76, 0xA81, 0xA84, 0xABC, 0xABD, 0xABE, 0xAC6, 0xAC7, 0xACA, 0xACB, 0xACE,
  0xAE2, 0xAE4, 0xAFA, 0xB00, 0xB01, 0xB04, 0xB3C, 0xB3D, 0xB3E, 0xB45, 0xB47, 0xB49, 0xB4B,
  0xB4E, 0xB55, 0xB58, 0xB62, 0xB64, 0xB82, 0xB83, 0xBBE, 0xBC3, 0xBC6, 0xBC9, 0xBCA, 0xBCE,
  0xBD7, 0xBD8, 0xC00, 0xC05, 0xC3C, 0xC3D, 0xC3E, 0xC45, 0xC46, 0xC49, 0xC4A, 0xC4E, 0xC55,
  0xC57, 0xC62, 0xC64, 0xC81, 0xC84, 0xCBC, 0xCBD, 0xCBE, 0xCC5, 0xCC6, 0xCC9, 0xCCA, 0xCCE,
  0xCD5, 0xCD7, 0xCE2, 0xCE4, 0xD00, 0xD04, 0xD3B, 0xD3D, 0xD3E, 0xD45, 0xD46, 0xD49, 0xD4A,
  0xD4E, 0xD57, 0xD58, 0xD62, 0xD64, 0xD81, 0xD84, 0xDCA, 0xDCB, 0xDCF, 0xDD5, 0xDD6, 0xDD7,
  0xDD8, 0xDE0, 0xDF2, 0xDF4, 0xE31, 0xE32, 0xE34, 0xE3B, 0xE47, 0xE4F, 0xEB1, 0xEB2, 0xEB4,
  0xEBD, 0xEC8, 0xECE, 0xF18, 0xF1A, 0xF35, 0xF36, 0xF37, 0xF38, 0xF39, 0xF3A, 0xF3E, 0xF40,
  0xF71, 0xF85, 0xF86, 0xF88, 0xF8D, 0xF98, 0xF99, 0xFBD, 0xFC6, 0xFC7, 0x102B, 0x103F, 0x1056,
  0x105A, 0x105E, 0x1061, 0x1062, 0x1065, 0x1067, 0x106E, 0x1071, 0x1075, 0x1082, 0x108E, 0x108F,
  0x1090, 0x109A, 0x109E, 0x135D, 0x1360, 0x1712, 0x1716, 0x1732, 0x1735, 0x1752, 0x1754, 0x1772,
  0x1774, 0x17B4, 0x17D4, 0x17DD, 0x17DE, 0x180B, 0x180E, 0x180F, 0x1810, 0x1885, 0x1887, 0x18A9,
  0x18AA, 0x1920, 0x192C, 0x1930, 0x193C, 0x1A17, 0x1A1C, 0x1A55, 0x1A5F, 0x1A60, 0x1A7D, 0x1A7F,
  0x1A80, 0x1AB0, 0x1ACF, 0x1B00, 0x1B05, 0x1B34, 0x1B45, 0x1B6B, 0x1B74, 0x1B80, 0x1B83, 0x1BA1,
  0x1BAE, 0x1BE6, 0x1BF4, 0x1C24, 0x1C38, 0x1CD0, 0x1CD3, 0x1CD4, 0x1CE9, 0x1CED, 0x1CEE, 0x1CF4,
  0x1CF5, 0x1CF7, 0x1CFA, 0x1DC0, 0x1E00, 0x20D0, 0x20F1, 0x2CEF, 0x2CF2, 0x2D7F, 0x2D80, 0x2DE0,
  0x2E00, 0x302A, 0x3030, 0x3099, 0x309B, 0xA66F, 0xA673, 0xA674, 0xA67E, 0xA69E, 0xA6A0, 0xA6F0,
  0xA6F2, 0xA802, 0xA803, 0xA806, 0xA807, 0xA80B, 0xA80C, 0xA823, 0xA828, 0xA82C, 0xA82D, 0xA880,
  0xA882, 0xA8B4, 0xA8C6, 0xA8E0, 0xA8F2, 0xA8FF, 0xA900, 0xA926, 0xA92E, 0xA947, 0xA954, 0xA980,
  0xA984, 0xA9B3, 0xA9C1, 0xA9E5, 0xA9E6, 0xAA29, 0xAA37, 0xAA43, 0xAA44, 0xAA4C, 0xAA4E, 0xAA7B,
  0xAA7E, 0xAAB0, 0xAAB1, 0xAAB2, 0xAAB5, 0xAAB7, 0xAAB9, 0xAABE, 0xAAC0, 0xAAC1, 0xAAC2, 0xAAEB,
  0xAAF0, 0xAAF5, 0xAAF7, 0xABE3, 0xABEB, 0xABEC, 0xABEE, 0xFB1E, 0xFB1F, 0xFE00, 0xFE10, 0xFE20,
  0xFE30, 0x101FD, 0x101FE, 0x102E0, 0x102E1, 0x10376, 0x1037B, 0x10A01, 0x10A04, 0x10A05,
  0x10A07, 0x10A0C, 0x10A10, 0x10A38, 0x10A3B, 0x10A3F, 0x10A40, 0x10AE5, 0x10AE7, 0x10D24,
  0x10D28, 0x10EAB, 0x10EAD, 0x10F46, 0x10F51, 0x10F82, 0x10F86, 0x11000, 0x11003, 0x11038,
  0x11047, 0x11070, 0x11071, 0x11073, 0x11075, 0x1107F, 0x11083, 0x110B0, 0x110BB, 0x110C2,
  0x110C3, 0x11100, 0x11103, 0x11127, 0x11135, 0x11145, 0x11147, 0x11173, 0x11174, 0x11180,
  0x11183, 0x111B3, 0x111C1, 0x111C9, 0x111CD, 0x111CE, 0x111D0, 0x1122C, 0x11238, 0x1123E,
  0x1123F, 0x112DF, 0x112EB, 0x11300, 0x11304, 0x1133B, 0x1133D, 0x1133E, 0x11345, 0x11347,
  0x11349, 0x1134B, 0x1134E, 0x11357, 0x11358, 0x11362, 0x11364, 0x11366, 0x1136D, 0x11370,
  0x11375, 0x11435, 0x11447, 0x1145E, 0x1145F, 0x114B0, 0x114C4, 0x115AF, 0x115B6, 0x115B8,
  0x115C1, 0x115DC, 0x115DE, 0x11630, 0x11641, 0x116AB, 0x116B8, 0x1171D, 0x1172C, 0x1182C,
  0x1183B, 0x11930, 0x11936, 0x11937, 0x11939, 0x1193B, 0x1193F, 0x11940, 0x11941, 0x11942,
  0x11944, 0x119D1, 0x119D8, 0x119DA, 0x119E1, 0x119E4, 0x119E5, 0x11A01, 0x11A0B, 0x11A33,
  0x11A3A, 0x11A3B, 0x11A3F, 0x11A47, 0x11A48, 0x11A51, 0x11A5C, 0x11A8A, 0x11A9A, 0x11C2F,
  0x11C37, 0x11C38, 0x11C40, 0x11C92, 0x11CA8, 0x11CA9, 0x11CB7, 0x11D31, 0x11D37, 0x11D3A,
  0x11D3B, 0x11D3C, 0x11D3E, 0x11D3F, 0x11D46, 0x11D47, 0x11D48, 0x11D8A, 0x11D8F, 0x11D90,
  0x11D92, 0x11D93, 0x11D98, 0x11EF3, 0x11EF7, 0x16AF0, 0x16AF5, 0x16B30, 0x16B37, 0x16F4F,
  0x16F50, 0x16F51, 0x16F88, 0x16F8F, 0x16F93, 0x16FE4, 0x16FE5, 0x16FF0, 0x16FF2, 0x1BC9D,
  0x1BC9F, 0x1CF00, 0x1CF2E, 0x1CF30, 0x1CF47, 0x1D165, 0x1D16A, 0x1D16D, 0x1D173, 0x1D17B,
  0x1D183, 0x1D185, 0x1D18C, 0x1D1AA, 0x1D1AE, 0x1D242, 0x1D245, 0x1DA00, 0x1DA37, 0x1DA3B,
  0x1DA6D, 0x1DA75, 0x1DA76, 0x1DA84, 0x1DA85, 0x1DA9B, 0x1DAA0, 0x1DAA1, 0x1DAB0, 0x1E000,
  0x1E007, 0x1E008, 0x1E019, 0x1E01B, 0x1E022, 0x1E023, 0x1E025, 0x1E026, 0x1E02B, 0x1E130,
  0x1E137, 0x1E2AE, 0x1E2AF, 0x1E2EC, 0x1E2F0, 0x1E8D0, 0x1E8D7, 0x1E944, 0x1E94B, 0xE0100,
  0xE01F0]⟩

/-- Runs of characters that are replaced by one character each: the first and the last, the
replacement of the first, and the step from one to the next, for them and their replacements. -/
def shifted : List (List Nat) := [
  [0xA0, 0xA0, 0x20, 1], [0xAA, 0xAA, 0x61, 1], [0xB2, 0xB3, 0x32, 1], [0xB5, 0xB5, 0x3BC, 1],
  [0xB9, 0xB9, 0x31, 1], [0xBA, 0xBA, 0x6F, 1], [0xC0, 0xD6, 0xE0, 1], [0xD8, 0xDE, 0xF8, 1],
  [0x100, 0x12E, 0x101, 2], [0x134, 0x136, 0x135, 2], [0x139, 0x13D, 0x13A, 2],
  [0x141, 0x147, 0x142, 2], [0x14A, 0x176, 0x14B, 2], [0x178, 0x178, 0xFF, 1],
  [0x179, 0x17D, 0x17A, 2], [0x17F, 0x17F, 0x73, 1], [0x181, 0x181, 0x253, 1],
  [0x182, 0x184, 0x183, 2], [0x186, 0x186, 0x254, 1], [0x187, 0x187, 0x188, 1],
  [0x189, 0x18A, 0x256, 1], [0x18B, 0x18B, 0x18C, 1], [0x18E, 0x18E, 0x1DD, 1],
  [0x18F, 0x18F, 0x259, 1], [0x190, 0x190, 0x25B, 1], [0x191, 0x191, 0x192, 1],
  [0x193, 0x193, 0x260, 1], [0x194, 0x194, 0x263, 1], [0x196, 0x196, 0x269, 1],
  [0x197, 0x197, 0x268, 1], [0x198, 0x198, 0x199, 1], [0x19C, 0x19C, 0x26F, 1],
  [0x19D, 0x19D, 0x272, 1], [0x19F, 0x19F, 0x275, 1], [0x1A0, 0x1A4, 0x1A1, 2],
  [0x1A6, 0x1A6, 0x280, 1], [0x1A7, 0x1A7, 0x1A8, 1], [0x1A9, 0x1A9, 0x283, 1],
  [0x1AC, 0x1AC, 0x1AD, 1], [0x1AE, 0x1AE, 0x288, 1], [0x1AF, 0x1AF, 0x1B0, 1],
  [0x1B1, 0x1B2, 0x28A, 1], [0x1B3, 0x1B5, 0x1B4, 2], [0x1B7, 0x1B7, 0x292, 1],
  [0x1B8, 0x1B8, 0x1B9, 1], [0x1BC, 0x1BC, 0x1BD, 1], [0x1CD, 0x1DB, 0x1CE, 2],
  [0x1DE, 0x1EE, 0x1DF, 2], [0x1F4, 0x1F4, 0x1F5, 1], [0x1F6, 0x1F6, 0x195, 1],
  [0x1F7, 0x1F7, 0x1BF, 1], [0x1F8, 0x21E, 0x1F9, 2], [0x220, 0x220, 0x19E, 1],
  [0x222, 0x232, 0x223, 2], [0x23A, 0x23A, 0x2C65, 1], [0x23B, 0x23B, 0x23C, 1],
  [0x23D, 0x23D, 0x19A, 1], [0x23E, 0x23E, 0x2C66, 1], [0x241, 0x241, 0x242, 1],
  [0x243, 0x243, 0x180, 1], [0x244, 0x244, 0x289, 1], [0x245, 0x245, 0x28C, 1],
  [0x246, 0x24E, 0x247, 2], [0x2B0, 0x2B0, 0x68, 1], [0x2B1, 0x2B1, 0x266, 1],
  [0x2B2, 0x2B2, 0x6A, 1], [0x2B3, 0x2B3, 0x72, 1], [0x2B4, 0x2B4, 0x279, 1],
  [0x2B5, 0x2B5, 0x27B, 1], [0x2B6, 0x2B6, 0x281, 1], [0x2B7, 0x2B7, 0x77, 1],
  [0x2B8, 0x2B8, 0x79, 1], [0x2E0, 0x2E0, 0x263, 1], [0x2E1, 0x2E1, 0x6C, 1],
  [0x2E2, 0x2E2, 0x73, 1], [0x2E3, 0x2E3, 0x78, 1], [0x2E4, 0x2E4, 0x295, 1],
  [0x340, 0x341, 0x300, 1], [0x343, 0x343, 0x313, 1], [0x345, 0x345, 0x3B9, 1],
  [0x370, 0x372, 0x371, 2], [0x374, 0x374, 0x2B9, 1], [0x376, 0x376, 0x377, 1],
  [0x37E, 0x37E, 0x3B, 1], [0x37F, 0x37F, 0x3F3, 1], [0x386, 0x386, 0x3AC, 1],
  [0x387, 0x387, 0xB7, 1], [0x388, 0x38A, 0x3AD, 1], [0x38C, 0x38C, 0x3CC, 1],
  [0x38E, 0x38F, 0x3CD, 1], [0x391, 0x3A1, 0x3B1, 1], [0x3A3, 0x3AB, 0x3C3, 1],
  [0x3CF, 0x3CF, 0x3D7, 1], [0x3D0, 0x3D0, 0x3B2, 1], [0x3D1, 0x3D1, 0x3B8, 1],
  [0x3D2, 0x3D2, 0x3C5, 1], [0x3D3, 0x3D3, 0x3CD, 1], [0x3D4, 0x3D4, 0x3CB, 1],
  [0x3D5, 0x3D5, 0x3C6, 1], [0x3D6, 0x3D6, 0x3C0, 1], [0x3D8, 0x3EE, 0x3D9, 2],
  [0x3F0, 0x3F0, 0x3BA, 1], [0x3F1, 0x3F1, 0x3C1, 1], [0x3F2, 0x3F2, 0x3C3, 1],
  [0x3F4, 0x3F4, 0x3B8, 1], [0x3F5, 0x3F5, 0x3B5, 1], [0x3F7, 0x3F7, 0x3F8, 1],
  [0x3F9, 0x3F9, 0x3C3, 1], [0x3FA, 0x3FA, 0x3FB, 1], [0x3FD, 0x3FF, 0x37B, 1],
  [0x400, 0x40F, 0x450, 1], [0x410, 0x42F, 0x430, 1], [0x460, 0x480, 0x461, 2],
  [0x48A, 0x4BE, 0x48B, 2], [0x4C0, 0x4C0, 0x4CF, 1], [0x4C1, 0x4CD, 0x4C2, 2],
  [0x4D0, 0x52E, 0x4D1, 2], [0x531, 0x556, 0x561, 1], [0xF0C, 0xF0C, 0xF0B, 1],
  [0x10A0, 0x10C5, 0x2D00, 1], [0x10C7, 0x10C7, 0x2D27, 1], [0x10CD, 0x10CD, 0x2D2D, 1],
  [0x10FC, 0x10FC, 0x10DC, 1], [0x13F8, 0x13FD, 0x13F0, 1], [0x1C80, 0x1C80, 0x432, 1],
  [0x1C81, 0x1C81, 0x434, 1], [0x1C82, 0x1C82, 0x43E, 1], [0x1C83, 0x1C84, 0x441, 1],
  [0x1C85, 0x1C85, 0x442, 1], [0x1C86, 0x1C86, 0x44A, 1], [0x1C87, 0x1C87, 0x463, 1],
  [0x1C88, 0x1C88, 0xA64B, 1], [0x1C89, 0x1C89, 0x1C8A, 1], [0x1C90, 0x1CBA, 0x10D0, 1],
  [0x1CBD, 0x1CBF, 0x10FD, 1], [0x1D2C, 0x1D2C, 0x61, 1], [0x1D2D, 0x1D2D, 0xE6, 1],
  [0x1D2E, 0x1D30, 0x62, 2], [0x1D31, 0x1D31, 0x65, 1], [0x1D32, 0x1D32, 0x1DD, 1],
  [0x1D33, 0x1D3A, 0x67, 1], [0x1D3C, 0x1D3C, 0x6F, 1], [0x1D3D, 0x1D3D, 0x223, 1],
  [0x1D3E, 0x1D3E, 0x70, 1], [0x1D3F, 0x1D3F, 0x72, 1], [0x1D40, 0x1D41, 0x74, 1],
  [0x1D42, 0x1D42, 0x77, 1], [0x1D43, 0x1D43, 0x61, 1], [0x1D44, 0x1D45, 0x250, 1],
  [0x1D46, 0x1D46, 0x1D02, 1], [0x1D47, 0x1D47, 0x62, 1], [0x1D48, 0x1D49, 0x64, 1],
  [0x1D4A, 0x1D4A, 0x259, 1], [0x1D4B, 0x1D4C, 0x25B, 1], [0x1D4D, 0x1D4D, 0x67, 1],
  [0x1D4F, 0x1D4F, 0x6B, 1], [0x1D50, 0x1D50, 0x6D, 1], [0x1D51, 0x1D51, 0x14B, 1],
  [0x1D52, 0x1D52, 0x6F, 1], [0x1D53, 0x1D53, 0x254, 1], [0x1D54, 0x1D55, 0x1D16, 1],
  [0x1D56, 0x1D56, 0x70, 1], [0x1D57, 0x1D58, 0x74, 1], [0x1D59, 0x1D59, 0x1D1D, 1],
  [0x1D5A, 0x1D5A, 0x26F, 1], [0x1D5B, 0x1D5B, 0x76, 1], [0x1D5C, 0x1D5C, 0x1D25, 1],
  [0x1D5D, 0x1D5F, 0x3B2, 1], [0x1D60, 0x1D61, 0x3C6, 1], [0x1D62, 0x1D62, 0x69, 1],
  [0x1D63, 0x1D63, 0x72, 1], [0x1D64, 0x1D65, 0x75, 1], [0x1D66, 0x1D67, 0x3B2, 1],
  [0x1D68, 0x1D68, 0x3C1, 1], [0x1D69, 0x1D6A, 0x3C6, 1], [0x1D78, 0x1D78, 0x43D, 1],
  [0x1D9B, 0x1D9B, 0x252, 1], [0x1D9C, 0x1D9C, 0x63, 1], [0x1D9D, 0x1D9D, 0x255, 1],
  [0x1D9E, 0x1D9E, 0xF0, 1], [0x1D9F, 0x1D9F, 0x25C, 1], [0x1DA0, 0x1DA0, 0x66, 1],
  [0x1DA1, 0x1DA1, 0x25F, 1], [0x1DA2, 0x1DA2, 0x261, 1], [0x1DA3, 0x1DA3, 0x265, 1],
  [0x1DA4, 0x1DA6, 0x268, 1], [0x1DA7, 0x1DA7, 0x1D7B, 1], [0x1DA8, 0x1DA8, 0x29D, 1],
  [0x1DA9, 0x1DA9, 0x26D, 1], [0x1DAA, 0x1DAA, 0x1D85, 1], [0x1DAB, 0x1DAB, 0x29F, 1],
  [0x1DAC, 0x1DAC, 0x271, 1], [0x1DAD, 0x1DAD, 0x270, 1], [0x1DAE, 0x1DB1, 0x272, 1],
  [0x1DB2, 0x1DB2, 0x278, 1], [0x1DB3, 0x1DB4, 0x282, 1], [0x1DB5, 0x1DB5, 0x1AB, 1],
  [0x1DB6, 0x1DB7, 0x289, 1], [0x1DB8, 0x1DB8, 0x1D1C, 1], [0x1DB9, 0x1DBA, 0x28B, 1],
  [0x1DBB, 0x1DBB, 0x7A, 1], [0x1DBC, 0x1DBE, 0x290, 1], [0x1DBF, 0x1DBF, 0x3B8, 1],
  [0x1E00, 0x1E94, 0x1E01, 2], [0x1E9B, 0x1E9B, 0x1E61, 1], [0x1E9E, 0x1E9E, 0xDF, 1],
  [0x1EA0, 0x1EFE, 0x1EA1, 2], [0x1F08, 0x1F0F, 0x1F00, 1], [0x1F18, 0x1F1D, 0x1F10, 1],
  [0x1F28, 0x1F2F, 0x1F20, 1], [0x1F38, 0x1F3F, 0x1F30, 1], [0x1F48, 0x1F4D, 0x1F40, 1],
  [0x1F59, 0x1F5F, 0x1F51, 2], [0x1F68, 0x1F6F, 0x1F60, 1], [0x1F71, 0x1F71, 0x3AC, 1],
  [0x1F73, 0x1F73, 0x3AD, 1], [0x1F75, 0x1F75, 0x3AE, 1], [0x1F77, 0x1F77, 0x3AF, 1],
  [0x1F79, 0x1F79, 0x3CC, 1], [0x1F7B, 0x1F7B, 0x3CD, 1], [0x1F7D, 0x1F7D, 0x3CE, 1],
  [0x1FB8, 0x1FB9, 0x1FB0, 1], [0x1FBA, 0x1FBA, 0x1F70, 1], [0x1FBB, 0x1FBB, 0x3AC, 1],
  [0x1FBE, 0x1FBE, 0x3B9, 1], [0x1FC8, 0x1FC8, 0x1F72, 1], [0x1FC9, 0x1FC9, 0x3AD, 1],
  [0x1FCA, 0x1FCA, 0x1F74, 1], [0x1FCB, 0x1FCB, 0x3AE, 1], [0x1FD3, 0x1FD3, 0x390, 1],
  [0x1FD8, 0x1FD9, 0x1FD0, 1], [0x1FDA, 0x1FDA, 0x1F76, 1], [0x1FDB, 0x1FDB, 0x3AF, 1],
  [0x1FE3, 0x1FE3, 0x3B0, 1], [0x1FE8, 0x1FE9, 0x1FE0, 1], [0x1FEA, 0x1FEA, 0x1F7A, 1],
  [0x1FEB, 0x1FEB, 0x3CD, 1], [0x1FEC, 0x1FEC, 0x1FE5, 1], [0x1FEF, 0x1FEF, 0x60, 1],
  [0x1FF8, 0x1FF8, 0x1F78, 1], [0x1FF9, 0x1FF9, 0x3CC, 1], [0x1FFA, 0x1FFA, 0x1F7C, 1],
  [0x1FFB, 0x1FFB, 0x3CE, 1], [0x2000, 0x2000, 0x20, 1], [0x2001, 0x2001, 0x20, 1],
  [0x2002, 0x2002, 0x20, 1], [0x2003, 0x2003, 0x20, 1], [0x2004, 0x2004, 0x20, 1],
  [0x2005, 0x2005, 0x20, 1], [0x2006, 0x2006, 0x20, 1], [0x2007, 0x2007, 0x20, 1],
  [0x2008, 0x2008, 0x20, 1], [0x2009, 0x2009, 0x20, 1], [0x200A, 0x200A, 0x20, 1],
  [0x2011, 0x2011, 0x2010, 1], [0x202F, 0x202F, 0x20, 1], [0x205F, 0x205F, 0x20, 1],
  [0x2070, 0x2070, 0x30, 1], [0x2071, 0x2071, 0x69, 1], [0x2074, 0x2079, 0x34, 1],
  [0x207A, 0x207A, 0x2B, 1], [0x207B, 0x207B, 0x2212, 1], [0x207C, 0x207C, 0x3D, 1],
  [0x207D, 0x207E, 0x28, 1], [0x207F, 0x207F, 0x6E, 1], [0x2080, 0x2089, 0x30, 1],
  [0x208A, 0x208A, 0x2B, 1], [0x208B, 0x208B, 0x2212, 1], [0x208C, 0x208C, 0x3D, 1],
  [0x208D, 0x208E, 0x28, 1], [0x2090, 0x2090, 0x61, 1], [0x2091, 0x2091, 0x65, 1],
  [0x2092, 0x2092, 0x6F, 1], [0x2093, 0x2093, 0x78, 1], [0x2094, 0x2094, 0x259, 1],
  [0x2095, 0x2095, 0x68, 1], [0x2096, 0x2099, 0x6B, 1], [0x209A, 0x209A, 0x70, 1],
  [0x209B, 0x209C, 0x73, 1], [0x2102, 0x2102, 0x63, 1], [0x2107, 0x2107, 0x25B, 1],
  [0x210A, 0x210B, 0x67, 1], [0x210C, 0x210C, 0x68, 1], [0x210D, 0x210D, 0x68, 1],
  [0x210E, 0x210E, 0x68, 1], [0x210F, 0x210F, 0x127, 1], [0x2110, 0x2110, 0x69, 1],
  [0x2111, 0x2111, 0x69, 1], [0x2112, 0x2112, 0x6C, 1], [0x2113, 0x2115, 0x6C, 2],
  [0x2119, 0x211B, 0x70, 1], [0x211C, 0x211C, 0x72, 1], [0x211D, 0x211D, 0x72, 1],
  [0x2124, 0x2124, 0x7A, 1], [0x2126, 0x2126, 0x3C9, 1], [0x2128, 0x2128, 0x7A, 1],
  [0x212A, 0x212A, 0x6B, 1], [0x212B, 0x212B, 0xE5, 1], [0x212C, 0x212D, 0x62, 1],
  [0x212F, 0x212F, 0x65, 1], [0x2130, 0x2131, 0x65, 1], [0x2132, 0x2132, 0x214E, 1],
  [0x2133, 0x2133, 0x6D, 1], [0x2134, 0x2134, 0x6F, 1], [0x2135, 0x2138, 0x5D0, 1],
  [0x2139, 0x2139, 0x69, 1], [0x213C, 0x213C, 0x3C0, 1], [0x213D, 0x213D, 0x3B3, 1],
  [0x213E, 0x213E, 0x3B3, 1], [0x213F, 0x213F, 0x3C0, 1], [0x2140, 0x2140, 0x2211, 1],
  [0x2145, 0x2145, 0x64, 1], [0x2146, 0x2147, 0x64, 1], [0x2148, 0x2149, 0x69, 1],
  [0x2160, 0x2160, 0x69, 1], [0x2164, 0x2164, 0x76, 1], [0x2169, 0x2169, 0x78, 1],
  [0x216C, 0x216C, 0x6C, 1], [0x216D, 0x216E, 0x63, 1], [0x216F, 0x216F, 0x6D, 1],
  [0x2170, 0x2170, 0x69, 1], [0x2174, 0x2174, 0x76, 1], [0x2179, 0x2179, 0x78, 1],
  [0x217C, 0x217C, 0x6C, 1], [0x217D, 0x217E, 0x63, 1], [0x217F, 0x217F, 0x6D, 1],
  [0x2183, 0x2183, 0x2184, 1], [0x2329, 0x232A, 0x3008, 1], [0x2460, 0x2468, 0x31, 1],
  [0x24B6, 0x24CF, 0x61, 1], [0x24D0, 0x24E9, 0x61, 1], [0x24EA, 0x24EA, 0x30, 1],
  [0x2C00, 0x2C2F, 0x2C30, 1], [0x2C60, 0x2C60, 0x2C61, 1], [0x2C62, 0x2C62, 0x26B, 1],
  [0x2C63, 0x2C63, 0x1D7D, 1], [0x2C64, 0x2C64, 0x27D, 1], [0x2C67, 0x2C6B, 0x2C68, 2],
  [0x2C6D, 0x2C6D, 0x251, 1], [0x2C6E, 0x2C6E, 0x271, 1], [0x2C6F, 0x2C6F, 0x250, 1],
  [0x2C70, 0x2C70, 0x252, 1], [0x2C72, 0x2C72, 0x2C73, 1], [0x2C75, 0x2C75, 0x2C76, 1],
  [0x2C7C, 0x2C7C, 0x6A, 1], [0x2C7D, 0x2C7D, 0x76, 1], [0x2C7E, 0x2C7F, 0x23F, 1],
  [0x2C80, 0x2CE2, 0x2C81, 2], [0x2CEB, 0x2CED, 0x2CEC, 2], [0x2CF2, 0x2CF2, 0x2CF3, 1],
  [0x2D6F, 0x2D6F, 0x2D61, 1], [0x3000, 0x3000, 0x20, 1], [0x3002, 0x3002, 0x2E, 1],
  [0x3036, 0x3036, 0x3012, 1], [0x3038, 0x3038, 0x5341, 1], [0x3039, 0x303A, 0x5344, 1],
  [0xFF01, 0xFF20, 0x21, 1], [0xFF21, 0xFF3A, 0x61, 1], [0xFF3B, 0xFF5E, 0x5B, 1],
  [0xFF5F, 0xFF60, 0x2985, 1], [0xFF61, 0xFF61, 0x2E, 1], [0xFF62, 0xFF63, 0x300C, 1],
  [0xFF64, 0xFF64, 0x3001, 1], [0xFF65, 0xFF65, 0x30FB, 1], [0xFF66, 0xFF66, 0x30F2, 1],
  [0xFF67, 0xFF67, 0x30A1, 1], [0xFF68, 0xFF68, 0x30A3, 1], [0xFF69, 0xFF69, 0x30A5, 1],
  [0xFF6A, 0xFF6A, 0x30A7, 1], [0xFF6B, 0xFF6B, 0x30A9, 1], [0xFF6C, 0xFF6C, 0x30E3, 1],
  [0xFF6D, 0xFF6D, 0x30E5, 1], [0xFF6E, 0xFF6E, 0x30E7, 1], [0xFF6F, 0xFF6F, 0x30C3, 1],
  [0xFF70, 0xFF70, 0x30FC, 1], [0xFF71, 0xFF71, 0x30A2, 1], [0xFF72, 0xFF72, 0x30A4, 1],
  [0xFF73, 0xFF73, 0x30A6, 1], [0xFF74, 0xFF74, 0x30A8, 1], [0xFF75, 0xFF76, 0x30AA, 1],
  [0xFF77, 0xFF77, 0x30AD, 1], [0xFF78, 0xFF78, 0x30AF, 1], [0xFF79, 0xFF79, 0x30B1, 1],
  [0xFF7A, 0xFF7A, 0x30B3, 1], [0xFF7B, 0xFF7B, 0x30B5, 1], [0xFF7C, 0xFF7C, 0x30B7, 1],
  [0xFF7D, 0xFF7D, 0x30B9, 1], [0xFF7E, 0xFF7E, 0x30BB, 1], [0xFF7F, 0xFF7F, 0x30BD, 1],
  [0xFF80, 0xFF80, 0x30BF, 1], [0xFF81, 0xFF81, 0x30C1, 1], [0xFF82, 0xFF82, 0x30C4, 1],
  [0xFF83, 0xFF83, 0x30C6, 1], [0xFF84, 0xFF84, 0x30C8, 1], [0xFF85, 0xFF8A, 0x30CA, 1],
  [0xFF8B, 0xFF8B, 0x30D2, 1], [0xFF8C, 0xFF8C, 0x30D5, 1], [0xFF8D, 0xFF8D, 0x30D8, 1],
  [0xFF8E, 0xFF8E, 0x30DB, 1], [0xFF8F, 0xFF93, 0x30DE, 1], [0xFF94, 0xFF94, 0x30E4, 1],
  [0xFF95, 0xFF95, 0x30E6, 1], [0xFF96, 0xFF9B, 0x30E8, 1], [0xFF9C, 0xFF9C, 0x30EF, 1],
  [0xFF9D, 0xFF9D, 0x30F3, 1], [0xFF9E, 0xFF9F, 0x3099, 1], [0xFFA1, 0xFFA2, 0x1100, 1],
  [0xFFA3, 0xFFA3, 0x11AA, 1], [0xFFA4, 0xFFA4, 0x1102, 1], [0xFFA5, 0xFFA6, 0x11AC, 1],
  [0xFFA7, 0xFFA9, 0x1103, 1], [0xFFAA, 0xFFAF, 0x11B0, 1], [0xFFB0, 0xFFB0, 0x111A, 1],
  [0xFFB1, 0xFFB3, 0x1106, 1], [0xFFB4, 0xFFB4, 0x1121, 1], [0xFFB5, 0xFFBE, 0x1109, 1],
  [0xFFC2, 0xFFC7, 0x1161, 1], [0xFFCA, 0xFFCF, 0x1167, 1], [0xFFD2, 0xFFD7, 0x116D, 1],
  [0xFFDA, 0xFFDC, 0x1173, 1], [0xFFE0, 0xFFE1, 0xA2, 1], [0xFFE2, 0xFFE2, 0xAC, 1],
  [0xFFE4, 0xFFE4, 0xA6, 1], [0xFFE5, 0xFFE5, 0xA5, 1], [0xFFE6, 0xFFE6, 0x20A9, 1],
  [0xFFE8, 0xFFE8, 0x2502, 1], [0xFFE9, 0xFFEC, 0x2190, 1], [0xFFED, 0xFFED, 0x25A0, 1],
  [0xFFEE, 0xFFEE, 0x25CB, 1]]

/-- Characters that are replaced by several: each, and its replacement. -/
def expanded : List (List Nat) := [
  [0xA8, 0x20, 0x308], [0xAF, 0x20, 0x304], [0xB4, 0x20, 0x301], [0xB8, 0x20, 0x327],
  [0xBC, 0x31, 0x2044, 0x34], [0xBD, 0x31, 0x2044, 0x32], [0xBE, 0x33, 0x2044, 0x34],
  [0x130, 0x69, 0x307], [0x132, 0x69, 0x6A], [0x133, 0x69, 0x6A], [0x13F, 0x6C, 0xB7],
  [0x140, 0x6C, 0xB7], [0x149, 0x2BC, 0x6E], [0x1C4, 0x64, 0x17E], [0x1C5, 0x64, 0x17E],
  [0x1C6, 0x64, 0x17E], [0x1C7, 0x6C, 0x6A], [0x1C8, 0x6C, 0x6A], [0x1C9, 0x6C, 0x6A],
  [0x1CA, 0x6E, 0x6A], [0x1CB, 0x6E, 0x6A], [0x1CC, 0x6E, 0x6A], [0x1F1, 0x64, 0x7A],
  [0x1F2, 0x64, 0x7A], [0x1F3, 0x64, 0x7A], [0x2D8, 0x20, 0x306], [0x2D9, 0x20, 0x307],
  [0x2DA, 0x20, 0x30A], [0x2DB, 0x20, 0x328], [0x2DC, 0x20, 0x303], [0x2DD, 0x20, 0x30B],
  [0x344, 0x308, 0x301], [0x37A, 0x20, 0x3B9], [0x384, 0x20, 0x301], [0x385, 0x20, 0x308, 0x301],
  [0x587, 0x565, 0x582], [0x675, 0x627, 0x674], [0x676, 0x648, 0x674], [0x677, 0x6C7, 0x674],
  [0x678, 0x64A, 0x674], [0x958, 0x915, 0x93C], [0x959, 0x916, 0x93C], [0x95A, 0x917, 0x93C],
  [0x95B, 0x91C, 0x93C], [0x95C, 0x921, 0x93C], [0x95D, 0x922, 0x93C], [0x95E, 0x92B, 0x93C],
  [0x95F, 0x92F, 0x93C], [0x9DC, 0x9A1, 0x9BC], [0x9DD, 0x9A2, 0x9BC], [0x9DF, 0x9AF, 0x9BC],
  [0xA33, 0xA32, 0xA3C], [0xA36, 0xA38, 0xA3C], [0xA59, 0xA16, 0xA3C], [0xA5A, 0xA17, 0xA3C],
  [0xA5B, 0xA1C, 0xA3C], [0xA5E, 0xA2B, 0xA3C], [0xB5C, 0xB21, 0xB3C], [0xB5D, 0xB22, 0xB3C],
  [0xE33, 0xE4D, 0xE32], [0xEB3, 0xECD, 0xEB2], [0xEDC, 0xEAB, 0xE99], [0xEDD, 0xEAB, 0xEA1],
  [0xF43, 0xF42, 0xFB7], [0xF4D, 0xF4C, 0xFB7], [0xF52, 0xF51, 0xFB7], [0xF57, 0xF56, 0xFB7],
  [0xF5C, 0xF5B, 0xFB7], [0xF69, 0xF40, 0xFB5], [0xF73, 0xF71, 0xF72], [0xF75, 0xF71, 0xF74],
  [0xF76, 0xFB2, 0xF80], [0xF77, 0xFB2, 0xF71, 0xF80], [0xF78, 0xFB3, 0xF80],
  [0xF79, 0xFB3, 0xF71, 0xF80], [0xF81, 0xF71, 0xF80], [0xF93, 0xF92, 0xFB7],
  [0xF9D, 0xF9C, 0xFB7], [0xFA2, 0xFA1, 0xFB7], [0xFA7, 0xFA6, 0xFB7], [0xFAC, 0xFAB, 0xFB7],
  [0xFB9, 0xF90, 0xFB5], [0x1E9A, 0x61, 0x2BE], [0x1F80, 0x1F00, 0x3B9], [0x1F81, 0x1F01, 0x3B9],
  [0x1F82, 0x1F02, 0x3B9], [0x1F83, 0x1F03, 0x3B9], [0x1F84, 0x1F04, 0x3B9],
  [0x1F85, 0x1F05, 0x3B9], [0x1F86, 0x1F06, 0x3B9], [0x1F87, 0x1F07, 0x3B9],
  [0x1F88, 0x1F00, 0x3B9], [0x1F89, 0x1F01, 0x3B9], [0x1F8A, 0x1F02, 0x3B9],
  [0x1F8B, 0x1F03, 0x3B9], [0x1F8C, 0x1F04, 0x3B9], [0x1F8D, 0x1F05, 0x3B9],
  [0x1F8E, 0x1F06, 0x3B9], [0x1F8F, 0x1F07, 0x3B9], [0x1F90, 0x1F20, 0x3B9],
  [0x1F91, 0x1F21, 0x3B9], [0x1F92, 0x1F22, 0x3B9], [0x1F93, 0x1F23, 0x3B9],
  [0x1F94, 0x1F24, 0x3B9], [0x1F95, 0x1F25, 0x3B9], [0x1F96, 0x1F26, 0x3B9],
  [0x1F97, 0x1F27, 0x3B9], [0x1F98, 0x1F20, 0x3B9], [0x1F99, 0x1F21, 0x3B9],
  [0x1F9A, 0x1F22, 0x3B9], [0x1F9B, 0x1F23, 0x3B9], [0x1F9C, 0x1F24, 0x3B9],
  [0x1F9D, 0x1F25, 0x3B9], [0x1F9E, 0x1F26, 0x3B9], [0x1F9F, 0x1F27, 0x3B9],
  [0x1FA0, 0x1F60, 0x3B9], [0x1FA1, 0x1F61, 0x3B9], [0x1FA2, 0x1F62, 0x3B9],
  [0x1FA3, 0x1F63, 0x3B9], [0x1FA4, 0x1F64, 0x3B9], [0x1FA5, 0x1F65, 0x3B9],
  [0x1FA6, 0x1F66, 0x3B9], [0x1FA7, 0x1F67, 0x3B9], [0x1FA8, 0x1F60, 0x3B9],
  [0x1FA9, 0x1F61, 0x3B9], [0x1FAA, 0x1F62, 0x3B9], [0x1FAB, 0x1F63, 0x3B9],
  [0x1FAC, 0x1F64, 0x3B9], [0x1FAD, 0x1F65, 0x3B9], [0x1FAE, 0x1F66, 0x3B9],
  [0x1FAF, 0x1F67, 0x3B9], [0x1FB2, 0x1F70, 0x3B9], [0x1FB3, 0x3B1, 0x3B9],
  [0x1FB4, 0x3AC, 0x3B9], [0x1FB7, 0x1FB6, 0x3B9], [0x1FBC, 0x3B1, 0x3B9], [0x1FBD, 0x20, 0x313],
  [0x1FBF, 0x20, 0x313], [0x1FC0, 0x20, 0x342], [0x1FC1, 0x20, 0x308, 0x342],
  [0x1FC2, 0x1F74, 0x3B9], [0x1FC3, 0x3B7, 0x3B9], [0x1FC4, 0x3AE, 0x3B9],
  [0x1FC7, 0x1FC6, 0x3B9], [0x1FCC, 0x3B7, 0x3B9], [0x1FCD, 0x20, 0x313, 0x300],
  [0x1FCE, 0x20, 0x313, 0x301], [0x1FCF, 0x20, 0x313, 0x342], [0x1FDD, 0x20, 0x314, 0x300],
  [0x1FDE, 0x20, 0x314, 0x301], [0x1FDF, 0x20, 0x314, 0x342], [0x1FED, 0x20, 0x308, 0x300],
  [0x1FEE, 0x20, 0x308, 0x301], [0x1FF2, 0x1F7C, 0x3B9], [0x1FF3, 0x3C9, 0x3B9],
  [0x1FF4, 0x3CE, 0x3B9], [0x1FF7, 0x1FF6, 0x3B9], [0x1FFC, 0x3C9, 0x3B9], [0x1FFD, 0x20, 0x301],
  [0x1FFE, 0x20, 0x314], [0x2017, 0x20, 0x333], [0x2033, 0x2032, 0x2032],
  [0x2034, 0x2032, 0x2032, 0x2032], [0x2036, 0x2035, 0x2035], [0x2037, 0x2035, 0x2035, 0x2035],
  [0x203C, 0x21, 0x21], [0x203E, 0x20, 0x305], [0x2047, 0x3F, 0x3F], [0x2048, 0x3F, 0x21],
  [0x2049, 0x21, 0x3F], [0x2057, 0x2032, 0x2032, 0x2032, 0x2032], [0x20A8, 0x72, 0x73],
  [0x2100, 0x61, 0x2F, 0x63], [0x2101, 0x61, 0x2F, 0x73], [0x2103, 0xB0, 0x63],
  [0x2105, 0x63, 0x2F, 0x6F], [0x2106, 0x63, 0x2F, 0x75], [0x2109, 0xB0, 0x66],
  [0x2116, 0x6E, 0x6F], [0x2120, 0x73, 0x6D], [0x2121, 0x74, 0x65, 0x6C], [0x2122, 0x74, 0x6D],
  [0x213B, 0x66, 0x61, 0x78], [0x2150, 0x31, 0x2044, 0x37], [0x2151, 0x31, 0x2044, 0x39],
  [0x2152, 0x31, 0x2044, 0x31, 0x30], [0x2153, 0x31, 0x2044, 0x33], [0x2154, 0x32, 0x2044, 0x33],
  [0x2155, 0x31, 0x2044, 0x35], [0x2156, 0x32, 0x2044, 0x35], [0x2157, 0x33, 0x2044, 0x35],
  [0x2158, 0x34, 0x2044, 0x35], [0x2159, 0x31, 0x2044, 0x36], [0x215A, 0x35, 0x2044, 0x36],
  [0x215B, 0x31, 0x2044, 0x38], [0x215C, 0x33, 0x2044, 0x38], [0x215D, 0x35, 0x2044, 0x38],
  [0x215E, 0x37, 0x2044, 0x38], [0x215F, 0x31, 0x2044], [0x2161, 0x69, 0x69],
  [0x2162, 0x69, 0x69, 0x69], [0x2163, 0x69, 0x76], [0x2165, 0x76, 0x69],
  [0x2166, 0x76, 0x69, 0x69], [0x2167, 0x76, 0x69, 0x69, 0x69], [0x2168, 0x69, 0x78],
  [0x216A, 0x78, 0x69], [0x216B, 0x78, 0x69, 0x69], [0x2171, 0x69, 0x69],
  [0x2172, 0x69, 0x69, 0x69], [0x2173, 0x69, 0x76], [0x2175, 0x76, 0x69],
  [0x2176, 0x76, 0x69, 0x69], [0x2177, 0x76, 0x69, 0x69, 0x69], [0x2178, 0x69, 0x78],
  [0x217A, 0x78, 0x69], [0x217B, 0x78, 0x69, 0x69], [0x2189, 0x30, 0x2044, 0x33],
  [0x222C, 0x222B, 0x222B], [0x222D, 0x222B, 0x222B, 0x222B], [0x222F, 0x222E, 0x222E],
  [0x2230, 0x222E, 0x222E, 0x222E], [0x2469, 0x31, 0x30], [0x246A, 0x31, 0x31],
  [0x246B, 0x31, 0x32], [0x246C, 0x31, 0x33], [0x246D, 0x31, 0x34], [0x246E, 0x31, 0x35],
  [0x246F, 0x31, 0x36], [0x2470, 0x31, 0x37], [0x2471, 0x31, 0x38], [0x2472, 0x31, 0x39],
  [0x2473, 0x32, 0x30], [0x2474, 0x28, 0x31, 0x29], [0x2475, 0x28, 0x32, 0x29],
  [0x2476, 0x28, 0x33, 0x29], [0x2477, 0x28, 0x34, 0x29], [0x2478, 0x28, 0x35, 0x29],
  [0x2479, 0x28, 0x36, 0x29], [0x247A, 0x28, 0x37, 0x29], [0x247B, 0x28, 0x38, 0x29],
  [0x247C, 0x28, 0x39, 0x29], [0x247D, 0x28, 0x31, 0x30, 0x29], [0x247E, 0x28, 0x31, 0x31, 0x29],
  [0x247F, 0x28, 0x31, 0x32, 0x29], [0x2480, 0x28, 0x31, 0x33, 0x29],
  [0x2481, 0x28, 0x31, 0x34, 0x29], [0x2482, 0x28, 0x31, 0x35, 0x29],
  [0x2483, 0x28, 0x31, 0x36, 0x29], [0x2484, 0x28, 0x31, 0x37, 0x29],
  [0x2485, 0x28, 0x31, 0x38, 0x29], [0x2486, 0x28, 0x31, 0x39, 0x29],
  [0x2487, 0x28, 0x32, 0x30, 0x29], [0x249C, 0x28, 0x61, 0x29], [0x249D, 0x28, 0x62, 0x29],
  [0x249E, 0x28, 0x63, 0x29], [0x249F, 0x28, 0x64, 0x29], [0x24A0, 0x28, 0x65, 0x29],
  [0x24A1, 0x28, 0x66, 0x29], [0x24A2, 0x28, 0x67, 0x29], [0x24A3, 0x28, 0x68, 0x29],
  [0x24A4, 0x28, 0x69, 0x29], [0x24A5, 0x28, 0x6A, 0x29], [0x24A6, 0x28, 0x6B, 0x29],
  [0x24A7, 0x28, 0x6C, 0x29], [0x24A8, 0x28, 0x6D, 0x29], [0x24A9, 0x28, 0x6E, 0x29],
  [0x24AA, 0x28, 0x6F, 0x29], [0x24AB, 0x28, 0x70, 0x29], [0x24AC, 0x28, 0x71, 0x29],
  [0x24AD, 0x28, 0x72, 0x29], [0x24AE, 0x28, 0x73, 0x29], [0x24AF, 0x28, 0x74, 0x29],
  [0x24B0, 0x28, 0x75, 0x29], [0x24B1, 0x28, 0x76, 0x29], [0x24B2, 0x28, 0x77, 0x29],
  [0x24B3, 0x28, 0x78, 0x29], [0x24B4, 0x28, 0x79, 0x29], [0x24B5, 0x28, 0x7A, 0x29],
  [0x2A0C, 0x222B, 0x222B, 0x222B, 0x222B], [0x2A74, 0x3A, 0x3A, 0x3D], [0x2A75, 0x3D, 0x3D],
  [0x2A76, 0x3D, 0x3D, 0x3D], [0x2ADC, 0x2ADD, 0x338], [0x309B, 0x20, 0x3099],
  [0x309C, 0x20, 0x309A], [0x309F, 0x3088, 0x308A], [0x30FF, 0x30B3, 0x30C8],
  [0xFB00, 0x66, 0x66], [0xFB01, 0x66, 0x69], [0xFB02, 0x66, 0x6C], [0xFB03, 0x66, 0x66, 0x69],
  [0xFB04, 0x66, 0x66, 0x6C], [0xFB05, 0x73, 0x74], [0xFB06, 0x73, 0x74], [0xFFE3, 0x20, 0x304]]

end Workday.Url.Domain
